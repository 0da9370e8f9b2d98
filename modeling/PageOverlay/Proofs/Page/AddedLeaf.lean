import PageOverlay.Proofs.Page.Content

/-!
# A leaf is added

A node that is added below another one has no children yet. All nodes that were there keep their
kinds, parents and properties, and what stands elsewhere stays as it was.
-/

set_option autoImplicit false

namespace PageOverlay.Page

variable {p : Page} {c m n up : Nat} {node node' leaf : Node}

section same

variable (hup : p.live? up = some node) (hr : leaf.removed = false)

include hup hr

theorem kind?_adopt (hm : p.live? m = some node') : (p.adopt up leaf).kind? m = p.kind? m := by
  obtain ⟨node'', hm', -, hk, -⟩ := WellFormed.live_adopt hup hr hm
  rw [kind?_of_live hm', kind?_of_live hm, hk]

theorem tag?_adopt (hm : p.live? m = some node') : (p.adopt up leaf).tag? m = p.tag? m := by
  rw [tag?, tag?, kind?_adopt hup hr hm]

theorem parent?_adopt (hm : p.live? m = some node') :
    (p.adopt up leaf).parent? m = p.parent? m := by
  obtain ⟨node'', hm', hparent, -⟩ := WellFormed.live_adopt hup hr hm
  rw [parent?, parent?, hm', hm, Option.bind_some, Option.bind_some, hparent]

theorem elementOf_adopt (hm : p.live? m = some node') :
    (p.adopt up leaf).elementOf m = p.elementOf m := by
  rw [elementOf, elementOf, kind?_adopt hup hr hm, parent?_adopt hup hr hm]

theorem ancestor_adopt (hw : WellFormed p) (hm : ∃ node, p.live? m = some node) (levels : Nat) :
    (p.adopt up leaf).ancestor m levels = p.ancestor m levels := by
  induction levels generalizing m with
  | zero => rfl
  | succ levels ih =>
    obtain ⟨node', hm⟩ := hm
    rw [ancestor, ancestor, parent?_adopt hup hr hm]
    cases hparent : p.parent? m with
    | none => rfl
    | some k => exact ih (hw.live_parent hparent)

theorem live?_adopt_new :
    (p.adopt up leaf).live? p.nodes.size = some { leaf with parent := some up } := by
  rw [live?_adopt (lt_size_of_live hup) hr, if_pos rfl]

end same

theorem sameBelow_adopt (hw : WellFormed p) (hup : p.live? up = some node)
    (hc : ∃ node, p.live? c = some node) (h : ¬ Under p c up) :
    SameBelow p (p.adopt up leaf) c := by
  intro m hm
  obtain ⟨found, hfound⟩ := hw.live_of_under hm hc
  have hne : m ≠ up := fun he => h (he ▸ hm)
  rw [nodes_adopt (lt_size_of_live hup), if_neg (Nat.ne_of_lt (lt_size_of_live hfound)),
    if_neg hne]

end PageOverlay.Page
