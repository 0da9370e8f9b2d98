import PageOverlay.Proofs.Change.Edits
import PageOverlay.Proofs.Page.Cells
import PageOverlay.Run.Runner

/-!
# Taking changes back

Recorded changes and writes from outside alternate in any order, and then the changes are taken
back, the last one first. The page that is reached on the way back echoes the one of the way there:
the same nodes stand in the same places, and each cell holds what it held then unless it holds what
was written from outside.
-/

set_option autoImplicit false

namespace PageOverlay

/-- One step of a course: a recorded change, or a write from outside. -/
inductive Step
  | made (u : Undo)
  | written (n : NodeId) (path value : String)

inductive Course (P : Page → Step → Prop) : World → List Step → World → Prop
  | nil (w : World) : Course P w [] w
  | made {w w' w'' : World} {u : Undo} {steps : List Step} (h : Edit w u w')
      (hp : P w.page (.made u)) (hs : Course P w' steps w'') : Course P w (.made u :: steps) w''
  | written {w w' : World} {n : NodeId} {path value : String} {p : Page} {steps : List Step}
      (h : w.page.setProperty n path value = .ok p) (hp : P w.page (.written n path value))
      (hs : Course P { w with page := p } steps w') :
      Course P w (.written n path value :: steps) w'

theorem Course.append {P : Page → Step → Prop} {w w' w'' : World} {ss ts : List Step}
    (h : Course P w ss w') (g : Course P w' ts w'') : Course P w (ss ++ ts) w'' := by
  induction h with
  | nil => exact g
  | made h hp _ ih => exact .made h hp (ih g)
  | written h hp _ ih => exact .written h hp (ih g)

theorem Edits.course {w w' : World} {us : List Undo} (h : Edits w us w') :
    Course (fun _ _ => True) w (us.map .made) w' := by
  induction h with
  | nil w => exact .nil w
  | cons h _ ih => exact .made h trivial ih

/-- The step changes no content of an element, but for recorded changes of the only text in it. -/
def Step.Direct (p : Page) : Step → Prop
  | .made (.property n path _ _) => p.Direct n path
  | .made _ => True
  | .written n path _ => ¬ (p.isElement n ∧ path = Page.contentPath)

def Step.undo? : Step → Option Undo
  | .made u => some u
  | .written .. => none

def Step.write? : Step → Option (NodeId × String × String)
  | .made _ => none
  | .written n path value => some (n, path, value)

/-- The second page has the nodes of the first one in their places and no others. Its cells hold
what they hold there, or else a value from outside. -/
structure Echo (O : NodeId → String → String → Prop) (p q : Page) : Prop where
  shape : ∀ n, n < p.nodes.size → q.shape? n = p.shape? n
  gone : ∀ n, p.nodes.size ≤ n → q.live? n = none
  value : ∀ n key, n < p.nodes.size →
    (q.stored? n key).getD "" = (p.stored? n key).getD "" ∨ O n key ((q.stored? n key).getD "")
  present : ∀ n key, n < p.nodes.size → p.stored? n key ≠ none → q.stored? n key ≠ none
  content : ∀ n, n < p.nodes.size → p.isElement n →
    q.stored? n Page.contentPath = p.stored? n Page.contentPath

namespace Echo

variable {O : NodeId → String → String → Prop} {p q : Page} {n m : Nat}
  {path key before after : String}

theorem refl (p : Page) : Echo O p p where
  shape _ _ := rfl
  gone _ h := Page.live?_of_size_le h
  value _ _ _ := .inl rfl
  present _ _ _ h := h
  content _ _ _ := rfl

theorem lt_size (h : Echo O p q) (hm : m < p.nodes.size) : m < q.nodes.size := by
  have hs := h.shape m hm
  rw [Page.shape?, Page.shape?, Array.getElem?_eq_getElem hm, Option.map_some] at hs
  obtain ⟨node, hn, -⟩ := Option.map_eq_some_iff.mp hs
  exact (Array.getElem?_eq_some_iff.mp hn).1

section cell

variable (hm : m < p.nodes.size) (h : Echo O (p.putRaw m key after) q)

include hm h

theorem cell_present : q.stored? m key ≠ none := by
  apply h.present m key (by simpa using hm)
  rw [Page.stored?_putRaw hm, if_pos ⟨rfl, rfl⟩]
  exact Option.some_ne_none _

theorem cell_value : (q.stored? m key).getD "" = after ∨ O m key ((q.stored? m key).getD "") := by
  have hv := h.value m key (by simpa using hm)
  rwa [Page.stored?_putRaw hm, if_pos ⟨rfl, rfl⟩] at hv

variable (hc : ¬ (p.isElement m ∧ key = Page.contentPath))

include hc

theorem of_cell {q' : Page} (hs : ∀ n, q'.shape? n = q.shape? n)
    (hq : ∀ n k, ¬ (m = n ∧ key = k) → q'.stored? n k = q.stored? n k)
    (hpresent : q'.stored? m key ≠ none)
    (hv : (q'.stored? m key).getD "" = (p.stored? m key).getD "" ∨
      O m key ((q'.stored? m key).getD "")) : Echo O p q' where
  shape n hn := by rw [hs, h.shape n (by simpa using hn), Page.shape?_putRaw]
  gone n hn := Page.dead_of_shape (hs n) (h.gone n (by simpa using hn))
  value n k hn := by
    by_cases hcell : m = n ∧ key = k
    · obtain ⟨rfl, rfl⟩ := hcell
      exact hv
    · have hold := h.value n k (by simpa using hn)
      rwa [Page.stored?_putRaw hm, if_neg hcell, ← hq n k hcell] at hold
  present n k hn hsome := by
    by_cases hcell : m = n ∧ key = k
    · obtain ⟨rfl, rfl⟩ := hcell
      exact hpresent
    · rw [hq n k hcell]
      apply h.present n k (by simpa using hn)
      rwa [Page.stored?_putRaw hm, if_neg hcell]
  content n hn he := by
    have hcell : ¬ (m = n ∧ key = Page.contentPath) := by
      rintro ⟨rfl, rfl⟩
      exact hc ⟨he, rfl⟩
    rw [hq n _ hcell, h.content n (by simpa using hn), Page.stored?_putRaw hm, if_neg hcell]
    rwa [Page.isElement_congr Page.shape?_putRaw]

theorem of_written (hO : O m key after) : Echo O p q := by
  apply h.of_cell hm hc (fun _ => rfl) (fun _ _ _ => rfl) (h.cell_present hm)
  rcases h.cell_value hm with hv | hv
  · rw [hv]
    exact .inr hO
  · exact .inr hv

theorem of_made :
    Echo O p (if q.stored? m key = some after then q.putRaw m key ((p.stored? m key).getD "")
      else q) := by
  have hq : m < q.nodes.size := h.lt_size (by simpa using hm)
  split
  · have hthere : (q.putRaw m key ((p.stored? m key).getD "")).stored? m key =
        some ((p.stored? m key).getD "") := by
      rw [Page.stored?_putRaw hq, if_pos ⟨rfl, rfl⟩]
    apply h.of_cell hm hc (fun _ => Page.shape?_putRaw)
    · intro n k hcell
      rw [Page.stored?_putRaw hq, if_neg hcell]
    · rw [hthere]
      exact Option.some_ne_none _
    · rw [hthere]
      exact .inl rfl
  · next hother =>
    have hpresent := h.cell_present hm
    apply h.of_cell hm hc (fun _ => rfl) (fun _ _ _ => rfl) hpresent
    rcases h.cell_value hm with hv | hv
    · obtain ⟨x, hx⟩ := Option.ne_none_iff_exists'.mp hpresent
      rw [hx, Option.getD_some] at hv
      exact absurd (hx.trans (congrArg some hv)) hother
    · exact .inr hv

end cell

section inserted

variable {up : Nat} {node leaf : Node} (hup : p.live? up = some node)
  (hnode : ∀ c ∈ node.children, c < p.nodes.size) (hr : leaf.removed = false)
  (hc : leaf.children = []) (h : Echo O (p.adopt up leaf) q)

include hup hr hc h

theorem live_inserted :
    ∃ found, q.live? p.nodes.size = some found ∧ found.parent = some up ∧ found.children = [] := by
  have hnew : (p.adopt up leaf).live? p.nodes.size = some { leaf with parent := some up } := by
    rw [Page.live?_adopt (Page.lt_size_of_live hup) hr, if_pos rfl]
  have hsize : (p.adopt up leaf).nodes.size = p.nodes.size + 1 := Page.size_adopt
  obtain ⟨found, hfound, -, hparent, hchildren⟩ :=
    Page.live_of_shape (h.shape _ (by omega)) hnew
  exact ⟨found, hfound, hparent, hchildren.trans hc⟩

theorem descendants_inserted :
    (q.unlink up p.nodes.size).descendants p.nodes.size = [p.nodes.size] := by
  obtain ⟨found, hfound, -, hchildren⟩ := h.live_inserted hup hr hc
  apply Page.descendants_of_leaf
  rw [Page.children_unlink_of_ne (Nat.ne_of_gt (Page.lt_size_of_live hup)),
    Page.children_of_live hfound, hchildren]

include hnode

theorem shape_detach_inserted (hn : n < p.nodes.size) :
    (q.detach up p.nodes.size).shape? n = p.shape? n := by
  have hn' : n ≠ p.nodes.size := Nat.ne_of_lt hn
  have hs := h.shape n (by rw [Page.size_adopt]; omega)
  rw [Page.shape?, Page.shape?, Page.nodes_adopt (Page.lt_size_of_live hup), if_neg hn'] at hs
  rw [Page.shape?, Page.nodes_detach, h.descendants_inserted hup hr hc,
    if_neg (by simpa using hn'), Page.unlink, Page.nodes_modify, Page.shape?]
  by_cases hnup : n = up
  · subst hnup
    rw [if_pos rfl, (Page.live?_eq_some.mp hup).1, Option.map_some, Option.map_some] at hs
    obtain ⟨there, hthere, hshape⟩ := Option.map_eq_some_iff.mp hs
    rw [if_pos rfl, hthere, (Page.live?_eq_some.mp hup).1, Option.map_some, Option.map_some,
      Option.map_some, Option.some.injEq]
    exact Node.shape_without_last (fun c hmem => Nat.ne_of_lt (hnode c hmem)) hshape
  · rw [if_neg (Ne.symm hnup)]
    rwa [if_neg hnup] at hs

theorem of_inserted :
    q.remove p.nodes.size = .ok (q.detach up p.nodes.size) ∧
      Echo O p (q.detach up p.nodes.size) := by
  have hlt := Page.lt_size_of_live hup
  have hsize : (p.adopt up leaf).nodes.size = p.nodes.size + 1 := Page.size_adopt
  obtain ⟨found, hfound, hparent, -⟩ := h.live_inserted hup hr hc
  refine ⟨?_, fun n hn => h.shape_detach_inserted hup hnode hr hc hn, ?_, ?_, ?_, ?_⟩
  · rw [Page.remove, hfound]
    simp only [hparent]
  · intro n hn
    rw [Page.live?_detach, h.descendants_inserted hup hr hc]
    by_cases he : n = p.nodes.size
    · rw [if_pos (by simp [he])]
    · rw [if_neg (by simpa using he), Page.live?_unlink, if_neg (by omega)]
      exact h.gone n (by omega)
  · intro n key hn
    rw [Page.stored?_detach, ← Page.stored?_adopt hlt hn]
    exact h.value n key (by omega)
  · intro n key hn hs
    rw [Page.stored?_detach]
    apply h.present n key (by omega)
    rwa [Page.stored?_adopt hlt hn]
  · intro n hn he
    rw [Page.stored?_detach, ← Page.stored?_adopt hlt hn]
    apply h.content n (by omega)
    obtain ⟨element, tag, hl, hk⟩ := Page.isElement_iff.mp he
    obtain ⟨element', hl', -, hk', -⟩ := Page.WellFormed.live_adopt hup hr hl
    exact Page.isElement_iff.mpr ⟨element', tag, hl', hk'.trans hk⟩

end inserted

variable {w w' w'' r : World} {u : Undo}

theorem revert_property {value : String} (ha : p.Accepts n path) (hd : p.Direct n path)
    (h : Echo O (p.putRaw (p.cell n path).1 (p.cell n path).2 value) r.page) :
    Echo O p ((Undo.property n path ((p.property? n path).getD "") value).revert.run r).2.page := by
  obtain ⟨node, hn⟩ := ha.1
  obtain ⟨⟨kept, hkept⟩, hcell⟩ := Page.live_cell hn hd
  have hm := Page.lt_size_of_live hkept
  have hlt := Page.lt_size_of_live hn
  have hs : ∀ k, k < p.nodes.size → r.page.shape? k = p.shape? k := by
    intro k hk
    rw [h.shape k (by simpa using hk), Page.shape?_putRaw]
  have ha' : r.page.Accepts n path := Page.accepts_congr (hs n hlt) ha
  have hd' : r.page.Direct n path := by
    refine Page.direct_congr hs hlt (fun he => ?_) hd
    rw [h.content n (by simpa using hlt) (by rwa [Page.isElement_congr Page.shape?_putRaw]),
      Page.stored?_putRaw hm, if_neg]
    rintro ⟨hcn, hkey⟩
    exact hcell ⟨by rwa [hcn], hkey⟩
  obtain ⟨node', hn'⟩ := ha'.1
  obtain ⟨x, hx⟩ := Option.ne_none_iff_exists'.mp (h.cell_present hm)
  have hmade := h.of_made hm hcell
  have hsame : r.page.cell n path = p.cell n path := Page.cell_congr (hs n hlt)
  have hread : r.page.property? n path = r.page.stored? (p.cell n path).1 (p.cell n path).2 := by
    rw [hx]
    apply Page.property?_of_stored hn' hd'
    rw [hsame, hx]
  rw [Change.run_revert_property, hread, Change.run_setProperty, Page.setProperty_of_direct ha' hd',
    hsame, Page.property?_getD_of_direct hn hd]
  split
  · next hthere => rwa [if_pos hthere] at hmade
  · next hother => rwa [if_neg hother] at hmade

theorem revert_insertion {up : NodeId} {tag : String} {fields : Fields String} (hw : p.WellFormed)
    (happend : p.appendElement up tag fields = .ok (n, q)) (h : Echo O q r.page) :
    Echo O p ((Undo.insertion n).revert.run r).2.page := by
  rw [Page.appendElement, Page.appendNode] at happend
  split at happend
  · cases happend
  · next node hup =>
    cases happend
    have hnode : ∀ c ∈ node.children, c < p.nodes.size := by
      intro c hc
      exact hw.child_lt_size (Page.mem_children.mpr ⟨node, hup, hc⟩)
    obtain ⟨hremove, hecho⟩ := h.of_inserted hup hnode rfl rfl
    have hlive : (r.page.live? p.nodes.size).isSome := by
      rw [Page.remove] at hremove
      cases hl : r.page.live? p.nodes.size with
      | some found => rfl
      | none => simp [hl] at hremove
    rw [Change.run_revert_insertion, if_pos hlive, Change.run_remove, hremove]
    exact hecho

theorem revert (hw : w.page.WellFormed) (h : Edit w u w') (hd : Step.Direct w.page (.made u))
    (he : Echo O w'.page r.page) : Echo O w.page (u.revert.run r).2.page := by
  cases h with
  | property hne hset =>
    have ha := Page.setProperty_isOk_iff.mp ⟨_, hset⟩
    rw [Page.setProperty_of_direct ha hd] at hset
    cases hset
    exact revert_property ha hd he
  | insertion happend => exact revert_insertion hw happend he
  | request rule => exact he
  | response rule => exact he

end Echo

theorem revertAll_append (us vs : List Undo) (r : World) :
    Runner.revertAll (us ++ vs) r = Runner.revertAll vs (Runner.revertAll us r) := by
  induction us generalizing r with
  | nil => rfl
  | cons u us ih => exact ih _

/-- What a step of a course has to satisfy so that it can be taken back. -/
def Step.Reversible (O : NodeId → String → String → Prop) (p : Page) (s : Step) : Prop :=
  s.Direct p ∧ ∀ n path value, s = .written n path value →
    O (p.cell n path).1 (p.cell n path).2 value

theorem Echo.revertAll {O : NodeId → String → String → Prop} {w w' r : World} {steps : List Step}
    (hp : w.page.Reachable) (h : Course (Step.Reversible O) w steps w')
    (he : Echo O w'.page r.page) :
    Echo O w.page (Runner.revertAll (steps.filterMap Step.undo?).reverse r).page := by
  induction h with
  | nil => exact he
  | @made w w1 w' u steps h hs _ ih =>
    have hlast := ih (h.reachable hp) he
    rw [List.filterMap_cons, Step.undo?, List.reverse_cons, revertAll_append]
    exact hlast.revert hp.wellFormed h hs.1
  | @written w w' n path value p steps h hs _ ih =>
    have hlast := ih (.setProperty hp h) he
    have ha := Page.setProperty_isOk_iff.mp ⟨p, h⟩
    have hd : w.page.Direct n path := fun hel hpath => absurd ⟨hel, hpath⟩ hs.1
    obtain ⟨node, hn⟩ := ha.1
    obtain ⟨⟨kept, hkept⟩, hcell⟩ := Page.live_cell hn hd
    rw [Page.setProperty_of_direct ha hd] at h
    cases h
    rw [List.filterMap_cons, Step.undo?]
    exact hlast.of_written (Page.lt_size_of_live hkept) hcell (hs.2 n path value rfl)

end PageOverlay
