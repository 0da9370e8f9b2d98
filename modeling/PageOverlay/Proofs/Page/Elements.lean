import Mathlib.Data.List.Perm.Subperm
import PageOverlay.Page.Snapshot
import PageOverlay.Proofs.Page.Order

/-!
# Counting elements

A snapshot shows as many elements as its page has. So a page that has lost an element and got none
has another snapshot.
-/

set_option autoImplicit false

namespace PageOverlay

namespace NodeSnapshot

mutual

def elements : NodeSnapshot → Nat
  | .node tag _ _ children => (if tag.isSome then 1 else 0) + elementsIn children

def elementsIn : List NodeSnapshot → Nat
  | [] => 0
  | s :: rest => elements s + elementsIn rest

end

end NodeSnapshot

namespace Page

variable {p q : Page} {n : Nat}

theorem elementsIn_map {f : NodeId → NodeSnapshot} {g : NodeId → List NodeId} {cs : List NodeId}
    (h : ∀ c ∈ cs, (f c).elements = ((g c).filter p.isElement).length) :
    NodeSnapshot.elementsIn (cs.map f) = ((cs.flatMap g).filter p.isElement).length := by
  induction cs with
  | nil => rfl
  | cons c cs ih =>
    rw [List.map_cons, NodeSnapshot.elementsIn, h c (by simp), ih fun b hb => h b (by simp [hb]),
      List.flatMap_cons, List.filter_append, List.length_append]

theorem elements_of_live {node : Node} {depth : Nat} (h : p.live? n = some node) :
    (p.snapshotUpTo (depth + 1) n).elements =
      (if p.isElement n then 1 else 0) +
        NodeSnapshot.elementsIn (node.children.map (p.snapshotUpTo depth)) := by
  rw [snapshotUpTo, (live?_eq_some.mp h).1, isElement, tag?, kind?_of_live h]
  cases hk : node.kind <;> simp [NodeSnapshot.elements, hk]

namespace WellFormed

theorem under_root (hw : WellFormed p) {node : Node} (h : p.live? n = some node) :
    Under p root n := by
  induction n using Nat.strongRecOn generalizing node with
  | ind n ih =>
    by_cases hroot : n = root
    · rw [hroot]
      exact .refl root
    · obtain ⟨up, -, hmem⟩ := hw.parent h hroot
      obtain ⟨found, hfound⟩ := live_of_mem_children hmem
      exact (ih up (hw.child hmem).1 hfound).child hmem

theorem elements_snapshotUpTo (hw : WellFormed p) (depth : Nat)
    (hn : ∃ node, p.live? n = some node) :
    (p.snapshotUpTo (depth + 1) n).elements = ((p.preorder depth n).filter p.isElement).length := by
  induction depth generalizing n with
  | zero =>
    obtain ⟨node, hl⟩ := hn
    have hnone : NodeSnapshot.elementsIn (node.children.map (p.snapshotUpTo 0)) =
        ((node.children.flatMap fun _ => []).filter p.isElement).length :=
      elementsIn_map fun _ _ => rfl
    rw [elements_of_live hl, hnone, preorder, List.filter_singleton]
    cases p.isElement n <;> simp
  | succ depth ih =>
    obtain ⟨node, hl⟩ := hn
    have hbelow : NodeSnapshot.elementsIn (node.children.map (p.snapshotUpTo (depth + 1))) =
        ((node.children.flatMap (p.preorder depth)).filter p.isElement).length := by
      apply elementsIn_map
      intro c hc
      rw [← children_of_live hl] at hc
      obtain ⟨-, found, hfound, -⟩ := hw.child hc
      exact ih ⟨found, hfound⟩
    rw [elements_of_live hl, hbelow, preorder, List.filter_cons, children_of_live hl]
    cases p.isElement n
    · simp
    · simp [Nat.add_comm]

end WellFormed

/-- The second page has lost an element of the first one, and it has got none. -/
structure Thinned (p q : Page) : Prop where
  elements : ∀ n, q.isElement n → p.isElement n
  lost : ∃ n, p.isElement n ∧ ¬ q.isElement n

def elements (p : Page) : List NodeId := (p.descendants root).filter p.isElement

theorem WellFormed.mem_elements (hw : WellFormed p) : n ∈ p.elements ↔ p.isElement n := by
  rw [elements, List.mem_filter, hw.mem_descendants]
  refine ⟨And.right, fun h => ⟨?_, h⟩⟩
  obtain ⟨node, tag, hl, -⟩ := isElement_iff.mp h
  exact hw.under_root hl

theorem WellFormed.nodup_elements (hw : WellFormed p) : p.elements.Nodup := by
  refine ((hw.descendants_pairwise root).imp ?_).filter _
  rintro a b h rfl
  exact h (.refl a)

theorem WellFormed.elements_snapshot (hw : WellFormed p) :
    p.snapshot.root.elements = p.elements.length :=
  hw.elements_snapshotUpTo p.nodes.size hw.live_root

theorem Thinned.fewer (h : Thinned p q) (hp : WellFormed p) (hq : WellFormed q) :
    q.snapshot.root.elements < p.snapshot.root.elements := by
  obtain ⟨n, hn, hgone⟩ := h.lost
  have hsub : q.elements ⊆ p.elements :=
    fun m hm => hp.mem_elements.mpr (h.elements m (hq.mem_elements.mp hm))
  have hperm := hq.nodup_elements.subperm hsub
  rw [hp.elements_snapshot, hq.elements_snapshot]
  refine Nat.lt_of_le_of_ne hperm.length_le fun heq => ?_
  have hmem : n ∈ q.elements :=
    (hperm.perm_of_length_le (Nat.le_of_eq heq.symm)).mem_iff.mpr (hp.mem_elements.mpr hn)
  exact hgone (hq.mem_elements.mp hmem)

end Page
end PageOverlay
