import PageOverlay.Proofs.Page.WellFormed
import PageOverlay.Selector.Basic

/-!
# Document order

Two nodes with a common node below them stand one below the other, so the nodes below a node are
listed with no node after one that is below it. A query keeps this order. Whatever is found by
walking up or down from a live node is live.
-/

set_option autoImplicit false

namespace PageOverlay.Page.WellFormed

variable {p : Page} {a b c m n : Nat} {node : Node}

theorem comparable (hw : WellFormed p) (ha : Under p a m) (hb : Under p b m) :
    Under p a b ∨ Under p b a := by
  induction m using Nat.strongRecOn with
  | ind m ih =>
    rcases ha.last with rfl | ⟨up, hup, hm⟩
    · exact .inr hb
    · rcases hb.last with rfl | ⟨up', hup', hm'⟩
      · exact .inl ha
      · rw [← hw.parent_of_child hm hm'] at hup'
        exact ih up (hw.child hm).1 hup hup'

theorem under_antisymm (hw : WellFormed p) (h : Under p a b) (g : Under p b a) : a = b :=
  Nat.le_antisymm (hw.le_of_under h) (hw.le_of_under g)

theorem not_under_sibling (hw : WellFormed p) (hb : b ∈ p.children n) (hc : c ∈ p.children n)
    (hne : b ≠ c) : ¬ Under p b c := by
  intro h
  rcases h.last with he | ⟨up, hup, hmem⟩
  · exact hne he.symm
  · rw [hw.parent_of_child hmem hc] at hup
    have := hw.le_of_under hup
    have := (hw.child hb).1
    omega

theorem siblings_apart (hw : WellFormed p) (hb : b ∈ p.children n) (hc : c ∈ p.children n)
    (hbm : Under p b m) (hcm : Under p c m) : b = c := by
  by_cases hne : b = c
  · exact hne
  · rcases hw.comparable hbm hcm with h | h
    · exact absurd h (hw.not_under_sibling hb hc hne)
    · exact absurd h (hw.not_under_sibling hc hb (Ne.symm hne))

theorem preorder_pairwise (hw : WellFormed p) (depth n : Nat) :
    (p.preorder depth n).Pairwise fun x y => ¬ Under p y x := by
  induction depth generalizing n with
  | zero => exact List.pairwise_singleton _ n
  | succ depth ih =>
    rw [preorder, List.pairwise_cons]
    constructor
    · intro y hy hu
      obtain ⟨k, hk, hky⟩ := List.mem_flatMap.mp hy
      have := hw.le_of_under hu
      have := hw.le_of_under (under_of_mem_preorder hky)
      have := (hw.child hk).1
      omega
    · rw [List.pairwise_flatMap]
      refine ⟨fun k _ => ih k, ?_⟩
      refine (hw.nodup n).imp_of_mem ?_
      intro b c hb hc hne x hx y hy hu
      have hcx : Under p c x := (under_of_mem_preorder hy).trans hu
      exact hne (hw.siblings_apart hb hc (under_of_mem_preorder hx) hcx)

theorem descendants_pairwise (hw : WellFormed p) (n : NodeId) :
    (p.descendants n).Pairwise fun x y => ¬ Under p y x :=
  hw.preorder_pairwise _ n

theorem query_pairwise (hw : WellFormed p) (s : Selector) :
    (p.query s).Pairwise fun x y => ¬ Under p y x :=
  (hw.descendants_pairwise root).filter _

theorem live_root (hw : WellFormed p) : ∃ node, p.live? root = some node := by
  obtain ⟨node, h, -⟩ := hw.top
  exact ⟨node, h⟩

theorem live_of_mem_descendants (hw : WellFormed p) (hn : ∃ node, p.live? n = some node)
    (h : m ∈ p.descendants n) : ∃ node, p.live? m = some node :=
  hw.live_of_under (hw.mem_descendants.mp h) hn

theorem live_of_mem_query (hw : WellFormed p) {s : Selector} (h : m ∈ p.query s) :
    ∃ node, p.live? m = some node :=
  hw.live_of_mem_descendants hw.live_root ((List.mem_filter.mp h).1)

theorem live_parent (hw : WellFormed p) (h : p.parent? n = some m) :
    ∃ node, p.live? m = some node := by
  obtain ⟨node, hn, hp⟩ := Option.bind_eq_some_iff.mp h
  exact live_of_mem_children (hw.mem_children_of_parent hn hp)

theorem live_ancestor (hw : WellFormed p) (hn : ∃ node, p.live? n = some node) (levels : Nat) :
    ∃ node, p.live? (p.ancestor n levels) = some node := by
  induction levels generalizing n with
  | zero => exact hn
  | succ levels ih =>
    rw [ancestor]
    split
    · next up hup => exact ih (hw.live_parent hup)
    · exact hn

theorem live_of_mem_ancestors (hw : WellFormed p) {fuel : Nat} (h : m ∈ p.ancestorsUpTo fuel n) :
    ∃ node, p.live? m = some node := by
  induction fuel generalizing n with
  | zero => cases h
  | succ fuel ih =>
    rw [ancestorsUpTo] at h
    split at h
    · next up hup =>
      rcases List.mem_cons.mp h with rfl | h
      · exact hw.live_parent hup
      · exact ih h
    · cases h

theorem live_elementOf (hw : WellFormed p) (h : p.elementOf n = some m) :
    ∃ node, p.live? m = some node := by
  rw [elementOf] at h
  cases hl : p.live? n with
  | none => simp [kind?, hl] at h
  | some node =>
    rw [kind?_of_live hl] at h
    split at h
    · cases h
      exact ⟨node, hl⟩
    · exact hw.live_parent h
    · cases h

end PageOverlay.Page.WellFormed

namespace PageOverlay

theorem isElement_of_accepts {alternatives : List Chain} {p : Page} {n : NodeId}
    (h : (Selector.css alternatives).accepts p n) : p.isElement n := by
  have hcompound : ∀ c : Compound, c.accepts p n → p.isElement n := by
    intro c hc
    rw [Compound.accepts] at hc
    cases ht : p.tag? n with
    | none => simp [ht] at hc
    | some tag => simp [Page.isElement, ht]
  obtain ⟨chain, -, hchain⟩ := List.any_eq_true.mp h
  cases chain with
  | one c => exact hcompound c hchain
  | step before op c =>
    cases op with
    | child =>
      rw [Chain.accepts, Bool.and_eq_true] at hchain
      exact hcompound c hchain.1
    | descendant =>
      rw [Chain.accepts, Bool.and_eq_true] at hchain
      exact hcompound c hchain.1

end PageOverlay
