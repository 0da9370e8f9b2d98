import Mathlib.Data.List.Forall2
import PageOverlay.Proofs.Page.Elements
import PageOverlay.Proofs.Page.SnapshotRoundTrip

/-!
# Snapshots but for empty properties

A property that was absent counts as empty, so it may be left behind as an empty one. Snapshots are
compared up to that. What a snapshot shows of a node is compared from the root down, and a node
whose surroundings have not changed is shown alike if the pages are.
-/

set_option autoImplicit false

namespace PageOverlay

/-- The same values under the same names, except that a name without a value may have got an empty
one. -/
def Fields.Refilled (fs gs : Fields String) : Prop :=
  ∀ name, get? name gs = get? name fs ∨ get? name fs = none ∧ get? name gs = some ""

inductive NodeSnapshot.Refilled : NodeSnapshot → NodeSnapshot → Prop
  | node {tag text : Option String} {fs gs : Fields String} {ss ts : List NodeSnapshot}
      (fields : Fields.Refilled fs gs) (children : List.Forall₂ Refilled ss ts) :
      Refilled (.node tag text fs ss) (.node tag text gs ts)

structure Snapshot.Refilled (s t : Snapshot) : Prop where
  location : t.location = s.location
  root : s.root.Refilled t.root

theorem Fields.Refilled.erase {fs gs : Fields String} (h : Refilled fs gs) (name : String) :
    Refilled (Fields.erase name fs) (Fields.erase name gs) := by
  intro other
  by_cases ho : other = name
  · subst ho
    exact .inl ((get?_erase_self other gs).trans (get?_erase_self other fs).symm)
  · rw [get?_erase_of_ne ho, get?_erase_of_ne ho]
    exact h other

open Page (dataPath)

namespace Node

variable {a b : Node} {ss ts : List NodeSnapshot}

theorem refilled_shown (hk : b.kind = a.kind) (hp : a.IsProper)
    (hf : Fields.Refilled a.properties b.properties)
    (hs : List.Forall₂ NodeSnapshot.Refilled ss ts) : (a.shown ss).Refilled (b.shown ts) := by
  cases hkind : a.kind with
  | element tag =>
    simp only [shown, hk, hkind]
    exact .node hf hs
  | other =>
    simp only [shown, hk, hkind]
    exact .node hf hs
  | text =>
    -- the data of a text are never absent
    rw [IsProper, hkind] at hp
    obtain ⟨data, hdata⟩ := hp
    have hsame : Fields.get? dataPath b.properties = Fields.get? dataPath a.properties :=
      (hf dataPath).resolve_right fun hnone => by simp [hdata] at hnone
    simp only [shown, hk, hkind, hsame]
    exact .node (hf.erase dataPath) hs

theorem children_of_refilled (h : (a.shown ss).Refilled (b.shown ts)) :
    List.Forall₂ NodeSnapshot.Refilled ss ts := by
  obtain ⟨_, _, _, ha, -⟩ := a.exists_shown
  obtain ⟨_, _, _, hb, -⟩ := b.exists_shown
  rw [ha, hb] at h
  cases h with
  | node _ hs => exact hs

theorem text_of_refilled (h : (a.shown ss).Refilled (b.shown ts)) (hb : b.kind = .text)
    {data : String} (hdata : Fields.get? dataPath b.properties = some data) :
    a.kind = .text ∧ Fields.get? dataPath a.properties = some data := by
  cases ha : a.kind with
  | element tag =>
    simp only [shown, ha, hb] at h
    cases h
  | other =>
    simp only [shown, ha, hb, hdata] at h
    cases h
  | text =>
    simp only [shown, ha, hb, hdata] at h
    generalize Fields.get? dataPath a.properties = found at h
    cases h
    exact ⟨rfl, rfl⟩

end Node

namespace Page

variable {p q : Page} {a n t : Nat} {node : Node} {data : String}

/-- The second page has the nodes of the first one in their places. Each holds what it held, except
that it may have got empty properties. -/
structure Refilled (p q : Page) : Prop where
  shape : ∀ n, n < p.nodes.size → q.shape? n = p.shape? n
  stored : ∀ n key, n < p.nodes.size →
    q.stored? n key = p.stored? n key ∨ p.stored? n key = none ∧ q.stored? n key = some ""

theorem Refilled.shownAt (h : Refilled p q) (hp : p.Reachable) (hq : WellFormed q) (n : NodeId) :
    ∀ node, p.live? n = some node → (p.shownAt n).Refilled (q.shownAt n) := by
  have hw := hp.wellFormed
  induction n using hw.childInduction with
  | step n ih =>
    intro node hn
    have hlt := lt_size_of_live hn
    obtain ⟨node', hn', hk, -⟩ := live_of_shape (h.shape n hlt) hn
    rw [hw.shownAt_eq hn, hq.shownAt_eq hn', children_congr (h.shape n hlt)]
    refine Node.refilled_shown hk (hp.proper n node (live?_eq_some.mp hn).1) ?_ ?_
    · intro name
      have hstored := h.stored n name hlt
      rwa [stored?_of_live hn, stored?_of_live hn'] at hstored
    · rw [List.forall₂_map_left_iff, List.forall₂_map_right_iff, List.forall₂_same]
      intro c hc
      obtain ⟨child, hchild⟩ := hw.live_of_child hc
      exact ih c hc child hchild

theorem Refilled.snapshot (h : Refilled p q) (hp : p.Reachable) (hq : WellFormed q)
    (hl : q.location = p.location) : p.snapshot.Refilled q.snapshot := by
  obtain ⟨node, hroot⟩ := hp.wellFormed.live_root
  exact ⟨hl, h.shownAt hp hq root node hroot⟩

namespace WellFormed

variable (hp : WellFormed p) (hq : WellFormed q)

include hp hq

theorem refilled_below (hu : Under p a n) (hbefore : ∀ m, m < n → q.nodes[m]? = p.nodes[m]?)
    (h : (p.shownAt a).Refilled (q.shownAt a)) : (p.shownAt n).Refilled (q.shownAt n) := by
  induction hu with
  | refl => exact h
  | @step a c m hc hm ih =>
    have hlt : a < m := Nat.lt_of_lt_of_le (hp.child hc).1 (hp.le_of_under hm)
    obtain ⟨node, hl⟩ := live_of_mem_children hc
    have hsame : q.live? a = p.live? a := live?_congr (hbefore a hlt)
    have hl' : q.live? a = some node := hsame.trans hl
    have hchildren : q.children a = p.children a := by
      rw [children_of_live hl', children_of_live hl]
    rw [hp.shownAt_eq hl, hq.shownAt_eq hl', hchildren] at h
    have hall := Node.children_of_refilled h
    rw [List.forall₂_map_left_iff, List.forall₂_map_right_iff, List.forall₂_same] at hall
    exact ih hbefore (hall c hc)

theorem oneText_of_refilled (hn : p.live? n = some node)
    (hbefore : ∀ m, m < n → q.nodes[m]? = p.nodes[m]?) (hc : q.children n = [t])
    (ht : q.isText t) (hdata : q.stored? t dataPath = some data)
    (h : p.snapshot.Refilled q.snapshot) :
    ∃ s, p.children n = [s] ∧ p.isText s ∧ p.stored? s dataPath = some data := by
  have hat := hp.refilled_below hq (hp.under_root hn) hbefore h.root
  obtain ⟨node', hn'⟩ := live_of_mem_children (p := q) (n := n) (c := t) (by simp [hc])
  rw [hp.shownAt_eq hn, hq.shownAt_eq hn', hc] at hat
  have hall := Node.children_of_refilled hat
  rw [List.forall₂_map_left_iff, List.forall₂_map_right_iff, List.forall₂_cons_right_iff] at hall
  obtain ⟨s, rest, hs, hrest, hchildren⟩ := hall
  rw [List.forall₂_nil_right_iff] at hrest
  subst hrest
  obtain ⟨text, hl, hkind⟩ := isText_iff.mp ht
  obtain ⟨child, hchild⟩ := hp.live_of_child (p := p) (n := n) (c := s) (by simp [hchildren])
  rw [hp.shownAt_eq hchild, hq.shownAt_eq hl] at hs
  rw [stored?_of_live hl] at hdata
  obtain ⟨hk, hd⟩ := Node.text_of_refilled hs hkind hdata
  exact ⟨s, hchildren, isText_iff.mpr ⟨child, hchild, hk⟩, (stored?_of_live hchild).trans hd⟩

end WellFormed
end Page
end PageOverlay
