import PageOverlay.Page.Tree

/-!
# The nodes of a changed page

What each elementary change of a page does to the node of every number, live or removed. All that
is said about pages elsewhere goes through these equations.
-/

set_option autoImplicit false

namespace PageOverlay.Page

variable {p : Page} {n m parent : Nat} {node : Node} {f : Node → Node}

theorem live?_eq_filter : p.live? n = p.nodes[n]?.filter (!·.removed) := by
  rw [live?]
  cases p.nodes[n]? with
  | none => rfl
  | some node => cases hr : node.removed <;> simp [Option.filter, hr]

theorem live?_eq_some : p.live? n = some node ↔ p.nodes[n]? = some node ∧ node.removed = false := by
  simp [live?_eq_filter, Option.filter_eq_some_iff]

theorem lt_size_of_live (h : p.live? n = some node) : n < p.nodes.size :=
  (Array.getElem?_eq_some_iff.mp (live?_eq_some.mp h).1).1

theorem live?_of_size_le (h : p.nodes.size ≤ n) : p.live? n = none := by
  rw [live?, Array.getElem?_eq_none h]

theorem live?_congr {q : Page} (h : q.nodes[n]? = p.nodes[n]?) : q.live? n = p.live? n := by
  rw [live?, live?, h]

theorem children_of_live (h : p.live? n = some node) : p.children n = node.children := by
  rw [children, h]

theorem mem_children {c : NodeId} :
    c ∈ p.children n ↔ ∃ node, p.live? n = some node ∧ c ∈ node.children := by
  rw [children]
  cases p.live? n with
  | none => simp
  | some node => simp

theorem kind?_of_live (h : p.live? n = some node) : p.kind? n = some node.kind := by
  rw [kind?, h, Option.map_some]

theorem isText_iff : p.isText n = true ↔ ∃ node, p.live? n = some node ∧ node.kind = .text := by
  simp [isText, kind?]

theorem isElement_iff :
    p.isElement n = true ↔ ∃ node tag, p.live? n = some node ∧ node.kind = .element tag := by
  rw [isElement, tag?, kind?]
  cases p.live? n with
  | none => simp
  | some node => cases hk : node.kind <;> simp [hk]

@[simp] theorem size_modify : (p.modify n f).nodes.size = p.nodes.size := by
  simp [modify]

theorem nodes_modify :
    (p.modify n f).nodes[m]? = if n = m then p.nodes[m]?.map f else p.nodes[m]? := by
  rw [modify, Array.getElem?_modify]

theorem live?_modify (hf : ∀ node, (f node).removed = node.removed) :
    (p.modify n f).live? m = if n = m then (p.live? m).map f else p.live? m := by
  rw [live?_eq_filter, nodes_modify, live?_eq_filter]
  by_cases h : n = m
  · rw [if_pos h, if_pos h, Option.filter_map]
    simp only [Function.comp_def, hf]
  · rw [if_neg h, if_neg h]

@[simp] theorem size_putRaw {path value : String} :
    (p.putRaw n path value).nodes.size = p.nodes.size := size_modify

theorem live?_putRaw {path value : String} :
    (p.putRaw n path value).live? m =
      if n = m then
        (p.live? m).map fun node =>
          { node with properties := Fields.put path value node.properties }
      else p.live? m := by
  rw [putRaw, live?_modify]
  intro node
  rfl

@[simp] theorem children_putRaw {path value : String} :
    (p.putRaw n path value).children m = p.children m := by
  rw [children, live?_putRaw, children]
  by_cases h : n = m
  · rw [if_pos h]
    cases p.live? m <;> rfl
  · rw [if_neg h]

@[simp] theorem size_markRemoved {ns : List NodeId} :
    (p.markRemoved ns).nodes.size = p.nodes.size := by
  induction ns generalizing p with
  | nil => rfl
  | cons k ns ih =>
    change ((p.modify k _).markRemoved ns).nodes.size = _
    rw [ih, size_modify]

theorem nodes_markRemoved {ns : List NodeId} :
    (p.markRemoved ns).nodes[m]? =
      if m ∈ ns then p.nodes[m]?.map fun node => { node with removed := true }
      else p.nodes[m]? := by
  induction ns generalizing p with
  | nil => simp [markRemoved]
  | cons k ns ih =>
    change ((p.modify k _).markRemoved ns).nodes[m]? = _
    rw [ih, nodes_modify]
    by_cases hk : k = m
    · subst hk
      by_cases hm : k ∈ ns <;> simp [hm, Function.comp_def]
    · simp [hk, Ne.symm hk]

theorem live?_markRemoved {ns : List NodeId} :
    (p.markRemoved ns).live? m = if m ∈ ns then none else p.live? m := by
  rw [live?_eq_filter, nodes_markRemoved, live?_eq_filter]
  by_cases h : m ∈ ns
  · rw [if_pos h, if_pos h, Option.filter_map]
    simp [Function.comp_def]
  · rw [if_neg h, if_neg h]

theorem size_detach : (p.detach parent n).nodes.size = p.nodes.size := by
  rw [detach, size_markRemoved, size_modify]

def unlink (p : Page) (parent n : NodeId) : Page :=
  p.modify parent fun up => { up with children := up.children.filter (· ≠ n) }

theorem live?_unlink :
    (p.unlink parent n).live? m =
      if parent = m then
        (p.live? m).map fun up => { up with children := up.children.filter (· ≠ n) }
      else p.live? m := by
  rw [unlink, live?_modify]
  intro up
  rfl

theorem children_unlink_of_ne (h : m ≠ parent) :
    (p.unlink parent n).children m = p.children m := by
  rw [children, live?_unlink, if_neg (Ne.symm h), children]

theorem nodes_detach :
    (p.detach parent n).nodes[m]? =
      if m ∈ (p.unlink parent n).descendants n then
        (p.unlink parent n).nodes[m]?.map fun node => { node with removed := true }
      else (p.unlink parent n).nodes[m]? := by
  rw [detach, nodes_markRemoved]
  rfl

theorem descendants_of_leaf (h : p.children n = []) : p.descendants n = [n] := by
  rw [descendants]
  cases p.nodes.size with
  | zero => rfl
  | succ size => rw [preorder, h, List.flatMap_nil]

theorem live?_detach :
    (p.detach parent n).live? m =
      if m ∈ (p.unlink parent n).descendants n then none else (p.unlink parent n).live? m := by
  rw [detach, live?_markRemoved]
  rfl

theorem size_adopt : (p.adopt parent node).nodes.size = p.nodes.size + 1 := by
  simp [adopt]

theorem nodes_adopt (h : parent < p.nodes.size) :
    (p.adopt parent node).nodes[m]? =
      if m = p.nodes.size then some { node with parent := some parent }
      else if m = parent then
        p.nodes[m]?.map fun up => { up with children := up.children ++ [p.nodes.size] }
      else p.nodes[m]? := by
  rw [adopt, Array.getElem?_modify, Array.getElem?_push]
  by_cases hm : m = p.nodes.size
  · subst hm
    simp [Nat.ne_of_lt h]
  · by_cases hp : m = parent
    · subst hp
      simp [hm]
    · simp [hm, hp, Ne.symm hp]

theorem live?_adopt (h : parent < p.nodes.size) (hr : node.removed = false) :
    (p.adopt parent node).live? m =
      if m = p.nodes.size then some { node with parent := some parent }
      else if m = parent then
        (p.live? m).map fun up => { up with children := up.children ++ [p.nodes.size] }
      else p.live? m := by
  rw [live?_eq_filter, nodes_adopt h, live?_eq_filter]
  by_cases hm : m = p.nodes.size
  · rw [if_pos hm, if_pos hm, Option.filter_some]
    simp [hr]
  · rw [if_neg hm, if_neg hm]
    by_cases hp : m = parent
    · rw [if_pos hp, if_pos hp, Option.filter_map]
      rfl
    · rw [if_neg hp, if_neg hp]

end PageOverlay.Page
