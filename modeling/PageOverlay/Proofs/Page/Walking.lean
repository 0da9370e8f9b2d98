import PageOverlay.Proofs.Page.Elements

/-!
# Walks over a page

A walk up from a live node ends at the root. The nodes below a node are listed alike by a recursion
that needs no bound and by a walk that keeps a stack of the nodes to come.
-/

set_option autoImplicit false

namespace PageOverlay.Page

/-- A walk takes the first node of its stack and puts that node's children in its place. The second
list holds the nodes that it takes until the stack is empty. -/
inductive StackWalk (p : Page) : List NodeId → List NodeId → Prop
  | done : StackWalk p [] []
  | take {n : NodeId} {stack taken : List NodeId} (h : StackWalk p (p.children n ++ stack) taken) :
      StackWalk p (n :: stack) (n :: taken)

variable {p : Page} {n m depth : Nat} {node : Node} {stack taken taken' : List NodeId}

theorem StackWalk.unique (h : StackWalk p stack taken) (g : StackWalk p stack taken') :
    taken = taken' := by
  induction h generalizing taken' with
  | done =>
    cases g
    rfl
  | take _ ih =>
    cases g with
    | take g => rw [ih g]

namespace WellFormed

theorem children_of_size_le (h : p.nodes.size ≤ n) : p.children n = [] := by
  rw [children, live?_of_size_le h]

theorem preorder_succ (hw : WellFormed p) (hd : p.nodes.size ≤ depth + n) :
    p.preorder (depth + 1) n = p.preorder depth n := by
  induction depth generalizing n with
  | zero =>
    have hnone : p.children n = [] := children_of_size_le (by omega)
    rw [preorder, preorder, hnone, List.flatMap_nil]
  | succ depth ih =>
    have hbelow : (p.children n).map (p.preorder (depth + 1)) =
        (p.children n).map (p.preorder depth) := by
      apply List.map_congr_left
      intro c hc
      have := (hw.child hc).1
      exact ih (by omega)
    rw [preorder, List.flatMap_def, hbelow, ← List.flatMap_def, preorder]

theorem descendants_eq (hw : WellFormed p) (n : NodeId) :
    p.descendants n = n :: (p.children n).flatMap p.descendants := by
  rw [descendants, ← hw.preorder_succ (Nat.le_add_right _ _), preorder]
  rfl

theorem stackWalk_preorder (hw : WellFormed p) (hd : p.nodes.size ≤ depth + n)
    (h : StackWalk p stack taken) : StackWalk p (n :: stack) (p.preorder depth n ++ taken) := by
  induction depth generalizing n stack taken with
  | zero =>
    have hnone : p.children n = [] := children_of_size_le (by omega)
    refine .take ?_
    rwa [hnone]
  | succ depth ih =>
    have hbelow : ∀ cs : List NodeId, (∀ c ∈ cs, c ∈ p.children n) →
        StackWalk p (cs ++ stack) (cs.flatMap (p.preorder depth) ++ taken) := by
      intro cs hcs
      induction cs with
      | nil => exact h
      | cons c cs ihcs =>
        have hlt := (hw.child (hcs c List.mem_cons_self)).1
        have hrest := ihcs fun b hb => hcs b (List.mem_cons_of_mem c hb)
        rw [List.flatMap_cons, List.append_assoc]
        exact ih (by omega) hrest
    exact .take (hbelow _ fun _ hc => hc)

theorem stackWalk_descendants (hw : WellFormed p) (n : NodeId) :
    StackWalk p [n] (p.descendants n) := by
  have h : StackWalk p [n] (p.preorder p.nodes.size n ++ []) :=
    hw.stackWalk_preorder (by omega) .done
  rwa [List.append_nil] at h

theorem nodup_descendants (hw : WellFormed p) (n : NodeId) : (p.descendants n).Nodup := by
  refine (hw.descendants_pairwise n).imp ?_
  rintro a b h rfl
  exact h (.refl a)

theorem mem_descendants_root (hw : WellFormed p) :
    n ∈ p.descendants root ↔ ∃ node, p.live? n = some node := by
  constructor
  · exact hw.live_of_mem_descendants hw.live_root
  · rintro ⟨node, hn⟩
    exact hw.mem_descendants.mpr (hw.under_root hn)

theorem parent?_root (hw : WellFormed p) : p.parent? root = none := by
  obtain ⟨node, hroot, hp⟩ := hw.top
  rw [parent?, hroot, Option.bind_some, hp]

theorem parent?_lt (hw : WellFormed p) (h : p.parent? n = some m) : m < n := by
  obtain ⟨node, hn, hp⟩ := Option.bind_eq_some_iff.mp h
  exact (hw.child (hw.mem_children_of_parent hn hp)).1

/-- Parents come before their children, so a node's own number bounds the steps up to the root. -/
theorem ancestor_eq_root (hw : WellFormed p) {levels : Nat} (hn : p.live? n = some node)
    (hl : n ≤ levels) : p.ancestor n levels = root := by
  induction levels generalizing n node with
  | zero => exact Nat.le_zero.mp hl
  | succ levels ih =>
    by_cases hroot : n = root
    · rw [ancestor, hroot, hw.parent?_root]
    · obtain ⟨up, hp, hmem⟩ := hw.parent hn hroot
      obtain ⟨upper, hupper⟩ := live_of_mem_children hmem
      have hlt := (hw.child hmem).1
      have hup : p.parent? n = some up := by rw [parent?, hn, Option.bind_some, hp]
      rw [ancestor, hup]
      exact ih hupper (by omega)

theorem ancestorsUpTo_succ (hw : WellFormed p) (hd : n ≤ depth) :
    p.ancestorsUpTo (depth + 1) n = p.ancestorsUpTo depth n := by
  induction depth generalizing n with
  | zero =>
    have hroot : n = root := Nat.le_zero.mp hd
    rw [ancestorsUpTo, ancestorsUpTo, hroot, hw.parent?_root]
  | succ depth ih =>
    rw [ancestorsUpTo, ancestorsUpTo]
    split
    · next up hup =>
      have := hw.parent?_lt hup
      rw [ih (by omega)]
    · rfl

theorem ancestors_eq (hw : WellFormed p) (n : NodeId) :
    p.ancestors n = match p.parent? n with
      | some up => up :: p.ancestors up
      | none => [] := by
  cases hup : p.parent? n with
  | none =>
    rw [ancestors]
    cases p.nodes.size with
    | zero => rfl
    | succ size => rw [ancestorsUpTo, hup]
  | some up =>
    obtain ⟨node, hn, -⟩ := Option.bind_eq_some_iff.mp hup
    have hlt := lt_size_of_live hn
    rw [ancestors, ← hw.ancestorsUpTo_succ (Nat.le_of_lt hlt), ancestorsUpTo, hup]
    rfl

end WellFormed
end PageOverlay.Page
