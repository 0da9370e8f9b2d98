import Mathlib.Data.List.Nodup
import PageOverlay.Proofs.Page.Loading
import PageOverlay.Proofs.Page.Walking

/-!
# Pages under operations

Whatever operations are asked of a page, accepted or refused, its live nodes stay one tree. A number
is given to one node only: the node keeps its kind and its parent, and once removed it stays so.
-/

set_option autoImplicit false

namespace PageOverlay.Page

inductive Operation
  | appendElement (parent : NodeId) (tag : String) (properties : Fields String)
  | appendText (parent : NodeId) (data : String)
  | setProperty (n : NodeId) (path value : String)
  | remove (n : NodeId)
  | setLocation (location : String)
  deriving DecidableEq, Repr

def Operation.run (p : Page) : Operation → Except MutationError (Option NodeId × Page)
  | .appendElement parent tag properties =>
    (p.appendElement parent tag properties).map fun (n, q) => (some n, q)
  | .appendText parent data => (p.appendText parent data).map fun (n, q) => (some n, q)
  | .setProperty n path value => (p.setProperty n path value).map fun q => (none, q)
  | .remove n => (p.remove n).map fun q => (none, q)
  | .setLocation location => .ok (none, p.setLocation location)

def perform (p : Page) (o : Operation) : Page :=
  match o.run p with
  | .ok (_, q) => q
  | .error _ => p

def performAll (p : Page) (os : List Operation) : Page := os.foldl perform p

def made (p : Page) (o : Operation) : Option NodeId :=
  match o.run p with
  | .ok (n, _) => n
  | .error _ => none

def madeAll : Page → List Operation → List NodeId
  | _, [] => []
  | p, o :: os => (p.made o).toList ++ madeAll (p.perform o) os

inductive Origin
  | blank (location : String)
  | scratch (location value : String)
  | snapshot (s : Snapshot)

def Origin.page : Origin → Page
  | .blank location => Page.blank location
  | .scratch location value => Page.scratch location value
  | .snapshot s => ofSnapshot s

variable {p q r : Page} {n up : Nat} {o : Operation} {os : List Operation}

theorem Origin.reachable (origin : Origin) : origin.page.Reachable := by
  cases origin with
  | blank location => exact .blank location
  | scratch location value => exact .scratch location value
  | snapshot s => exact .ofSnapshot s

theorem Reachable.perform (hp : p.Reachable) (o : Operation) : (p.perform o).Reachable := by
  cases o with
  | appendElement parent tag properties =>
    rw [Page.perform, Operation.run]
    cases h : p.appendElement parent tag properties with
    | error e => exact hp
    | ok made => exact .appendElement hp h
  | appendText parent data =>
    rw [Page.perform, Operation.run]
    cases h : p.appendText parent data with
    | error e => exact hp
    | ok made => exact .appendText hp h
  | setProperty n path value =>
    rw [Page.perform, Operation.run]
    cases h : p.setProperty n path value with
    | error e => exact hp
    | ok q => exact .setProperty hp h
  | remove n =>
    rw [Page.perform, Operation.run]
    cases h : p.remove n with
    | error e => exact hp
    | ok q => exact .remove hp h
  | setLocation location => exact .setLocation hp location

theorem Reachable.performAll (hp : p.Reachable) (os : List Operation) :
    (p.performAll os).Reachable := by
  induction os generalizing p with
  | nil => exact hp
  | cons o os ih => exact ih (hp.perform o)

/-- The second page comes after the first one: every number there stands for the same node, with its
kind and its parent, and a node that was removed is so still. -/
structure Later (p q : Page) : Prop where
  size_le : p.nodes.size ≤ q.nodes.size
  same : ∀ {n : NodeId} {node : Node}, p.nodes[n]? = some node → ∃ node', q.nodes[n]? = some node' ∧
    node'.kind = node.kind ∧ node'.parent = node.parent ∧ (node.removed → node'.removed)

namespace Later

theorem refl (p : Page) : Later p p := ⟨Nat.le_refl _, fun h => ⟨_, h, rfl, rfl, id⟩⟩

theorem trans (h : Later p q) (g : Later q r) : Later p r := by
  refine ⟨Nat.le_trans h.size_le g.size_le, fun hn => ?_⟩
  obtain ⟨node', hn', hk, hp, hr⟩ := h.same hn
  obtain ⟨node'', hn'', hk', hp', hr'⟩ := g.same hn'
  exact ⟨node'', hn'', hk'.trans hk, hp'.trans hp, hr' ∘ hr⟩

theorem dead (h : Later p q) (hn : n < p.nodes.size) (hdead : p.live? n = none) :
    q.live? n = none := by
  obtain ⟨node', hn', -, -, hr⟩ := h.same (Array.getElem?_eq_getElem hn)
  have hremoved : p.nodes[n].removed = true := by
    rw [live?, Array.getElem?_eq_getElem hn] at hdead
    simpa using hdead
  rw [live?, hn']
  simp [hr hremoved]

theorem modify (p : Page) (n : NodeId) {f : Node → Node}
    (hf : ∀ node, (f node).kind = node.kind ∧ (f node).parent = node.parent ∧
      (node.removed → (f node).removed)) : Later p (p.modify n f) := by
  refine ⟨Nat.le_of_eq size_modify.symm, fun {m} {node} hm => ?_⟩
  rw [nodes_modify, hm]
  by_cases h : n = m
  · rw [if_pos h]
    exact ⟨f node, rfl, hf node⟩
  · rw [if_neg h]
    exact ⟨node, rfl, rfl, rfl, id⟩

theorem push (p : Page) (node : Node) : Later p { p with nodes := p.nodes.push node } := by
  refine ⟨by simp, fun {m} {node'} hm => ?_⟩
  have hlt := (Array.getElem?_eq_some_iff.mp hm).1
  refine ⟨node', ?_, rfl, rfl, id⟩
  rw [Array.getElem?_push, if_neg (Nat.ne_of_lt hlt), hm]

theorem adopt (p : Page) (up : NodeId) (node : Node) : Later p (p.adopt up node) :=
  (push p { node with parent := some up }).trans (modify _ up fun _ => ⟨rfl, rfl, id⟩)

theorem putRaw (p : Page) (n : NodeId) (path value : String) : Later p (p.putRaw n path value) :=
  modify p n fun _ => ⟨rfl, rfl, id⟩

theorem markRemoved (p : Page) (ns : List NodeId) : Later p (p.markRemoved ns) := by
  induction ns generalizing p with
  | nil => exact refl p
  | cons n ns ih =>
    have hn : Later p (p.modify n fun node => { node with removed := true }) :=
      modify p n fun _ => ⟨rfl, rfl, fun _ => rfl⟩
    exact hn.trans (ih _)

theorem detach (p : Page) (up n : NodeId) : Later p (p.detach up n) := by
  have hunlink : Later p (p.unlink up n) := modify p up fun _ => ⟨rfl, rfl, id⟩
  exact hunlink.trans (markRemoved _ _)

theorem detachAll (p : Page) (n : NodeId) (cs : List NodeId) :
    Later p (cs.foldl (fun p c => p.detach n c) p) := by
  induction cs generalizing p with
  | nil => exact refl p
  | cons c cs ih => exact (detach p n c).trans (ih _)

theorem replaceContent (p : Page) (n : NodeId) (value : String) :
    Later p (p.replaceContent n value) :=
  (detachAll p n (p.children n)).trans (adopt _ n _)

theorem setContent (p : Page) (n : NodeId) (value : String) : Later p (p.setContent n value) := by
  rw [Page.setContent]
  split
  · split
    · exact putRaw _ _ _ _
    · exact replaceContent p n value
  · exact replaceContent p n value

theorem setProperty {path value : String} (h : p.setProperty n path value = .ok q) :
    Later p q := by
  rw [Page.setProperty] at h
  split at h
  · cases h
  · split at h
    · cases h
      exact putRaw _ _ _ _
    · cases h
      exact putRaw _ _ _ _
    · split at h
      · cases h
        exact setContent p n value
      · split at h
        · cases h
        · cases h
          exact putRaw _ _ _ _

theorem remove (h : p.remove n = .ok q) : Later p q := by
  rw [Page.remove] at h
  split at h
  · cases h
  · split at h
    · cases h
    · cases h
      exact detach _ _ _

theorem appendNode {node : Node} (h : p.appendNode up node = .ok (n, q)) :
    Later p q ∧ n = p.nodes.size ∧ q.nodes.size = n + 1 := by
  rw [Page.appendNode] at h
  split at h
  · cases h
  · cases h
    exact ⟨adopt p up node, rfl, size_adopt⟩

end Later

theorem later_run {made : Option NodeId} (h : o.run p = .ok (made, q)) :
    Later p q ∧ ∀ n ∈ made, n = p.nodes.size ∧ q.nodes.size = n + 1 := by
  have happended : ∀ {e : Except MutationError (NodeId × Page)},
      (∀ {n q'}, e = .ok (n, q') → Later p q' ∧ n = p.nodes.size ∧ q'.nodes.size = n + 1) →
      e.map (fun (n, q) => (some n, q)) = .ok (made, q) →
      Later p q ∧ ∀ n ∈ made, n = p.nodes.size ∧ q.nodes.size = n + 1 := by
    rintro (e | ⟨n, q'⟩) hlater h
    · cases h
    · cases h
      obtain ⟨hlater, hn⟩ := hlater rfl
      exact ⟨hlater, fun m hm => Option.mem_some.mp hm ▸ hn⟩
  have hchanged : ∀ {e : Except MutationError Page}, (∀ {q'}, e = .ok q' → Later p q') →
      e.map (fun q => ((none : Option NodeId), q)) = .ok (made, q) →
      Later p q ∧ ∀ n ∈ made, n = p.nodes.size ∧ q.nodes.size = n + 1 := by
    rintro (e | q') hlater h
    · cases h
    · cases h
      exact ⟨hlater rfl, by simp⟩
  cases o with
  | appendElement parent tag properties => exact happended Later.appendNode h
  | appendText parent data => exact happended Later.appendNode h
  | setProperty n path value => exact hchanged Later.setProperty h
  | remove n => exact hchanged Later.remove h
  | setLocation location =>
    cases h
    exact ⟨⟨Nat.le_refl _, fun h => ⟨_, h, rfl, rfl, id⟩⟩, by simp⟩

theorem later_perform (p : Page) (o : Operation) :
    Later p (p.perform o) ∧
      ∀ n ∈ p.made o, n = p.nodes.size ∧ (p.perform o).nodes.size = n + 1 := by
  rw [perform, made]
  cases h : o.run p with
  | error e => exact ⟨.refl p, by simp⟩
  | ok result => exact later_run h

theorem later_performAll (p : Page) (os : List Operation) : Later p (p.performAll os) := by
  induction os generalizing p with
  | nil => exact .refl p
  | cons o os ih => exact (later_perform p o).1.trans (ih _)

theorem madeAll_ascending (p : Page) (os : List Operation) :
    (∀ n ∈ p.madeAll os, p.nodes.size ≤ n) ∧ (p.madeAll os).Pairwise (· < ·) := by
  induction os generalizing p with
  | nil => exact ⟨by simp [madeAll], .nil⟩
  | cons o os ih =>
    obtain ⟨hlater, hmade⟩ := later_perform p o
    obtain ⟨hrest, hpair⟩ := ih (p.perform o)
    rw [madeAll]
    constructor
    · intro n hn
      rcases List.mem_append.mp hn with hn | hn
      · exact Nat.le_of_eq (hmade n (Option.mem_toList.mp hn)).1.symm
      · exact Nat.le_trans hlater.size_le (hrest n hn)
    · refine List.pairwise_append.mpr ⟨by cases p.made o <;> simp, hpair, ?_⟩
      intro n hn m hm
      obtain ⟨-, hsize⟩ := hmade n (Option.mem_toList.mp hn)
      have hlt : n < (p.perform o).nodes.size := hsize ▸ Nat.lt_succ_self n
      exact Nat.lt_of_lt_of_le hlt (hrest m hm)

/-- The live nodes are one tree, the root of which has the first number. -/
structure IsTree (p : Page) : Prop where
  root : ∃ node, p.live? root = some node ∧ node.parent = none
  parent : ∀ n node, p.live? n = some node → n ≠ Page.root →
    ∃ up upper, node.parent = some up ∧ up < n ∧ p.live? up = some upper ∧
      upper.children.count n = 1
  child : ∀ n node, p.live? n = some node → ∀ c ∈ node.children,
    ∃ child, p.live? c = some child ∧ child.parent = some n

/-- What walks over the page find: up from a live node the root, down from the root every live node
once, in the order of the recursion over the tree. -/
structure Walkable (p : Page) : Prop where
  ancestor : ∀ n node, p.live? n = some node → ∀ levels, n ≤ levels → p.ancestor n levels = root
  mem : ∀ n, n ∈ p.descendants root ↔ ∃ node, p.live? n = some node
  nodup : (p.descendants root).Nodup
  preorder : ∀ n, p.descendants n = n :: (p.children n).flatMap p.descendants
  stack : ∀ n taken, StackWalk p [n] taken ↔ taken = p.descendants n
  query : ∀ s : Selector, (p.query s).Sublist (p.descendants root) ∧
    ∀ n, n ∈ p.query s ↔ (∃ node, p.live? n = some node) ∧ s.accepts p n

namespace WellFormed

theorem isTree (hw : WellFormed p) : p.IsTree where
  root := hw.top
  parent n node hn hroot := by
    obtain ⟨up, hp, hmem⟩ := hw.parent hn hroot
    obtain ⟨upper, hupper⟩ := live_of_mem_children hmem
    have hcount := List.count_eq_one_of_mem (hw.nodup up) hmem
    rw [children_of_live hupper] at hcount
    exact ⟨up, upper, hp, (hw.child hmem).1, hupper, hcount⟩
  child n node hn c hc := by
    rw [← children_of_live hn] at hc
    exact (hw.child hc).2

theorem walkable (hw : WellFormed p) : p.Walkable where
  ancestor _ _ hn _ hl := hw.ancestor_eq_root hn hl
  mem _ := hw.mem_descendants_root
  nodup := hw.nodup_descendants root
  preorder := hw.descendants_eq
  stack n taken := by
    constructor
    · exact fun h => h.unique (hw.stackWalk_descendants n)
    · rintro rfl
      exact hw.stackWalk_descendants n
  query s := by
    refine ⟨List.filter_sublist, fun n => ?_⟩
    rw [query, List.mem_filter, hw.mem_descendants_root]

/-- Setting the content of an element takes its children away one by one, and each of them goes. -/
theorem foldlM_remove {node : Node} (hw : WellFormed p) (hn : p.live? n = some node) :
    (p.children n).foldlM Page.remove p = .ok (p.clear n) := by
  have hall : ∀ (cs : List NodeId) (p : Page) (node : Node), WellFormed p →
      p.live? n = some node → (∀ c ∈ cs, c ∈ p.children n) → cs.Nodup →
      cs.foldlM Page.remove p = .ok (cs.foldl (fun p c => p.detach n c) p) := by
    intro cs
    induction cs with
    | nil => exact fun _ _ _ _ _ _ => rfl
    | cons c cs ih =>
      intro p node hw hn hcs hd
      obtain ⟨hc, hd⟩ := List.nodup_cons.mp hd
      have hmem := hcs c List.mem_cons_self
      obtain ⟨-, child, hchild, hp⟩ := hw.child hmem
      have hremove : p.remove c = .ok (p.detach n c) := by
        rw [Page.remove, hchild]
        simp only [hp]
      obtain ⟨node', hn', -⟩ := hw.live_detach hmem (hw.not_under_self hmem) hn
      rw [List.foldlM_cons, hremove]
      refine ih (p.detach n c) node' (hw.detach hmem) hn' (fun b hb => ?_) hd
      exact hw.mem_children_detach_sibling hmem (hcs b (List.mem_cons_of_mem c hb))
        fun h => hc (h ▸ hb)
  exact hall _ p node hw hn (fun _ hc => hc) (hw.nodup n)

end WellFormed

/-- A page stays one tree under any operations, and further operations never give a number out
again or bring a removed node back. So all walks over it end and find what is live, and the children
of a node can be removed one by one. -/
theorem performAll_isTree (origin : Origin) (os more : List Operation) :
    let p := origin.page.performAll os
    let q := p.performAll more
    p.IsTree ∧ p.Walkable ∧ Later p q ∧
      (∀ n, n < p.nodes.size → p.live? n = none → q.live? n = none) ∧
      (∀ n ∈ p.madeAll more, p.nodes.size ≤ n) ∧ (p.madeAll more).Pairwise (· < ·) ∧
      ∀ n node, p.live? n = some node → (p.children n).foldlM Page.remove p = .ok (p.clear n) := by
  intro p q
  have hp : p.WellFormed := (origin.reachable.performAll os).wellFormed
  have hlater := later_performAll p more
  obtain ⟨hnew, hpair⟩ := madeAll_ascending p more
  exact ⟨hp.isTree, hp.walkable, hlater, fun _ => hlater.dead, hnew, hpair,
    fun _ _ => hp.foldlM_remove⟩

example :
    let p := (Page.blank "x").performAll [.appendElement 0 "p" [], .appendElement 1 "b" [],
      .appendText 2 "a", .setProperty 1 "textContent" "b", .remove 2, .appendText 0 "c"]
    p.descendants root = [0, 1, 4, 5] := by
  decide +kernel

end PageOverlay.Page
