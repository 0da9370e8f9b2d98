import PageOverlay.Proofs.Page.Content
import PageOverlay.Proofs.Page.Walking

/-!
# Pages under other numbers

A page may hold the live nodes of another one under other numbers. Whatever is read off a node then,
its properties, what stands above it and below it, and whether a selector accepts it, is what is
read off the node it stands for, and a query finds the nodes for those that it found.
-/

set_option autoImplicit false

namespace PageOverlay.Page

/-- The second page holds each live node of the first one under the number that `f` gives it. -/
structure Relocates (p q : Page) (f : NodeId → NodeId) : Prop where
  root : f root = root
  node : ∀ {n : NodeId} {node : Node}, p.live? n = some node → ∃ node', q.live? (f n) = some node' ∧
    node'.kind = node.kind ∧
    (∀ name, Fields.get? name node'.properties = Fields.get? name node.properties) ∧
    node'.parent = node.parent.map f ∧ node'.children = node.children.map f

variable {p q : Page} {f : NodeId → NodeId} {n : NodeId} {node : Node}

theorem any_congr_of_mem {l : List NodeId} {a b : NodeId → Bool} (h : ∀ x ∈ l, a x = b x) :
    l.any a = l.any b := by
  rw [Bool.eq_iff_iff, List.any_eq_true, List.any_eq_true]
  exact exists_congr fun x => and_congr_right fun hx => by rw [h x hx]

namespace WellFormed

/-- Every node but the last has only later ones as its children, so what a node takes over from its
children holds of all nodes. -/
theorem childInduction (hw : WellFormed p) {motive : NodeId → Prop}
    (step : ∀ n, (∀ c ∈ p.children n, motive c) → motive n) (n : NodeId) : motive n := by
  generalize hk : p.nodes.size - n = k
  induction k using Nat.strongRecOn generalizing n with
  | ind k ih =>
    refine step n fun c hc => ?_
    have hlt := (hw.child hc).1
    have hsize := hw.child_lt_size hc
    exact ih (p.nodes.size - c) (by omega) c rfl

theorem live_of_child (hw : WellFormed p) {c : NodeId} (h : c ∈ p.children n) :
    ∃ node, p.live? c = some node := by
  obtain ⟨-, node, hc, -⟩ := hw.child h
  exact ⟨node, hc⟩

end WellFormed

namespace Relocates

variable (r : Relocates p q f) (hn : p.live? n = some node)

include r hn

theorem kind? : q.kind? (f n) = p.kind? n := by
  obtain ⟨node', hn', hk, -⟩ := r.node hn
  rw [kind?_of_live hn', kind?_of_live hn, hk]

theorem tag? : q.tag? (f n) = p.tag? n := by rw [Page.tag?, Page.tag?, r.kind? hn]

theorem isText : q.isText (f n) = p.isText n := by rw [Page.isText, Page.isText, r.kind? hn]

theorem parent? : q.parent? (f n) = (p.parent? n).map f := by
  obtain ⟨node', hn', -, -, hp, -⟩ := r.node hn
  rw [Page.parent?, Page.parent?, hn, hn']
  exact hp

theorem children : q.children (f n) = (p.children n).map f := by
  obtain ⟨node', hn', -, -, -, hc⟩ := r.node hn
  rw [children_of_live hn, children_of_live hn', hc]

theorem textUpTo (hw : WellFormed p) (depth : Nat) :
    q.textUpTo depth (f n) = p.textUpTo depth n := by
  induction depth generalizing n node with
  | zero => rfl
  | succ depth ih =>
    obtain ⟨node', hn', hk, hg, -, hc⟩ := r.node hn
    have hbelow : node'.children.flatMap (q.textUpTo depth) =
        node.children.flatMap (p.textUpTo depth) := by
      rw [hc, List.flatMap_map, List.flatMap_def, List.flatMap_def]
      congr 1
      refine List.map_congr_left fun c hmem => ?_
      rw [← children_of_live hn] at hmem
      obtain ⟨child, hchild⟩ := hw.live_of_child hmem
      exact ih hchild
    rw [Page.textUpTo, Page.textUpTo, (live?_eq_some.mp hn').1, (live?_eq_some.mp hn).1]
    simp only [hk, hg, hbelow]

theorem textContent (hw : WellFormed p) (hw' : WellFormed q) :
    q.textContent (f n) = p.textContent n := by
  obtain ⟨node', hn', -⟩ := r.node hn
  have hdepth : q.nodes.size + 1 + p.nodes.size = p.nodes.size + 1 + q.nodes.size := by omega
  rw [Page.textContent, Page.textContent, ← hw'.textUpTo_size ⟨node', hn'⟩ p.nodes.size,
    r.textUpTo hn hw, hdepth, hw.textUpTo_size ⟨node, hn⟩]

theorem property? (hw : WellFormed p) (hw' : WellFormed q) (path : String) :
    q.property? (f n) path = p.property? n path := by
  obtain ⟨node', hn', hk, hg, -⟩ := r.node hn
  rw [Page.property?, Page.property?, hn, hn', r.textContent hn hw hw']
  simp only [hk, hg]

theorem ancestors (hw : WellFormed p) (hw' : WellFormed q) :
    q.ancestors (f n) = (p.ancestors n).map f := by
  induction n using Nat.strongRecOn generalizing node with
  | ind n ih =>
    rw [hw'.ancestors_eq, hw.ancestors_eq, r.parent? hn]
    cases hup : p.parent? n with
    | none => rfl
    | some up =>
      obtain ⟨upper, hupper⟩ := hw.live_parent hup
      simp only [Option.map_some, List.map_cons]
      rw [ih up (hw.parent?_lt hup) hupper]

omit hn in
theorem descendants (hw : WellFormed p) (hw' : WellFormed q) (n : NodeId)
    (hn : ∃ node, p.live? n = some node) :
    q.descendants (f n) = (p.descendants n).map f := by
  induction n using hw.childInduction with
  | step n ih =>
    obtain ⟨node, hn⟩ := hn
    have hbelow : (p.children n).map (q.descendants ∘ f) =
        (p.children n).map (List.map f ∘ p.descendants) :=
      List.map_congr_left fun c hc => ih c hc (hw.live_of_child hc)
    rw [hw'.descendants_eq, hw.descendants_eq, r.children hn, List.map_cons, List.flatMap_map,
      List.map_flatMap]
    exact congrArg (fun below => f n :: below.flatten) hbelow

variable (hw : WellFormed p) (hw' : WellFormed q)

include hw hw'

theorem compound_accepts (c : Compound) : c.accepts q (f n) = c.accepts p n := by
  have hfilter : (fun a : AttributeFilter => a.accepts q (f n)) = fun a => a.accepts p n := by
    funext a
    rw [AttributeFilter.accepts, AttributeFilter.accepts, r.property? hn hw hw']
  rw [Compound.accepts, Compound.accepts, r.tag? hn]
  simp only [r.property? hn hw hw', hfilter]

theorem chain_accepts (chain : Chain) : chain.accepts q (f n) = chain.accepts p n := by
  induction chain generalizing n node with
  | one c => exact r.compound_accepts hn hw hw' c
  | step before op c ih =>
    cases op with
    | child =>
      rw [Chain.accepts, Chain.accepts, r.compound_accepts hn hw hw', r.parent? hn]
      cases hup : p.parent? n with
      | none => rfl
      | some up =>
        obtain ⟨upper, hupper⟩ := hw.live_parent hup
        simp only [Option.map_some, ih hupper]
    | descendant =>
      rw [Chain.accepts, Chain.accepts, r.compound_accepts hn hw hw', r.ancestors hn hw hw',
        List.any_map]
      congr 1
      refine any_congr_of_mem fun up hup => ?_
      obtain ⟨upper, hupper⟩ := hw.live_of_mem_ancestors hup
      exact ih hupper

theorem accepts (s : Selector) : s.accepts q (f n) = s.accepts p n := by
  cases s with
  | bodyText =>
    rw [Selector.accepts, Selector.accepts, r.isText hn, r.property? hn hw hw',
      r.ancestors hn hw hw', List.any_map]
    congr 1
    refine any_congr_of_mem fun up hup => ?_
    obtain ⟨upper, hupper⟩ := hw.live_of_mem_ancestors hup
    rw [Function.comp_apply, r.tag? hupper]
  | css alternatives =>
    rw [Selector.accepts, Selector.accepts]
    exact List.any_congr rfl fun chain => r.chain_accepts hn hw hw' chain

omit hn in
theorem query (s : Selector) : q.query s = (p.query s).map f := by
  have hroot := r.descendants hw hw' Page.root hw.live_root
  rw [r.root] at hroot
  rw [Page.query, Page.query, hroot, List.filter_map]
  congr 1
  refine List.filter_congr fun n hn => ?_
  obtain ⟨node, hn⟩ := hw.live_of_mem_descendants hw.live_root hn
  exact r.accepts hn hw hw' s

end Relocates
end PageOverlay.Page
