import PageOverlay.Page.Snapshot
import PageOverlay.Proofs.Page.Nodes

/-!
# Well-formed pages

The live nodes of a page that was made by its own operations are one tree: parents and children
point at each other, and parents come before their children. Removing a node removes what stands
below it and nothing else, which keeps the rest a tree.
-/

set_option autoImplicit false

namespace PageOverlay.Page

structure WellFormed (p : Page) : Prop where
  top : ∃ node, p.live? root = some node ∧ node.parent = none
  child : ∀ {n c : Nat}, c ∈ p.children n →
    n < c ∧ ∃ node, p.live? c = some node ∧ node.parent = some n
  parent : ∀ {n : NodeId} {node : Node}, p.live? n = some node → n ≠ root →
    ∃ up, node.parent = some up ∧ n ∈ p.children up
  nodup : ∀ n, (p.children n).Nodup

/-- The second node is the first one or stands somewhere below it. -/
inductive Under (p : Page) : NodeId → NodeId → Prop
  | refl (n : NodeId) : Under p n n
  | step {a c m : NodeId} (hc : c ∈ p.children a) (hm : Under p c m) : Under p a m

variable {p q : Page} {a c m n up : Nat} {node : Node}

theorem Under.trans (h : Under p a n) (g : Under p n m) : Under p a m := by
  induction h with
  | refl => exact g
  | step hc _ ih => exact .step hc (ih g)

theorem Under.child (h : Under p a n) (hc : c ∈ p.children n) : Under p a c :=
  h.trans (.step hc (.refl c))

theorem Under.last (h : Under p a m) : m = a ∨ ∃ up, Under p a up ∧ m ∈ p.children up := by
  induction h with
  | refl n => exact .inl rfl
  | @step a c m hc hm ih =>
    rcases ih with rfl | ⟨up, hup, hmem⟩
    · exact .inr ⟨a, .refl a, hc⟩
    · exact .inr ⟨up, .step hc hup, hmem⟩

theorem live_of_mem_children (h : c ∈ p.children n) : ∃ node, p.live? n = some node := by
  obtain ⟨node, hn, -⟩ := mem_children.mp h
  exact ⟨node, hn⟩

theorem preorder_congr (h : ∀ m, Under p n m → q.children m = p.children m) (depth : Nat) :
    q.preorder depth n = p.preorder depth n := by
  induction depth generalizing n with
  | zero => rfl
  | succ depth ih =>
    have hbelow :
        (p.children n).map (q.preorder depth) = (p.children n).map (p.preorder depth) := by
      apply List.map_congr_left
      intro c hc
      exact ih fun m hm => h m (.step hc hm)
    rw [preorder, preorder, h n (.refl n), List.flatMap_def, List.flatMap_def, hbelow]

theorem under_of_mem_preorder {depth : Nat} (h : m ∈ p.preorder depth n) : Under p n m := by
  induction depth generalizing n with
  | zero =>
    rw [preorder, List.mem_singleton] at h
    rw [h]
    exact .refl n
  | succ depth ih =>
    rw [preorder, List.mem_cons, List.mem_flatMap] at h
    rcases h with rfl | ⟨c, hc, hm⟩
    · exact .refl m
    · exact .step hc (ih hm)

namespace WellFormed

theorem child_lt_size (hw : WellFormed p) (h : c ∈ p.children n) : c < p.nodes.size := by
  obtain ⟨-, node, hc, -⟩ := hw.child h
  exact lt_size_of_live hc

theorem le_of_under (hw : WellFormed p) (h : Under p a m) : a ≤ m := by
  induction h with
  | refl => exact Nat.le_refl _
  | step hc _ ih => exact Nat.le_trans (Nat.le_of_lt (hw.child hc).1) ih

theorem live_of_under (hw : WellFormed p) (h : Under p a m) (ha : ∃ node, p.live? a = some node) :
    ∃ node, p.live? m = some node := by
  rcases h.last with rfl | ⟨up, -, hm⟩
  · exact ha
  · obtain ⟨-, node, hn, -⟩ := hw.child hm
    exact ⟨node, hn⟩

/-- Children come after their parents, so the number of nodes bounds the depth of the tree. -/
theorem mem_preorder (hw : WellFormed p) {depth : Nat} (hd : p.nodes.size ≤ depth + n)
    (h : Under p n m) : m ∈ p.preorder depth n := by
  induction depth generalizing n with
  | zero =>
    cases h with
    | refl => simp [preorder]
    | step hc _ =>
      have := hw.child_lt_size hc
      have := (hw.child hc).1
      omega
  | succ depth ih =>
    rw [preorder, List.mem_cons, List.mem_flatMap]
    cases h with
    | refl => exact .inl rfl
    | @step _ c _ hc hm =>
      have := (hw.child hc).1
      exact .inr ⟨c, hc, ih (by omega) hm⟩

theorem mem_descendants (hw : WellFormed p) : m ∈ p.descendants n ↔ Under p n m :=
  ⟨under_of_mem_preorder, hw.mem_preorder (Nat.le_add_right _ _)⟩

theorem parent_of_child (hw : WellFormed p) (hn : c ∈ p.children n) (hm : c ∈ p.children m) :
    n = m := by
  obtain ⟨-, node, hc, hp⟩ := hw.child hn
  obtain ⟨-, node', hc', hp'⟩ := hw.child hm
  rw [hc, Option.some.injEq] at hc'
  rw [← hc', hp, Option.some.injEq] at hp'
  exact hp'

section detach

variable (hw : WellFormed p) (hn : n ∈ p.children up)

include hw hn

theorem not_under_self : ¬ Under p n up := by
  intro h
  have := hw.le_of_under h
  have := (hw.child hn).1
  omega

theorem mem_descendants_unlink : m ∈ (p.unlink up n).descendants n ↔ Under p n m := by
  have hchildren : ∀ k, Under p n k → (p.unlink up n).children k = p.children k := by
    intro k hk
    apply children_unlink_of_ne
    rintro rfl
    exact hw.not_under_self hn hk
  have hsame : (p.unlink up n).descendants n = p.descendants n := by
    rw [descendants, preorder_congr hchildren, unlink, size_modify, descendants]
  rw [hsame, hw.mem_descendants]

theorem live?_detach_under (h : Under p n m) : (p.detach up n).live? m = none := by
  rw [live?_detach, if_pos ((hw.mem_descendants_unlink hn).mpr h)]

theorem live?_detach_apart (h : ¬ Under p n m) :
    (p.detach up n).live? m = (p.unlink up n).live? m := by
  rw [live?_detach, if_neg fun hm => h ((hw.mem_descendants_unlink hn).mp hm)]

theorem children_detach_under (h : Under p n m) : (p.detach up n).children m = [] := by
  rw [children, hw.live?_detach_under hn h]

theorem children_detach_parent :
    (p.detach up n).children up = (p.children up).filter (· ≠ n) := by
  rw [children, hw.live?_detach_apart hn (hw.not_under_self hn), live?_unlink, if_pos rfl, children]
  cases p.live? up <;> simp

theorem children_detach_apart (h : ¬ Under p n m) (hm : m ≠ up) :
    (p.detach up n).children m = p.children m := by
  rw [children, hw.live?_detach_apart hn h, live?_unlink, if_neg (Ne.symm hm), children]

theorem mem_children_detach :
    c ∈ (p.detach up n).children m ↔ c ∈ p.children m ∧ ¬ Under p n c := by
  by_cases h : Under p n m
  · rw [hw.children_detach_under hn h]
    constructor
    · intro hc
      cases hc
    · rintro ⟨hc, hnc⟩
      exact absurd (h.child hc) hnc
  · have hunder : c ∈ p.children m → (Under p n c ↔ c = n) := by
      intro hc
      constructor
      · intro hu
        rcases hu.last with rfl | ⟨k, hk, hck⟩
        · rfl
        · rw [hw.parent_of_child hck hc] at hk
          exact absurd hk h
      · rintro rfl
        exact .refl c
    by_cases hm : m = up
    · subst hm
      rw [hw.children_detach_parent hn, List.mem_filter]
      constructor
      · rintro ⟨hc, hne⟩
        exact ⟨hc, fun hu => by simp [(hunder hc).mp hu] at hne⟩
      · rintro ⟨hc, hu⟩
        have hne : c ≠ n := fun he => hu ((hunder hc).mpr he)
        exact ⟨hc, by simpa using hne⟩
    · rw [hw.children_detach_apart hn h hm]
      constructor
      · intro hc
        refine ⟨hc, fun hu => ?_⟩
        rw [(hunder hc).mp hu] at hc
        exact hm (hw.parent_of_child hc hn)
      · exact And.left

theorem mem_children_detach_sibling (hc : c ∈ p.children up) (hne : c ≠ n) :
    c ∈ (p.detach up n).children up := by
  rw [hw.children_detach_parent hn, List.mem_filter]
  exact ⟨hc, by simpa using hne⟩

theorem live_detach (h : ¬ Under p n m) (hm : p.live? m = some node) :
    ∃ node', (p.detach up n).live? m = some node' ∧ node'.parent = node.parent ∧
      node'.kind = node.kind ∧ node'.properties = node.properties := by
  rw [hw.live?_detach_apart hn h, live?_unlink]
  by_cases hup : up = m
  · rw [if_pos hup, hm]
    exact ⟨_, rfl, rfl, rfl, rfl⟩
  · rw [if_neg hup]
    exact ⟨node, hm, rfl, rfl, rfl⟩

theorem detach : WellFormed (p.detach up n) where
  top := by
    obtain ⟨node, hr, hp⟩ := hw.top
    have hroot : ¬ Under p n root := by
      intro h
      have hle : n ≤ 0 := hw.le_of_under h
      have := (hw.child hn).1
      omega
    obtain ⟨node', hr', hp', -⟩ := hw.live_detach hn hroot hr
    exact ⟨node', hr', hp'.trans hp⟩
  child := by
    intro m c hc
    obtain ⟨hc, hu⟩ := (hw.mem_children_detach hn).mp hc
    obtain ⟨hlt, node, hl, hp⟩ := hw.child hc
    obtain ⟨node', hl', hp', -⟩ := hw.live_detach hn hu hl
    exact ⟨hlt, node', hl', hp'.trans hp⟩
  parent := by
    intro m node' hm hroot
    have hu : ¬ Under p n m := by
      intro hu
      rw [hw.live?_detach_under hn hu] at hm
      cases hm
    have hlive : ∃ node, p.live? m = some node ∧ node'.parent = node.parent := by
      rw [hw.live?_detach_apart hn hu, live?_unlink] at hm
      by_cases hup : up = m
      · rw [if_pos hup] at hm
        obtain ⟨node, hl, rfl⟩ := Option.map_eq_some_iff.mp hm
        exact ⟨node, hl, rfl⟩
      · rw [if_neg hup] at hm
        exact ⟨node', hm, rfl⟩
    obtain ⟨node, hl, hp⟩ := hlive
    obtain ⟨k, hk, hmem⟩ := hw.parent hl hroot
    exact ⟨k, hp.trans hk, (hw.mem_children_detach hn).mpr ⟨hmem, hu⟩⟩
  nodup := by
    intro m
    by_cases h : Under p n m
    · rw [hw.children_detach_under hn h]
      exact List.nodup_nil
    · by_cases hm : m = up
      · subst hm
        rw [hw.children_detach_parent hn]
        exact (hw.nodup m).sublist List.filter_sublist
      · rw [hw.children_detach_apart hn h hm]
        exact hw.nodup m

end detach

theorem mem_children_of_parent (hw : WellFormed p) (h : p.live? n = some node)
    (hp : node.parent = some up) : n ∈ p.children up := by
  have hroot : n ≠ root := by
    rintro rfl
    obtain ⟨node', hr, hnone⟩ := hw.top
    rw [hr, Option.some.injEq] at h
    rw [← h, hnone] at hp
    cases hp
  obtain ⟨k, hk, hmem⟩ := hw.parent h hroot
  rw [hp, Option.some.injEq] at hk
  rwa [hk]

theorem remove (hw : WellFormed p) (h : p.remove n = .ok q) : WellFormed q := by
  rw [Page.remove] at h
  split at h
  · cases h
  · next node hn =>
    split at h
    · cases h
    · next up hp =>
      cases h
      exact hw.detach (hw.mem_children_of_parent hn hp)

section adopt

variable (hw : WellFormed p) (hup : p.live? up = some node)

include hup

theorem children_adopt {leaf : Node} (hr : leaf.removed = false) (hc : leaf.children = []) :
    (p.adopt up leaf).children m =
      if m = up then p.children m ++ [p.nodes.size] else p.children m := by
  rw [children, live?_adopt (lt_size_of_live hup) hr]
  by_cases hm : m = p.nodes.size
  · have hne : m ≠ up := by
      have := lt_size_of_live hup
      omega
    rw [if_pos hm, if_neg hne, children, live?_of_size_le (Nat.le_of_eq hm.symm)]
    exact hc
  · rw [if_neg hm]
    by_cases hmup : m = up
    · rw [if_pos hmup, if_pos hmup, hmup, hup, children_of_live hup]
      rfl
    · rw [if_neg hmup, if_neg hmup, children]

theorem live_adopt {leaf node' : Node} (hr : leaf.removed = false) (hm : p.live? m = some node') :
    ∃ node'', (p.adopt up leaf).live? m = some node'' ∧ node''.parent = node'.parent ∧
      node''.kind = node'.kind ∧ node''.properties = node'.properties := by
  have hne : m ≠ p.nodes.size := Nat.ne_of_lt (lt_size_of_live hm)
  rw [live?_adopt (lt_size_of_live hup) hr, if_neg hne]
  by_cases hmup : m = up
  · rw [if_pos hmup, hm]
    exact ⟨_, rfl, rfl, rfl, rfl⟩
  · rw [if_neg hmup]
    exact ⟨node', hm, rfl, rfl, rfl⟩

theorem exists_live_of_adopt {leaf node' : Node} (hr : leaf.removed = false)
    (hm : (p.adopt up leaf).live? m = some node') (hne : m ≠ p.nodes.size) :
    ∃ node, p.live? m = some node ∧ node'.parent = node.parent := by
  rw [live?_adopt (lt_size_of_live hup) hr, if_neg hne] at hm
  by_cases hmup : m = up
  · rw [if_pos hmup] at hm
    obtain ⟨node, hl, rfl⟩ := Option.map_eq_some_iff.mp hm
    exact ⟨node, hl, rfl⟩
  · rw [if_neg hmup] at hm
    exact ⟨node', hm, rfl⟩

include hw

theorem adopt {leaf : Node} (hr : leaf.removed = false) (hc : leaf.children = []) :
    WellFormed (p.adopt up leaf) where
  top := by
    obtain ⟨node, hroot, hp⟩ := hw.top
    obtain ⟨node', hroot', hp', -⟩ := live_adopt hup hr hroot
    exact ⟨node', hroot', hp'.trans hp⟩
  child := by
    intro m c hmem
    rw [children_adopt hup hr hc] at hmem
    have hold : c ∈ p.children m →
        m < c ∧ ∃ node, (p.adopt up leaf).live? c = some node ∧ node.parent = some m := by
      intro hmem
      obtain ⟨hlt, node, hl, hp⟩ := hw.child hmem
      obtain ⟨node', hl', hp', -⟩ := live_adopt hup hr hl
      exact ⟨hlt, node', hl', hp'.trans hp⟩
    by_cases hm : m = up
    · rw [if_pos hm, List.mem_append, List.mem_singleton] at hmem
      rcases hmem with hmem | rfl
      · exact hold hmem
      · subst hm
        refine ⟨lt_size_of_live hup, { leaf with parent := some m }, ?_, rfl⟩
        rw [live?_adopt (lt_size_of_live hup) hr, if_pos rfl]
    · rw [if_neg hm] at hmem
      exact hold hmem
  parent := by
    intro m node' hm hroot
    by_cases hnew : m = p.nodes.size
    · rw [live?_adopt (lt_size_of_live hup) hr, if_pos hnew, Option.some.injEq] at hm
      refine ⟨up, by rw [← hm], ?_⟩
      rw [children_adopt hup hr hc, if_pos rfl, hnew]
      simp
    · obtain ⟨node, hl, hp⟩ := exists_live_of_adopt hup hr hm hnew
      obtain ⟨k, hk, hmem⟩ := hw.parent hl hroot
      refine ⟨k, hp.trans hk, ?_⟩
      rw [children_adopt hup hr hc]
      by_cases hkup : k = up
      · rw [if_pos hkup]
        exact List.mem_append_left _ hmem
      · rwa [if_neg hkup]
  nodup := by
    intro m
    rw [children_adopt hup hr hc]
    by_cases hm : m = up
    · rw [if_pos hm, List.nodup_append]
      refine ⟨hw.nodup m, by simp, ?_⟩
      intro a ha b hb hab
      rw [List.mem_singleton] at hb
      exact Nat.ne_of_lt (hw.child_lt_size ha) (hab.trans hb)
    · rw [if_neg hm]
      exact hw.nodup m

end adopt

theorem appendNode (hw : WellFormed p) {leaf : Node} (hr : leaf.removed = false)
    (hc : leaf.children = []) (h : p.appendNode up leaf = .ok (n, q)) : WellFormed q := by
  rw [Page.appendNode] at h
  split at h
  · cases h
  · next node hup =>
    cases h
    exact hw.adopt hup hr hc

theorem putRaw (hw : WellFormed p) (n : NodeId) (path value : String) :
    WellFormed (p.putRaw n path value) := by
  have hforth : ∀ {m : NodeId} {node : Node}, p.live? m = some node →
      ∃ node', (p.putRaw n path value).live? m = some node' ∧ node'.parent = node.parent := by
    intro m node hm
    rw [live?_putRaw, hm]
    by_cases h : n = m
    · rw [if_pos h]
      exact ⟨_, rfl, rfl⟩
    · rw [if_neg h]
      exact ⟨node, rfl, rfl⟩
  have hback : ∀ {m : NodeId} {node' : Node}, (p.putRaw n path value).live? m = some node' →
      ∃ node, p.live? m = some node ∧ node'.parent = node.parent := by
    intro m node' hm
    rw [live?_putRaw] at hm
    by_cases h : n = m
    · rw [if_pos h] at hm
      obtain ⟨node, hl, rfl⟩ := Option.map_eq_some_iff.mp hm
      exact ⟨node, hl, rfl⟩
    · rw [if_neg h] at hm
      exact ⟨node', hm, rfl⟩
  constructor
  · obtain ⟨node, hr, hp⟩ := hw.top
    obtain ⟨node', hr', hp'⟩ := hforth hr
    exact ⟨node', hr', hp'.trans hp⟩
  · intro m c hc
    rw [children_putRaw] at hc
    obtain ⟨hlt, node, hl, hp⟩ := hw.child hc
    obtain ⟨node', hl', hp'⟩ := hforth hl
    exact ⟨hlt, node', hl', hp'.trans hp⟩
  · intro m node' hm hroot
    obtain ⟨node, hl, hp⟩ := hback hm
    obtain ⟨k, hk, hmem⟩ := hw.parent hl hroot
    exact ⟨k, hp.trans hk, by rwa [children_putRaw]⟩
  · intro m
    rw [children_putRaw]
    exact hw.nodup m

theorem detachAll (hw : WellFormed p) (hl : p.live? n = some node) {cs : List NodeId}
    (hcs : ∀ c ∈ cs, c ∈ p.children n) (hd : cs.Nodup) :
    WellFormed (cs.foldl (fun p c => p.detach n c) p) ∧
      ∃ node, (cs.foldl (fun p c => p.detach n c) p).live? n = some node := by
  induction cs generalizing p node with
  | nil => exact ⟨hw, node, hl⟩
  | cons c cs ih =>
    obtain ⟨hc, hd⟩ := List.nodup_cons.mp hd
    have hmem := hcs c (by simp)
    obtain ⟨node', hl', -⟩ := hw.live_detach hmem (hw.not_under_self hmem) hl
    refine ih (hw.detach hmem) hl' ?_ hd
    intro b hb
    exact hw.mem_children_detach_sibling hmem (hcs b (by simp [hb])) fun h => hc (h ▸ hb)

theorem replaceContent (hw : WellFormed p) (hl : p.live? n = some node) (value : String) :
    WellFormed (p.replaceContent n value) := by
  obtain ⟨hclear, node', hl'⟩ := hw.detachAll hl (fun c hc => hc) (hw.nodup n)
  exact hclear.adopt hl' rfl rfl

theorem setContent (hw : WellFormed p) (hl : p.live? n = some node) (value : String) :
    WellFormed (p.setContent n value) := by
  rw [Page.setContent]
  split
  · split
    · exact hw.putRaw _ _ _
    · exact hw.replaceContent hl value
  · exact hw.replaceContent hl value

theorem setProperty (hw : WellFormed p) {path value : String}
    (h : p.setProperty n path value = .ok q) : WellFormed q := by
  rw [Page.setProperty] at h
  split at h
  · cases h
  · next node hl =>
    split at h
    · cases h
      exact hw.putRaw _ _ _
    · cases h
      exact hw.putRaw _ _ _
    · split at h
      · cases h
        exact hw.setContent hl value
      · split at h
        · cases h
        · cases h
          exact hw.putRaw _ _ _

theorem setLocation (hw : WellFormed p) (location : String) : WellFormed (p.setLocation location) :=
  ⟨hw.top, hw.child, hw.parent, hw.nodup⟩

end WellFormed
end PageOverlay.Page
