import PageOverlay.Proofs.Page.WellFormed

/-!
# Pages made from snapshots

A snapshot is loaded into the numbers that follow those in use, its nodes in document order, and
what was there before stays as it is. The nodes of a snapshot that is loaded into nothing make a
well-formed page.
-/

set_option autoImplicit false

namespace PageOverlay.Page

/-- Trees were added behind the nodes that were there: `tops` are their highest nodes, and the new
nodes and these make up the trees. -/
structure Planted (parent : Option NodeId) (before after : Array Node) (tops : List NodeId) :
    Prop where
  size_le : before.size ≤ after.size
  old : ∀ m, m < before.size → after[m]? = before[m]?
  live : ∀ m node, before.size ≤ m → after[m]? = some node → node.removed = false
  top : ∀ m ∈ tops, before.size ≤ m ∧ ∃ node, after[m]? = some node ∧ node.parent = parent
  child : ∀ (m : Nat) node, before.size ≤ m → after[m]? = some node →
    ∀ c ∈ node.children, m < c ∧ ∃ node', after[c]? = some node' ∧ node'.parent = some m
  parent : ∀ m node, before.size ≤ m → after[m]? = some node → m ∈ tops ∨
    ∃ up node', before.size ≤ up ∧ node.parent = some up ∧ after[up]? = some node' ∧
      m ∈ node'.children
  nodup : ∀ (m : Nat) node, before.size ≤ m → after[m]? = some node → node.children.Nodup
  tops_nodup : tops.Nodup

theorem nodeOf_fresh (tag text : Option String) (properties : Fields String) :
    (nodeOf tag text properties).removed = false ∧ (nodeOf tag text properties).children = [] := by
  cases tag with
  | some tag => exact ⟨rfl, rfl⟩
  | none =>
    cases text with
    | some text => exact ⟨rfl, rfl⟩
    | none => exact ⟨rfl, rfl⟩

theorem Planted.nil (parent : Option NodeId) (nodes : Array Node) :
    Planted parent nodes nodes [] where
  size_le := Nat.le_refl _
  old m _ := rfl
  live m node hm h := by
    rw [Array.getElem?_eq_none hm] at h
    cases h
  top m hm := by cases hm
  child m node hm h := by
    rw [Array.getElem?_eq_none hm] at h
    cases h
  parent m node hm h := by
    rw [Array.getElem?_eq_none hm] at h
    cases h
  nodup m node hm h := by
    rw [Array.getElem?_eq_none hm] at h
    cases h
  tops_nodup := List.nodup_nil

theorem Planted.append {parent : Option NodeId} {nodes mid after : Array Node} {ts us : List NodeId}
    (h : Planted parent nodes mid ts) (g : Planted parent mid after us) :
    Planted parent nodes after (ts ++ us) := by
  have hkeep : ∀ {m : Nat} {node : Node}, mid[m]? = some node → after[m]? = some node := by
    intro m node hm
    rw [g.old m (Array.getElem?_eq_some_iff.mp hm).1, hm]
  -- a new node is one of the first or one of the second trees
  have hsplit : ∀ {m : Nat} {node : Node}, after[m]? = some node →
      mid[m]? = some node ∨ mid.size ≤ m := by
    intro m node hm
    by_cases hlt : m < mid.size
    · rw [g.old m hlt] at hm
      exact .inl hm
    · exact .inr (Nat.le_of_not_lt hlt)
  constructor
  · exact Nat.le_trans h.size_le g.size_le
  · intro m hm
    rw [g.old m (Nat.lt_of_lt_of_le hm h.size_le), h.old m hm]
  · intro m node hm hn
    rcases hsplit hn with hn' | hge
    · exact h.live m node hm hn'
    · exact g.live m node hge hn
  · intro m hm
    rcases List.mem_append.mp hm with hm | hm
    · obtain ⟨hge, node, hn, hp⟩ := h.top m hm
      exact ⟨hge, node, hkeep hn, hp⟩
    · obtain ⟨hge, hn⟩ := g.top m hm
      exact ⟨Nat.le_trans h.size_le hge, hn⟩
  · intro m node hm hn k hk
    rcases hsplit hn with hn' | hge
    · obtain ⟨hlt, node', hk', hp⟩ := h.child m node hm hn' k hk
      exact ⟨hlt, node', hkeep hk', hp⟩
    · exact g.child m node hge hn k hk
  · intro m node hm hn
    rcases hsplit hn with hn' | hge
    · rcases h.parent m node hm hn' with ht | ⟨up, node', hup, hp, hn'', hmem⟩
      · exact .inl (List.mem_append_left _ ht)
      · exact .inr ⟨up, node', hup, hp, hkeep hn'', hmem⟩
    · rcases g.parent m node hge hn with ht | ⟨up, node', hup, hp, hn'', hmem⟩
      · exact .inl (List.mem_append_right _ ht)
      · exact .inr ⟨up, node', Nat.le_trans h.size_le hup, hp, hn'', hmem⟩
  · intro m node hm hn
    rcases hsplit hn with hn' | hge
    · exact h.nodup m node hm hn'
    · exact g.nodup m node hge hn
  · rw [List.nodup_append]
    refine ⟨h.tops_nodup, g.tops_nodup, ?_⟩
    intro m hm k hk hmk
    obtain ⟨-, node, hn, -⟩ := h.top m hm
    have hlt : m < mid.size := (Array.getElem?_eq_some_iff.mp hn).1
    have hge : mid.size ≤ k := (g.top k hk).1
    exact absurd (hmk ▸ hge) (Nat.not_le_of_lt hlt)

section Graft

variable {parent : Option NodeId} {nodes after : Array Node} {ids : List NodeId} {node : Node}

theorem Planted.getElem?_graft_self
    (h : Planted (some nodes.size) (nodes.push { node with parent }) after ids) :
    (after.modify nodes.size fun node => { node with children := ids })[nodes.size]? =
      some { node with parent, children := ids } := by
  rw [Array.getElem?_modify, if_pos rfl, h.old _ (by simp), Array.getElem?_push, if_pos rfl]
  rfl

theorem getElem?_graft_of_ne {up m : Nat} (hm : m ≠ up) :
    (nodes.modify up fun node => { node with children := ids })[m]? = nodes[m]? := by
  rw [Array.getElem?_modify, if_neg (Ne.symm hm)]

theorem Planted.eq_or_of_graft
    (h : Planted (some nodes.size) (nodes.push { node with parent }) after ids) {m : Nat}
    {found : Node} (hm : nodes.size ≤ m)
    (hn : (after.modify nodes.size fun node => { node with children := ids })[m]? = some found) :
    m = nodes.size ∧ found = { node with parent, children := ids } ∨
      (nodes.push { node with parent }).size ≤ m ∧ after[m]? = some found := by
  by_cases he : m = nodes.size
  · rw [he, h.getElem?_graft_self, Option.some.injEq] at hn
    exact .inl ⟨he, hn.symm⟩
  · rw [getElem?_graft_of_ne he] at hn
    rw [Array.size_push]
    exact .inr ⟨Nat.lt_of_le_of_ne hm (Ne.symm he), hn⟩

/-- A node with trees below it is a tree. -/
theorem Planted.graft (hr : node.removed = false)
    (h : Planted (some nodes.size) (nodes.push { node with parent }) after ids) :
    Planted parent nodes (after.modify nodes.size fun node => { node with children := ids })
      [nodes.size] := by
  have hsize : nodes.size < (nodes.push { node with parent }).size := by simp
  have hbehind : ∀ {m : Nat}, (nodes.push { node with parent }).size ≤ m →
      (after.modify nodes.size fun node => { node with children := ids })[m]? = after[m]? :=
    fun hm => getElem?_graft_of_ne (Nat.ne_of_gt (Nat.lt_of_lt_of_le hsize hm))
  constructor
  · rw [Array.size_modify]
    exact Nat.le_trans (Nat.le_of_lt hsize) h.size_le
  · intro m hm
    rw [getElem?_graft_of_ne (Nat.ne_of_lt hm), h.old m (Nat.lt_trans hm hsize),
      Array.getElem?_push, if_neg (Nat.ne_of_lt hm)]
  · intro m found hm hn
    obtain ⟨-, rfl⟩ | ⟨hge, hn⟩ := h.eq_or_of_graft hm hn
    · exact hr
    · exact h.live m found hge hn
  · intro m hm
    rw [List.mem_singleton] at hm
    subst hm
    exact ⟨Nat.le_refl _, _, h.getElem?_graft_self, rfl⟩
  · intro m found hm hn c hc
    obtain ⟨rfl, rfl⟩ | ⟨hge, hn⟩ := h.eq_or_of_graft hm hn
    · obtain ⟨hge, hc'⟩ := h.top c hc
      exact ⟨Nat.lt_of_lt_of_le hsize hge, by rwa [hbehind hge]⟩
    · obtain ⟨hlt, hc'⟩ := h.child m found hge hn c hc
      exact ⟨hlt, by rwa [hbehind (Nat.le_trans hge (Nat.le_of_lt hlt))]⟩
  · intro m found hm hn
    obtain ⟨rfl, -⟩ | ⟨hge, hn⟩ := h.eq_or_of_graft hm hn
    · exact .inl (List.mem_singleton.mpr rfl)
    · rcases h.parent m found hge hn with ht | ⟨up, above, hup, hp, ha, hmem⟩
      · obtain ⟨-, there, hthere, hp⟩ := h.top m ht
        rw [hn, Option.some.injEq] at hthere
        exact .inr ⟨nodes.size, _, Nat.le_refl _, hthere ▸ hp, h.getElem?_graft_self, ht⟩
      · exact .inr ⟨up, above, Nat.le_trans (Nat.le_of_lt hsize) hup, hp, by rwa [hbehind hup],
          hmem⟩
  · intro m found hm hn
    obtain ⟨-, rfl⟩ | ⟨hge, hn⟩ := h.eq_or_of_graft hm hn
    · exact h.tops_nodup
    · exact h.nodup m found hge hn
  · simp

end Graft

mutual

theorem load_planted (parent : Option NodeId) (nodes : Array Node) :
    ∀ s : NodeSnapshot, Planted parent nodes (load parent nodes s) [nodes.size]
  | .node tag text properties children => by
    rw [load]
    exact .graft (nodeOf_fresh tag text properties).1 (loadAll_planted nodes.size _ children)

theorem loadAll_planted (parent : NodeId) (nodes : Array Node) :
    ∀ ss : List NodeSnapshot,
      Planted (some parent) nodes (loadAll parent nodes ss).1 (loadAll parent nodes ss).2
  | [] => .nil _ nodes
  | s :: rest => by
    rw [loadAll]
    exact (load_planted (some parent) nodes s).append (loadAll_planted parent _ rest)

end

theorem wellFormed_ofSnapshot (s : Snapshot) : WellFormed (ofSnapshot s) := by
  have h := load_planted none #[] s.root
  have hlive : ∀ {n : NodeId} {node : Node}, (ofSnapshot s).live? n = some node ↔
      (load none #[] s.root)[n]? = some node := by
    intro n node
    rw [live?_eq_some]
    constructor
    · exact And.left
    · intro hn
      exact ⟨hn, h.live n node (Nat.zero_le _) hn⟩
  constructor
  · obtain ⟨-, node, hn, hp⟩ := h.top 0 (by simp)
    exact ⟨node, hlive.mpr hn, hp⟩
  · intro n c hc
    obtain ⟨node, hn, hmem⟩ := mem_children.mp hc
    obtain ⟨hlt, node', hc', hp⟩ := h.child n node (Nat.zero_le _) (hlive.mp hn) c hmem
    exact ⟨hlt, node', hlive.mpr hc', hp⟩
  · intro n node hn hroot
    rcases h.parent n node (Nat.zero_le _) (hlive.mp hn) with ht | ⟨up, node', -, hp, hup, hmem⟩
    · exact absurd (List.mem_singleton.mp ht) hroot
    · exact ⟨up, hp, mem_children.mpr ⟨node', hlive.mpr hup, hmem⟩⟩
  · intro n
    rw [children]
    split
    · next node hn => exact h.nodup n node (Nat.zero_le _) (hlive.mp hn)
    · exact List.nodup_nil

theorem wellFormed_single (location : String) (node : Node) (hr : node.removed = false)
    (hp : node.parent = none) (hc : node.children = []) :
    WellFormed { location, nodes := #[node] } := by
  have hlive : ∀ {n : NodeId} {node' : Node},
      ({ location, nodes := #[node] } : Page).live? n = some node' → n = root ∧ node' = node := by
    intro n node' h
    have hn := lt_size_of_live h
    have hzero : n = 0 := Nat.lt_one_iff.mp hn
    subst hzero
    exact ⟨rfl, (Option.some.inj (live?_eq_some.mp h).1).symm⟩
  have hchildren : ∀ n, ({ location, nodes := #[node] } : Page).children n = [] := by
    intro n
    rw [children]
    split
    · next found h => rw [(hlive h).2, hc]
    · rfl
  constructor
  · exact ⟨node, live?_eq_some.mpr ⟨rfl, hr⟩, hp⟩
  · intro n c h
    rw [hchildren] at h
    cases h
  · intro n found h hroot
    exact absurd (hlive h).1 hroot
  · intro n
    rw [hchildren]
    exact List.nodup_nil

/-- Pages that were made from nothing or from a snapshot and changed by the page's own operations.
A change that is refused leaves the page as it is. -/
inductive Reachable : Page → Prop
  | blank (location : String) : Reachable (blank location)
  | scratch (location value : String) : Reachable (scratch location value)
  | ofSnapshot (s : Snapshot) : Reachable (ofSnapshot s)
  | appendElement {p q : Page} {up n : NodeId} {tag : String} {properties : Fields String}
      (hp : Reachable p) (h : p.appendElement up tag properties = .ok (n, q)) : Reachable q
  | appendText {p q : Page} {up n : NodeId} {data : String} (hp : Reachable p)
      (h : p.appendText up data = .ok (n, q)) : Reachable q
  | setProperty {p q : Page} {n : NodeId} {path value : String} (hp : Reachable p)
      (h : p.setProperty n path value = .ok q) : Reachable q
  | remove {p q : Page} {n : NodeId} (hp : Reachable p) (h : p.remove n = .ok q) : Reachable q
  | setLocation {p : Page} (hp : Reachable p) (location : String) :
      Reachable (p.setLocation location)

theorem Reachable.wellFormed {p : Page} (h : Reachable p) : WellFormed p := by
  induction h with
  | blank location => exact wellFormed_single location _ rfl rfl rfl
  | scratch location value => exact wellFormed_single location _ rfl rfl rfl
  | ofSnapshot s => exact wellFormed_ofSnapshot s
  | appendElement _ h ih => exact ih.appendNode rfl rfl h
  | appendText _ h ih => exact ih.appendNode rfl rfl h
  | setProperty _ h ih => exact ih.setProperty h
  | remove _ h ih => exact ih.remove h
  | setLocation _ location ih => exact ih.setLocation location

end PageOverlay.Page
