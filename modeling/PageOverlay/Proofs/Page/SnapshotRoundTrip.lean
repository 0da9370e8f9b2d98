import PageOverlay.Proofs.Page.Operations
import PageOverlay.Proofs.Page.ProperNodes
import PageOverlay.Proofs.Page.Relocation
import PageOverlay.Proofs.Page.ShownNodes

/-!
# Snapshots lose nothing

The page that is made from a page's snapshot holds the live nodes of that page under new numbers: a
node's number is its place in document order. A node that is removed leaves nothing behind, and an
order of numbers that does not follow the document is put right.
-/

set_option autoImplicit false

namespace PageOverlay

open Page (dataPath nodeOf)

namespace Node

def reloaded (node : Node) : Node :=
  match node.shown [] with
  | .node tag text properties _ => nodeOf tag text properties

theorem exists_shown (node : Node) : ∃ tag text properties,
    (∀ children, node.shown children = .node tag text properties children) ∧
      node.reloaded = nodeOf tag text properties := by
  rw [reloaded]
  cases hk : node.kind <;> simp [shown, hk]

variable {node : Node}

theorem reloaded_spec (h : node.IsProper)
    (hascii : ∀ tag, node.kind = .element tag → Text.isAscii tag.toList = true) :
    node.reloaded.kind = node.kind ∧
      ∀ name, Fields.get? name node.reloaded.properties = Fields.get? name node.properties := by
  rw [IsProper] at h
  cases hk : node.kind with
  | element tag =>
    rw [hk] at h
    obtain ⟨name, rfl⟩ := h
    have htag := hascii _ hk
    rw [Text.toUpper, String.toList_ofList] at htag
    simp only [reloaded, shown, hk, nodeOf, Text.toUpper, Text.toLower, String.toList_ofList,
      Text.upper_lower_upper htag, true_and, implies_true]
  | text =>
    rw [hk] at h
    obtain ⟨data, hdata⟩ := h
    simp only [reloaded, shown, hk, nodeOf, hdata, true_and]
    intro name
    by_cases hname : name = dataPath
    · rw [hname, Fields.get?_put_self, hdata]
    · rw [Fields.get?_put_of_ne hname, Fields.get?_erase_of_ne hname]
  | other => simp only [reloaded, shown, hk, nodeOf, true_and, implies_true]

def copy (place : NodeId → NodeId) (node : Node) : Node :=
  { node.reloaded with parent := node.parent.map place, children := node.children.map place }

end Node

namespace Page

variable {p : Page} {n : NodeId} {node : Node} {f : NodeId → NodeId}

def shownAt (p : Page) (n : NodeId) : NodeSnapshot := p.snapshotUpTo (p.nodes.size + 1) n

theorem root_snapshot (p : Page) : p.snapshot.root = p.shownAt root := rfl

namespace WellFormed

theorem snapshotUpTo_succ (hw : WellFormed p) (hn : p.live? n = some node) {depth : Nat}
    (hd : p.nodes.size ≤ depth + n) : p.snapshotUpTo (depth + 1) n = p.snapshotUpTo depth n := by
  induction depth generalizing n node with
  | zero =>
    have := lt_size_of_live hn
    omega
  | succ depth ih =>
    have hnode := (live?_eq_some.mp hn).1
    have hbelow : node.children.map (p.snapshotUpTo (depth + 1)) =
        node.children.map (p.snapshotUpTo depth) := by
      refine List.map_congr_left fun c hc => ?_
      rw [← children_of_live hn] at hc
      obtain ⟨child, hchild⟩ := hw.live_of_child hc
      have hlt := (hw.child hc).1
      exact ih hchild (by omega)
    rw [snapshotUpTo_of_node hnode, snapshotUpTo_of_node hnode, hbelow]

theorem shownAt_eq (hw : WellFormed p) (hn : p.live? n = some node) :
    p.shownAt n = node.shown ((p.children n).map p.shownAt) := by
  have hbelow : (p.children n).map (p.snapshotUpTo p.nodes.size) =
      (p.children n).map p.shownAt := by
    refine List.map_congr_left fun c hc => ?_
    obtain ⟨child, hchild⟩ := hw.live_of_child hc
    exact (hw.snapshotUpTo_succ hchild (Nat.le_add_right _ _)).symm
  rw [shownAt, snapshotUpTo_of_node (live?_eq_some.mp hn).1, ← children_of_live hn, hbelow]

end WellFormed

def copied (p : Page) (f : NodeId → NodeId) (n : NodeId) : Node :=
  ((p.live? n).map (Node.copy f)).getD { kind := .other }

theorem copied_of_live (hn : p.live? n = some node) : p.copied f n = node.copy f := by
  rw [copied, hn]
  rfl

def InOrder (f : NodeId → NodeId) (start : Nat) (ns : List NodeId) : Prop :=
  ns.map f = List.range' start ns.length

theorem InOrder.split {start : Nat} {ns ms : List NodeId} (h : InOrder f start (ns ++ ms)) :
    InOrder f start ns ∧ InOrder f (start + ns.length) ms := by
  rw [InOrder, List.map_append, List.length_append, ← List.range'_append_1] at h
  exact List.append_inj h (by simp)

theorem modify_push_append (nodes rest : Array Node) (node : Node) (g : Node → Node) :
    (nodes.push node ++ rest).modify nodes.size g = nodes ++ (#[g node] ++ rest) := by
  refine Array.ext_getElem? fun m => ?_
  rw [Array.getElem?_modify, Array.getElem?_append, Array.getElem?_append, Array.getElem?_append,
    Array.getElem?_push, Array.size_push]
  grind

/-- Loading what is shown of nodes that stand beside each other adds them, each with all below it,
in document order. -/
theorem loadAll_shownAt {up : NodeId} {cs : List NodeId}
    (hcs : ∀ c ∈ cs, ∃ child, p.live? c = some child ∧ child.parent = some up)
    (hload : ∀ c ∈ cs, ∀ child nodes, p.live? c = some child →
      InOrder f nodes.size (p.descendants c) →
      load (child.parent.map f) nodes (p.shownAt c) =
        nodes ++ ((p.descendants c).map (p.copied f)).toArray)
    (hhead : ∀ c ∈ cs, ∃ below, p.descendants c = c :: below) {nodes : Array Node}
    (h : InOrder f nodes.size (cs.flatMap p.descendants)) :
    loadAll (f up) nodes (cs.map p.shownAt) =
      (nodes ++ ((cs.flatMap p.descendants).map (p.copied f)).toArray, cs.map f) := by
  induction cs generalizing nodes with
  | nil => simp [loadAll]
  | cons c cs ih =>
    rw [List.flatMap_cons] at h
    obtain ⟨hfirst, hrest⟩ := h.split
    obtain ⟨child, hchild, hparent⟩ := hcs c List.mem_cons_self
    have hplace : f c = nodes.size := by
      obtain ⟨below, hbelow⟩ := hhead c List.mem_cons_self
      rw [InOrder, hbelow, List.map_cons, List.length_cons, List.range'_succ] at hfirst
      exact (List.cons.inj hfirst).1
    have htop := hload c List.mem_cons_self child nodes hchild hfirst
    rw [hparent, Option.map_some] at htop
    have hsize : (nodes ++ ((p.descendants c).map (p.copied f)).toArray).size =
        nodes.size + (p.descendants c).length := by simp
    have hmore := ih (fun b hb => hcs b (List.mem_cons_of_mem c hb))
      (fun b hb => hload b (List.mem_cons_of_mem c hb))
      (fun b hb => hhead b (List.mem_cons_of_mem c hb)) (hsize ▸ hrest)
    rw [List.map_cons, loadAll, htop]
    simp only [hmore, List.map_cons, hplace, List.flatMap_cons, List.map_append,
      ← List.append_toArray, Array.append_assoc]

theorem load_shownAt (hw : WellFormed p) (f : NodeId → NodeId) (n : NodeId) :
    ∀ node nodes, p.live? n = some node → InOrder f nodes.size (p.descendants n) →
      load (node.parent.map f) nodes (p.shownAt n) =
        nodes ++ ((p.descendants n).map (p.copied f)).toArray := by
  -- by the tree: the node takes the next free number, which is its place, and its children go on
  induction n using hw.childInduction with
  | step n ih =>
    intro node nodes hn h
    obtain ⟨tag, text, properties, hshown, hreloaded⟩ := node.exists_shown
    rw [hw.descendants_eq, InOrder, List.map_cons, List.length_cons, List.range'_succ,
      List.cons.injEq] at h
    obtain ⟨hplace, hbelow⟩ := h
    let pushed := nodes.push { nodeOf tag text properties with parent := node.parent.map f }
    have hall : loadAll (f n) pushed ((p.children n).map p.shownAt) =
        (pushed ++ (((p.children n).flatMap p.descendants).map (p.copied f)).toArray,
          (p.children n).map f) := by
      refine loadAll_shownAt (fun c hc => (hw.child hc).2) ih
        (fun c _ => ⟨_, hw.descendants_eq c⟩) ?_
      rw [InOrder, Array.size_push]
      exact hbelow
    have hcopy : p.copied f n = { nodeOf tag text properties with
        parent := node.parent.map f, children := (p.children n).map f } := by
      rw [copied_of_live hn, Node.copy, hreloaded, children_of_live hn]
    rw [hplace] at hall
    let loaded := loadAll nodes.size pushed ((p.children n).map p.shownAt)
    have hload : load (node.parent.map f) nodes (p.shownAt n) =
        loaded.1.modify nodes.size fun node => { node with children := loaded.2 } := by
      rw [hw.shownAt_eq hn, hshown, load]
    have hloaded : loaded = _ := hall
    rw [hload, hloaded, modify_push_append, hw.descendants_eq, List.map_cons, hcopy]
    simp

def place (p : Page) (n : NodeId) : Nat := (p.descendants root).idxOf n

theorem inOrder_place (hw : WellFormed p) : InOrder p.place 0 (p.descendants root) := by
  rw [InOrder, ← List.range_eq_range']
  refine List.ext_getElem (by simp) fun k hk _ => ?_
  rw [List.getElem_map, List.getElem_range, place, (hw.nodup_descendants root).idxOf_getElem]

theorem ofSnapshot_snapshot (hw : WellFormed p) :
    ofSnapshot p.snapshot = {
      location := p.location
      nodes := ((p.descendants root).map (p.copied p.place)).toArray } := by
  obtain ⟨node, hroot, hparent⟩ := hw.top
  have hload := load_shownAt hw p.place root node #[] hroot (inOrder_place hw)
  rw [hparent, Option.map_none] at hload
  rw [ofSnapshot, root_snapshot, hload]
  simp [snapshot]

def hasAsciiTags (p : Page) : Bool :=
  p.nodes.all fun node => node.removed ||
    match node.kind with
    | .element tag => Text.isAscii tag.toList
    | _ => true

theorem isAscii_of_live (h : p.hasAsciiTags = true) (hn : p.live? n = some node) {tag : String}
    (hk : node.kind = .element tag) : Text.isAscii tag.toList = true := by
  obtain ⟨hnode, hr⟩ := live?_eq_some.mp hn
  have hmem := Array.mem_of_getElem? hnode
  have := Array.all_eq_true'.mp h node hmem
  simpa [hr, hk] using this

theorem relocates_snapshot (hp : p.Reachable) (ha : p.hasAsciiTags = true) :
    Relocates p (ofSnapshot p.snapshot) p.place where
  root := by
    have hw := hp.wellFormed
    rw [place, hw.descendants_eq, List.idxOf_cons_self]
    rfl
  node := by
    intro n node hn
    have hw := hp.wellFormed
    have hmem : n ∈ p.descendants root := hw.mem_descendants_root.mpr ⟨node, hn⟩
    obtain ⟨hkind, hproperties⟩ := node.reloaded_spec (hp.proper n node (live?_eq_some.mp hn).1)
      fun tag hk => isAscii_of_live ha hn hk
    refine ⟨node.copy p.place, ?_, hkind, hproperties, rfl, rfl⟩
    have hfresh : node.reloaded.removed = false := by
      obtain ⟨tag, text, properties, -, hreloaded⟩ := node.exists_shown
      rw [hreloaded]
      exact (nodeOf_fresh tag text properties).1
    rw [live?_eq_some, ofSnapshot_snapshot hw]
    refine ⟨?_, hfresh⟩
    rw [List.getElem?_toArray, List.getElem?_map, place, List.getElem?_idxOf hmem, Option.map_some,
      copied_of_live hn]

theorem settled_shown (children : List NodeSnapshot)
    (hascii : ∀ tag, node.kind = .element tag → Text.isAscii tag.toList = true) :
    (node.shown children).settled = node.shown (NodeSnapshot.settledAll children) := by
  cases hk : node.kind with
  | element tag =>
    have htag := Text.lower_lower (hascii tag hk)
    simp only [Node.shown, hk, NodeSnapshot.settled, Text.toLower, String.toList_ofList, htag]
  | text =>
    cases hdata : Fields.get? dataPath node.properties with
    | none =>
      simp only [Node.shown, hk, hdata, NodeSnapshot.settled]
    | some data =>
      simp only [Node.shown, hk, hdata, NodeSnapshot.settled, Fields.erase_erase]
  | other => simp only [Node.shown, hk, NodeSnapshot.settled]

theorem hasAsciiTags_shown {children : List NodeSnapshot}
    (hascii : ∀ tag, node.kind = .element tag → Text.isAscii tag.toList = true)
    (h : NodeSnapshot.allHaveAsciiTags children = true) :
    (node.shown children).hasAsciiTags = true := by
  cases hk : node.kind with
  | element tag =>
    have htag := Text.isAscii_lower (hascii tag hk)
    simp only [Node.shown, hk, NodeSnapshot.hasAsciiTags, Text.toLower, Option.all_some,
      String.toList_ofList, htag, h, Bool.and_self]
  | text => simp [Node.shown, hk, NodeSnapshot.hasAsciiTags, h]
  | other => simp [Node.shown, hk, NodeSnapshot.hasAsciiTags, h]

theorem shownAt_settled (hw : WellFormed p) (ha : p.hasAsciiTags = true) (n : NodeId) :
    ∀ node, p.live? n = some node →
      (p.shownAt n).settled = p.shownAt n ∧ (p.shownAt n).hasAsciiTags = true := by
  induction n using hw.childInduction with
  | step n ih =>
    intro node hn
    have hascii (tag) (hk : node.kind = .element tag) := isAscii_of_live ha hn hk
    have hbelow (c) (hc : c ∈ p.children n) : (p.shownAt c).settled = p.shownAt c ∧
        (p.shownAt c).hasAsciiTags = true := by
      obtain ⟨child, hchild⟩ := hw.live_of_child hc
      exact ih c hc child hchild
    rw [hw.shownAt_eq hn, settled_shown _ hascii,
      NodeSnapshot.settledAll_map fun c hc => (hbelow c hc).1]
    exact ⟨rfl, hasAsciiTags_shown hascii (NodeSnapshot.allHaveAsciiTags_map fun c hc =>
      (hbelow c hc).2)⟩

theorem snapshot_ofSnapshot_snapshot (hw : WellFormed p) (ha : p.hasAsciiTags = true) :
    (ofSnapshot p.snapshot).snapshot = p.snapshot := by
  obtain ⟨node, hroot⟩ := hw.live_root
  obtain ⟨hsettled, hascii⟩ := shownAt_settled hw ha root node hroot
  rw [snapshot_ofSnapshot hascii, Snapshot.settled, root_snapshot, hsettled]
  rfl

/-- The second page is the first one with its nodes numbered as they are listed. -/
structure Renumbered (p q : Page) (ns : List NodeId) : Prop where
  location : q.location = p.location
  size : q.nodes.size = ns.length
  live : ∀ {k n : NodeId}, ns[k]? = some n → (∃ node, p.live? n = some node) ∧
    ∃ node, q.live? k = some node
  kind : ∀ {k n : NodeId}, ns[k]? = some n → q.kind? k = p.kind? n
  tag : ∀ {k n : NodeId}, ns[k]? = some n → q.tag? k = p.tag? n
  property : ∀ {k n : NodeId}, ns[k]? = some n → ∀ path, q.property? k path = p.property? n path
  parent : ∀ {k n : NodeId}, ns[k]? = some n →
    (q.parent? k).map (ns[·]?) = (p.parent? n).map some
  children : ∀ {k n : NodeId}, ns[k]? = some n →
    (q.children k).map (ns[·]?) = (p.children n).map some
  snapshot : q.snapshot = p.snapshot
  query : ∀ s : Selector, (q.query s).map (ns[·]?) = (p.query s).map some

theorem getElem?_place (hw : WellFormed p) (hn : ∃ node, p.live? n = some node) :
    (p.descendants root)[p.place n]? = some n :=
  List.getElem?_idxOf (hw.mem_descendants_root.mpr hn)

theorem place_of_getElem? (hw : WellFormed p) {k : NodeId}
    (h : (p.descendants root)[k]? = some n) : p.place n = k := by
  obtain ⟨hk, rfl⟩ := List.getElem?_eq_some_iff.mp h
  exact (hw.nodup_descendants root).idxOf_getElem k hk

theorem map_place (hw : WellFormed p) {ns : List NodeId}
    (hns : ∀ n ∈ ns, ∃ node, p.live? n = some node) :
    (ns.map p.place).map ((p.descendants root)[·]?) = ns.map some := by
  rw [List.map_map]
  exact List.map_congr_left fun n hn => getElem?_place hw (hns n hn)

theorem renumbered_snapshot (hp : p.Reachable) (ha : p.hasAsciiTags = true) :
    Renumbered p (ofSnapshot p.snapshot) (p.descendants root) := by
  have hw := hp.wellFormed
  have hw' : WellFormed (ofSnapshot p.snapshot) := (Reachable.ofSnapshot _).wellFormed
  have r := relocates_snapshot hp ha
  have hlive {k n : NodeId} (h : (p.descendants root)[k]? = some n) :
      ∃ node, p.live? n = some node := hw.mem_descendants_root.mp (List.mem_of_getElem? h)
  have hread {k n : NodeId} (h : (p.descendants root)[k]? = some n) :
      p.place n = k := place_of_getElem? hw h
  exact {
    location := rfl
    size := by
      rw [ofSnapshot_snapshot hw]
      simp
    live := fun h => by
      obtain ⟨node, hn⟩ := hlive h
      obtain ⟨node', hn', -⟩ := r.node hn
      exact ⟨⟨node, hn⟩, node', hread h ▸ hn'⟩
    kind := fun h => by
      obtain ⟨node, hn⟩ := hlive h
      rw [← hread h, r.kind? hn]
    tag := fun h => by
      obtain ⟨node, hn⟩ := hlive h
      rw [← hread h, r.tag? hn]
    property := fun h path => by
      obtain ⟨node, hn⟩ := hlive h
      rw [← hread h, r.property? hn hw hw']
    parent := fun {k n} h => by
      obtain ⟨node, hn⟩ := hlive h
      rw [← hread h, r.parent? hn]
      cases hup : p.parent? n with
      | none => rfl
      | some up => simp [getElem?_place hw (hw.live_parent hup)]
    children := fun h => by
      obtain ⟨node, hn⟩ := hlive h
      rw [← hread h, r.children hn, map_place hw fun c hc => hw.live_of_child hc]
    snapshot := snapshot_ofSnapshot_snapshot hw ha
    query := fun s => by
      rw [r.query hw hw', map_place hw]
      intro n hn
      exact hw.live_of_mem_descendants hw.live_root (List.mem_filter.mp hn).1 }

/-- Nothing that a page shows is lost when it is made again from its snapshot, and nothing of a
snapshot but the case of its tags, a text beside a tag and the data beside a text. -/
theorem snapshot_roundTrip {s : Snapshot} (hp : p.Reachable) (ha : p.hasAsciiTags = true)
    (hs : s.root.hasAsciiTags = true) :
    Renumbered p (ofSnapshot p.snapshot) (p.descendants root) ∧
      (ofSnapshot s).snapshot = s.settled :=
  ⟨renumbered_snapshot hp ha, snapshot_ofSnapshot hs⟩

theorem snapshot_roundTrip_edited :
    let p := (Page.blank "x").performAll [.appendElement 0 "p" [("class", "a")],
      .appendElement 0 "Note" [], .appendElement 0 "p" [], .appendText 1 "b", .remove 3]
    let s : Snapshot := ⟨"y", .node (some "Html") (some "lost") []
      [.node none (some "kept") [("data", "lost"), ("lang", "en")] [], .node none none [] []]⟩
    p.Reachable ∧ p.hasAsciiTags = true ∧ s.root.hasAsciiTags = true ∧
      p.descendants root = [0, 1, 4, 2] ∧
      Renumbered p (ofSnapshot p.snapshot) [0, 1, 4, 2] ∧
      (ofSnapshot s).snapshot = ⟨"y", .node (some "html") none []
        [.node none (some "kept") [("lang", "en")] [], .node none none [] []]⟩ := by
  intro p s
  have hp : p.Reachable := (Reachable.blank "x").performAll _
  have ha : p.hasAsciiTags = true := by decide +kernel
  have hs : s.root.hasAsciiTags = true := by decide +kernel
  have horder : p.descendants root = [0, 1, 4, 2] := by decide +kernel
  obtain ⟨hrenumbered, hshown⟩ := snapshot_roundTrip hp ha hs
  rw [horder] at hrenumbered
  have hsettled : s.settled = ⟨"y", .node (some "html") none []
      [.node none (some "kept") [("lang", "en")] [], .node none none [] []]⟩ := by
    have hlower : Text.toLower "Html" = "html" := by decide +kernel
    simp [s, Snapshot.settled, NodeSnapshot.settled, NodeSnapshot.settledAll, Fields.erase,
      dataPath, hlower]
  exact ⟨hp, ha, hs, horder, hrenumbered, hshown.trans hsettled⟩

end Page
end PageOverlay
