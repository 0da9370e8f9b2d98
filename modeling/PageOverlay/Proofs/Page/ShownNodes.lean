import PageOverlay.Proofs.Page.Loading
import PageOverlay.Proofs.Text.AsciiCase

/-!
# What snapshots show

A snapshot shows of every node what the node is, and below it what it shows of the node's children.
The page that a snapshot makes shows the snapshot again, once its tags are in lower case and what
cannot be kept is dropped: a text beside a tag, and the data beside a text.
-/

set_option autoImplicit false

namespace PageOverlay

open Page (dataPath)

namespace NodeSnapshot

mutual

/-- The snapshot as the page that it makes shows it. -/
def settled : NodeSnapshot → NodeSnapshot
  | .node (some tag) _ properties children =>
    .node (some (Text.toLower tag)) none properties (settledAll children)
  | .node none (some text) properties children =>
    .node none (some text) (Fields.erase dataPath properties) (settledAll children)
  | .node none none properties children => .node none none properties (settledAll children)

def settledAll : List NodeSnapshot → List NodeSnapshot
  | [] => []
  | s :: rest => settled s :: settledAll rest

end

mutual

def hasAsciiTags : NodeSnapshot → Bool
  | .node tag _ _ children => tag.all (Text.isAscii ·.toList) && allHaveAsciiTags children

def allHaveAsciiTags : List NodeSnapshot → Bool
  | [] => true
  | s :: rest => hasAsciiTags s && allHaveAsciiTags rest

end

theorem settledAll_map {α : Type} {f g : α → NodeSnapshot} {l : List α}
    (h : ∀ a ∈ l, (f a).settled = g a) : settledAll (l.map f) = l.map g := by
  induction l with
  | nil => rfl
  | cons a l ih =>
    rw [List.map_cons, settledAll, h a List.mem_cons_self,
      ih fun b hb => h b (List.mem_cons_of_mem a hb), List.map_cons]

theorem allHaveAsciiTags_map {α : Type} {f : α → NodeSnapshot} {l : List α}
    (h : ∀ a ∈ l, (f a).hasAsciiTags) : allHaveAsciiTags (l.map f) = true := by
  induction l with
  | nil => rfl
  | cons a l ih =>
    rw [List.map_cons, allHaveAsciiTags, h a List.mem_cons_self,
      ih fun b hb => h b (List.mem_cons_of_mem a hb)]
    rfl

end NodeSnapshot

def Snapshot.settled (s : Snapshot) : Snapshot := { s with root := s.root.settled }

theorem Text.toLower_toUpper_of_ascii {s : String} (h : isAscii s.toList = true) :
    toLower (toUpper s) = toLower s := by
  rw [toLower, toUpper, String.toList_ofList, lower_upper h, toLower]

namespace Node

def shown (node : Node) (children : List NodeSnapshot) : NodeSnapshot :=
  match node.kind with
  | .element tag => .node (some (Text.toLower tag)) none node.properties children
  | .text =>
    .node none (Fields.get? dataPath node.properties) (Fields.erase dataPath node.properties)
      children
  | .other => .node none none node.properties children

end Node

theorem Fields.erase_put {α : Type} (name : String) (value : α) (fs : Fields α) :
    erase name (put name value fs) = erase name fs := by
  induction fs with
  | nil => simp [put, erase]
  | cons f fs ih =>
    obtain ⟨n, a⟩ := f
    by_cases h : n = name
    · simp [put, erase, h]
    · by_cases hlt : name < n <;> simp [put, erase, h, hlt, ih]

theorem Fields.erase_erase {α : Type} (name : String) (fs : Fields α) :
    erase name (erase name fs) = erase name fs := by
  induction fs with
  | nil => rfl
  | cons f fs ih =>
    obtain ⟨n, a⟩ := f
    by_cases h : n = name <;> simp [erase, h, ih]

namespace Page

variable {p : Page} {n : NodeId} {node : Node}

theorem snapshotUpTo_of_node (h : p.nodes[n]? = some node) (depth : Nat) :
    p.snapshotUpTo (depth + 1) n = node.shown (node.children.map (p.snapshotUpTo depth)) := by
  rw [snapshotUpTo, h]
  rfl

theorem shown_nodeOf {tag text : Option String} (properties : Fields String)
    {children : List NodeSnapshot} (h : tag.all (Text.isAscii ·.toList) = true)
    (parent : Option NodeId) (ids : List NodeId) :
    ({ nodeOf tag text properties with parent, children := ids } : Node).shown
        (NodeSnapshot.settledAll children) =
      (NodeSnapshot.node tag text properties children).settled := by
  cases tag with
  | some tag =>
    rw [NodeSnapshot.settled, ← Text.toLower_toUpper_of_ascii h]
    rfl
  | none =>
    cases text with
    | some text =>
      rw [NodeSnapshot.settled]
      simp only [Node.shown, nodeOf, Fields.get?_put_self, Fields.erase_put]
    | none =>
      rw [NodeSnapshot.settled]
      rfl

mutual

theorem snapshotUpTo_load (parent : Option NodeId) (nodes : Array Node) (depth : Nat) :
    ∀ s : NodeSnapshot, s.hasAsciiTags = true →
      (∀ m, nodes.size ≤ m → m < (load parent nodes s).size →
        p.nodes[m]? = (load parent nodes s)[m]?) →
      p.nodes.size ≤ depth + nodes.size → p.snapshotUpTo depth nodes.size = s.settled
  | .node tag text properties children => by
    intro hascii hloaded hdepth
    rw [NodeSnapshot.hasAsciiTags, Bool.and_eq_true] at hascii
    obtain ⟨htag, hchildren⟩ := hascii
    let pushed := nodes.push { nodeOf tag text properties with parent }
    have hall := loadAll_planted nodes.size pushed children
    have hsize : pushed.size = nodes.size + 1 := Array.size_push _
    have hle := hall.size_le
    have hload : load parent nodes (.node tag text properties children) =
        (loadAll nodes.size pushed children).1.modify nodes.size fun node =>
          { node with children := (loadAll nodes.size pushed children).2 } := by
      rw [load]
    rw [hload] at hloaded
    simp only [Array.size_modify, Array.getElem?_modify] at hloaded
    have hself := hloaded nodes.size (Nat.le_refl _) (by omega)
    rw [if_pos rfl, hall.old nodes.size (by omega), Array.getElem?_push, if_pos rfl] at hself
    have hlt := (Array.getElem?_eq_some_iff.mp hself).1
    obtain ⟨depth, rfl⟩ : ∃ d, depth = d + 1 := ⟨depth - 1, by omega⟩
    have hkept : ∀ m, pushed.size ≤ m → m < (loadAll nodes.size pushed children).1.size →
        p.nodes[m]? = (loadAll nodes.size pushed children).1[m]? := by
      intro m hm hlt
      rw [hloaded m (by omega) hlt, if_neg (by omega)]
    have hbelow := snapshotUpTo_loadAll nodes.size pushed depth children hchildren hkept (by omega)
    rw [snapshotUpTo_of_node hself, hbelow]
    exact shown_nodeOf properties htag parent _

theorem snapshotUpTo_loadAll (parent : NodeId) (nodes : Array Node) (depth : Nat) :
    ∀ ss : List NodeSnapshot, NodeSnapshot.allHaveAsciiTags ss = true →
      (∀ m, nodes.size ≤ m → m < (loadAll parent nodes ss).1.size →
        p.nodes[m]? = (loadAll parent nodes ss).1[m]?) →
      p.nodes.size ≤ depth + nodes.size →
      (loadAll parent nodes ss).2.map (p.snapshotUpTo depth) = NodeSnapshot.settledAll ss
  | [] => fun _ _ _ => rfl
  | s :: rest => by
    intro hascii hloaded hdepth
    rw [NodeSnapshot.allHaveAsciiTags, Bool.and_eq_true] at hascii
    obtain ⟨hs, hrest⟩ := hascii
    have hfirst := load_planted (some parent) nodes s
    have hlater := loadAll_planted parent (load (some parent) nodes s) rest
    have hle := hfirst.size_le
    have hle' := hlater.size_le
    rw [loadAll] at hloaded ⊢
    have htop := snapshotUpTo_load (some parent) nodes depth s hs (fun m hm hlt => by
      rw [hloaded m hm (Nat.lt_of_lt_of_le hlt hle'), hlater.old m hlt]) hdepth
    have hmore := snapshotUpTo_loadAll parent (load (some parent) nodes s) depth rest hrest
      (fun m hm hlt => hloaded m (Nat.le_trans hle hm) hlt) (by omega)
    rw [NodeSnapshot.settledAll, List.map_cons, htop, hmore]

end

theorem snapshot_ofSnapshot {s : Snapshot} (h : s.root.hasAsciiTags = true) :
    (ofSnapshot s).snapshot = s.settled := by
  have hroot : (ofSnapshot s).snapshotUpTo ((ofSnapshot s).nodes.size + 1) root = s.root.settled :=
    snapshotUpTo_load none #[] _ s.root h (fun m _ _ => rfl) (by omega)
  rw [snapshot, hroot]
  rfl

end Page
end PageOverlay
