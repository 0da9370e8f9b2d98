import PageOverlay.Json.Basic
import PageOverlay.Page.Tree

/-!
# Snapshots

A page as nested nodes without numbers, and its form in JSON. A node with a tag is an element, one
with a text is a text node, and one with neither is neither.
-/

set_option autoImplicit false

namespace PageOverlay

inductive NodeSnapshot
  | node (tag text : Option String) (properties : Fields String) (children : List NodeSnapshot)
  deriving Repr

structure Snapshot where
  location : String
  root : NodeSnapshot
  deriving Repr

namespace Page

def nodeOf (tag text : Option String) (properties : Fields String) : Node :=
  match tag, text with
  | some tag, _ => { kind := .element (Text.toUpper tag), properties }
  | none, some text => { kind := .text, properties := Fields.put dataPath text properties }
  | none, none => { kind := .other, properties }

mutual

def load (parent : Option NodeId) (nodes : Array Node) : NodeSnapshot → Array Node
  | .node tag text properties children =>
    let id := nodes.size
    let nodes := nodes.push { nodeOf tag text properties with parent }
    let (nodes, ids) := loadAll id nodes children
    nodes.modify id fun node => { node with children := ids }

def loadAll (parent : NodeId) (nodes : Array Node) :
    List NodeSnapshot → Array Node × List NodeId
  | [] => (nodes, [])
  | s :: rest =>
    let id := nodes.size
    let (nodes, ids) := loadAll parent (load (some parent) nodes s) rest
    (nodes, id :: ids)

end

def ofSnapshot (s : Snapshot) : Page :=
  { location := s.location, nodes := load none #[] s.root }

def snapshotUpTo (p : Page) : Nat → NodeId → NodeSnapshot
  | 0, _ => .node none none [] []
  | depth + 1, n =>
    match p.nodes[n]? with
    | none => .node none none [] []
    | some node =>
      let children := node.children.map (p.snapshotUpTo depth)
      match node.kind with
      | .element tag => .node (some (Text.toLower tag)) none node.properties children
      | .text =>
        .node none (Fields.get? dataPath node.properties)
          (Fields.erase dataPath node.properties) children
      | .other => .node none none node.properties children

def snapshot (p : Page) : Snapshot :=
  { location := p.location, root := p.snapshotUpTo (p.nodes.size + 1) root }

end Page

namespace NodeSnapshot

mutual

def toJson : NodeSnapshot → Json
  | .node tag text properties children =>
    .object (
      (tag.map fun t => ("tag", Json.string t)).toList ++
      (text.map fun t => ("text", Json.string t)).toList ++
      (if properties.isEmpty then []
        else [("properties", .object (properties.map fun (k, v) => (k, .string v)))]) ++
      match listToJson children with
      | [] => []
      | js => [("children", .array js)])

def listToJson : List NodeSnapshot → List Json
  | [] => []
  | s :: rest => toJson s :: listToJson rest

end

structure Members where
  tag : Option (Option String) := none
  text : Option (Option String) := none
  properties : Option (Fields String) := none
  children : Option (List NodeSnapshot) := none

def Members.node (m : Members) : NodeSnapshot :=
  .node (m.tag.getD none) (m.text.getD none) (m.properties.getD []) (m.children.getD [])

def optionalText? : Json → Option (Option String)
  | .null => some none
  | .string s => some (some s)
  | _ => none

def textFields? : List (String × Json) → Option (List (String × String))
  | [] => some []
  | (k, .string v) :: rest => (textFields? rest).map ((k, v) :: ·)
  | _ :: _ => none

def properties? : Json → Option (Fields String)
  | .object fs => (textFields? fs).map Fields.ofList
  | _ => none

mutual

/-- Reads a node from an object, or from a list of its members in order. Members that it does not
know are passed over. -/
def ofJson? : Json → Option NodeSnapshot
  | .object fs => (named? fs).map Members.node
  | .array js => (listed? 0 js).map Members.node
  | _ => none

def named? : List (String × Json) → Option Members
  | [] => some {}
  | (name, j) :: rest =>
    match named? rest with
    | none => none
    | some m =>
      if name = "tag" then member? 0 j m
      else if name = "text" then member? 1 j m
      else if name = "properties" then member? 2 j m
      else if name = "children" then member? 3 j m
      else some m

def listed? (pos : Nat) : List Json → Option Members
  | [] => some {}
  | j :: rest =>
    match listed? (pos + 1) rest with
    | none => none
    | some m => member? pos j m

def member? (pos : Nat) (j : Json) (m : Members) : Option Members :=
  match pos with
  | 0 => if m.tag.isSome then none else (optionalText? j).map fun t => { m with tag := some t }
  | 1 => if m.text.isSome then none else (optionalText? j).map fun t => { m with text := some t }
  | 2 =>
    if m.properties.isSome then none
    else (properties? j).map fun ps => { m with properties := some ps }
  | 3 =>
    if m.children.isSome then none
    else (children? j).map fun cs => { m with children := some cs }
  | _ => none

def children? : Json → Option (List NodeSnapshot)
  | .array js => listOfJson? js
  | _ => none

def listOfJson? : List Json → Option (List NodeSnapshot)
  | [] => some []
  | j :: rest =>
    match ofJson? j, listOfJson? rest with
    | some s, some ss => some (s :: ss)
    | _, _ => none

end
end NodeSnapshot

namespace Snapshot

def toJson (s : Snapshot) : Json :=
  .object [("location", .string s.location), ("root", s.root.toJson)]

def ofJson? : Json → Option Snapshot
  | .object fs =>
    match fs.filter (·.1 = "location"), fs.filter (·.1 = "root") with
    | [(_, .string location)], [(_, root)] =>
      (NodeSnapshot.ofJson? root).map fun root => { location, root }
    | _, _ => none
  | .array [.string location, root] =>
    (NodeSnapshot.ofJson? root).map fun root => { location, root }
  | _ => none

end Snapshot
end PageOverlay
