import PageOverlay.Fields
import PageOverlay.Text.Casing

/-!
# Pages

A page is a tree of nodes with string properties. Nodes are numbered in the order in which they
were made and keep their numbers. A node that is taken out stays in the list, marked as removed,
with all below it. A node's children were made after it, which bounds every walk.
-/

set_option autoImplicit false

namespace PageOverlay

abbrev NodeId := Nat

inductive NodeKind
  | element (tag : String)
  | text
  | other
  deriving DecidableEq, Repr

structure Node where
  kind : NodeKind
  parent : Option NodeId := none
  children : List NodeId := []
  properties : Fields String := []
  removed : Bool := false
  deriving DecidableEq, Repr

inductive MutationError
  | noNode (n : NodeId)
  | noProperty (n : NodeId) (path : String)
  | rootRemoval
  deriving DecidableEq, Repr

def MutationError.message : MutationError → String
  | .noNode n => "Node " ++ toString n ++ " does not exist"
  | .noProperty n path => "Node " ++ toString n ++ " does not accept property '" ++ path ++ "'"
  | .rootRemoval => "Cannot remove the document root"

structure Page where
  location : String
  nodes : Array Node
  deriving DecidableEq, Repr

namespace Page

def root : NodeId := 0

def dataPath : String := "data"

/-- On an element, all text below it; on a text node, its data. -/
def contentPath : String := "textContent"

def nodeValuePath : String := "nodeValue"

/-- A page that holds nothing but its root element. -/
def blank (location : String) : Page :=
  { location, nodes := #[{ kind := .element "HTML" }] }

def scratchPath : String := "value"

/-- A page of one node with the given value, on which commands can change a text that stands in
no page. -/
def scratch (location value : String) : Page :=
  { location, nodes := #[{ kind := .other, properties := [(scratchPath, value)] }] }

def live? (p : Page) (n : NodeId) : Option Node :=
  match p.nodes[n]? with
  | some node => if node.removed then none else some node
  | none => none

def kind? (p : Page) (n : NodeId) : Option NodeKind := (p.live? n).map (·.kind)

def tag? (p : Page) (n : NodeId) : Option String :=
  match p.kind? n with
  | some (.element tag) => some tag
  | _ => none

def isElement (p : Page) (n : NodeId) : Bool := (p.tag? n).isSome

def isText (p : Page) (n : NodeId) : Bool := p.kind? n == some .text

def parent? (p : Page) (n : NodeId) : Option NodeId := (p.live? n).bind (·.parent)

def children (p : Page) (n : NodeId) : List NodeId :=
  match p.live? n with
  | some node => node.children
  | none => []

def ancestor (p : Page) : NodeId → Nat → NodeId
  | n, 0 => n
  | n, levels + 1 =>
    match p.parent? n with
    | some up => p.ancestor up levels
    | none => n

def ancestorsUpTo (p : Page) : Nat → NodeId → List NodeId
  | 0, _ => []
  | fuel + 1, n =>
    match p.parent? n with
    | some up => up :: p.ancestorsUpTo fuel up
    | none => []

def ancestors (p : Page) (n : NodeId) : List NodeId := p.ancestorsUpTo p.nodes.size n

def preorder (p : Page) : Nat → NodeId → List NodeId
  | 0, n => [n]
  | depth + 1, n => n :: (p.children n).flatMap (p.preorder depth)

def descendants (p : Page) (n : NodeId) : List NodeId := p.preorder p.nodes.size n

/-- The element that a node belongs to: an element itself, the parent of a text node. -/
def elementOf (p : Page) (n : NodeId) : Option NodeId :=
  match p.kind? n with
  | some (.element _) => some n
  | some .text => p.parent? n
  | _ => none

def textUpTo (p : Page) : Nat → NodeId → List Char
  | 0, _ => []
  | depth + 1, n =>
    match p.nodes[n]? with
    | none => []
    | some node =>
      match node.kind with
      | .text => ((Fields.get? dataPath node.properties).getD "").toList
      | _ => node.children.flatMap (p.textUpTo depth)

def textContent (p : Page) (n : NodeId) : String :=
  String.ofList (p.textUpTo (p.nodes.size + 1) n)

/-- Where the property of a path is kept on a text node: `textContent` and `nodeValue` are other
names of its data. -/
def textPath (path : String) : String :=
  if path = contentPath ∨ path = nodeValuePath then dataPath else path

/-- The property of a node. An element's `textContent` is the text below it unless a property of
that name was stored. -/
def property? (p : Page) (n : NodeId) (path : String) : Option String :=
  match p.live? n with
  | none => none
  | some node =>
    match node.kind with
    | .text => Fields.get? (textPath path) node.properties
    | .other => Fields.get? path node.properties
    | .element _ =>
      match Fields.get? path node.properties with
      | some value => some value
      | none => if path = contentPath then some (p.textContent n) else none

def modify (p : Page) (n : NodeId) (f : Node → Node) : Page :=
  { p with nodes := p.nodes.modify n f }

def putRaw (p : Page) (n : NodeId) (path value : String) : Page :=
  p.modify n fun node => { node with properties := Fields.put path value node.properties }

def adopt (p : Page) (parent : NodeId) (node : Node) : Page :=
  let id := p.nodes.size
  let nodes := p.nodes.push { node with parent := some parent }
  { p with nodes := nodes.modify parent fun up => { up with children := up.children ++ [id] } }

def appendNode (p : Page) (parent : NodeId) (node : Node) : Except MutationError (NodeId × Page) :=
  match p.live? parent with
  | none => .error (.noNode parent)
  | some _ => .ok (p.nodes.size, p.adopt parent node)

def appendText (p : Page) (parent : NodeId) (data : String) :
    Except MutationError (NodeId × Page) :=
  p.appendNode parent { kind := .text, properties := [(dataPath, data)] }

def appendElement (p : Page) (parent : NodeId) (tag : String) (properties : Fields String) :
    Except MutationError (NodeId × Page) :=
  p.appendNode parent
    { kind := .element (Text.toUpper tag), properties := Fields.ofList properties }

def markRemoved (p : Page) (ns : List NodeId) : Page :=
  ns.foldl (fun p n => p.modify n fun node => { node with removed := true }) p

def detach (p : Page) (parent n : NodeId) : Page :=
  let p := p.modify parent fun up => { up with children := up.children.filter (· ≠ n) }
  p.markRemoved (p.descendants n)

def remove (p : Page) (n : NodeId) : Except MutationError Page :=
  match p.live? n with
  | none => .error (.noNode n)
  | some node =>
    match node.parent with
    | none => .error .rootRemoval
    | some parent => .ok (p.detach parent n)

def clear (p : Page) (n : NodeId) : Page := (p.children n).foldl (fun p c => p.detach n c) p

def replaceContent (p : Page) (n : NodeId) (value : String) : Page :=
  (p.clear n).adopt n { kind := .text, properties := [(dataPath, value)] }

/-- Gives an element one text below it: in its only child if that is a text node, else in a new
node in place of all children. -/
def setContent (p : Page) (n : NodeId) (value : String) : Page :=
  match p.children n with
  | [only] => if p.isText only then p.putRaw only dataPath value else p.replaceContent n value
  | _ => p.replaceContent n value

def setProperty (p : Page) (n : NodeId) (path value : String) : Except MutationError Page :=
  match p.live? n with
  | none => .error (.noNode n)
  | some node =>
    match node.kind with
    | .text => .ok (p.putRaw n (textPath path) value)
    | .other => .ok (p.putRaw n path value)
    | .element _ =>
      if path = contentPath then .ok (p.setContent n value)
      else if path.isEmpty then .error (.noProperty n path)
      else .ok (p.putRaw n path value)

def setLocation (p : Page) (location : String) : Page := { p with location }

end Page
end PageOverlay
