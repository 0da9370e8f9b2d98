import PageOverlay.Page.Tree
import PageOverlay.Text.Blank
import PageOverlay.Text.Search

/-!
# Selectors

A selector names nodes by what they are and where they stand: alternatives, each a chain of
compounds read from left to right, where each step goes down to a child or to any descendant.
-/

set_option autoImplicit false

namespace PageOverlay

inductive AttributeTest
  | present
  | equals (value : String)
  | contains (value : String)
  | beginsWith (value : String)
  | endsWith (value : String)
  | hasWord (value : String)
  deriving DecidableEq, Repr

structure AttributeFilter where
  name : String
  test : AttributeTest
  deriving DecidableEq, Repr

structure Compound where
  tag : Option String := none
  id : Option String := none
  classes : List String := []
  attributes : List AttributeFilter := []
  deriving DecidableEq, Repr

inductive Combinator
  | descendant
  | child
  deriving DecidableEq, Repr

/-- Compounds from left to right; the last one is what the selected element satisfies. -/
inductive Chain
  | one (c : Compound)
  | step (before : Chain) (op : Combinator) (c : Compound)
  deriving DecidableEq, Repr

inductive Selector
  | bodyText
  | css (alternatives : List Chain)
  deriving DecidableEq, Repr

def textWords (s : String) : List String := (Text.words s.toList).map String.ofList

namespace AttributeTest

def accepts (t : AttributeTest) (actual : String) : Bool :=
  match t with
  | .present => true
  | .equals v => actual == v
  | .contains v => Text.occursIn v.toList actual.toList
  | .beginsWith v => v.toList.isPrefixOf actual.toList
  | .endsWith v => v.toList.isSuffixOf actual.toList
  | .hasWord v => (textWords actual).contains v

end AttributeTest

def AttributeFilter.accepts (f : AttributeFilter) (p : Page) (n : NodeId) : Bool :=
  match p.property? n f.name with
  | some actual => f.test.accepts actual
  | none => false

def Compound.accepts (c : Compound) (p : Page) (n : NodeId) : Bool :=
  match p.tag? n with
  | none => false
  | some tag =>
    (c.tag.isNone || c.tag == some tag) &&
    (c.id.isNone || p.property? n "id" == c.id) &&
    c.classes.all (fun name => (textWords ((p.property? n "class").getD "")).contains name) &&
    c.attributes.all (·.accepts p n)

/-- The chain ends at the node: its last compound accepts the node, and what is before it ends at
the parent or at some ancestor. -/
def Chain.accepts : Chain → Page → NodeId → Bool
  | .one c, p, n => c.accepts p n
  | .step before .child c, p, n =>
    c.accepts p n &&
      match p.parent? n with
      | some up => before.accepts p up
      | none => false
  | .step before .descendant c, p, n =>
    c.accepts p n && (p.ancestors n).any (fun up => before.accepts p up)

namespace Selector

def accepts (s : Selector) (p : Page) (n : NodeId) : Bool :=
  match s with
  | .bodyText =>
    p.isText n &&
      !Text.allBlank ((p.property? n Page.dataPath).getD "").toList &&
      (p.ancestors n).any (fun up => p.tag? up == some "BODY")
  | .css alternatives => alternatives.any (fun chain => chain.accepts p n)

end Selector

def Page.query (p : Page) (s : Selector) : List NodeId :=
  (p.descendants Page.root).filter (s.accepts p)

end PageOverlay
