import PageOverlay.Page.Tree
import PageOverlay.Pattern
import PageOverlay.Sheet.Basic
import PageOverlay.Sheet.Variables

/-!
# Configurations

A sheet with what its user adds to it: whether it is switched on, values for its variables, and
variables that belong to nobody. Configurations find each other by name in a repository.
-/

set_option autoImplicit false

namespace PageOverlay

structure Configuration where
  raw : String
  sheet : Sheet
  enabled : Bool := true
  values : List (String × String) := []
  globals : List Variable := []
  deriving DecidableEq, Repr

/-- Configurations under their names, in the order in which the names first came. -/
abbrev Repository := List (String × Configuration)

namespace Repository

def find? (r : Repository) (name : String) : Option Configuration :=
  (List.find? (·.1 == name) r).map (·.2)

def add (name : String) (c : Configuration) : Repository → Repository
  | [] => [(name, c)]
  | (n, d) :: rest => if n = name then (n, c) :: rest else (n, d) :: add name c rest

def names (r : Repository) : List String := r.map (·.1)

end Repository

namespace Configuration

def ofText (raw : String) : Configuration := { raw, sheet := Sheet.read raw }

def includeKey : String := "include"
def excludeKey : String := "exclude"
def namespaceKey : String := "namespace"
def blockKey : String := "blocklist"
def allowKey : String := "allowlist"
def attributesKey : String := "textAttributes"
def templateKey : String := "template"
def deprecatedKey : String := "deprecated"

def blockedTags : List String := ["SCRIPT", "STYLE"]

def splitList (s : String) : List String :=
  (((Text.pieces ',' s.toList).map Text.trim).filter (!·.isEmpty)).map String.ofList

def hasOption (c : Configuration) (key : String) : Bool := c.sheet.options.any (·.1 == key)

def optionValues (c : Configuration) (key : String) : List String :=
  ((c.sheet.options.find? (·.1 == key)).map (·.2)).getD []

def optionItems (c : Configuration) (key : String) : List String :=
  (c.optionValues key).flatMap splitList

def isTemplate (c : Configuration) : Bool := c.hasOption templateKey

def isDeprecated (c : Configuration) : Bool := c.hasOption deprecatedKey

def textAttributes (c : Configuration) : List String := c.optionItems attributesKey

def lists (c : Configuration) (key tag : String) : Bool :=
  (c.optionItems key).any fun item => Text.toUpper item == tag

def judgedBy (p : Page) (n : NodeId) : Option NodeId :=
  match p.kind? n with
  | some .text => p.parent? n
  | some (.element _) => some n
  | _ => none

def blocks (c : Configuration) (p : Page) (n : NodeId) : Bool :=
  match (judgedBy p n).bind p.tag? with
  | none => false
  | some tag =>
    let tag := Text.toUpper tag
    c.lists blockKey tag || (blockedTags.contains tag && !c.lists allowKey tag)

def upsert (v : Variable) : List Variable → List Variable
  | [] => [v]
  | w :: rest => if w.name = v.name then v :: rest else w :: upsert v rest

/-- The sheet's declarations by name: the place of the first, the value of the last. -/
def declared (c : Configuration) (owner : Option String) : List Variable :=
  c.sheet.declarations.foldl (fun vs d =>
    upsert { name := d.name, value := d.value, description := d.description, owner } vs) []

def withGiven (c : Configuration) (v : Variable) : Variable :=
  match Scopes.given? c.values v.name with
  | some value => { v with value }
  | none => v

def addMissing (vs ws : List Variable) : List Variable :=
  ws.foldl (fun vs w => if vs.any (·.name == w.name) then vs else vs ++ [w]) vs

end Configuration
end PageOverlay
