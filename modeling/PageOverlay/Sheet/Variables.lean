import PageOverlay.Sheet.Basic

/-!
# Variables

A name is looked up in four places, in order: the values that the caller gave, the declarations of
the sheet, the imported variables and the global ones. Of the sheet's declarations those in the
innermost section around the scope count, and of these the last.
-/

set_option autoImplicit false

namespace PageOverlay

structure Variable where
  name : String
  value : String
  description : String := ""
  owner : Option String := none
  deriving DecidableEq, Repr

namespace Variable

def globalOwner : String := "global"

def ofGlobal (name value : String) : Variable := { name, value, owner := some globalOwner }

end Variable

structure Scopes where
  values : List (String × String) := []
  declared : List Sheet.Declaration := []
  imported : List Variable := []
  globals : List Variable := []

namespace Scopes

def encloses (outer inner : List Char) : Bool :=
  outer.isEmpty || outer == inner || (outer ++ ['.']).isPrefixOf inner

/-- Of two declarations the one that is as far inside or further; the second wins a tie. -/
def inner (best : Option Sheet.Declaration) (d : Sheet.Declaration) : Option Sheet.Declaration :=
  match best with
  | none => some d
  | some b => if b.scope.length ≤ d.scope.length then some d else some b

def nearest? (declared : List Sheet.Declaration) (name scope : String) :
    Option Sheet.Declaration :=
  (declared.filter fun d => d.name == name && encloses d.scope.toList scope.toList).foldl inner none

def given? (values : List (String × String)) (name : String) : Option String :=
  (values.find? (·.1 == name)).map (·.2)

def foreign? (vars : List Variable) (name : String) : Option String :=
  (vars.find? (·.name == name)).map (·.value)

def lookup (s : Scopes) (name scope : String) : Option String :=
  (given? s.values name).or <|
    ((nearest? s.declared name scope).map (·.value)).or <|
      (foreign? s.imported name).or (foreign? s.globals name)

/-- The longest non-empty beginning of a word that resolves, its value, and the rest of the word.
The arguments are the beginning that is tried, last character first, and what follows it. -/
def lookupFrom (s : Scopes) (scope : String) :
    List Char → List Char → Option (List Char × String × List Char)
  | [], _ => none
  | c :: before, after =>
    let name := (c :: before).reverse
    match s.lookup (String.ofList name) scope with
    | some value => some (name, value, after)
    | none => lookupFrom s scope before (c :: after)

def lookupPrefix (s : Scopes) (word : List Char) (scope : String) :
    Option (List Char × String × List Char) :=
  lookupFrom s scope word.reverse []

end Scopes
end PageOverlay
