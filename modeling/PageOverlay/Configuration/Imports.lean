import PageOverlay.Configuration.Basic

/-!
# Imports

A configuration imports others by name, and these import further ones. The imports are unfolded
into a tree in which no name stands twice: all imports of one configuration are taken before any
of them is unfolded in turn. What an import contributes is always read off this tree.
-/

set_option autoImplicit false

namespace PageOverlay

open Sheet (CommandLine Import)

/-- An import that was found, where it was asked for, and what it imports itself. -/
inductive ImportTree
  | node (entry : Import) (configuration : Configuration) (children : List ImportTree)

namespace Configuration

def fresh : List String → List Import → List Import
  | _, [] => []
  | visited, i :: rest =>
    if visited.contains i.name then fresh visited rest
    else i :: fresh (visited ++ [i.name]) rest

def located (repo : Repository) (is : List Import) : List (Import × Configuration) :=
  is.filterMap fun i => (repo.find? i.name).map fun c => (i, c)

def unfoldEach (unfold : List String → Configuration → List ImportTree × List String) :
    List String → List (Import × Configuration) → List ImportTree × List String
  | visited, [] => ([], visited)
  | visited, (i, c) :: rest =>
    let (children, visited) := unfold visited c
    let (others, visited) := unfoldEach unfold visited rest
    (.node i c children :: others, visited)

/-- The imports of a configuration and the names visited after them. Every level visits a
registered name for the first time, so their count bounds the levels. -/
def unfold (repo : Repository) : Nat → List String → Configuration → List ImportTree × List String
  | 0, visited, _ => ([], visited)
  | levels + 1, visited, c =>
    let is := fresh visited c.sheet.imports
    unfoldEach (unfold repo levels) (visited ++ is.map (·.name)) (located repo is)

def imports (repo : Repository) (c : Configuration) : List ImportTree :=
  (unfold repo (repo.length + 1) [] c).1

end Configuration

namespace ImportTree

mutual

def names : ImportTree → List String
  | .node i _ children => i.name :: allNames children

def allNames : List ImportTree → List String
  | [] => []
  | t :: ts => names t ++ allNames ts

end

mutual

def rules (key : String) : ImportTree → List String
  | .node _ c children => c.optionValues key ++ allRules key children

def allRules (key : String) : List ImportTree → List String
  | [] => []
  | t :: ts => rules key t ++ allRules key ts

end

mutual

/-- The variables that an import hands on: its own, then those that it imports and does not declare
itself. -/
def exported : ImportTree → List Variable
  | .node i c children =>
    Configuration.addMissing (c.declared (some i.name)) (merged [] children)

def merged (vs : List Variable) : List ImportTree → List Variable
  | [] => vs
  | t :: ts => merged ((exported t).foldl (fun vs v => Configuration.upsert v vs) vs) ts

end

/-- Puts blocks of lines among the lines of a sheet, each before the first line after it. -/
def interleave {α : Type} (line : α → Nat) : List (Nat × List α) → List α → List α
  | blocks, [] => blocks.flatMap (·.2)
  | blocks, a :: rest =>
    (blocks.takeWhile fun b => b.1 < line a).flatMap (·.2) ++
      a :: interleave line (blocks.dropWhile fun b => b.1 < line a) rest

def line : ImportTree → Nat
  | .node i _ _ => i.line

mutual

def commands : ImportTree → List CommandLine
  | .node _ c children => interleave (·.line) (blocks children) c.sheet.commands

def blocks : List ImportTree → List (Nat × List CommandLine)
  | [] => []
  | t :: ts => (t.line, commands t) :: blocks ts

end

end ImportTree

namespace Configuration

def rules (repo : Repository) (c : Configuration) (key : String) : List String :=
  c.optionValues key ++ ImportTree.allRules key (c.imports repo)

def namespaces (repo : Repository) (c : Configuration) : List String :=
  (c.rules repo namespaceKey).flatMap splitList

def isEnabledFor (repo : Repository) (c : Configuration) (url : String) : Bool :=
  (c.rules repo includeKey).any (fun rule => locationMatches rule.toList url.toList) &&
    !(c.rules repo excludeKey).any fun rule => locationMatches rule.toList url.toList

def isRestricted (repo : Repository) (c : Configuration) : Bool :=
  (c.rules repo includeKey).isEmpty && (c.rules repo excludeKey).isEmpty

def importedVariables (repo : Repository) (c : Configuration) : List Variable :=
  ImportTree.merged [] (c.imports repo)

/-- All variables with the values that count: the sheet's own, then imported ones that it does not
declare. -/
def knownVariables (repo : Repository) (c : Configuration) : List Variable :=
  let own := (c.declared none).map c.withGiven
  addMissing own ((c.importedVariables repo).map c.withGiven)

end Configuration
end PageOverlay
