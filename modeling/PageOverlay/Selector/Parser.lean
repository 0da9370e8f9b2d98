import PageOverlay.Selector.Basic
import PageOverlay.Text.Word

/-!
# Reading selectors

Commas outside brackets and quotes part the alternatives. A compound is a tag or a star followed
by any number of `#id`, `.class` and bracketed attribute filters.
-/

set_option autoImplicit false

namespace PageOverlay

inductive SelectorFault
  | empty
  | leadingChild
  | unexpected (rest : String)
  deriving DecidableEq, Repr

structure SelectorError where
  source : String
  fault : SelectorFault
  deriving DecidableEq, Repr

def SelectorFault.message : SelectorFault → String
  | .empty => "empty selector"
  | .leadingChild => "selector starts with '>'"
  | .unexpected rest => "unexpected '" ++ rest ++ "'"

def SelectorError.message (e : SelectorError) : String :=
  "Invalid selector '" ++ e.source ++ "': " ++ e.fault.message

namespace Selector

/-- Cuts at commas that stand outside brackets and quotes. The arguments are the depth of brackets
and the quote that is open. -/
def splitAlternatives : Nat → Option Char → List Char → List (List Char)
  | _, _, [] => [[]]
  | depth, some q, c :: cs =>
    consHead c (splitAlternatives depth (if c = q then none else some q) cs)
  | depth, none, c :: cs =>
    if c = '"' ∨ c = '\'' then consHead c (splitAlternatives depth (some c) cs)
    else if c = '[' then consHead c (splitAlternatives (depth + 1) none cs)
    else if c = ']' then consHead c (splitAlternatives (depth - 1) none cs)
    else if c = ',' ∧ depth = 0 then [] :: splitAlternatives depth none cs
    else consHead c (splitAlternatives depth none cs)
where
  consHead (c : Char) : List (List Char) → List (List Char)
    | [] => [[c]]
    | w :: ws => (c :: w) :: ws

def isNameChar (c : Char) : Bool := Text.isWord c || c == '-'

def isAttributeNameChar (c : Char) : Bool := isNameChar c || c == ':' || c == '.'

/-- What remains after blanks and a closing bracket. -/
def afterBracket? (cs : List Char) : Option (List Char) :=
  match Text.trimStart cs with
  | ']' :: rest => some rest
  | _ => none

def quotedValue? (q : Char) (cs : List Char) : Option (List Char × List Char) :=
  match cs with
  | [] => none
  | c :: rest =>
    if c = q then
      match Text.cutAtFirst? q rest with
      | some (value, after) => (afterBracket? after).map fun after => (value, after)
      | none => none
    else none

/-- A value without quotes reaches to a blank or to the bracket. -/
def bareValue? (cs : List Char) : Option (List Char × List Char) :=
  let value := cs.takeWhile fun c => c != ']' && !Text.isBlank c
  (afterBracket? (cs.drop value.length)).map fun after => (value, after)

def attributeValue? (cs : List Char) : Option (List Char × List Char) :=
  (quotedValue? '"' cs).or ((quotedValue? '\'' cs).or (bareValue? cs))

def operator? (cs : List Char) : Option ((String → AttributeTest) × List Char) :=
  match cs with
  | '=' :: rest => some (.equals, rest)
  | '*' :: '=' :: rest => some (.contains, rest)
  | '^' :: '=' :: rest => some (.beginsWith, rest)
  | '$' :: '=' :: rest => some (.endsWith, rest)
  | '~' :: '=' :: rest => some (.hasWord, rest)
  | _ => none

def attribute? (cs : List Char) : Option (AttributeFilter × List Char) :=
  let cs := Text.trimStart cs
  let name := cs.takeWhile isAttributeNameChar
  let rest := Text.trimStart (cs.drop name.length)
  if name.isEmpty then none
  else match operator? rest with
    | some (test, rest) =>
      (attributeValue? (Text.trimStart rest)).map fun (value, after) =>
        ({ name := String.ofList name, test := test (String.ofList value) }, after)
    | none =>
      (afterBracket? rest).map fun after =>
        ({ name := String.ofList name, test := .present }, after)

def part? (c : Compound) (cs : List Char) : Option (Compound × List Char) :=
  match cs with
  | '#' :: rest =>
    let name := rest.takeWhile isNameChar
    if name.isEmpty then none
    else some ({ c with id := some (String.ofList name) }, rest.drop name.length)
  | '.' :: rest =>
    let name := rest.takeWhile isNameChar
    if name.isEmpty then none
    else some ({ c with classes := c.classes ++ [String.ofList name] }, rest.drop name.length)
  | '[' :: rest =>
    (attribute? rest).map fun (filter, after) =>
      ({ c with attributes := c.attributes ++ [filter] }, after)
  | _ => none

def parts : Nat → Compound → List Char → Except SelectorFault (Compound × List Char)
  | 0, c, cs => .ok (c, cs)
  | fuel + 1, c, cs =>
    match cs with
    | [] => .ok (c, [])
    | d :: _ =>
      if Text.isBlank d || d == '>' then .ok (c, cs)
      else match part? c cs with
        | some (c, rest) => parts fuel c rest
        | none => .error (.unexpected (String.ofList cs))

def tag (cs : List Char) : Option String × List Char :=
  match cs with
  | '*' :: rest => (none, rest)
  | c :: rest =>
    if c.isAlpha then
      let tail := rest.takeWhile isNameChar
      (some (String.ofList (Text.upper (c :: tail))), rest.drop tail.length)
    else (none, cs)
  | [] => (none, [])

def compound (cs : List Char) : Except SelectorFault (Compound × List Char) :=
  let (t, rest) := tag cs
  parts (rest.length + 1) { tag := t } rest

/-- The compounds of an alternative. `op` joins the next compound to those read before. A `>` at
the end, or one right after another, changes nothing more. The number bounds the steps. -/
def chain : Nat → Option Chain → Combinator → List Char → Except SelectorFault (Option Chain)
  | 0, read, _, _ => .ok read
  | fuel + 1, read, op, cs =>
    match Text.trimStart cs with
    | [] => .ok read
    | c :: rest =>
      if c = '>' then
        if read.isNone then .error .leadingChild else chain fuel read .child rest
      else do
        let (next, rest) ← compound (c :: rest)
        chain fuel (some (match read with
          | none => .one next
          | some before => .step before op next)) .descendant rest

def alternative (cs : List Char) : Except SelectorFault Chain :=
  match chain (cs.length + 1) none .descendant cs with
  | .ok (some read) => .ok read
  | .ok none => .error .empty
  | .error e => .error e

def alternatives : List (List Char) → Except SelectorFault (List Chain)
  | [] => .ok []
  | cs :: rest => do
    let first ← alternative (Text.trim cs)
    let others ← alternatives rest
    pure (first :: others)

def parse (source : String) : Except SelectorError Selector :=
  let cs := Text.trim source.toList
  let result := if cs.isEmpty then .error .empty else alternatives (splitAlternatives 0 none cs)
  match result with
  | .ok chains => .ok (.css chains)
  | .error fault => .error { source := String.ofList cs, fault }

end Selector
end PageOverlay
