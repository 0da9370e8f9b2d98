import PageOverlay.Pattern

/-!
# Keys and values

A line is cut at its first equals sign that belongs neither to a regular expression nor to a list
of parameters. Elsewhere in the key a backslash keeps an equals sign from cutting.
-/

set_option autoImplicit false

namespace PageOverlay.Sheet

def isExpressionKey (cs : List Char) : Bool :=
  match cs with
  | '!' :: rest => Pattern.isSlashed rest
  | _ => false

/-- Cuts at the first equals sign before which a finished regular expression stands; `before`
holds the text so far, last character first. -/
def cutAfterExpression? : List Char → List Char → Option (List Char × List Char)
  | _, [] => none
  | before, c :: cs =>
    if c = '=' ∧ isExpressionKey (Text.trim before.reverse) then
      some (Text.trim before.reverse, Text.trim cs)
    else cutAfterExpression? (c :: before) cs

/-- The key up to the equals sign that cuts, and what follows it. The arguments are whether
parentheses nest, how deep the text is nested, and the quote that is open. -/
def scanKey (nests : Bool) :
    Nat → Option Char → List Char → List Char × Option (List Char)
  | _, _, [] => ([], none)
  | _, _, ['\\'] => (['\\'], none)
  | depth, quote, '\\' :: c :: cs =>
    let (key, value) := scanKey nests depth quote cs
    if c = '=' ∧ quote = none ∧ depth = 0 then ('=' :: key, value)
    else ('\\' :: c :: key, value)
  | depth, some q, c :: cs =>
    let (key, value) := scanKey nests depth (if c = q then none else some q) cs
    (c :: key, value)
  | depth, none, c :: cs =>
    if c = '=' ∧ depth = 0 then ([], some cs)
    else
      let (key, value) :=
        if (c = '"' ∨ c = '\'') ∧ 0 < depth then scanKey nests depth (some c) cs
        else if c = '(' ∧ nests then scanKey nests (depth + 1) none cs
        else if c = ')' ∧ nests then scanKey nests (depth - 1) none cs
        else scanKey nests depth none cs
      (c :: key, value)

def splitAssignment (cs : List Char) : List Char × Option (List Char) :=
  let regular :=
    match cs with
    | '!' :: '/' :: _ => cutAfterExpression? [] cs
    | _ => none
  match regular with
  | some (key, value) => (key, some value)
  | none =>
    let (key, value) := scanKey (cs.head? == some '!') 0 none cs
    (Text.trim key, value.map Text.trim)

end PageOverlay.Sheet
