import PageOverlay.Text.Hex

/-!
# Replacement templates

`$name`, `$1`, `${name}` and `${1}` stand for groups of the match and `$$` for a dollar sign. A
name without braces reaches as far as letters, digits and underscores go.
-/

set_option autoImplicit false

namespace PageOverlay.Regex

inductive TemplatePart
  | text (cs : List Char)
  | number (n : Nat)
  | name (s : String)
  deriving DecidableEq, Repr

namespace Template

def isNameChar (c : Char) : Bool := c.isAlphanum || c == '_'

/-- A reference is a number when it is written as one, with or without a plus sign, and fits
sixty-four bits. -/
def reference (cs : List Char) : TemplatePart :=
  let digits := match cs with
    | '+' :: rest => rest
    | _ => cs
  match Text.decValue? digits with
  | some n => if n < UInt64.size then .number n else .name (String.ofList cs)
  | none => .name (String.ofList cs)

def afterDollar (cs : List Char) : TemplatePart × Nat :=
  match cs with
  | '$' :: _ => (.text ['$'], 1)
  | '{' :: rest =>
    let body := rest.takeWhile (· ≠ '}')
    if body.length < rest.length then (reference body, body.length + 2) else (.text ['$'], 0)
  | _ =>
    let body := cs.takeWhile isNameChar
    if body.isEmpty then (.text ['$'], 0) else (reference body, body.length)

def parts : List Char → List TemplatePart
  | [] => []
  | c :: cs =>
    if c = '$' then
      let (part, used) := afterDollar cs
      part :: parts (cs.drop used)
    else .text [c] :: parts cs
termination_by cs => cs.length
decreasing_by
  · simp only [List.length_drop, List.length_cons]; omega
  · simp

end Template
end PageOverlay.Regex
