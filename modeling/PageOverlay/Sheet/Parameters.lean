import PageOverlay.Text.Blank

/-!
# Parameter lists

Parameters stand between commas. Quotes and backslashes keep commas, parentheses and blanks, and
are taken away, except inside nested parentheses, whose text stays as it is.
-/

set_option autoImplicit false

namespace PageOverlay.Sheet

inductive ParameterFault
  | unbalanced
  | openQuote
  | openParenthesis
  deriving DecidableEq, Repr

/-- A parameter that is being read. What stands after its last closing quote loses the blanks at
the end. -/
structure Part where
  kept : List Char := []
  tail : List Char := []
  quoted : Bool := false
  deriving DecidableEq, Repr

def Part.push (p : Part) (c : Char) : Part := { p with tail := p.tail ++ [c] }

def Part.isBlank (p : Part) : Bool := p.kept.isEmpty && p.tail.isEmpty && !p.quoted

def Part.closeQuote (p : Part) : Part := { p with kept := p.kept ++ p.tail, tail := [] }

def Part.finish (p : Part) : List Char := p.kept ++ Text.trimEnd p.tail

/-- Where the reader stands: at the top, in a quote, or `depth + 1` parentheses deep and perhaps in
a quote there. -/
inductive Place
  | top
  | quote (q : Char)
  | nested (depth : Nat) (quote : Option Char)
  deriving DecidableEq, Repr

def isQuote (c : Char) : Bool := c == '"' || c == '\''

def nestedStep (depth : Nat) (quote : Option Char) (c : Char) : Place :=
  match quote with
  | some q => .nested depth (if c = q then none else some q)
  | none =>
    if isQuote c then .nested depth (some c)
    else if c = '(' then .nested (depth + 1) none
    else if c = ')' then
      match depth with
      | 0 => .top
      | d + 1 => .nested d none
    else .nested depth none

def scanParameters : Place → Part → List Char → Except ParameterFault (List (List Char))
  | .top, p, [] => .ok [p.finish]
  | .quote _, _, [] => .error .openQuote
  | .nested _ (some _), _, [] => .error .openQuote
  | .nested _ none, _, [] => .error .openParenthesis
  | .nested d q, p, '\\' :: c :: cs => scanParameters (.nested d q) ((p.push '\\').push c) cs
  | .nested d q, p, ['\\'] => scanParameters (.nested d q) (p.push '\\') []
  | .nested d q, p, c :: cs => scanParameters (nestedStep d q c) (p.push c) cs
  | .quote q, p, '\\' :: c :: cs => scanParameters (.quote q) (p.push c) cs
  | .quote q, p, ['\\'] => scanParameters (.quote q) (p.push '\\') []
  | .quote q, p, c :: cs =>
    if c = q then scanParameters .top p.closeQuote cs else scanParameters (.quote q) (p.push c) cs
  | .top, p, '\\' :: c :: cs => scanParameters .top (p.push c) cs
  | .top, p, ['\\'] => scanParameters .top (p.push '\\') []
  | .top, p, c :: cs =>
    if isQuote c then scanParameters (.quote c) { p with quoted := true } cs
    else if c = ',' then (scanParameters .top {} cs).map (p.finish :: ·)
    else if c = '(' then scanParameters (.nested 0 none) (p.push c) cs
    else if c = ')' then .error .unbalanced
    else if Text.isBlank c && p.isBlank then scanParameters .top p cs
    else scanParameters .top (p.push c) cs

def splitParameters (cs : List Char) : Except ParameterFault (List (List Char)) :=
  if Text.allBlank cs then .ok [] else scanParameters .top {} cs

def ParameterFault.message (fault : ParameterFault) (source : List Char) : String :=
  let what := match fault with
    | .unbalanced => "unbalanced ')'"
    | .openQuote => "unclosed quote"
    | .openParenthesis => "unclosed '('"
  what ++ " in '" ++ String.ofList source ++ "'"

end PageOverlay.Sheet
