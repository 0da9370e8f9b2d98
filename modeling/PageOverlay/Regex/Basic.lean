import PageOverlay.Text.CodeSet

/-!
# Regular expressions

The expressions that searching works on, after names, flags and character classes have been
resolved to sets of code points. Repetitions keep their bounds.
-/

set_option autoImplicit false

namespace PageOverlay

open Text (CodeSet)

inductive WordRule
  | unicode
  | ascii
  deriving DecidableEq, Repr

inductive Look
  | textStart
  | textEnd
  | lineStart
  | lineEnd
  | anyLineStart
  | anyLineEnd
  | wordEdge (rule : WordRule)
  | noWordEdge (rule : WordRule)
  | wordStart (rule : WordRule)
  | wordEnd (rule : WordRule)
  | noWordBefore (rule : WordRule)
  | noWordAfter (rule : WordRule)
  deriving DecidableEq, Repr

inductive Regex
  | empty
  | set (s : CodeSet)
  | look (l : Look)
  | capture (index : Nat) (body : Regex)
  | seq (a b : Regex)
  | alt (a b : Regex)
  | loop (least : Nat) (most : Option Nat) (greedy : Bool) (body : Regex)
  deriving Repr

namespace Regex

def zeroWidth : Regex → Bool
  | .empty => true
  | .set _ => false
  | .look _ => true
  | .capture _ body => zeroWidth body
  | .seq a b => zeroWidth a && zeroWidth b
  | .alt a b => zeroWidth a && zeroWidth b
  | .loop _ most _ body => most == some 0 || zeroWidth body

def takesOne : Regex → Bool
  | .empty => false
  | .set s => !s.isEmpty
  | .look _ => false
  | .capture _ body => takesOne body
  | .seq a b => takesOne a || takesOne b
  | .alt a b => takesOne a && takesOne b
  | .loop least _ _ body => least != 0 && takesOne body

/-- A repetition whose bounds are put in order: going round more than once without taking a
character changes nothing. -/
def repeated (least : Nat) (most : Option Nat) (greedy : Bool) (body : Regex) : Regex :=
  let least := if body.zeroWidth then min least 1 else least
  let most := if body.zeroWidth then some (min (most.getD 1) 1) else most
  if most == some 0 then .empty
  else if least == 1 && most == some 1 then body
  else .loop least most greedy body

def setWeight (s : CodeSet) : Nat :=
  s.ranges.foldl (fun n r =>
    n + (if r.2 < 0x80 then 1 else if r.2 < 0x800 then 2 else if r.2 < 0x10000 then 3 else 4)) 0

/-- A rough count of the states that matching needs when every repetition is written out. -/
def weight : Regex → Nat
  | .empty => 1
  | .set s => max 1 (setWeight s)
  | .look _ => 1
  | .capture _ body => weight body + 2
  | .seq a b => weight a + weight b
  | .alt a b => weight a + weight b + 1
  | .loop least most _ body => max 1 (max least (most.getD (least + 1))) * (weight body + 1)

/-- Expressions of more weight are refused. This approximates a bound on the bytes of a compiled
program: it is not exact, and an expression close to the bound may be judged the other way. -/
def weightLimit : Nat := 327680

end Regex
end PageOverlay
