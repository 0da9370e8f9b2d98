import PageOverlay.Text.Blank
import PageOverlay.Text.Hex

/-!
# Sets of code points

A set is kept as closed ranges in ascending order, so that membership is a binary search and the
complement is the list of gaps.
-/

set_option autoImplicit false

namespace PageOverlay.Text

/-- Closed ranges of code points, ascending, with a gap between each two. -/
structure CodeSet where
  ranges : Array (Nat × Nat)
  deriving DecidableEq, Repr

namespace CodeSet

def lastCode : Nat := 0x10FFFF

def joined : Nat × Nat → List (Nat × Nat) → List (Nat × Nat)
  | r, [] => [r]
  | (a, b), (c, d) :: rest =>
    if c ≤ b + 1 then joined (a, max b d) rest else (a, b) :: joined (c, d) rest

def ofRanges (rs : List (Nat × Nat)) : CodeSet :=
  match (rs.filter fun r => r.1 ≤ r.2).mergeSort fun r s => r.1 ≤ s.1 with
  | [] => ⟨#[]⟩
  | r :: rest => ⟨(joined r rest).toArray⟩

def empty : CodeSet := ⟨#[]⟩

def single (n : Nat) : CodeSet := ⟨#[(n, n)]⟩

def range (a b : Nat) : CodeSet := ofRanges [(a, b)]

def isEmpty (s : CodeSet) : Bool := s.ranges.isEmpty

/-- Binary search between two places; the first number bounds the halvings. -/
def within (rs : Array (Nat × Nat)) (n : Nat) : Nat → Nat → Nat → Bool
  | 0, _, _ => false
  | fuel + 1, lo, hi =>
    if lo < hi then
      let mid := (lo + hi) / 2
      match rs[mid]? with
      | none => false
      | some (a, b) =>
        if n < a then within rs n fuel lo mid
        else if b < n then within rs n fuel (mid + 1) hi
        else true
    else false

def contains (s : CodeSet) (n : Nat) : Bool :=
  within s.ranges n (s.ranges.size + 1) 0 s.ranges.size

def gaps : Nat → List (Nat × Nat) → List (Nat × Nat)
  | next, [] => if next ≤ lastCode then [(next, lastCode)] else []
  | next, (a, b) :: rest =>
    if next < a then (next, a - 1) :: gaps (b + 1) rest else gaps (b + 1) rest

def union (s t : CodeSet) : CodeSet := ofRanges (s.ranges.toList ++ t.ranges.toList)

def compl (s : CodeSet) : CodeSet := ⟨(gaps 0 s.ranges.toList).toArray⟩

def inter (s t : CodeSet) : CodeSet := compl (union (compl s) (compl t))

def diff (s t : CodeSet) : CodeSet := inter s (compl t)

def symmDiff (s t : CodeSet) : CodeSet := diff (union s t) (inter s t)

def readRange? (cs : List Char) : Option (Nat × Nat) :=
  match cs.span (· ≠ '-') with
  | (a, []) => (hexValue? a).map fun n => (n, n)
  | (a, _ :: b) =>
    match hexValue? a, hexValue? b with
    | some n, some m => some (n, m)
    | _, _ => none

def read (table : String) : CodeSet :=
  ofRanges ((words table.toList).filterMap readRange?)

end CodeSet
end PageOverlay.Text
