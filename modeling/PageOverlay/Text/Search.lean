/-!
# Finding and replacing

Occurrences of one text in another, from left to right and without overlap.
-/

set_option autoImplicit false

namespace PageOverlay.Text

def occursIn (needle : List Char) : List Char → Bool
  | [] => needle.isEmpty
  | c :: cs => needle.isPrefixOf (c :: cs) || occursIn needle cs

/-- Replaces every leftmost occurrence of the needle `n :: ns` that does not overlap an earlier
one. What is put in is not searched again. -/
def replaceAll (n : Char) (ns new : List Char) : List Char → List Char
  | [] => []
  | c :: cs =>
    if c = n ∧ ns.isPrefixOf cs then new ++ replaceAll n ns new (cs.drop ns.length)
    else c :: replaceAll n ns new cs
termination_by cs => cs.length
decreasing_by
  · simp only [List.length_drop, List.length_cons]; omega
  · simp

def afterBeginning? : List Char → List Char → Option (List Char)
  | [], cs => some cs
  | _ :: _, [] => none
  | d :: ds, c :: cs => if d = c then afterBeginning? ds cs else none

def cutAtLast? (c : Char) : List Char → Option (List Char × List Char)
  | [] => none
  | d :: cs =>
    match cutAtLast? c cs with
    | some (before, after) => some (d :: before, after)
    | none => if d = c then some ([], cs) else none

def cutAtFirst? (c : Char) : List Char → Option (List Char × List Char)
  | [] => none
  | d :: cs =>
    if d = c then some ([], cs)
    else (cutAtFirst? c cs).map fun (before, after) => (d :: before, after)

end PageOverlay.Text
