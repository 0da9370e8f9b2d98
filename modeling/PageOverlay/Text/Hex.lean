/-!
# Digits

Reading numbers that are written in decimal or hexadecimal digits.
-/

set_option autoImplicit false

namespace PageOverlay.Text

def hexDigit? (c : Char) : Option Nat :=
  if '0' ≤ c ∧ c ≤ '9' then some (c.toNat - '0'.toNat)
  else if 'a' ≤ c ∧ c ≤ 'f' then some (c.toNat - 'a'.toNat + 10)
  else if 'A' ≤ c ∧ c ≤ 'F' then some (c.toNat - 'A'.toNat + 10)
  else none

def decDigit? (c : Char) : Option Nat :=
  if '0' ≤ c ∧ c ≤ '9' then some (c.toNat - '0'.toNat) else none

def digitsValue? (base : Nat) (digit? : Char → Option Nat) : Nat → List Char → Option Nat
  | n, [] => some n
  | n, c :: cs =>
    match digit? c with
    | some d => digitsValue? base digit? (n * base + d) cs
    | none => none

def hexValue? (cs : List Char) : Option Nat :=
  if cs.isEmpty then none else digitsValue? 16 hexDigit? 0 cs

def decValue? (cs : List Char) : Option Nat :=
  if cs.isEmpty then none else digitsValue? 10 decDigit? 0 cs

def hexDigitChar (n : Nat) : Char :=
  if n < 10 then Char.ofNat ('0'.toNat + n) else Char.ofNat ('a'.toNat + (n - 10))

end PageOverlay.Text
