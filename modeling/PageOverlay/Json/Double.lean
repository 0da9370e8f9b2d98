import PageOverlay.Text.Hex

/-!
# The text of doubles

The shortest decimal that reads back as the same double, the nearest of those that are equally
short, written plainly while the point stays within sixteen digits and with an exponent otherwise.
-/

set_option autoImplicit false

namespace PageOverlay.Double

/-- A positive double as `mantissa * 2 ^ exponent`. -/
structure Binary where
  mantissa : Nat
  exponent : Int
  uneven : Bool

def ofBits (bits : UInt64) : Binary :=
  let exponent : Nat := (bits.toNat >>> 52) % 2048
  let fraction : Nat := bits.toNat % (1 <<< 52)
  if exponent = 0 then { mantissa := fraction, exponent := -1074, uneven := false }
  else
    { mantissa := fraction + (1 <<< 52)
      exponent := (exponent : Int) - 1075
      uneven := fraction = 0 ∧ 1 < exponent }

def Binary.quotient (b : Binary) (unit : Int) : Nat × Nat :=
  ((b.mantissa <<< b.exponent.toNat) * Nat.pow 10 (-unit).toNat,
    Nat.pow 10 unit.toNat <<< (-b.exponent).toNat)

/-- Whether `digits * 10 ^ unit` lies between the middles to both neighbours; the middles belong
to a double whose mantissa is even. -/
def Binary.admits (b : Binary) (unit : Int) (digits : Nat) : Bool :=
  let (num, den) := b.quotient unit
  let given := 4 * b.mantissa * den * digits
  let low := num * (4 * b.mantissa - (if b.uneven then 1 else 2))
  let high := num * (4 * b.mantissa + 2)
  if b.mantissa % 2 = 0 then low ≤ given && given ≤ high else low < given && given < high

def Binary.magnitude (b : Binary) : Int :=
  let estimate := ((b.mantissa.log2 : Int) + b.exponent) * 30103 / 100000
  let below := fun (k : Int) => let (num, den) := b.quotient k; num < den
  let candidates := [estimate - 1, estimate, estimate + 1, estimate + 2]
  (candidates.find? fun k => below k).getD (estimate + 3)

def Binary.onGrid (b : Binary) (unit : Int) : Option Nat :=
  let (num, den) := b.quotient unit
  let down := num / den
  let rest := num % den
  let nearest := if 2 * rest < den || (2 * rest == den && down % 2 == 0) then down else down + 1
  let other := if nearest = down then down + 1 else down
  if nearest ≠ 0 && b.admits unit nearest then some nearest
  else if other ≠ 0 && b.admits unit other then some other
  else none

def Binary.search (b : Binary) (k : Int) : Nat → Nat → Nat × Int
  | 0, n => ((b.quotient (k - n)).1 / (b.quotient (k - n)).2, k - n)
  | more + 1, n =>
    match b.onGrid (k - n) with
    | some d => (d, k - n)
    | none => b.search k more (n + 1)

def stripZeros : Nat → Nat → Int → Nat × Int
  | 0, d, unit => (d, unit)
  | fuel + 1, d, unit =>
    if d % 10 = 0 ∧ d ≠ 0 then stripZeros fuel (d / 10) (unit + 1) else (d, unit)

def shortest (b : Binary) : Nat × Int :=
  let (d, unit) := b.search b.magnitude 17 1
  stripZeros 20 d unit

def digitsOf (n : Nat) : List Char := (toString n).toList

def exponentText (n : Int) : List Char :=
  (if n < 0 then '-' else '+') :: digitsOf n.natAbs

def layout (digits : List Char) (unit : Int) : List Char :=
  let point := (digits.length : Int) + unit
  if 0 ≤ unit ∧ point ≤ 16 then digits ++ List.replicate unit.toNat '0' ++ ['.', '0']
  else if 0 < point ∧ point ≤ 16 then
    digits.take point.toNat ++ '.' :: digits.drop point.toNat
  else if -5 < point ∧ point ≤ 0 then
    '0' :: '.' :: List.replicate (-point).toNat '0' ++ digits
  else
    let tail := 'e' :: exponentText (point - 1)
    match digits with
    | [d] => d :: tail
    | d :: ds => d :: '.' :: ds ++ tail
    | [] => tail

def text (bits : UInt64) : List Char :=
  let sign := if bits.toNat >>> 63 = 1 then ['-'] else []
  let b := ofBits bits
  if b.mantissa = 0 then sign ++ ['0', '.', '0']
  else
    let (d, unit) := shortest b
    sign ++ layout (digitsOf d) unit

def power (n : Nat) : Float := Float.ofScientific 1 false n

def scaleDown : Nat → Float → Nat → Float
  | 0, f, _ => f
  | fuel + 1, f, n =>
    if n ≤ 308 then f / power n
    else if f == 0 then f
    else scaleDown fuel (f / power 308) (n - 308)

/-- A double from its decimal digits and the power of ten that they count, in one multiplication
or in a few divisions. `none` when it is too large. -/
def ofDecimal? (negative : Bool) (digits : UInt64) (exponent : Int) : Option UInt64 :=
  let f := digits.toFloat
  let scaled : Option Float :=
    if exponent < 0 then some (scaleDown 8 f exponent.natAbs)
    else if exponent ≤ 308 then
      let g := f * power exponent.toNat
      if g.isInf then none else some g
    else if f == 0 then some f
    else none
  scaled.map fun g => (if negative then -g else g).toBits

end PageOverlay.Double
