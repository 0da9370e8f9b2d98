/-!
# Maps of code points

Case maps send long runs of code points to runs that lie a fixed distance away. A map is kept as
its runs.
-/

set_option autoImplicit false

namespace PageOverlay.Text

/-- Every `step`-th code point from `first` to `last`, sent to `image` and moved on in the same
steps. An image of more than one code point belongs to a run of one. -/
structure CaseRun where
  first : Nat
  last : Nat
  step : Nat
  image : List Nat

namespace CaseRun

def holds (r : CaseRun) (n : Nat) : Bool :=
  r.first ≤ n && n ≤ r.last && (n - r.first) % r.step == 0

def apply (r : CaseRun) (n : Nat) : List Nat := r.image.map (· + (n - r.first))

def pairs (r : CaseRun) : List (Nat × List Nat) :=
  (List.range ((r.last - r.first) / r.step + 1)).map fun i =>
    let n := r.first + i * r.step
    (n, r.apply n)

end CaseRun

structure CaseMap where
  runs : List CaseRun

namespace CaseMap

def apply (m : CaseMap) (n : Nat) : List Nat :=
  match m.runs.find? (·.holds n) with
  | some r => r.apply n
  | none => [n]

def pairs (m : CaseMap) : List (Nat × List Nat) := m.runs.flatMap CaseRun.pairs

end CaseMap
end PageOverlay.Text
