/-!
# The clock

A clock with jobs that fall due once or again and again, in nanoseconds. Nothing runs by itself:
the owner takes out the jobs that are due one by one, the earliest first and of these the one that
was scheduled first, and the clock moves along.
-/

set_option autoImplicit false

namespace PageOverlay

def milliseconds (n : Nat) : Nat := n * 1000000

def wholeMilliseconds (span : Nat) : Nat := span / 1000000

structure Timer (α : Type) where
  id : Nat
  due : Nat
  every : Option Nat := none
  job : α
  deriving DecidableEq, Repr

structure Clock (α : Type) where
  now : Nat := 0
  nextId : Nat := 0
  timers : List (Timer α) := []
  deriving DecidableEq, Repr

namespace Timer

variable {α : Type}

def isBefore (t u : Timer α) : Bool := t.due < u.due || (t.due == u.due && t.id < u.id)

def next? (t : Timer α) : Option (Timer α) := t.every.map fun e => { t with due := t.due + e }

def timesUpTo (t : Timer α) (limit : Nat) : Nat :=
  if t.due ≤ limit then
    match t.every with
    | none => 1
    | some e => (limit - t.due) / e + 1
  else 0

end Timer

namespace Clock

variable {α : Type}

/-- The shortest time between two turns of a repeating job. -/
def shortest : Nat := milliseconds 1

def add (c : Clock α) (delay : Nat) (every : Option Nat) (job : α) : Nat × Clock α :=
  (c.nextId, { c with
    nextId := c.nextId + 1
    timers := c.timers ++ [{ id := c.nextId, due := c.now + delay, every, job }] })

def once (c : Clock α) (delay : Nat) (job : α) : Nat × Clock α := c.add delay none job

def repeating (c : Clock α) (every : Nat) (job : α) : Nat × Clock α :=
  c.add (max every shortest) (some (max every shortest)) job

def cancel (c : Clock α) (id : Nat) : Clock α :=
  { c with timers := c.timers.filter (·.id ≠ id) }

def holds (c : Clock α) (id : Nat) : Bool := c.timers.any (·.id == id)

def cancelAll (c : Clock α) : Clock α := { c with timers := [] }

def earliest? : List (Timer α) → Option (Timer α)
  | [] => none
  | t :: ts =>
    match earliest? ts with
    | none => some t
    | some u => if u.isBefore t then some u else some t

def pop? (c : Clock α) (limit : Nat) : Option (Timer α × Clock α) :=
  (earliest? (c.timers.filter (·.due ≤ limit))).map fun t =>
    (t, { c with
      now := max c.now t.due
      timers := c.timers.filterMap fun u => if u.id = t.id then u.next? else some u })

def advanceTo (c : Clock α) (limit : Nat) : Clock α := { c with now := max c.now limit }

def dueCount (c : Clock α) (limit : Nat) : Nat :=
  c.timers.foldr (fun t n => t.timesUpTo limit + n) 0

def popUpTo (limit : Nat) : Nat → Clock α → List (Timer α) × Clock α
  | 0, c => ([], c)
  | n + 1, c =>
    match c.pop? limit with
    | none => ([], c)
    | some (t, c) =>
      let (ts, c) := popUpTo limit n c
      (t :: ts, c)

def drain (c : Clock α) (limit : Nat) : List (Timer α) × Clock α :=
  popUpTo limit (c.dueCount limit) c

end Clock
end PageOverlay
