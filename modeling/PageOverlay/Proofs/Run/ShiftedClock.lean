import PageOverlay.Proofs.Run.Draining

/-!
# Clocks that differ by a shift

A clock that was used before shows a later time and gives out higher numbers than a new one. Apart
from that it does the same: the same jobs come out of it, in the same order.
-/

set_option autoImplicit false

namespace PageOverlay

variable {α : Type}

def Timer.shift (time ids : Nat) (t : Timer α) : Timer α :=
  { t with id := t.id + ids, due := t.due + time }

namespace Timer

variable {time ids : Nat}

theorem isBefore_shift (t u : Timer α) :
    (t.shift time ids).isBefore (u.shift time ids) = t.isBefore u := by
  rw [Bool.eq_iff_iff, isBefore_iff, isBefore_iff]
  simp only [shift]
  omega

theorem next?_shift (t : Timer α) :
    (t.shift time ids).next? = t.next?.map (Timer.shift time ids) := by
  cases h : t.every with
  | none => simp [next?, shift, h]
  | some e => simp [next?, shift, h, Nat.add_right_comm]

theorem timesUpTo_shift (t : Timer α) (limit : Nat) :
    (t.shift time ids).timesUpTo (limit + time) = t.timesUpTo limit := by
  simp [timesUpTo, shift, Nat.add_sub_add_right]

end Timer

namespace Clock

def shift (time ids : Nat) (c : Clock α) : Clock α where
  now := c.now + time
  nextId := c.nextId + ids
  timers := c.timers.map (Timer.shift time ids)

variable (time ids : Nat) (c : Clock α)

theorem shift_zero : c.shift 0 0 = c := by
  have hsame : (Timer.shift 0 0 : Timer α → Timer α) = id := rfl
  simp [shift, hsame]

theorem add_shift (delay : Nat) (every : Option Nat) (job : α) :
    (c.shift time ids).add delay every job =
      ((c.add delay every job).1 + ids, (c.add delay every job).2.shift time ids) := by
  simp [add, shift, Timer.shift, Nat.add_right_comm]

theorem advanceTo_shift (limit : Nat) :
    (c.shift time ids).advanceTo (limit + time) = (c.advanceTo limit).shift time ids := by
  simp [advanceTo, shift, Nat.add_max_add_right]

theorem earliest?_shift (ts : List (Timer α)) :
    earliest? (ts.map (Timer.shift time ids)) = (earliest? ts).map (Timer.shift time ids) := by
  induction ts with
  | nil => rfl
  | cons t ts ih =>
    rw [List.map_cons, earliest?, earliest?, ih]
    cases earliest? ts with
    | none => rfl
    | some u =>
      simp only [Option.map_some, Timer.isBefore_shift]
      split <;> rfl

theorem pop?_shift (limit : Nat) :
    (c.shift time ids).pop? (limit + time) =
      (c.pop? limit).map fun p => (p.1.shift time ids, p.2.shift time ids) := by
  have hdue : (c.shift time ids).timers.filter (fun t => decide (t.due ≤ limit + time)) =
      (c.timers.filter (fun t => decide (t.due ≤ limit))).map (Timer.shift time ids) := by
    simp [shift, List.filter_map, Function.comp_def, Timer.shift]
  rw [pop?, pop?, hdue, earliest?_shift, Option.map_map, Option.map_map]
  refine Option.map_congr fun t _ => ?_
  have hrest : (c.shift time ids).timers.filterMap
        (fun u => if u.id = (t.shift time ids).id then u.next? else some u) =
      (c.timers.filterMap fun u => if u.id = t.id then u.next? else some u).map
        (Timer.shift time ids) := by
    rw [shift, List.filterMap_map, List.map_filterMap]
    refine List.filterMap_congr fun u _ => ?_
    by_cases hid : u.id = t.id
    · simp [hid, Timer.shift, ← Timer.next?_shift]
    · simp [hid, Timer.shift]
  simp only [Function.comp_apply, hrest]
  simp [shift, Timer.shift, Nat.add_max_add_right]

theorem dueCount_shift (limit : Nat) :
    (c.shift time ids).dueCount (limit + time) = c.dueCount limit := by
  simp [dueCount, shift, List.foldr_map, Timer.timesUpTo_shift]

theorem popUpTo_shift (limit n : Nat) :
    popUpTo (limit + time) n (c.shift time ids) =
      ((popUpTo limit n c).1.map (Timer.shift time ids), (popUpTo limit n c).2.shift time ids) := by
  induction n generalizing c with
  | zero => rfl
  | succ n ih =>
    rw [popUpTo, popUpTo, pop?_shift]
    cases c.pop? limit with
    | none => rfl
    | some p => simp [ih]

theorem runTo_shift (limit : Nat) :
    (c.shift time ids).runTo (limit + time) =
      ((c.runTo limit).1.map (Timer.shift time ids), (c.runTo limit).2.shift time ids) := by
  rw [runTo, runTo, drain, drain, dueCount_shift, popUpTo_shift, advanceTo_shift]

end Clock
end PageOverlay
