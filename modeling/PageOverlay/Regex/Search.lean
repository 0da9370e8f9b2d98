import PageOverlay.Regex.Basic
import PageOverlay.Text.Word

/-!
# Searching

An expression becomes a list of instructions, and all ways through them are followed side by side,
one character at a time. Ways are kept in order of preference, and of two that meet at one
instruction only the first goes on, so the work grows with the product of both lengths. The match
found is the leftmost, and among those at one place the one that is preferred.
-/

set_option autoImplicit false

namespace PageOverlay.Regex

open Text (CodeSet)

inductive Instruction
  | accept
  | take (s : CodeSet) (next : Nat)
  | look (l : Look) (next : Nat)
  | save (slot next : Nat)
  | split (first second : Nat)
  deriving Repr

structure Program where
  code : Array Instruction
  entry : Nat
  slots : Nat

abbrev Emit := StateM (Array Instruction)

def push (i : Instruction) : Emit Nat := fun code => (code.size, code.push i)

def put (pos : Nat) (i : Instruction) : Emit Unit := fun code => ((), code.setIfInBounds pos i)

def fork (greedy : Bool) (body next : Nat) : Instruction :=
  if greedy then .split body next else .split next body

def copies (body : Nat → Emit Nat) : Nat → Nat → Emit Nat
  | 0, next => pure next
  | n + 1, next => do copies body n (← body next)

/-- Up to `n` copies in front of `next`, each of which may be left out with all after it. -/
def options (greedy : Bool) (body : Nat → Emit Nat) (exit : Nat) : Nat → Emit Nat
  | 0 => pure exit
  | n + 1 => do
    let rest ← options greedy body exit n
    let entry ← body rest
    push (fork greedy entry exit)

def rounds (greedy : Bool) (body : Nat → Emit Nat) (next : Nat) : Emit (Nat × Nat) := do
  let again ← push .accept
  let entry ← body again
  put again (fork greedy entry next)
  pure (entry, again)

def emit : Regex → Nat → Emit Nat
  | .empty, next => pure next
  | .set s, next => push (.take s next)
  | .look l, next => push (.look l next)
  | .capture index body, next => do
    let last ← push (.save (2 * index + 1) next)
    let entry ← emit body last
    push (.save (2 * index) entry)
  | .seq a b, next => do
    let second ← emit b next
    emit a second
  | .alt a b, next => do
    let first ← emit a next
    let second ← emit b next
    push (.split first second)
  | .loop least (some most) greedy body, next => do
    let optional ← options greedy (emit body) next (most - least)
    copies (emit body) least optional
  | .loop 0 none greedy body, next => do
    let (entry, again) ← rounds greedy (emit body) next
    if body.takesOne then pure again else push (fork greedy entry next)
  | .loop (n + 1) none greedy body, next => do
    let (entry, _) ← rounds greedy (emit body) next
    copies (emit body) n entry

def program (r : Regex) (groups : Nat) : Program :=
  let (entry, code) := emit (.capture 0 r) 0 #[.accept]
  { code, entry, slots := 2 * (groups + 1) }

abbrev Slots := Array (Option Nat)

def wordAt (rule : WordRule) : Option Char → Bool
  | none => false
  | some c => match rule with
    | .unicode => Text.isWord c
    | .ascii => Text.isAsciiWord c

def Look.holds (l : Look) (text : Array Char) (pos : Nat) : Bool :=
  let before := if pos = 0 then none else text[pos - 1]?
  let after := text[pos]?
  match l with
  | .textStart => pos == 0
  | .textEnd => pos == text.size
  | .lineStart => pos == 0 || before == some '\n'
  | .lineEnd => pos == text.size || after == some '\n'
  | .anyLineStart =>
    pos == 0 || before == some '\n' || (before == some '\r' && after != some '\n')
  | .anyLineEnd =>
    pos == text.size || after == some '\r' || (after == some '\n' && before != some '\r')
  | .wordEdge rule => wordAt rule before != wordAt rule after
  | .noWordEdge rule => wordAt rule before == wordAt rule after
  | .wordStart rule => !wordAt rule before && wordAt rule after
  | .wordEnd rule => wordAt rule before && !wordAt rule after
  | .noWordBefore rule => !wordAt rule before
  | .noWordAfter rule => !wordAt rule after

/-- The ways that are open at one place, most preferred first, and the instructions met so far. -/
structure Ways where
  seen : Array Bool
  live : Array (Nat × Slots)

def Ways.none (size : Nat) : Ways := { seen := Array.replicate size false, live := #[] }

/-- Follows a way without taking a character. An instruction met before at this place is left to
the way that met it; so no way is longer than the program, which bounds the steps. -/
def follow (p : Program) (text : Array Char) (pos : Nat) :
    Nat → Nat → Slots → Ways → Ways
  | 0, _, _, ways => ways
  | fuel + 1, pc, slots, ways =>
    if ways.seen.getD pc true then ways
    else
      let ways := { ways with seen := ways.seen.setIfInBounds pc true }
      match p.code[pc]? with
      | some (.look l next) =>
        if Look.holds l text pos then follow p text pos fuel next slots ways else ways
      | some (.save slot next) =>
        follow p text pos fuel next (slots.setIfInBounds slot (some pos)) ways
      | some (.split first second) =>
        follow p text pos fuel second slots (follow p text pos fuel first slots ways)
      | some _ => { ways with live := ways.live.push (pc, slots) }
      | none => ways

def advance (p : Program) (text : Array Char) (pos : Nat) :
    List (Nat × Slots) → Ways → Ways × Option Slots
  | [], ways => (ways, none)
  | (pc, slots) :: rest, ways =>
    match p.code[pc]? with
    | some .accept => (ways, some slots)
    | some (.take s next) =>
      let moved := match text[pos]? with
        | some c =>
          if s.contains c.toNat then follow p text (pos + 1) (p.code.size + 1) next slots ways
          else ways
        | none => ways
      advance p text pos rest moved
    | _ => advance p text pos rest ways

/-- Runs from `pos` on; the number counts the places that are left. A way that begins here comes
after all that began earlier, and none begins once something was accepted. -/
def run (p : Program) (text : Array Char) :
    Nat → Nat → Ways → Option Slots → Option Slots
  | 0, _, _, best => best
  | places + 1, pos, ways, best =>
    let ways := if best.isSome then ways
      else follow p text pos (p.code.size + 1) p.entry (Array.replicate p.slots none) ways
    if ways.live.isEmpty && best.isSome then best
    else
      let (next, found) := advance p text pos ways.live.toList (.none p.code.size)
      run p text places (pos + 1) next (found <|> best)

def find? (p : Program) (text : Array Char) (start : Nat) : Option Slots :=
  if start ≤ text.size then
    run p text (text.size - start + 1) start (.none p.code.size) none
  else none

def group? (slots : Slots) (n : Nat) : Option (Nat × Nat) :=
  match slots[2 * n]?, slots[2 * n + 1]? with
  | some (some a), some (some b) => some (a, b)
  | _, _ => none

/-- All matches from left to right. An empty match where the last one ended is passed over. The
number bounds the matches. -/
def findAll (p : Program) (text : Array Char) : Nat → Nat → Option Nat → List Slots
  | 0, _, _ => []
  | fuel + 1, start, lastEnd =>
    let first := find? p text start
    let chosen := match first.bind (group? · 0) with
      | some (a, b) => if a == b && lastEnd == some b then find? p text (start + 1) else first
      | none => none
    match chosen with
    | none => []
    | some slots =>
      match group? slots 0 with
      | none => []
      | some (_, b) => slots :: findAll p text fuel b (some b)

def matchesOf (p : Program) (text : Array Char) : List Slots :=
  findAll p text (2 * text.size + 3) 0 none

def hasMatch (p : Program) (text : Array Char) : Bool := (find? p text 0).isSome

end PageOverlay.Regex
