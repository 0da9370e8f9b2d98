import PageOverlay.Proofs.Sheet.Balance
import PageOverlay.Proofs.Sheet.Renumbering

/-!
# One line among others

A command line changes nothing of how the other lines are read. So texts that are the same but for
such a line are read as the same sheet with another command at one place. A line that calls a
command keeps the text of the call.
-/

set_option autoImplicit false

namespace PageOverlay.Sheet

def withCommands (s : Sheet) (commands : List CommandLine) : Sheet := { s with commands }

namespace Reading

def withCommands (r : Reading) (commands : List CommandLine) : Reading :=
  { r with sheet := r.sheet.withCommands commands }

theorem step_withCommands (r : Reading) (l : Line) :
    ∃ r' : Reading, ∃ added, ∀ commands,
      (r.withCommands commands).step l = r'.withCommands (commands ++ added) := by
  cases h : l.body? with
  | some body =>
    refine ⟨r, [{ line := l.number, scope := r.scope, body }], fun commands => ?_⟩
    rw [step_of_command h]
    rfl
  | none =>
    obtain ⟨e, -, hne, hstep⟩ := step_of_entry h
    refine ⟨r.add l.number e, [], fun commands => ?_⟩
    rw [hstep, List.append_nil]
    cases e with
    | command key value => exact absurd rfl (hne key value)
    | importing name =>
      cases hknown : r.sheet.imports.any (·.name = name) <;>
        simp [Reading.add, withCommands, Sheet.withCommands, hknown]
    | _ => rfl

theorem foldl_withCommands (ls : List Line) (r : Reading) :
    ∃ r' : Reading, ∃ added, ∀ commands,
      ls.foldl step (r.withCommands commands) = r'.withCommands (commands ++ added) := by
  induction ls generalizing r with
  | nil => exact ⟨r, [], fun commands => by rw [List.append_nil]; rfl⟩
  | cons l ls ih =>
    obtain ⟨mid, first, hstep⟩ := step_withCommands r l
    obtain ⟨r', later, hrest⟩ := ih mid
    refine ⟨r', first ++ later, fun commands => ?_⟩
    rw [List.foldl_cons, hstep, hrest, List.append_assoc]

end Reading

theorem number_append (n : Nat) (ls ms : List (List Char)) :
    number n (ls ++ ms) = number n ls ++ number (n + ls.length) ms := by
  induction ls generalizing n with
  | nil => rfl
  | cons l ls ih =>
    rw [List.cons_append, number_cons, number_cons, ih, List.length_cons, Nat.add_right_comm,
      List.cons_append, Nat.add_assoc]

def scopeBehind (ls : List (List Char)) : String := ((number 1 ls).foldl Reading.step {}).scope

/-- All texts that differ in one command line are read alike. -/
theorem read_replaced (before after : List (List Char)) :
    ∃ s : Sheet, ∃ first later, ∀ (source : String) (l : List Char) (body : CommandBody),
      splitLines source.toList = before ++ l :: after →
      (lineAt (before.length + 1) l).body? = some body →
      read source = s.withCommands
        (first ++ { line := before.length + 1, scope := scopeBehind before, body } :: later) := by
  let r := (number 1 before).foldl Reading.step {}
  obtain ⟨r', later, hrest⟩ := Reading.foldl_withCommands (number (before.length + 2) after) r
  refine ⟨r'.sheet, r.sheet.commands, later, fun source l body hsource hbody => ?_⟩
  have hlines : lines source.toList = number 1 before ++ lineAt (before.length + 1) l ::
      number (before.length + 2) after := by
    rw [lines, hsource, number_append, number_cons, Nat.add_comm 1]
  have hstep : r.step (lineAt (before.length + 1) l) = r.withCommands (r.sheet.commands ++
      [{ line := before.length + 1, scope := scopeBehind before, body }]) :=
    step_of_command hbody r
  rw [read, ofLines, hlines, List.foldl_append, List.foldl_cons, hstep, hrest, List.append_assoc]
  rfl

def assigned (key : List Char) : Option (List Char) → List Char
  | none => key
  | some value => key ++ ' ' :: '=' :: ' ' :: value

variable {name inside : List Char}

theorem callText_ne_nil (name inside : List Char) : callText name inside ≠ [] :=
  List.cons_ne_nil _ _

theorem splitAssignment_callText (hname : ∀ c ∈ name, c ∉ marks) (hinside : Balanced inside)
    (rest : List Char) :
    splitAssignment (callText name inside ++ rest) =
      (Text.trim (callText name inside ++ (scanKey true 0 none rest).1),
        (scanKey true 0 none rest).2.map Text.trim) := by
  have hslash : ∀ ds, name ++ '(' :: (inside ++ [')']) ++ rest ≠ '/' :: ds := by
    intro ds h
    cases name with
    | nil => simp at h
    | cons c cs =>
      have hc : c ≠ '/' := fun hc => hname c List.mem_cons_self (by simp [hc, marks])
      exact hc (List.cons.inj h).1
  have hscan := scanKey_callText hname hinside rest
  have hhead : ((callText name inside ++ rest).head? == some '!') = true := rfl
  rw [splitAssignment, hhead, hscan]
  intro ds h
  exact hslash ds (List.cons.inj h).2

theorem splitAssignment_callText_equals (hname : ∀ c ∈ name, c ∉ marks) (hinside : Balanced inside)
    (rest : List Char) :
    splitAssignment (callText name inside ++ ' ' :: '=' :: rest) =
      (callText name inside, some (Text.trim rest)) := by
  have hscan : scanKey true 0 none (' ' :: '=' :: rest) = ([' '], some rest) := by simp [scanKey]
  have hkey : Text.trim (callText name inside ++ [' ']) = callText name inside :=
    Text.trim_append_blank (trim_callText name inside) (by decide)
  rw [splitAssignment_callText hname hinside, hscan, hkey, Option.map_some]

theorem readLine_of_splitAssignment {n : Nat} {l text key : List Char}
    {value : Option (List Char)} (htext : Text.trim l = text) (hkind : kindOf text = .command)
    (hsplit : splitAssignment text = (key, value)) (hkey : key ≠ []) :
    readLine (lineAt n l) =
      .ok (.command (String.ofList key) (String.ofList (value.getD []))) := by
  have hempty : key.isEmpty = false := by simpa using hkey
  rw [readLine, lineAt, htext, hkind]
  simp only [readCommand, hsplit, hempty]
  cases value <;> rfl

theorem trim_callText_append (name inside : List Char) {c : Char} (hc : Text.isBlank c = false)
    (before after : List Char) :
    Text.trim (callText name inside ++ before ++ c :: after) =
      callText name inside ++ before ++ c :: Text.trimEnd after := by
  rw [Text.trim, List.append_assoc, trimStart_callText, ← List.append_assoc,
    Text.trimEnd_append_cons hc]

theorem readLine_callText (hname : ∀ c ∈ name, c ∉ marks) (hinside : Balanced inside) (n : Nat)
    (value : Option (List Char)) :
    readLine (lineAt n (assigned (callText name inside) value)) =
      .ok (.command (String.ofList (callText name inside))
        (String.ofList (Text.trim (value.getD [])))) := by
  cases value with
  | none =>
    have htext : Text.trim (assigned (callText name inside) none) = callText name inside :=
      trim_callText name inside
    have hsplit := splitAssignment_callText hname hinside []
    rw [scanKey, List.append_nil, trim_callText] at hsplit
    exact readLine_of_splitAssignment htext rfl hsplit (callText_ne_nil name inside)
  | some value =>
    have hvalue : Text.trim (Text.trimEnd (' ' :: value)) = Text.trim value := by
      rw [Text.trim_trimEnd, Text.trim_cons_blank (by decide)]
    have htext : Text.trim (assigned (callText name inside) (some value)) =
        callText name inside ++ ' ' :: '=' :: Text.trimEnd (' ' :: value) := by
      have h := trim_callText_append name inside (c := '=') (by decide) [' '] (' ' :: value)
      simpa [assigned] using h
    have hsplit := splitAssignment_callText_equals hname hinside (Text.trimEnd (' ' :: value))
    rw [hvalue] at hsplit
    exact readLine_of_splitAssignment htext rfl hsplit (callText_ne_nil name inside)

theorem body?_callText (value : Option (List Char)) :
    ∃ v : String, ∀ (n : Nat) (name inside : List Char), (∀ c ∈ name, c ∉ marks) →
      Balanced inside → (lineAt n (assigned (callText name inside) value)).body? =
        some (.invocation (String.ofList (callText name inside)) v) := by
  refine ⟨String.ofList (Text.trim (value.getD [])), fun n name inside hname hinside => ?_⟩
  rw [Line.body?, readLine_callText hname hinside]

end PageOverlay.Sheet
