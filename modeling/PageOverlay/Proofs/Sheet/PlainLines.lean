import PageOverlay.Proofs.Sheet.LineBreaks
import PageOverlay.Proofs.Text.Trimming
import PageOverlay.Sheet.Basic

/-!
# Plain lines

A plain line names a text and what stands in its place. Equals signs of the text are escaped, and
nothing else is. Reading such lines gives one command line for each, with the two texts as they
were.
-/

set_option autoImplicit false

namespace PageOverlay.Sheet

def escapeEquals : List Char → List Char
  | [] => []
  | c :: cs => if c = '=' then '\\' :: '=' :: escapeEquals cs else c :: escapeEquals cs

def plainLine (search replacement : List Char) : List Char :=
  escapeEquals search ++ ' ' :: '=' :: ' ' :: replacement

def leadingMarks : List Char := ['#', ';', '[', '@', '+', '!']

/-- Two texts that a plain line holds. Placeholders and line breaks are not for plain lines, and
the text that is looked for has no backslash of its own. -/
structure IsPlain (search replacement : List Char) : Prop where
  nonempty : search ≠ []
  trimmed : Text.trim search = search
  searched : ∀ c ∈ search, c ≠ '\\' ∧ c ≠ '$' ∧ c ≠ '\r' ∧ c ≠ '\n'
  first : ∀ c ∈ search.head?, c ∉ leadingMarks
  replacementTrimmed : Text.trim replacement = replacement
  replaced : ∀ c ∈ replacement, c ≠ '$' ∧ c ≠ '\r' ∧ c ≠ '\n'

theorem mem_escapeEquals {c : Char} {cs : List Char} (h : c ∈ escapeEquals cs) :
    c = '\\' ∨ c ∈ cs := by
  induction cs with
  | nil => simp [escapeEquals] at h
  | cons d ds ih =>
    rw [escapeEquals] at h
    split at h <;> grind

/-- What cuts in `rest` cuts at the same place after an escaped text. -/
theorem scanKey_escapeEquals {cs : List Char} (h : '\\' ∉ cs) (rest : List Char) :
    scanKey false 0 none (escapeEquals cs ++ rest) =
      (cs ++ (scanKey false 0 none rest).1, (scanKey false 0 none rest).2) := by
  induction cs with
  | nil => rfl
  | cons c cs ih =>
    obtain ⟨hc, hcs⟩ : '\\' ≠ c ∧ '\\' ∉ cs := by simpa using h
    rw [escapeEquals]
    split
    · next he =>
      subst he
      simp [scanKey, ih hcs]
    · next he =>
      rw [List.cons_append, scanKey]
      · simp [he, ih hcs]
      · intro hb
        exact absurd hb.symm hc
      · intro _ _ hb
        exact absurd hb.symm hc

theorem escapeEquals_of_not_mem {cs : List Char} (h : '=' ∉ cs) : escapeEquals cs = cs := by
  induction cs with
  | nil => rfl
  | cons c cs ih =>
    obtain ⟨hc, hcs⟩ : '=' ≠ c ∧ '=' ∉ cs := by simpa using h
    rw [escapeEquals, if_neg (Ne.symm hc), ih hcs]

theorem splitAssignment_of_scanKey {c : Char} {cs key : List Char} {value : Option (List Char)}
    (hc : c ≠ '!') (h : scanKey false 0 none (c :: cs) = (key, value)) :
    splitAssignment (c :: cs) = (Text.trim key, value.map Text.trim) := by
  have hb : (some c == some '!') = false := by simpa using hc
  rw [Sheet.splitAssignment, List.head?_cons, hb, h]
  intro _ he
  exact absurd (List.cons.inj he).1 hc

theorem head_escapeEquals (c : Char) (cs : List Char) :
    ∃ d ds, escapeEquals (c :: cs) = d :: ds ∧ (d = '\\' ∨ d = c) := by
  rw [escapeEquals]
  split
  · exact ⟨_, _, rfl, Or.inl rfl⟩
  · exact ⟨_, _, rfl, Or.inr rfl⟩

structure IsKey (key : List Char) : Prop where
  nonempty : key ≠ []
  trimmed : Text.trim key = key
  unescaped : '\\' ∉ key
  first : key.head? ≠ some '!'

namespace IsKey

variable {key : List Char}

theorem head (h : IsKey key) :
    ∃ d ds, escapeEquals key = d :: ds ∧ Text.isBlank d = false ∧ d ≠ '!' ∧
      (d = '\\' ∨ d ∈ key.head?) := by
  obtain ⟨c, cs, rfl⟩ := List.exists_cons_of_ne_nil h.nonempty
  obtain ⟨d, ds, he, rfl | rfl⟩ := head_escapeEquals c cs
  · exact ⟨_, ds, he, by decide, by decide, .inl rfl⟩
  · exact ⟨_, ds, he, Text.not_blank_of_trim h.trimmed, by simpa using h.first, .inr rfl⟩

theorem trim_line (h : IsKey key) (value : List Char) :
    Text.trim (plainLine key value) =
      escapeEquals key ++ ' ' :: '=' :: Text.trimEnd (' ' :: value) := by
  obtain ⟨d, ds, he, hblank, -⟩ := h.head
  have hsplit := Text.trimEnd_append_cons (c := '=') (by decide) (escapeEquals key ++ [' '])
    (' ' :: value)
  rw [Text.trim, plainLine, he, List.cons_append, Text.trimStart_cons hblank,
    ← List.cons_append, ← he]
  simpa using hsplit

theorem splitAssignment (h : IsKey key) (value : List Char) :
    splitAssignment (Text.trim (plainLine key value)) = (key, some (Text.trim value)) := by
  obtain ⟨d, ds, he, -, hd, -⟩ := h.head
  have hscan (rest : List Char) :
      scanKey false 0 none (escapeEquals key ++ ' ' :: '=' :: rest) =
        (key ++ [' '], some rest) := by
    rw [scanKey_escapeEquals h.unescaped]
    simp [scanKey]
  have hkey : Text.trim (key ++ [' ']) = key := Text.trim_append_blank h.trimmed (by decide)
  have hvalue : Text.trim (Text.trimEnd (' ' :: value)) = Text.trim value := by
    rw [Text.trim_trimEnd, Text.trim_cons_blank (by decide)]
  rw [h.trim_line]
  have hs := hscan (Text.trimEnd (' ' :: value))
  rw [he, List.cons_append] at hs ⊢
  rw [splitAssignment_of_scanKey hd hs, hkey, Option.map_some, hvalue]

theorem splitAssignment_alone (h : IsKey key) (hequals : '=' ∉ key) :
    Sheet.splitAssignment key = (key, none) := by
  have hscan := scanKey_escapeEquals h.unescaped []
  rw [List.append_nil, escapeEquals_of_not_mem hequals, scanKey, List.append_nil] at hscan
  have htrim := h.trimmed
  obtain ⟨c, cs, rfl⟩ := List.exists_cons_of_ne_nil h.nonempty
  rw [splitAssignment_of_scanKey (by simpa using h.first) hscan, htrim]
  rfl

end IsKey

theorem kindOf_assignment {d : Char} {ds : List Char} (hm : d ∉ leadingMarks) (hd : d ≠ '$')
    (he : '=' ∈ d :: ds) : kindOf (d :: ds) = .assignment := by
  simp only [leadingMarks, List.mem_cons, List.not_mem_nil, or_false, not_or] at hm
  have hc : (d :: ds).contains '=' = true := List.contains_iff_mem.mpr he
  simp only [kindOf, hm, hd, hc]
  simp

theorem IsKey.readLine {search : List Char} (h : IsKey search)
    (hfirst : ∀ c ∈ search.head?, c ∉ leadingMarks ∧ c ≠ '$') (replacement : List Char) (n : Nat) :
    readLine { number := n, kind := kindOf (Text.trim (plainLine search replacement)),
               text := Text.trim (plainLine search replacement) } =
      .ok (.command (String.ofList search) (String.ofList (Text.trim replacement))) := by
  have hkind : kindOf (Text.trim (plainLine search replacement)) = .assignment := by
    obtain ⟨d, ds, he, -, -, hd⟩ := h.head
    have hmarks : d ∉ leadingMarks ∧ d ≠ '$' := by
      rcases hd with rfl | hd
      · decide
      · exact hfirst d hd
    rw [h.trim_line, he, List.cons_append]
    exact kindOf_assignment hmarks.1 hmarks.2 (by simp)
  have hne : search.isEmpty = false := by simpa using h.nonempty
  simp [Sheet.readLine, hkind, readCommand, h.splitAssignment, hne]

variable {search replacement : List Char}

theorem IsPlain.isKey (h : IsPlain search replacement) : IsKey search where
  nonempty := h.nonempty
  trimmed := h.trimmed
  unescaped := fun hm => (h.searched _ hm).1 rfl
  first := fun hfirst => h.first _ hfirst (by simp [leadingMarks])

theorem IsPlain.readLine (h : IsPlain search replacement) (n : Nat) :
    readLine { number := n, kind := kindOf (Text.trim (plainLine search replacement)),
               text := Text.trim (plainLine search replacement) } =
      .ok (.command (String.ofList search) (String.ofList replacement)) := by
  have hfirst : ∀ c ∈ search.head?, c ∉ leadingMarks ∧ c ≠ '$' :=
    fun c hc => ⟨h.first c hc, (h.searched c (List.mem_of_mem_head? hc)).2.1⟩
  rw [h.isKey.readLine hfirst, h.replacementTrimmed]

theorem IsPlain.unbroken (h : IsPlain search replacement) :
    IsUnbroken (plainLine search replacement) := by
  intro c hc
  simp only [plainLine, List.mem_append, List.mem_cons] at hc
  rcases hc with hc | rfl | rfl | rfl | hc
  · rcases mem_escapeEquals hc with rfl | hs
    · decide
    · exact (h.searched c hs).2.2
  · decide
  · decide
  · decide
  · exact (h.replaced c hc).2

def plainCommands : Nat → List (List Char × List Char) → List CommandLine
  | _, [] => []
  | n, (s, r) :: rest =>
    { line := n, scope := "", body := .invocation (String.ofList s) (String.ofList r) } ::
      plainCommands (n + 1) rest

def plainSource (sep : List Char) (pairs : List (List Char × List Char)) : String :=
  String.ofList (Text.joinWith sep (pairs.map fun p => plainLine p.1 p.2))

theorem foldl_step_plain (pairs : List (List Char × List Char))
    (h : ∀ p ∈ pairs, IsPlain p.1 p.2) (n : Nat) (commands : List CommandLine) :
    (number n (pairs.map fun p => plainLine p.1 p.2)).foldl Reading.step
        { sheet := { commands } } =
      { sheet := { commands := commands ++ plainCommands n pairs } } := by
  induction pairs generalizing n commands with
  | nil => simp [number, plainCommands]
  | cons p pairs ih =>
    have hp := (h p (by simp)).readLine n
    rw [List.map_cons, number, List.foldl_cons, Reading.step, hp]
    simp only [Reading.add, Reading.addCommand]
    rw [ih (fun q hq => h q (by simp [hq])), plainCommands, List.append_assoc]
    rfl

/-- Plain lines are read as the command lines that they were written for. -/
theorem read_plainSource {sep : List Char} (hsep : sep ∈ lineBreaks)
    (pairs : List (List Char × List Char)) (h : ∀ p ∈ pairs, IsPlain p.1 p.2) :
    read (plainSource sep pairs) = { commands := plainCommands 1 pairs } := by
  cases pairs with
  | nil => rfl
  | cons p rest =>
    have hlines : ∀ l ∈ (p :: rest).map fun p => plainLine p.1 p.2, IsUnbroken l := by
      intro l hl
      obtain ⟨q, hq, rfl⟩ := List.mem_map.mp hl
      exact (h q hq).unbroken
    have hsplit := splitLines_joinWith hsep (by simp) hlines
    have hfold := foldl_step_plain (p :: rest) h 1 []
    rw [read, plainSource, String.toList_ofList, lines, hsplit, ofLines]
    exact congrArg Reading.sheet hfold

end PageOverlay.Sheet
