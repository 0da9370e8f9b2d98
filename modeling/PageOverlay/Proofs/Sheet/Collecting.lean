import PageOverlay.Proofs.Sheet.Options
import PageOverlay.Proofs.Sheet.Renumbering

/-!
# What a sheet collects

What a line adds to the sheet depends on the lines before it: on the last header among them that was
accepted, and on whether they import the same name. Read line by line, a sheet is the collection of
what all lines add, each of them judged by the lines before it.
-/

set_option autoImplicit false

namespace PageOverlay.Sheet

namespace Line

def scope? (l : Line) : Option String :=
  match readLine l with
  | .ok (.scope name) => some name
  | _ => none

def option? (l : Line) : Option (String × Option String) :=
  match readLine l with
  | .ok (.option key value) => some (key, value)
  | _ => none

def import? (l : Line) : Option String :=
  match readLine l with
  | .ok (.importing name) => some name
  | _ => none

end Line

def lastScope (ls : List Line) : String := (ls.filterMap Line.scope?).getLast?.getD ""

def declaration? (before : List Line) (l : Line) : Option Declaration :=
  match readLine l with
  | .ok (.declare name value description) =>
    some { name, value, description, scope := lastScope before, line := l.number }
  | _ => none

def firstImport? (before : List Line) (l : Line) : Option Import :=
  l.import?.bind fun name =>
    if before.any (·.import? = some name) then none else some { name, line := l.number }

def command? (before : List Line) (l : Line) : Option CommandLine :=
  l.body?.map fun body => { line := l.number, scope := lastScope before, body }

def earlier (n : Nat) (ls : List Line) : List Line := ls.filter (·.number < n)

def later (n : Nat) (ls : List Line) : List Line := ls.filter (n < ·.number)

/-- What each line adds, given the lines before it. -/
def collect {α : Type} (add : List Line → Line → Option α) (ls : List Line) : List α :=
  ls.filterMap fun l => add (earlier l.number ls) l

def givenOptions (ls : List Line) : List (String × Option String) := ls.filterMap Line.option?

def collected (ls : List Line) : Sheet where
  options := gathered (givenOptions ls)
  declarations := collect declaration? ls
  imports := collect firstImport? ls
  commands := collect command? ls

section

variable {ls : List Line} {l : Line}

theorem Ascending.split (h : Ascending ls) (hl : l ∈ ls) :
    ls = earlier l.number ls ++ l :: later l.number ls := by
  obtain ⟨before, after, rfl⟩ := List.append_of_mem hl
  obtain ⟨-, hrest, hcross⟩ := List.pairwise_append.mp h
  have hafter := (List.pairwise_cons.mp hrest).1
  have hbefore : ∀ a ∈ before, a.number < l.number :=
    fun a ha => hcross a ha l List.mem_cons_self
  have hearlier : earlier l.number (before ++ l :: after) = before := by
    rw [earlier, List.filter_append, List.filter_eq_self.mpr (by simpa using hbefore),
      List.filter_cons_of_neg (by simp), List.filter_eq_nil_iff.mpr, List.append_nil]
    exact fun a ha => by simpa using Nat.le_of_lt (hafter a ha)
  have hlater : later l.number (before ++ l :: after) = after := by
    rw [later, List.filter_append, List.filter_cons_of_neg (by simp), List.filter_eq_nil_iff.mpr,
      List.nil_append, List.filter_eq_self.mpr (by simpa using hafter)]
    exact fun a ha => by simpa using Nat.le_of_lt (hbefore a ha)
  rw [hearlier, hlater]

theorem Ascending.of_concat (h : Ascending (ls ++ [l])) :
    Ascending ls ∧ ∀ k ∈ ls, k.number < l.number := by
  obtain ⟨hls, -, hcross⟩ := List.pairwise_append.mp h
  exact ⟨hls, fun k hk => hcross k hk l (by simp)⟩

theorem Ascending.collect_concat {α : Type} (h : Ascending (ls ++ [l]))
    (add : List Line → Line → Option α) :
    collect add (ls ++ [l]) = collect add ls ++ (add ls l).toList := by
  obtain ⟨-, hbelow⟩ := h.of_concat
  have hself : earlier l.number (ls ++ [l]) = ls := by
    rw [earlier, List.filter_append, List.filter_eq_self.mpr (by simpa using hbelow)]
    simp
  have hold : ∀ k ∈ ls, earlier k.number (ls ++ [l]) = earlier k.number ls := by
    intro k hk
    have hk := Nat.le_of_lt (hbelow k hk)
    rw [earlier, List.filter_append, List.filter_cons_of_neg (by simpa using hk), List.filter_nil,
      List.append_nil, earlier]
  have hsame : (ls.filterMap fun k => add (earlier k.number (ls ++ [l])) k) = collect add ls :=
    List.filterMap_congr fun k hk => by rw [hold k hk]
  rw [collect, List.filterMap_append, hsame, List.filterMap_cons, List.filterMap_nil, hself]
  cases add ls l <;> rfl

theorem lastScope_concat (ls : List Line) (l : Line) :
    lastScope (ls ++ [l]) = l.scope?.getD (lastScope ls) := by
  rw [lastScope, List.filterMap_append, List.filterMap_cons]
  cases l.scope? <;> simp [lastScope]

theorem Ascending.any_imports (h : Ascending ls) (name : String) :
    (collect firstImport? ls).any (·.name = name) = ls.any (·.import? = some name) := by
  induction ls using List.reverseRecOn with
  | nil => rfl
  | append_singleton ls l ih =>
    rw [h.collect_concat, List.any_append, List.any_append, ih h.of_concat.1, firstImport?]
    cases hl : l.import? with
    | none => simp [hl]
    | some other =>
      cases hknown : ls.any (·.import? = some other) with
      | false => simp [hl, hknown, -List.any_eq_true]
      | true =>
        by_cases hsame : other = name
        · simp [← hsame, hknown, -List.any_eq_true]
        · simp [hl, hknown, hsame, -List.any_eq_true]

theorem Ascending.step_collected (h : Ascending (ls ++ [l])) :
    Reading.step { scope := lastScope ls, sheet := collected ls } l =
      { scope := lastScope (ls ++ [l]), sheet := collected (ls ++ [l]) } := by
  have hoptions : givenOptions (ls ++ [l]) = givenOptions ls ++ l.option?.toList :=
    h.collect_concat fun _ => Line.option?
  rw [lastScope_concat, collected, collected, hoptions, h.collect_concat, h.collect_concat,
    h.collect_concat, Reading.step, Line.scope?, Line.option?, declaration?, firstImport?,
    Line.import?, command?, Line.body?]
  cases readLine l with
  | error fault => simp [Reading.addCommand]
  | ok entry =>
    cases entry with
    | importing name =>
      have hknown := h.of_concat.1.any_imports name
      cases hk : ls.any (·.import? = some name) <;>
        simp [Reading.add, hknown, hk, -List.any_eq_true]
    | option key value => simp [Reading.add, gathered_concat]
    | _ => simp [Reading.add, Reading.addCommand]

end

theorem foldl_step {ls : List Line} (h : Ascending ls) :
    ls.foldl Reading.step {} = { scope := lastScope ls, sheet := collected ls } := by
  -- on the last line, since what it adds depends on all lines before it
  induction ls using List.reverseRecOn with
  | nil => rfl
  | append_singleton ls l ih =>
    rw [List.foldl_append, ih h.of_concat.1, List.foldl_cons, List.foldl_nil, h.step_collected]

theorem read_eq_collected (source : String) : read source = collected (lines source.toList) := by
  rw [read, ofLines, foldl_step (ascending_lines _)]

section

variable {ls before : List Line} {l : Line}

theorem declaration?_eq_some {d : Declaration} :
    declaration? before l = some d ↔
      readLine l = .ok (.declare d.name d.value d.description) ∧ d.scope = lastScope before ∧
        d.line = l.number := by
  obtain ⟨name, value, description, scope, line⟩ := d
  rw [declaration?]
  split <;> grind

theorem Line.import?_eq_some {name : String} :
    l.import? = some name ↔ readLine l = .ok (.importing name) := by
  rw [Line.import?]
  split <;> grind

theorem firstImport?_eq_some {i : Import} :
    firstImport? before l = some i ↔
      readLine l = .ok (.importing i.name) ∧ i.line = l.number ∧
        ∀ k ∈ before, k.import? ≠ some i.name := by
  rw [← Line.import?_eq_some, firstImport?, Option.bind_eq_some_iff]
  constructor
  · rintro ⟨name, hname, h⟩
    split at h
    · cases h
    · next hfirst =>
      obtain rfl := Option.some.inj h
      exact ⟨hname, rfl, by simpa using hfirst⟩
  · rintro ⟨hname, hline, hfirst⟩
    refine ⟨i.name, hname, ?_⟩
    rw [if_neg (by simpa using hfirst), ← hline]

theorem command?_eq_some {c : CommandLine} :
    command? before l = some c ↔
      l.body? = some c.body ∧ c.scope = lastScope before ∧ c.line = l.number := by
  obtain ⟨line, scope, body⟩ := c
  rw [command?, Option.map_eq_some_iff]
  grind

/-- What is added stands under the number of its line, and blank lines and comments add nothing. -/
structure FromLines {α : Type} (add : List Line → Line → Option α) (line : α → Nat) : Prop where
  number : ∀ before l a, add before l = some a → line a = l.number
  significant : ∀ before l a, add before l = some a → l.isSignificant

theorem isSignificant_of_readLine (h : readLine l ≠ .ok .nothing) : l.isSignificant := by
  cases hs : l.isSignificant with
  | true => rfl
  | false => exact absurd (readLine_of_ignorable hs) h

theorem fromLines_declaration : FromLines declaration? Declaration.line where
  number _ _ _ h := (declaration?_eq_some.mp h).2.2
  significant _ _ _ h := isSignificant_of_readLine (by simp [(declaration?_eq_some.mp h).1])

theorem fromLines_import : FromLines firstImport? Import.line where
  number _ _ _ h := (firstImport?_eq_some.mp h).2.1
  significant _ _ _ h := isSignificant_of_readLine (by simp [(firstImport?_eq_some.mp h).1])

theorem fromLines_command : FromLines command? CommandLine.line where
  number _ _ _ h := (command?_eq_some.mp h).2.2
  significant _ _ _ h := isSignificant_of_readLine fun hread => by
    have hbody := (command?_eq_some.mp h).1
    simp [Line.body?, hread] at hbody

variable {α β : Type} {add : List Line → Line → Option α} {line : α → Nat}

theorem mem_collect (ha : FromLines add line) {a : α} :
    a ∈ collect add ls ↔
      ∃ l ∈ ls, l.number = line a ∧ add (earlier (line a) ls) l = some a := by
  rw [collect, List.mem_filterMap]
  refine exists_congr fun l => and_congr_right fun _ => ?_
  constructor
  · intro h
    have hn := ha.number _ _ _ h
    exact ⟨hn.symm, by rwa [hn]⟩
  · rintro ⟨hn, h⟩
    rwa [hn]

theorem exists_significant (ha : FromLines add line) {n : Nat}
    (hn : n ∈ (collect add ls).map line) :
    ∃ l ∈ ls, l.isSignificant ∧ l.number = n := by
  obtain ⟨a, hmem, rfl⟩ := List.mem_map.mp hn
  obtain ⟨l, hl, hline, hadd⟩ := (mem_collect ha).mp hmem
  exact ⟨l, hl, ha.significant _ _ _ hadd, hline⟩

theorem Ascending.collect_ascends (h : Ascending ls) (ha : FromLines add line) :
    (collect add ls).Pairwise fun a b => line a < line b := by
  refine List.pairwise_filterMap.mpr (h.imp fun hlt a hka b hlb => ?_)
  rw [ha.number _ _ _ hka, ha.number _ _ _ hlb]
  exact hlt

theorem Ascending.nodup_collect (h : Ascending ls) (ha : FromLines add line) :
    ((collect add ls).map line).Nodup :=
  List.pairwise_map.mpr ((h.collect_ascends ha).imp fun hlt => Nat.ne_of_lt hlt)

theorem Ascending.collect_apart (h : Ascending ls) {add' : List Line → Line → Option β}
    {line' : β → Nat} (ha : FromLines add line) (ha' : FromLines add' line')
    (hapart : ∀ before l a b, add before l = some a → add' before l ≠ some b) {n m : Nat}
    (hn : n ∈ (collect add ls).map line) (hm : m ∈ (collect add' ls).map line') : n ≠ m := by
  obtain ⟨a, hmem, rfl⟩ := List.mem_map.mp hn
  obtain ⟨b, hmem', rfl⟩ := List.mem_map.mp hm
  obtain ⟨k, hk, hkn, hadd⟩ := (mem_collect ha).mp hmem
  obtain ⟨l, hl, hln, hadd'⟩ := (mem_collect ha').mp hmem'
  intro heq
  obtain rfl := h.eq_of_number hk hl (by rw [hkn, hln, heq])
  rw [← heq] at hadd'
  exact hapart _ k a b hadd hadd'

theorem Ascending.filterMap_single (h : Ascending ls) (hl : l ∈ ls) {g : Line → Option α}
    (hg : ∀ k ∈ ls, k.number ≠ l.number → g k = none) : ls.filterMap g = (g l).toList := by
  have hbefore : (earlier l.number ls).filterMap g = [] := by
    refine List.filterMap_eq_nil_iff.mpr fun k hk => ?_
    obtain ⟨hk, hlt⟩ := List.mem_filter.mp hk
    exact hg k hk (by simp at hlt; omega)
  have hafter : (later l.number ls).filterMap g = [] := by
    refine List.filterMap_eq_nil_iff.mpr fun k hk => ?_
    obtain ⟨hk, hlt⟩ := List.mem_filter.mp hk
    exact hg k hk (by simp at hlt; omega)
  rw [h.split hl, List.filterMap_append, List.filterMap_cons, hbefore, hafter]
  cases g l <;> rfl

theorem Ascending.filter_collect (h : Ascending ls) (ha : FromLines add line) (hl : l ∈ ls) :
    (collect add ls).filter (fun a => line a = l.number) =
      (add (earlier l.number ls) l).toList := by
  rw [collect, List.filter_filterMap, h.filterMap_single hl]
  · cases hadd : add (earlier l.number ls) l with
    | none => rfl
    | some a => simp [Option.filter, ha.number _ _ _ hadd]
  · intro k _ hk
    cases hadd : add (earlier k.number ls) k with
    | none => rfl
    | some a => simp [Option.filter, ha.number _ _ _ hadd, hk]

end

theorem commands_read (source : String) :
    (read source).commands.Pairwise (fun a b => a.line < b.line) ∧
      ∀ a ∈ (read source).commands,
        ∃ l ∈ lines source.toList, l.number = a.line ∧ l.body? = some a.body := by
  rw [read_eq_collected]
  refine ⟨(ascending_lines _).collect_ascends fromLines_command, fun a ha => ?_⟩
  obtain ⟨l, hl, hn, hadd⟩ := (mem_collect fromLines_command).mp ha
  exact ⟨l, hl, hn, (command?_eq_some.mp hadd).1⟩

end PageOverlay.Sheet
