import PageOverlay.Proofs.Sheet.Collecting

/-!
# What becomes of each line

Every line that is neither blank nor a comment has one outcome. It sets the scope, gives an option a
value, or stands in the sheet as one entry under its own number, unless it imports what an earlier
line does. A line that is not accepted stands there as a faulty command line. All other lines might
as well be missing.
-/

set_option autoImplicit false

namespace PageOverlay.Sheet

section

variable {ls : List Line} {l : Line}

theorem declaration_apart_import (before : List Line) (l : Line) (d : Declaration) (i : Import)
    (hd : declaration? before l = some d) : firstImport? before l ≠ some i := by
  intro hi
  have hread := (declaration?_eq_some.mp hd).1
  rw [(firstImport?_eq_some.mp hi).1] at hread
  cases hread

theorem declaration_apart_command (before : List Line) (l : Line) (d : Declaration)
    (c : CommandLine) (hd : declaration? before l = some d) : command? before l ≠ some c := by
  intro hc
  have hbody := (command?_eq_some.mp hc).1
  simp [Line.body?, (declaration?_eq_some.mp hd).1] at hbody

theorem import_apart_command (before : List Line) (l : Line) (i : Import) (c : CommandLine)
    (hi : firstImport? before l = some i) : command? before l ≠ some c := by
  intro hc
  have hbody := (command?_eq_some.mp hc).1
  simp [Line.body?, (firstImport?_eq_some.mp hi).1] at hbody

theorem collected_numbers_nodup (h : Ascending ls) : (collected ls).numbers.Nodup := by
  have hnodup : ((collect declaration? ls).map (·.line) ++
      (collect firstImport? ls).map (·.line)).Nodup :=
    List.nodup_append.mpr ⟨h.nodup_collect fromLines_declaration, h.nodup_collect fromLines_import,
      fun _ hn _ hm => h.collect_apart fromLines_declaration fromLines_import
        declaration_apart_import hn hm⟩
  refine List.nodup_append.mpr ⟨hnodup, h.nodup_collect fromLines_command, fun n hn m hm => ?_⟩
  rcases List.mem_append.mp hn with hn | hn
  · exact h.collect_apart fromLines_declaration fromLines_command declaration_apart_command hn hm
  · exact h.collect_apart fromLines_import fromLines_command import_apart_command hn hm

theorem import_names_nodup (h : Ascending ls) :
    ((collected ls).imports.map (·.name)).Nodup := by
  refine List.pairwise_map.mpr (List.pairwise_filterMap.mpr ?_)
  refine List.Pairwise.imp_of_mem (fun {k m} hk hm hlt i hi j hj hij => ?_) h
  obtain ⟨hread, -, -⟩ := firstImport?_eq_some.mp hi
  obtain ⟨-, -, hfirst⟩ := firstImport?_eq_some.mp hj
  have hearlier : k ∈ earlier m.number ls := List.mem_filter.mpr ⟨hk, by simpa using hlt⟩
  exact hfirst k hearlier (Line.import?_eq_some.mpr (hij ▸ hread))

end

inductive Outcome
  | scope (name : String)
  | option (key : String) (value : Option String)
  | declared (d : Declaration)
  | imported (i : Import)
  | known (i : Import)
  | command (c : CommandLine)
  deriving DecidableEq, Repr

def entriesAt (s : Sheet) (n : Nat) : List Declaration × List Import × List CommandLine :=
  (s.declarations.filter (·.line = n), s.imports.filter (·.line = n),
    s.commands.filter (·.line = n))

def Outcome.IsOf (ls : List Line) (s : Sheet) (l : Line) : Outcome → Prop
  | .scope name =>
    readLine l = .ok (.scope name) ∧ s.entriesAt l.number = ([], [], []) ∧
      lastScope (earlier (l.number + 1) ls) = name
  | .option key value =>
    readLine l = .ok (.option key value) ∧ s.entriesAt l.number = ([], [], []) ∧
      (key, valuesOf key (givenOptions (earlier l.number ls)) ++ value.toList ++
        valuesOf key (givenOptions (later l.number ls))) ∈ s.options
  | .declared d =>
    readLine l = .ok (.declare d.name d.value d.description) ∧ s.entriesAt l.number = ([d], [], [])
  | .imported i => readLine l = .ok (.importing i.name) ∧ s.entriesAt l.number = ([], [i], [])
  | .known i =>
    readLine l = .ok (.importing i.name) ∧ s.entriesAt l.number = ([], [], []) ∧
      i ∈ s.imports ∧ i.line < l.number
  | .command c => l.body? = some c.body ∧ s.entriesAt l.number = ([], [], [c])

section

variable {ls : List Line} {l : Line}

theorem readLine_ne_nothing (h : l.isSignificant) : readLine l ≠ .ok .nothing := by
  rw [readLine]
  cases hk : l.kind with
  | blank | comment => simp [Line.isSignificant, hk] at h
  | header =>
    simp only [readSection]
    split <;> simp
  | option =>
    simp only [readOption]
    split <;> simp
  | declaration =>
    simp only [readVariable]
    split <;> simp
  | importing =>
    simp only [readImport]
    split <;> simp
  | command | assignment =>
    simp only [readCommand]
    split
    · simp
    · split <;> simp
  | text => simp

theorem entriesAt_collected (h : Ascending ls) (hl : l ∈ ls) :
    (collected ls).entriesAt l.number =
      ((declaration? (earlier l.number ls) l).toList,
        (firstImport? (earlier l.number ls) l).toList,
        (command? (earlier l.number ls) l).toList) := by
  rw [entriesAt, collected, h.filter_collect fromLines_declaration hl,
    h.filter_collect fromLines_import hl, h.filter_collect fromLines_command hl]

theorem earlier_succ (h : Ascending ls) (hl : l ∈ ls) :
    earlier (l.number + 1) ls = earlier l.number ls ++ [l] := by
  have hbefore : ∀ k ∈ earlier l.number ls, k.number < l.number + 1 := by
    intro k hk
    have hlt : k.number < l.number := by simpa using (List.mem_filter.mp hk).2
    omega
  have hafter : ∀ k ∈ later l.number ls, ¬ k.number < l.number + 1 := by
    intro k hk
    have hlt : l.number < k.number := by simpa using (List.mem_filter.mp hk).2
    omega
  rw [earlier]
  conv_lhs => rw [h.split hl]
  rw [List.filter_append, List.filter_cons_of_pos (by simp),
    List.filter_eq_self.mpr (by simpa using hbefore),
    List.filter_eq_nil_iff.mpr (by simpa using hafter)]

theorem mem_options_collected (h : Ascending ls) (hl : l ∈ ls) {key : String}
    {value : Option String} (hread : readLine l = .ok (.option key value)) :
    (key, valuesOf key (givenOptions (earlier l.number ls)) ++ value.toList ++
      valuesOf key (givenOptions (later l.number ls))) ∈ (collected ls).options := by
  have hoption : l.option? = some (key, value) := by rw [Line.option?, hread]
  have hgiven : givenOptions ls = givenOptions (earlier l.number ls) ++
      ([(key, value)] ++ givenOptions (later l.number ls)) := by
    conv_lhs => rw [h.split hl]
    rw [givenOptions, List.filterMap_append, List.filterMap_cons, hoption]
    rfl
  have hmem : (key, valuesOf key (givenOptions ls)) ∈ gathered (givenOptions ls) :=
    mem_gathered (by simp [hgiven])
  have hvalues : valuesOf key (givenOptions ls) =
      valuesOf key (givenOptions (earlier l.number ls)) ++ value.toList ++
        valuesOf key (givenOptions (later l.number ls)) := by
    rw [hgiven, valuesOf_append, valuesOf_append, valuesOf_singleton, if_pos rfl, List.append_assoc]
  rwa [← hvalues]

theorem earlier_earlier {m n : Nat} (h : m ≤ n) (ls : List Line) :
    earlier m (earlier n ls) = earlier m ls := by
  rw [earlier, earlier, earlier, List.filter_filter]
  refine List.filter_congr fun k _ => ?_
  rw [Bool.eq_iff_iff]
  simp only [Bool.and_eq_true, decide_eq_true_eq]
  omega

/-- What an earlier line imports is recorded at the first one that does. -/
theorem exists_known_import (h : Ascending ls) {name : String} {n : Nat}
    (hknown : ∃ k ∈ earlier n ls, k.import? = some name) :
    ∃ i ∈ (collected ls).imports, i.name = name ∧ i.line < n := by
  have hearlier : Ascending (earlier n ls) := h.sublist List.filter_sublist
  have hany : (collect firstImport? (earlier n ls)).any (·.name = name) := by
    rw [hearlier.any_imports, List.any_eq_true]
    simpa using hknown
  obtain ⟨i, hi, hname⟩ := List.any_eq_true.mp hany
  obtain ⟨k, hk, hkn, hfirst⟩ := (mem_collect fromLines_import).mp hi
  obtain ⟨hk, hlt⟩ := List.mem_filter.mp hk
  have hline : i.line < n := by simpa [hkn] using hlt
  rw [earlier_earlier (Nat.le_of_lt hline)] at hfirst
  exact ⟨i, (mem_collect fromLines_import).mpr ⟨k, hk, hkn, hfirst⟩, by simpa using hname, hline⟩

/-- What becomes of a significant line. -/
theorem exists_outcome (h : Ascending ls) (hl : l ∈ ls) (hs : l.isSignificant) :
    ∃ o : Outcome, o.IsOf ls (collected ls) l := by
  have hentries := entriesAt_collected h hl
  rw [declaration?, firstImport?, Line.import?, command?, Line.body?] at hentries
  cases hread : readLine l with
  | error fault =>
    rw [hread] at hentries
    exact ⟨.command ⟨l.number, _, .faulty fault⟩, by rw [Line.body?, hread], hentries⟩
  | ok entry =>
    rw [hread] at hentries
    cases entry with
    | nothing => exact absurd hread (readLine_ne_nothing hs)
    | scope name =>
      refine ⟨.scope name, hread, hentries, ?_⟩
      rw [earlier_succ h hl, lastScope_concat, Line.scope?, hread]
      rfl
    | option key value =>
      exact ⟨.option key value, hread, hentries, mem_options_collected h hl hread⟩
    | declare name value description =>
      exact ⟨.declared ⟨name, value, description, _, l.number⟩, hread, hentries⟩
    | importing name =>
      rw [Option.bind_some] at hentries
      cases hknown : (earlier l.number ls).any (·.import? = some name) with
      | true =>
        obtain ⟨i, hi, rfl, hlt⟩ := exists_known_import h (by simpa using hknown)
        rw [hknown] at hentries
        exact ⟨.known i, hread, hentries, hi, hlt⟩
      | false =>
        rw [hknown] at hentries
        exact ⟨.imported ⟨name, l.number⟩, hread, hentries⟩
    | command key value =>
      exact ⟨.command ⟨l.number, _, .invocation key value⟩, by rw [Line.body?, hread], hentries⟩

theorem Outcome.IsOf.unique {s : Sheet} (hnames : (s.imports.map (·.name)).Nodup) {o o' : Outcome}
    (h : o.IsOf ls s l) (h' : o'.IsOf ls s l) : o = o' := by
  -- two outcomes of one line agree in how the line is read and in what stands under its number
  cases o with
  | known i =>
    cases o' with
    | known j =>
      obtain ⟨hi, -, hmem, -⟩ := h
      obtain ⟨hj, -, hmem', -⟩ := h'
      have hname : i.name = j.name := by simpa using hi.symm.trans hj
      rw [List.inj_on_of_nodup_map hnames hmem hmem' hname]
    | _ => simp_all [Outcome.IsOf, Line.body?]
  | _ => cases o' <;> simp_all [Outcome.IsOf, Line.body?]

end

structure Accounts (ls : List Line) (s : Sheet) : Prop where
  ascending : Ascending ls
  outcome : ∀ l ∈ ls, l.isSignificant → ∃! o : Outcome, o.IsOf ls s l
  origin : ∀ n ∈ s.numbers, ∃ l ∈ ls, l.isSignificant ∧ l.number = n
  options : s.options = gathered (givenOptions ls)
  declarations : s.declarations.Pairwise fun a b => a.line < b.line
  imports : s.imports.Pairwise fun a b => a.line < b.line
  commands : s.commands.Pairwise fun a b => a.line < b.line
  numbers : s.numbers.Nodup
  names : (s.imports.map (·.name)).Nodup
  declaration_scope : ∀ d ∈ s.declarations, d.scope = lastScope (earlier d.line ls)
  command_scope : ∀ c ∈ s.commands, c.scope = lastScope (earlier c.line ls)

theorem exists_line_of_number {ls : List Line} {n : Nat} (hn : n ∈ (collected ls).numbers) :
    ∃ l ∈ ls, l.isSignificant ∧ l.number = n := by
  rcases List.mem_append.mp hn with hn | hn
  · rcases List.mem_append.mp hn with hn | hn
    · exact exists_significant fromLines_declaration hn
    · exact exists_significant fromLines_import hn
  · exact exists_significant fromLines_command hn

theorem accounts_collected {ls : List Line} (h : Ascending ls) : Accounts ls (collected ls) where
  ascending := h
  outcome l hl hs := by
    obtain ⟨o, ho⟩ := exists_outcome h hl hs
    exact ⟨o, ho, fun o' ho' => ho'.unique (import_names_nodup h) ho⟩
  origin n hn := exists_line_of_number hn
  options := rfl
  declarations := h.collect_ascends fromLines_declaration
  imports := h.collect_ascends fromLines_import
  commands := h.collect_ascends fromLines_command
  numbers := collected_numbers_nodup h
  names := import_names_nodup h
  declaration_scope d hd := by
    obtain ⟨l, -, -, hd⟩ := (mem_collect fromLines_declaration).mp hd
    exact (declaration?_eq_some.mp hd).2.1
  command_scope c hc := by
    obtain ⟨l, -, -, hc⟩ := (mem_collect fromLines_command).mp hc
    exact (command?_eq_some.mp hc).2.1

def ignorable (source : String) : List Nat :=
  ((lines source.toList).filter (!·.isSignificant)).map (·.number)

theorem not_significant_of_mem_ignorable {source : String} {l : Line} (hl : l ∈ lines source.toList)
    (h : l.number ∈ ignorable source) : l.isSignificant = false := by
  obtain ⟨k, hk, hn⟩ := List.mem_map.mp h
  obtain ⟨hk, hs⟩ := List.mem_filter.mp hk
  obtain rfl := (ascending_lines _).eq_of_number hk hl hn
  simpa using hs

/-- Every line of a text has its one outcome, whatever the text is, and blank lines and comments
count for nothing but the numbers of the lines after them. -/
theorem read_accounts (source : String) :
    Accounts (lines source.toList) (read source) ∧
      ∃ f : Nat → Nat, StrictMonoOn f {k | k ∈ (read source).numbers} ∧
        read (without (ignorable source) source) = (read source).renumber f := by
  have haccounts : Accounts (lines source.toList) (read source) := by
    rw [read_eq_collected]
    exact accounts_collected (ascending_lines _)
  refine ⟨haccounts, ?_⟩
  have hdrop : ∀ l ∈ lines source.toList, l.number ∈ ignorable source →
      l.isSignificant → l.body?.isSome := fun l hl hn hs => by
    rw [not_significant_of_mem_ignorable hl hn] at hs
    cases hs
  obtain ⟨f, hmono, hread⟩ := read_without hdrop
  have hkept : (read source).withoutCommands (fun n => (ignorable source).contains n) =
      read source := by
    have hall : (read source).commands.filter (fun c => !(ignorable source).contains c.line) =
        (read source).commands := List.filter_eq_self.mpr fun c hc => by
      obtain ⟨l, hl, hs, hn⟩ := haccounts.origin c.line (line_mem_of_command hc)
      have hnot : c.line ∉ ignorable source := fun hmem => by
        rw [not_significant_of_mem_ignorable hl (hn ▸ hmem)] at hs
        cases hs
      simpa using hnot
    rw [withoutCommands, hall]
  rw [hkept] at hmono hread
  exact ⟨f, hmono, hread⟩

example : without (ignorable "# a\n[b\n\n+c\n+c") "# a\n[b\n\n+c\n+c" = "[b\n+c\n+c" ∧
    read "[b\n+c\n+c" =
      { commands := [⟨1, "", .faulty (.unexpected "[b")⟩], imports := [⟨"c", 2⟩] } := by
  decide +kernel

end PageOverlay.Sheet
