import Mathlib.Data.List.Nodup
import PageOverlay.Proofs.Sheet.Deletion

/-!
# Sheets under other line numbers

A line that is not accepted is kept as a command line, and blank lines and comments add nothing. So
what is read from a text without some of these is the sheet without the command lines among them,
and the numbers of the other lines keep their order.
-/

set_option autoImplicit false

namespace PageOverlay

open Sheet (CommandLine Declaration Import)

def Sheet.Declaration.renumber (f : Nat → Nat) (d : Declaration) : Declaration :=
  { d with line := f d.line }

def Sheet.Import.renumber (f : Nat → Nat) (i : Import) : Import := { i with line := f i.line }

def Sheet.CommandLine.renumber (f : Nat → Nat) (c : CommandLine) : CommandLine :=
  { c with line := f c.line }

namespace Sheet

def renumber (f : Nat → Nat) (s : Sheet) : Sheet :=
  { s with
    declarations := s.declarations.map (·.renumber f)
    imports := s.imports.map (·.renumber f)
    commands := s.commands.map (·.renumber f) }

def withoutCommands (drop : Nat → Bool) (s : Sheet) : Sheet :=
  { s with commands := s.commands.filter fun c => !drop c.line }

def numbers (s : Sheet) : List Nat :=
  s.declarations.map (·.line) ++ s.imports.map (·.line) ++ s.commands.map (·.line)

theorem renumber_id (s : Sheet) : s.renumber id = s := by
  have hd : s.declarations.map (·.renumber id) = s.declarations := List.map_id _
  have hi : s.imports.map (·.renumber id) = s.imports := List.map_id _
  have hc : s.commands.map (·.renumber id) = s.commands := List.map_id _
  rw [renumber, hd, hi, hc]

theorem line_mem_of_declaration {s : Sheet} {d : Declaration} (h : d ∈ s.declarations) :
    d.line ∈ s.numbers :=
  List.mem_append_left _ (List.mem_append_left _ (List.mem_map.mpr ⟨d, h, rfl⟩))

theorem line_mem_of_import {s : Sheet} {i : Import} (h : i ∈ s.imports) : i.line ∈ s.numbers :=
  List.mem_append_left _ (List.mem_append_right _ (List.mem_map.mpr ⟨i, h, rfl⟩))

theorem line_mem_of_command {s : Sheet} {c : CommandLine} (h : c ∈ s.commands) :
    c.line ∈ s.numbers :=
  List.mem_append_right _ (List.mem_map.mpr ⟨c, h, rfl⟩)

theorem renumber_congr {s : Sheet} {f g : Nat → Nat} (h : ∀ k ∈ s.numbers, f k = g k) :
    s.renumber f = s.renumber g := by
  have hd : ∀ d ∈ s.declarations, d.renumber f = d.renumber g := fun d hd => by
    rw [Declaration.renumber, h d.line (line_mem_of_declaration hd), Declaration.renumber]
  have hi : ∀ i ∈ s.imports, i.renumber f = i.renumber g := fun i hi => by
    rw [Import.renumber, h i.line (line_mem_of_import hi), Import.renumber]
  have hc : ∀ c ∈ s.commands, c.renumber f = c.renumber g := fun c hc => by
    rw [CommandLine.renumber, h c.line (line_mem_of_command hc), CommandLine.renumber]
  rw [renumber, renumber, List.map_congr_left hd, List.map_congr_left hi, List.map_congr_left hc]

def lineAt (n : Nat) (l : List Char) : Line :=
  { number := n, kind := kindOf (Text.trim l), text := Text.trim l }

theorem number_cons (n : Nat) (l : List Char) (ls : List (List Char)) :
    number n (l :: ls) = lineAt n l :: number (n + 1) ls := rfl

theorem le_of_mem_number {n : Nat} {ls : List (List Char)} {l : Line} (h : l ∈ number n ls) :
    n ≤ l.number := by
  induction ls generalizing n with
  | nil => cases h
  | cons k ls ih =>
    rcases List.mem_cons.mp h with rfl | h
    · exact Nat.le_refl n
    · exact Nat.le_of_succ_le (ih h)

def Ascending (ls : List Line) : Prop := ls.Pairwise fun a b => a.number < b.number

theorem ascending_number (n : Nat) (ls : List (List Char)) : Ascending (number n ls) := by
  induction ls generalizing n with
  | nil => exact .nil
  | cons l ls ih =>
    rw [number_cons, Ascending, List.pairwise_cons]
    exact ⟨fun m hm => le_of_mem_number hm, ih (n + 1)⟩

theorem ascending_lines (source : List Char) : Ascending (lines source) := ascending_number _ _

theorem Ascending.eq_of_number {ls : List Line} (h : Ascending ls) {k l : Line} (hk : k ∈ ls)
    (hl : l ∈ ls) (hn : k.number = l.number) : k = l := by
  have hnodup : (ls.map (·.number)).Nodup :=
    List.pairwise_map.mpr (h.imp fun hlt => Nat.ne_of_lt hlt)
  exact List.inj_on_of_nodup_map hnodup hk hl hn

def Line.isSignificant (l : Line) : Bool :=
  match l.kind with
  | .blank | .comment => false
  | _ => true

theorem readLine_of_ignorable {l : Line} (h : l.isSignificant = false) :
    readLine l = .ok .nothing := by
  rw [readLine]
  cases hk : l.kind <;> simp_all [Line.isSignificant]

theorem step_of_ignorable {l : Line} (h : l.isSignificant = false) (r : Reading) :
    r.step l = r := by
  rw [Reading.step, readLine_of_ignorable h]
  rfl

def Line.body? (l : Line) : Option CommandBody :=
  match readLine l with
  | .ok (.command key value) => some (.invocation key value)
  | .ok _ => none
  | .error fault => some (.faulty fault)

theorem step_of_command {l : Line} {body : CommandBody} (h : l.body? = some body) (r : Reading) :
    r.step l = r.addCommand l.number body := by
  rw [Line.body?] at h
  rw [Reading.step]
  split at h <;> simp_all [Reading.add]

theorem step_of_entry {l : Line} (h : l.body? = none) :
    ∃ e, readLine l = .ok e ∧ (∀ key value, e ≠ .command key value) ∧
      ∀ r : Reading, r.step l = r.add l.number e := by
  rw [Line.body?] at h
  cases hl : readLine l with
  | error fault => simp [hl] at h
  | ok e =>
    refine ⟨e, rfl, ?_, fun r => by rw [Reading.step, hl]⟩
    rintro key value rfl
    simp [hl] at h

theorem step_of_blank {l : List Char} (h : Text.trim l = []) (n : Nat) (r : Reading) :
    r.step (lineAt n l) = r := step_of_ignorable (by rw [lineAt, h]; rfl) r

namespace Reading

def renumber (drop : Nat → Bool) (f : Nat → Nat) (r : Reading) : Reading :=
  { r with sheet := (r.sheet.withoutCommands drop).renumber f }

variable {drop : Nat → Bool} {f : Nat → Nat} {n m : Nat}

theorem renumber_add (hn : drop n = false) (r : Reading) (e : Entry) :
    (r.renumber drop f).add (f n) e = (r.add n e).renumber drop f := by
  cases e with
  | nothing => rfl
  | scope name => rfl
  | option key value => rfl
  | declare name value description =>
    simp [renumber, Reading.add, Sheet.renumber, withoutCommands, Declaration.renumber]
  | importing name =>
    have hknown : ((r.renumber drop f).sheet.imports.any (·.name = name)) =
        r.sheet.imports.any (·.name = name) := by
      simp [renumber, Sheet.renumber, withoutCommands, Import.renumber, Function.comp_def]
    rw [Reading.add, Reading.add, hknown]
    split
    · rfl
    · simp [renumber, Sheet.renumber, withoutCommands, Import.renumber]
  | command key value =>
    simp [renumber, Reading.add, addCommand, Sheet.renumber, withoutCommands, hn,
      CommandLine.renumber]

theorem renumber_addCommand (hn : drop n = false) (r : Reading) (body : CommandBody) :
    (r.renumber drop f).addCommand (f n) body = (r.addCommand n body).renumber drop f := by
  simp [renumber, addCommand, Sheet.renumber, withoutCommands, hn, CommandLine.renumber]

theorem renumber_addCommand_dropped (hn : drop n) (r : Reading) (body : CommandBody) :
    (r.addCommand n body).renumber drop f = r.renumber drop f := by
  simp [renumber, addCommand, withoutCommands, hn]

theorem renumber_step (hn : drop n = false) (r : Reading) (l : List Char) :
    (r.renumber drop f).step (lineAt (f n) l) = (r.step (lineAt n l)).renumber drop f := by
  have hbody : (lineAt (f n) l).body? = (lineAt n l).body? := rfl
  cases h : (lineAt n l).body? with
  | some body =>
    rw [step_of_command h, step_of_command (hbody.trans h)]
    exact renumber_addCommand hn r body
  | none =>
    obtain ⟨e, he, -, hstep⟩ := step_of_entry h
    have hstep' : (r.renumber drop f).step (lineAt (f n) l) = (r.renumber drop f).add (f n) e := by
      have he' : readLine (lineAt (f n) l) = .ok e := he
      rw [Reading.step, he']
      rfl
    rw [hstep, hstep']
    exact renumber_add hn r e

theorem mem_numbers_addCommand {r : Reading} {body : CommandBody} {k : Nat} :
    k ∈ (r.addCommand n body).sheet.numbers ↔ k ∈ r.sheet.numbers ∨ k = n := by
  simp [addCommand, numbers, or_assoc]

theorem mem_numbers_add {r : Reading} {e : Entry} {k : Nat}
    (hk : k ∈ (r.add n e).sheet.numbers) : k ∈ r.sheet.numbers ∨ k = n := by
  cases e with
  | nothing => exact .inl hk
  | scope name => exact .inl hk
  | option key value => exact .inl hk
  | declare name value description =>
    simp only [Reading.add, numbers, List.map_append, List.map_cons, List.map_nil, List.mem_append,
      List.mem_singleton] at hk ⊢
    grind
  | importing name =>
    rw [Reading.add] at hk
    split at hk
    · exact .inl hk
    · simp only [numbers, List.map_append, List.map_cons, List.map_nil, List.mem_append,
        List.mem_singleton] at hk ⊢
      grind
  | command key value => exact mem_numbers_addCommand.mp hk

theorem mem_numbers_step {r : Reading} {l : Line} {k : Nat} (hk : k ∈ (r.step l).sheet.numbers) :
    k ∈ r.sheet.numbers ∨ k = l.number := by
  cases h : l.body? with
  | some body =>
    rw [step_of_command h] at hk
    exact mem_numbers_addCommand.mp hk
  | none =>
    obtain ⟨e, -, -, hstep⟩ := step_of_entry h
    rw [hstep] at hk
    exact mem_numbers_add hk

/-- A line that stays adds no number but its own to those that stay. -/
theorem mem_kept_step (hn : drop n = false) {r : Reading} {l : List Char} {k : Nat}
    (hk : k ∈ ((r.step (lineAt n l)).sheet.withoutCommands drop).numbers) :
    k ∈ (r.sheet.withoutCommands drop).numbers ∨ k = n := by
  have hstep := renumber_step (f := id) hn r l
  -- what stays is read by itself, under the same numbers
  have hid : ∀ r : Reading, (r.renumber drop id).sheet = r.sheet.withoutCommands drop :=
    fun r => renumber_id _
  rw [← hid, ← hstep] at hk
  rw [← hid]
  exact mem_numbers_step hk

/-- The numbers so far are below that of the next line, in the text and in what is left of it, and
renumbering keeps their order. -/
structure Ordered (drop : Nat → Bool) (f : Nat → Nat) (n m : Nat) (r : Reading) : Prop where
  below : ∀ k ∈ r.sheet.numbers, k < n
  below_left : ∀ k ∈ (r.sheet.withoutCommands drop).numbers, f k < m
  mono : StrictMonoOn f {k | k ∈ (r.sheet.withoutCommands drop).numbers}

variable {r : Reading}

theorem Ordered.kept_below (h : Ordered drop f n m r) :
    ∀ k ∈ (r.sheet.withoutCommands drop).numbers, k < n := by
  intro k hk
  refine h.below k ?_
  simp only [numbers, withoutCommands, List.mem_append, List.mem_map, List.mem_filter] at hk ⊢
  grind

theorem Ordered.lost (h : Ordered drop f n m r) : Ordered drop f (n + 1) m r :=
  ⟨fun k hk => Nat.lt_succ_of_lt (h.below k hk), h.below_left, h.mono⟩

theorem Ordered.found (h : Ordered drop f n m r) : Ordered drop f n (m + 1) r :=
  ⟨h.below, fun k hk => Nat.lt_succ_of_lt (h.below_left k hk), h.mono⟩

theorem Ordered.cut (h : Ordered drop f n m r) (hn : drop n) (body : CommandBody) :
    Ordered drop f (n + 1) m (r.addCommand n body) := by
  have hkept : (r.addCommand n body).sheet.withoutCommands drop = r.sheet.withoutCommands drop := by
    simp [addCommand, withoutCommands, hn]
  refine ⟨fun k hk => ?_, by rw [hkept]; exact h.below_left, by rw [hkept]; exact h.mono⟩
  rcases mem_numbers_addCommand.mp hk with hk | rfl
  · exact Nat.lt_succ_of_lt (h.below k hk)
  · exact Nat.lt_succ_self _

theorem Ordered.kept (h : Ordered drop f n m r) (hn : drop n = false) (l : List Char) :
    Ordered drop (Function.update f n m) (n + 1) (m + 1) (r.step (lineAt n l)) := by
  have hold : ∀ k ∈ (r.sheet.withoutCommands drop).numbers, Function.update f n m k = f k :=
    fun k hk => Function.update_of_ne (Nat.ne_of_lt (h.kept_below k hk)) _ _
  have hnew : Function.update f n m n = m := Function.update_self _ _ _
  constructor
  · intro k hk
    rcases mem_numbers_step hk with hk | rfl
    · exact Nat.lt_succ_of_lt (h.below k hk)
    · exact Nat.lt_succ_self _
  · intro k hk
    rcases mem_kept_step hn hk with hk | rfl
    · rw [hold k hk]
      exact Nat.lt_succ_of_lt (h.below_left k hk)
    · rw [hnew]
      exact Nat.lt_succ_self _
  · intro a ha b hb hab
    rcases mem_kept_step hn ha with ha' | rfl
    · rcases mem_kept_step hn hb with hb' | rfl
      · rw [hold a ha', hold b hb']
        exact h.mono ha' hb' hab
      · rw [hold a ha', hnew]
        exact h.below_left a ha'
    · rcases mem_kept_step hn hb with hb' | rfl
      · exact absurd (h.kept_below b hb') (Nat.lt_asymm hab)
      · exact absurd hab (Nat.lt_irrefl _)

theorem Ordered.renumber_update (h : Ordered drop f n m r) :
    r.renumber drop (Function.update f n m) = r.renumber drop f := by
  have hsame : (r.sheet.withoutCommands drop).renumber (Function.update f n m) =
      (r.sheet.withoutCommands drop).renumber f :=
    renumber_congr fun k hk => Function.update_of_ne (Nat.ne_of_lt (h.kept_below k hk)) _ _
  rw [renumber, hsame, renumber]

theorem renumber_foldl {ls ls' : List (List Char)} (hp : Pruned drop n ls ls')
    (hd : ∀ l ∈ number n ls, drop l.number → l.isSignificant → l.body?.isSome)
    {r : Reading} {f : Nat → Nat} {m : Nat}
    (h : Ordered drop f n m r) :
    ∃ g k i, Ordered drop g k i ((number n ls).foldl Reading.step r) ∧
      (number m ls').foldl Reading.step (r.renumber drop f) =
        ((number n ls).foldl Reading.step r).renumber drop g := by
  -- on what becomes of each line; the renumbering is extended by one number for every kept line
  induction hp generalizing r f m with
  | nil n => exact ⟨f, n, m, h, rfl⟩
  | @lost n l ls ls' hl _ ih =>
    have hrest := ih (fun l hl => hd l (List.mem_cons_of_mem _ hl)) h.lost
    have hstep : r.step (lineAt n l) = r := step_of_blank hl n r
    rwa [number_cons, List.foldl_cons, hstep]
  | @found n l ls ls' hl _ ih =>
    have hrest := ih hd h.found
    have hstep : (r.renumber drop f).step (lineAt m l) = r.renumber drop f :=
      step_of_blank hl m _
    rwa [number_cons, List.foldl_cons, hstep]
  | @cut n l ls ls' hn _ ih =>
    have hlater := fun k hk => hd k (List.mem_cons_of_mem _ hk)
    rw [number_cons, List.foldl_cons]
    cases hs : (lineAt n l).isSignificant with
    | false =>
      rw [step_of_ignorable hs]
      exact ih hlater h.lost
    | true =>
      have hsome := hd (lineAt n l) List.mem_cons_self hn hs
      obtain ⟨body, hbody⟩ := Option.isSome_iff_exists.mp hsome
      have hrest := ih hlater (h.cut hn body)
      have hstep : r.step (lineAt n l) = r.addCommand n body := step_of_command hbody r
      rw [renumber_addCommand_dropped hn] at hrest
      rwa [hstep]
  | @kept n l ls ls' hn _ ih =>
    have hrest := ih (fun l hl => hd l (List.mem_cons_of_mem _ hl)) (h.kept hn l)
    have hstep := renumber_step (f := Function.update f n m) hn r l
    rw [h.renumber_update, Function.update_self] at hstep
    rw [← hstep] at hrest
    simpa only [number_cons, List.foldl_cons] using hrest

end Reading

/-- Without some of its command lines, blank lines and comments a text is read as the sheet without
these command lines. The numbers of the other lines keep their order. -/
theorem read_without {source : String} {ns : List Nat}
    (h : ∀ l ∈ lines source.toList, l.number ∈ ns → l.isSignificant → l.body?.isSome) :
    ∃ f : Nat → Nat,
      let left := (read source).withoutCommands fun n => ns.contains n
      StrictMonoOn f {k | k ∈ left.numbers} ∧ read (without ns source) = left.renumber f := by
  have hp := (cuts_leaveOut (fun n => ns.contains n) 1 source.toList).pruned
  have hd : ∀ l ∈ number 1 (splitLines source.toList), ns.contains l.number →
      l.isSignificant → l.body?.isSome := fun l hl hn => h l hl (by simpa using hn)
  have hstart : Reading.Ordered (fun n => ns.contains n) id 1 1 {} :=
    ⟨by simp [numbers], by simp [numbers, withoutCommands], strictMonoOn_id⟩
  obtain ⟨g, k, i, hordered, hread⟩ := Reading.renumber_foldl hp hd hstart
  refine ⟨g, hordered.mono, ?_⟩
  rw [read, without, String.toList_ofList, lines, ofLines]
  exact congrArg Reading.sheet hread

end Sheet
end PageOverlay
