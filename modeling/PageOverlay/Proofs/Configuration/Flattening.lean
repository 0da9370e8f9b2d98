import Mathlib.Data.List.TakeWhile
import PageOverlay.Proofs.Configuration.Traversals
import PageOverlay.Proofs.Sheet.Outcomes

/-!
# Where the lines of imports stand

The flattened lines of a configuration are cut into stretches: each of its own lines is one, and all
that an import adds is one. On every level the stretches come in the order of the lines that they
stand for, which are the own lines and the lines that ask for the imports.
-/

set_option autoImplicit false

namespace PageOverlay

open Sheet (CommandLine Import)

namespace Sheet

structure ImportsFirst (ls : List Line) (i : Import) (l : Line) : Prop where
  number : l.number = i.line
  name : l.import? = some i.name
  first : ∀ k ∈ ls, k.import? = some i.name → i.line ≤ k.number

/-- The command lines are those of the text, faulty ones among them, and imports stand where the
text asks for them first. -/
structure LineByLine (ls : List Line) (s : Sheet) : Prop where
  commands : s.commands.map (fun a => (a.line, a.body)) =
    ls.filterMap fun l => l.body?.map fun body => (l.number, body)
  imports : ∀ i, i ∈ s.imports ↔ ∃ l ∈ ls, ImportsFirst ls i l
  commands_ascend : s.commands.Pairwise fun a b => a.line < b.line
  imports_ascend : s.imports.Pairwise fun i j => i.line < j.line
  apart : ∀ i ∈ s.imports, ∀ a ∈ s.commands, i.line ≠ a.line

theorem mem_imports_collected {ls : List Line} {i : Import} :
    i ∈ (collected ls).imports ↔ ∃ l ∈ ls, ImportsFirst ls i l := by
  refine (mem_collect fromLines_import).trans (exists_congr fun l => and_congr_right fun _ => ?_)
  rw [firstImport?_eq_some, ← Line.import?_eq_some]
  constructor
  · rintro ⟨hnumber, hname, -, hfirst⟩
    refine ⟨hnumber, hname, fun k hk himport => Nat.le_of_not_lt fun hlt => ?_⟩
    exact hfirst k (List.mem_filter.mpr ⟨hk, by simpa using hlt⟩) himport
  · rintro ⟨hnumber, hname, hfirst⟩
    refine ⟨hnumber, hname, hnumber.symm, fun k hk himport => ?_⟩
    obtain ⟨hk, hlt⟩ := List.mem_filter.mp hk
    exact absurd (hfirst k hk himport) (Nat.not_le_of_lt (by simpa using hlt))

theorem lineByLine_read (source : String) : LineByLine (lines source.toList) (read source) := by
  rw [read_eq_collected]
  have h := ascending_lines source.toList
  refine ⟨?_, fun i => mem_imports_collected, h.collect_ascends fromLines_command,
    h.collect_ascends fromLines_import, fun i hi a ha => ?_⟩
  · have hcommands : (collected (lines source.toList)).commands =
        collect command? (lines source.toList) := rfl
    rw [hcommands, collect, List.map_filterMap]
    refine List.filterMap_congr fun l _ => ?_
    rw [command?, Option.map_map]
    rfl
  · exact h.collect_apart fromLines_import fromLines_command import_apart_command
      (List.mem_map_of_mem hi) (List.mem_map_of_mem ha)

end Sheet

/-- What stands together among the flattened lines: one of the own lines, or all lines of an import
under the line that asks for it. -/
inductive Stretch
  | own (l : PlacedLine)
  | block (line : Nat) (lines : List PlacedLine)

namespace Stretch

def line : Stretch → Nat
  | .own l => l.command.line
  | .block n _ => n

def lines : Stretch → List PlacedLine
  | .own l => [l]
  | .block _ ls => ls

def own? : Stretch → Option PlacedLine
  | .own l => some l
  | .block _ _ => none

def block? : Stretch → Option (Nat × List PlacedLine)
  | .own _ => none
  | .block n ls => some (n, ls)

def ofBlock (b : Nat × List PlacedLine) : Stretch := .block b.1 b.2

def cut : List (Nat × List PlacedLine) → List PlacedLine → List Stretch
  | blocks, [] => blocks.map ofBlock
  | blocks, a :: rest =>
    (blocks.takeWhile fun b => b.1 < a.command.line).map ofBlock ++
      .own a :: cut (blocks.dropWhile fun b => b.1 < a.command.line) rest

variable {blocks : List (Nat × List PlacedLine)} {own : List PlacedLine}

theorem flatMap_ofBlock (blocks : List (Nat × List PlacedLine)) :
    (blocks.map ofBlock).flatMap lines = blocks.flatMap (·.2) := List.flatMap_map ..

theorem filterMap_own?_ofBlock (blocks : List (Nat × List PlacedLine)) :
    (blocks.map ofBlock).filterMap own? = [] := by
  rw [List.filterMap_map]
  exact List.filterMap_eq_nil_iff.mpr fun _ _ => rfl

theorem filterMap_block?_ofBlock (blocks : List (Nat × List PlacedLine)) :
    (blocks.map ofBlock).filterMap block? = blocks := by
  rw [List.filterMap_map]
  exact List.filterMap_some

theorem flatMap_cut (blocks : List (Nat × List PlacedLine)) (own : List PlacedLine) :
    (cut blocks own).flatMap lines = ImportTree.interleave (·.command.line) blocks own := by
  induction own generalizing blocks with
  | nil => exact flatMap_ofBlock blocks
  | cons a rest ih =>
    rw [cut, ImportTree.interleave, List.flatMap_append, flatMap_ofBlock, List.flatMap_cons, ih]
    rfl

theorem filterMap_own?_cut (blocks : List (Nat × List PlacedLine)) (own : List PlacedLine) :
    (cut blocks own).filterMap own? = own := by
  induction own generalizing blocks with
  | nil => exact filterMap_own?_ofBlock blocks
  | cons a rest ih =>
    rw [cut, List.filterMap_append, filterMap_own?_ofBlock, List.nil_append,
      List.filterMap_cons_some (f := own?) rfl, ih]

theorem filterMap_block?_cut (blocks : List (Nat × List PlacedLine)) (own : List PlacedLine) :
    (cut blocks own).filterMap block? = blocks := by
  induction own generalizing blocks with
  | nil => exact filterMap_block?_ofBlock blocks
  | cons a rest ih =>
    rw [cut, List.filterMap_append, filterMap_block?_ofBlock, List.filterMap_cons_none rfl, ih,
      List.takeWhile_append_dropWhile]

theorem exists_line_of_mem_cut {s : Stretch} (hs : s ∈ cut blocks own) :
    (∃ b ∈ blocks, b.1 = s.line) ∨ ∃ a ∈ own, a.command.line = s.line := by
  cases s with
  | own a =>
    refine .inr ⟨a, ?_, rfl⟩
    rw [← filterMap_own?_cut blocks own]
    exact List.mem_filterMap.mpr ⟨_, hs, rfl⟩
  | block n ls =>
    refine .inl ⟨(n, ls), ?_, rfl⟩
    rw [← filterMap_block?_cut blocks own]
    exact List.mem_filterMap.mpr ⟨_, hs, rfl⟩

theorem le_of_mem_dropWhile (h : blocks.Pairwise fun b c => b.1 < c.1) {n : Nat}
    {b : Nat × List PlacedLine} (hb : b ∈ blocks.dropWhile fun b => b.1 < n) : n ≤ b.1 := by
  induction blocks with
  | nil => cases hb
  | cons d blocks ih =>
    obtain ⟨hd, h⟩ := List.pairwise_cons.mp h
    by_cases hlt : d.1 < n
    · rw [List.dropWhile_cons_of_pos (by simpa using hlt)] at hb
      exact ih h hb
    · rw [List.dropWhile_cons_of_neg (by simpa using hlt)] at hb
      rcases List.mem_cons.mp hb with rfl | hb
      · exact Nat.le_of_not_lt hlt
      · exact Nat.le_trans (Nat.le_of_not_lt hlt) (Nat.le_of_lt (hd b hb))

theorem pairwise_cut (hblocks : blocks.Pairwise fun b c => b.1 < c.1)
    (hown : own.Pairwise fun a b => a.command.line < b.command.line)
    (hapart : ∀ b ∈ blocks, ∀ a ∈ own, b.1 ≠ a.command.line) :
    (cut blocks own).Pairwise fun s t => s.line < t.line := by
  induction own generalizing blocks with
  | nil => exact List.pairwise_map.mpr hblocks
  | cons a rest ih =>
    let before := blocks.takeWhile fun b => b.1 < a.command.line
    let after := blocks.dropWhile fun b => b.1 < a.command.line
    obtain ⟨ha, hrest⟩ := List.pairwise_cons.mp hown
    have hparts : (before ++ after).Pairwise fun b c => b.1 < c.1 := by
      rwa [List.takeWhile_append_dropWhile]
    obtain ⟨hbefore, hafter, -⟩ := List.pairwise_append.mp hparts
    have hmem : ∀ b ∈ after, b ∈ blocks := fun b hb => (List.dropWhile_sublist _).subset hb
    have hlow : ∀ b ∈ before, b.1 < a.command.line := fun b hb => by
      simpa using List.mem_takeWhile_imp hb
    -- what is left stands behind the line: a block on it is ruled out
    have hhigh : ∀ s ∈ cut after rest, a.command.line < s.line := by
      intro s hs
      rcases exists_line_of_mem_cut hs with ⟨b, hb, hline⟩ | ⟨c, hc, hline⟩
      · rw [← hline]
        exact Nat.lt_of_le_of_ne (le_of_mem_dropWhile hblocks hb)
          (hapart b (hmem b hb) a List.mem_cons_self).symm
      · rw [← hline]
        exact ha c hc
    have hcut : (cut after rest).Pairwise fun s t => s.line < t.line :=
      ih hafter hrest fun b hb c hc => hapart b (hmem b hb) c (List.mem_cons_of_mem a hc)
    refine List.pairwise_append.mpr ⟨List.pairwise_map.mpr hbefore,
      List.pairwise_cons.mpr ⟨hhigh, hcut⟩, fun s hs t ht => ?_⟩
    obtain ⟨b, hb, rfl⟩ := List.mem_map.mp hs
    rcases List.mem_cons.mp ht with rfl | ht
    · exact hlow b hb
    · exact Nat.lt_trans (hlow b hb) (hhigh t ht)

end Stretch

namespace Configuration

def IsRead (c : Configuration) : Prop := c.sheet = Sheet.read c.raw

/-- How one level is put together: the configuration's own lines and the blocks of its imports, none
lost and none repeated, in the order of their lines in the text. -/
structure Arranges (c : Configuration) (own : Bool) (blocks : List (Nat × List PlacedLine))
    (ss : List Stretch) : Prop where
  own : ss.filterMap Stretch.own? = c.sheet.commands.map fun command => { own, command }
  blocks : ss.filterMap Stretch.block? = blocks
  ascending : ss.Pairwise fun s t => s.line < t.line
  text : Sheet.LineByLine (Sheet.lines c.raw.toList) c.sheet

/-- The blocks of imports, given the names visited before: each is arranged in turn, after the
imports on its own level have been marked as visited. The last names are those visited after it. -/
inductive Places (repo : Repository) : List String → List (Import × Configuration) →
    List (Nat × List PlacedLine) → List String → Prop
  | nil (visited : List String) : Places repo visited [] [] visited
  | cons {visited after last : List String} {deeper others : List (Nat × List PlacedLine)}
      {ss : List Stretch} {i : Import} {c : Configuration} {rest : List (Import × Configuration)}
      (inside : Places repo (marked visited c) (direct repo visited c) deeper after)
      (level : c.Arranges false deeper ss)
      (onward : Places repo after rest others last) :
      Places repo visited ((i, c) :: rest) ((i.line, ss.flatMap Stretch.lines) :: others) last

variable {repo : Repository} {c : Configuration} {visited after names : List String}
  {es : List (Import × Configuration)} {blocks : List (Nat × List PlacedLine)}

theorem fresh_sublist (visited : List String) (is : List Import) :
    (fresh visited is).Sublist is := by
  induction is generalizing visited with
  | nil => exact .slnil
  | cons i is ih =>
    rw [fresh]
    split
    · exact (ih visited).cons i
    · exact (ih _).cons_cons i

theorem lines_located (repo : Repository) (is : List Import) :
    ((located repo is).map (·.1)).Sublist is := by
  induction is with
  | nil => exact .slnil
  | cons i is ih =>
    simp only [located, List.filterMap_cons] at ih ⊢
    cases repo.find? i.name with
    | none => exact ih.cons i
    | some d => exact ih.cons_cons i

theorem imports_direct (repo : Repository) (visited : List String) (c : Configuration) :
    ((direct repo visited c).map (·.1)).Sublist c.sheet.imports :=
  (lines_located repo _).trans (fresh_sublist visited _)

theorem GathersLines.lines (h : GathersLines repo visited es blocks names after) :
    blocks.map (·.1) = es.map (·.1.line) := by
  induction h with
  | nil => rfl
  | cons _ _ _ ih => rw [List.map_cons, List.map_cons, ih]

theorem exists_arranges (hc : c.IsRead) (own : Bool)
    (hlines : blocks.map (·.1) = (direct repo visited c).map (·.1.line)) :
    ∃ ss, c.Arranges own blocks ss ∧ ss.flatMap Stretch.lines =
      ImportTree.interleave (·.command.line) blocks
        (c.sheet.commands.map fun command => { own, command }) := by
  have htext : Sheet.LineByLine (Sheet.lines c.raw.toList) c.sheet := by
    rw [hc]
    exact Sheet.lineByLine_read c.raw
  have hsub := imports_direct repo visited c
  have hblocks : blocks.Pairwise fun b d => b.1 < d.1 := by
    have hdirect := htext.imports_ascend.sublist hsub
    rw [List.pairwise_map] at hdirect
    have hascend : ((direct repo visited c).map (·.1.line)).Pairwise (· < ·) :=
      List.pairwise_map.mpr hdirect
    rw [← hlines] at hascend
    exact List.pairwise_map.mp hascend
  have hapart : ∀ b ∈ blocks, ∀ a ∈ c.sheet.commands, b.1 ≠ a.line := by
    intro b hb a ha
    have hline : b.1 ∈ (direct repo visited c).map (·.1.line) := hlines ▸ List.mem_map_of_mem hb
    obtain ⟨e, he, hline⟩ := List.mem_map.mp hline
    rw [← hline]
    exact htext.apart e.1 (hsub.subset (List.mem_map_of_mem he)) a ha
  refine ⟨_, ⟨Stretch.filterMap_own?_cut _ _, Stretch.filterMap_block?_cut _ _,
    Stretch.pairwise_cut hblocks (List.pairwise_map.mpr htext.commands_ascend) ?_, htext⟩,
    Stretch.flatMap_cut _ _⟩
  intro b hb l hl
  obtain ⟨a, ha, rfl⟩ := List.mem_map.mp hl
  exact hapart b hb a ha

theorem places_of_gathersLines (hrepo : ∀ n d, repo.find? n = some d → d.IsRead)
    (h : GathersLines repo visited es blocks names after)
    (hes : ∀ e ∈ es, repo.find? e.1.name = some e.2) : Places repo visited es blocks after := by
  induction h with
  | nil visited => exact .nil visited
  | @cons visited after last names names' deeper others i c rest inside _ ihInside ihOnward =>
    have hc := hrepo _ _ (hes (i, c) List.mem_cons_self)
    obtain ⟨ss, harranges, hlines⟩ := exists_arranges hc false inside.lines
    rw [← hlines]
    exact .cons (ihInside fun e he => (mem_located.mp he).2) harranges
      (ihOnward fun e he => hes e (List.mem_cons_of_mem _ he))

/-- On every level of the flattened lines, the block of each import that is found and was not
visited before stands in one piece, behind the own lines that come before the line asking for it
and before those that come after, and none of the own lines is lost or repeated. -/
theorem placedLines_arranged (hc : c.IsRead) (hrepo : ∀ n d, repo.find? n = some d → d.IsRead) :
    ∃ blocks after ss, Places repo (marked [] c) (direct repo [] c) blocks after ∧
      c.Arranges true blocks ss ∧ c.placedLines repo = ss.flatMap Stretch.lines := by
  have hends : Visits repo (marked [] c) (direct repo [] c) (c.imports repo)
      (ImportTree.allNames (c.imports repo)) (unfold repo (repo.length + 1) [] c).2 :=
    visits_unfold _ [] c (by simp [unseen, Repository.names])
  have hgathers := gathersLines_iff.mpr ⟨_, hends, rfl⟩
  obtain ⟨ss, harranges, hlines⟩ := exists_arranges hc true hgathers.lines
  exact ⟨_, _, ss, places_of_gathersLines hrepo hgathers fun e he => (mem_located.mp he).2,
    harranges, hlines.symm⟩

theorem placedLines_arranged_nested :
    let c := ofText "a = 1\n+B\n+C\n+\nb = 2\n+missing\nc = 3\n+D"
    let repo := [("B", ofText "d = 4\n+C\n+E\ne = 5"), ("C", ofText "f = 6"),
      ("D", ofText "g = 7"), ("E", ofText "h = 8")]
    c.IsRead ∧ (∀ n d, Repository.find? repo n = some d → d.IsRead) ∧
      ((c.placedLines repo).map fun l => (l.own, l.command.line, l.command.body)) =
        [(true, 1, .invocation "a" "1"), (false, 1, .invocation "d" "4"),
          (false, 1, .invocation "h" "8"), (false, 4, .invocation "e" "5"),
          (false, 1, .invocation "f" "6"), (true, 4, .faulty .noImportName),
          (true, 5, .invocation "b" "2"), (true, 7, .invocation "c" "3"),
          (false, 1, .invocation "g" "7")] ∧
      ∃ blocks after ss, Places repo (marked [] c) (direct repo [] c) blocks after ∧
        c.Arranges true blocks ss ∧ c.placedLines repo = ss.flatMap Stretch.lines := by
  intro c repo
  have hrepo : ∀ n d, Repository.find? repo n = some d → d.IsRead := by
    intro n d h
    obtain ⟨e, he, rfl⟩ := Option.map_eq_some_iff.mp h
    have hmem := List.mem_of_find?_eq_some he
    simp only [repo, List.mem_cons, List.not_mem_nil, or_false] at hmem
    rcases hmem with rfl | rfl | rfl | rfl <;> rfl
  exact ⟨rfl, hrepo, by decide +kernel, placedLines_arranged rfl hrepo⟩

end Configuration
end PageOverlay
