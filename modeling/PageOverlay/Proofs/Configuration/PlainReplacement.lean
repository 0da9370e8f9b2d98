import PageOverlay.Proofs.Configuration.Scratch
import PageOverlay.Proofs.Sheet.PlainLines
import PageOverlay.Proofs.Text.Replacing

/-!
# Plain lines replace one after the other

A sheet of plain lines makes one literal replacement of each line, and on a text that stands in no
page they act in line order, each on what the one before it left.
-/

set_option autoImplicit false

namespace PageOverlay

theorem Scopes.fillIn_of_no_dollar (s : Scopes) (scope : String) (fuel : Nat) {cs : List Char}
    (h : '$' ∉ cs) : s.fillIn scope fuel cs = cs := by
  induction fuel generalizing cs with
  | zero => rfl
  | succ fuel ih =>
    cases cs with
    | nil => rfl
    | cons c cs =>
      obtain ⟨hc, hcs⟩ : '$' ≠ c ∧ '$' ∉ cs := by simpa using h
      rw [fillIn, if_neg (Ne.symm hc), ih hcs]

theorem Scopes.substitute_of_no_dollar (s : Scopes) (scope : String) {cs : List Char}
    (h : '$' ∉ cs) : s.substitute scope (String.ofList cs) = String.ofList cs := by
  rw [substitute, String.toList_ofList, s.fillIn_of_no_dollar scope _ h]

/-- A text with every occurrence of another one replaced, from left to right. -/
def replaceText (search replacement text : List Char) : List Char :=
  (Pattern.literal search).replaceAll text replacement

def literalReplacement (search replacement : List Char) : Command :=
  .action (.replace (.literal search) (String.ofList replacement) "" none none)

namespace Configuration

open Sheet (IsPlain plainCommands plainSource lineBreaks)

theorem imports_of_none {c : Configuration} (h : c.sheet.imports = []) (repo : Repository) :
    c.imports repo = [] := by
  simp [imports, unfold, fresh, located, unfoldEach, h]

theorem placedLines_of_no_imports {c : Configuration} (h : c.sheet.imports = [])
    (repo : Repository) :
    c.placedLines repo = c.sheet.commands.map fun command => { own := true, command } := by
  have hnone {α : Type} (line : α → Nat) (as : List α) :
      ImportTree.interleave line [] as = as := by
    induction as with
    | nil => rfl
    | cons a as ih => simp [ImportTree.interleave, ih]
  simp [placedLines, imports_of_none h, ImportTree.blocks, hnone]

variable {search replacement : List Char}

theorem tryBuild_plain (b : Builder) (h : IsPlain search replacement) :
    b.tryBuild (String.ofList replacement) search =
      .ok (literalReplacement search replacement) := by
  obtain ⟨c, cs, rfl⟩ := List.exists_cons_of_ne_nil h.nonempty
  have hc : c ≠ '!' := fun hc => h.first c rfl (by simp [hc, Sheet.leadingMarks])
  rw [Builder.tryBuild]
  split
  · next ht => rw [h.trimmed] at ht; simp at ht
  · next d ds ht =>
    rw [h.trimmed] at ht
    obtain ⟨rfl, rfl⟩ := List.cons.inj ht
    simp [hc, literalReplacement]

theorem lineCommand_of_no_dollar {b : Builder} {s : Scopes} {l : PlacedLine}
    {key value : List Char} {command : Command}
    (hbody : l.command.body = .invocation (String.ofList key) (String.ofList value))
    (hkey : '$' ∉ key) (hvalue : '$' ∉ value)
    (hbuild : b.tryBuild (String.ofList value) key = .ok command) :
    lineCommand b s l = command := by
  rw [lineCommand, tryLine, fillIn, hbody]
  simp only [s.substitute_of_no_dollar _ hkey, s.substitute_of_no_dollar _ hvalue,
    String.toList_ofList, hbuild]

theorem lineCommand_of_no_value {b : Builder} {s : Scopes} {l : PlacedLine} {key : List Char}
    {command : Command} (hbody : l.command.body = .invocation (String.ofList key) "")
    (hkey : '$' ∉ key) (hbuild : b.tryBuild "" key = .ok command) :
    lineCommand b s l = command := by
  have hvalue : '$' ∉ ([] : List Char) := List.not_mem_nil
  exact lineCommand_of_no_dollar hbody hkey hvalue hbuild

theorem lineCommands_plain (b : Builder) (s : Scopes) (pairs : List (List Char × List Char))
    (h : ∀ p ∈ pairs, IsPlain p.1 p.2) (n : Nat) :
    ((plainCommands n pairs).map fun command => { own := true, command }).map (lineCommand b s) =
      pairs.map fun p => literalReplacement p.1 p.2 := by
  induction pairs generalizing n with
  | nil => rfl
  | cons p pairs ih =>
    have hp := h p (by simp)
    have hs : '$' ∉ p.1 := fun hm => (hp.searched _ hm).2.1 rfl
    have hr : '$' ∉ p.2 := fun hm => (hp.replaced _ hm).1 rfl
    rw [plainCommands, List.map_cons, List.map_cons, ih fun q hq => h q (by simp [hq]),
      lineCommand_of_no_dollar rfl hs hr (tryBuild_plain b hp), List.map_cons]

theorem commands_plain {c : Configuration} {sep : List Char} (hsep : sep ∈ lineBreaks)
    {pairs : List (List Char × List Char)} (h : ∀ p ∈ pairs, IsPlain p.1 p.2)
    (hc : c.sheet = Sheet.read (plainSource sep pairs)) (repo : Repository) :
    c.commands repo = pairs.map fun p => literalReplacement p.1 p.2 := by
  have hread := Sheet.read_plainSource hsep pairs h
  rw [← hc] at hread
  have hlines : c.lineCommands repo = pairs.map fun p => literalReplacement p.1 p.2 := by
    rw [lineCommands, placedLines_of_no_imports (by rw [hread]), hread]
    exact lineCommands_plain _ _ pairs h 1
  have hnone : (pairs.map fun p => literalReplacement p.1 p.2).filterMap Command.release? = [] := by
    rw [List.filterMap_map, List.filterMap_eq_nil_iff]
    intro p _
    rfl
  rw [commands, hlines, hnone, List.append_nil]

theorem replaceText_of_not_match {text : List Char}
    (h : (Pattern.literal search).isMatch text = false) (replacement : List Char) :
    replaceText search replacement text = text := by
  cases search with
  | nil => rfl
  | cons n ns =>
    exact Text.replaceAll_of_not_occursIn replacement (by simpa [Pattern.isMatch] using h)

theorem replaced_literal (search replacement text : List Char) :
    (Pattern.literal search).replaced text replacement = replaceText search replacement text := by
  rw [Pattern.replaced]
  cases hm : (Pattern.literal search).isMatch text with
  | false => exact (replaceText_of_not_match hm replacement).symm
  | true => rfl

theorem onText_literalReplacement (search replacement text : List Char) (location : String) :
    (literalReplacement search replacement).onText location text =
      replaceText search replacement text := by
  have hrule : locationMatches "".toList location.toList = true := rfl
  rw [literalReplacement, Command.onText, Action.onText, if_pos hrule, replaced_literal,
    String.toList_ofList]

def replaceEach (pairs : List (List Char × List Char)) (text : List Char) : List Char :=
  pairs.foldl (fun t p => replaceText p.1 p.2 t) text

theorem onTextAll_literal (location : String) (pairs : List (List Char × List Char))
    (text : List Char) :
    Command.onTextAll location text (pairs.map fun p => literalReplacement p.1 p.2) =
      replaceEach pairs text := by
  induction pairs generalizing text with
  | nil => rfl
  | cons p pairs ih =>
    rw [List.map_cons, Command.onTextAll, onText_literalReplacement, ih]
    rfl

/-- A sheet of plain lines replaces line by line, whatever the variables and the repository are,
and it never fails. -/
theorem transformText_plain {c : Configuration} {sep : List Char} (hsep : sep ∈ lineBreaks)
    {pairs : List (List Char × List Char)} (h : ∀ p ∈ pairs, IsPlain p.1 p.2)
    (hc : c.sheet = Sheet.read (plainSource sep pairs)) (repo : Repository)
    (location text : String) :
    c.transformText repo location text =
      .ok (String.ofList (pairs.foldl (fun t p => replaceText p.1 p.2 t) text.toList)) := by
  rw [transformText, transformWith_eq, commands_plain hsep h hc, onTextAll_literal]
  rfl

theorem transformText_plain_chained :
    (Configuration.ofText "a\\=b = c\nc = d=e").transformText [] "http://example.com" "a=bc" =
      .ok "d=ed=e" := by
  have hplain : ∀ p ∈ [(['a', '=', 'b'], ['c']), (['c'], ['d', '=', 'e'])], IsPlain p.1 p.2 := by
    intro p hp
    simp only [List.mem_cons, List.not_mem_nil, or_false] at hp
    rcases hp with rfl | rfl
    · exact ⟨by decide, by decide, by simp, by simp [Sheet.leadingMarks], by decide, by simp⟩
    · exact ⟨by decide, by decide, by simp, by simp [Sheet.leadingMarks], by decide, by simp⟩
  have h := transformText_plain (by decide : ['\n'] ∈ lineBreaks) hplain
    (rfl : (Configuration.ofText "a\\=b = c\nc = d=e").sheet = _) [] "http://example.com" "a=bc"
  rw [h]
  simp [replaceText, Pattern.replaceAll, Text.replaceAll]

end Configuration
end PageOverlay
