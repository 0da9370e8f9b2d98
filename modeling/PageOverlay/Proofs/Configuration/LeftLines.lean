import Mathlib.Data.List.Nodup
import PageOverlay.Proofs.Configuration.LineCount
import PageOverlay.Proofs.Configuration.Renumbered
import PageOverlay.Proofs.Sheet.Collecting

/-!
# Configurations without some of their lines

Lines that make no command never apply, so only the commands that are made count. When command lines
are left out, all other lines make the commands that they made before, in the same order.
-/

set_option autoImplicit false

namespace PageOverlay

open Sheet (CommandLine Import)

namespace ImportTree

theorem lines_blocks (ts : List ImportTree) : (blocks ts).map (·.1) = ts.map line := by
  induction ts with
  | nil => rfl
  | cons t ts ih => rw [blocks, List.map_cons, List.map_cons, ih]

end ImportTree

namespace Configuration

variable {repo : Repository} {c d : Configuration}

theorem lines_unfoldEach
    (unfold : List String → Configuration → List ImportTree × List String)
    (visited : List String) (es : List (Import × Configuration)) :
    (unfoldEach unfold visited es).1.map ImportTree.line = es.map (·.1.line) := by
  induction es generalizing visited with
  | nil => rfl
  | cons e es ih => simp [unfoldEach, ImportTree.line, ih]

theorem mem_imports_of_block {b : Nat × List CommandLine}
    (h : b ∈ ImportTree.blocks (c.imports repo)) : ∃ i ∈ c.sheet.imports, i.line = b.1 := by
  have hline : b.1 ∈ (ImportTree.blocks (c.imports repo)).map (·.1) := List.mem_map.mpr ⟨b, h, rfl⟩
  rw [ImportTree.lines_blocks, imports, unfold, lines_unfoldEach] at hline
  obtain ⟨e, he, hb⟩ := List.mem_map.mp hline
  exact ⟨e.1, fresh_subset _ _ (mem_located.mp he).1, hb⟩

def ownLine (command : CommandLine) : PlacedLine := { own := true, command }

theorem mem_placedLines_own {l : PlacedLine} :
    l ∈ c.placedLines repo ∧ l.own = true ↔ ∃ a ∈ c.sheet.commands, ownLine a = l := by
  rw [(placedLines_perm repo c).mem_iff, List.mem_append, List.mem_map, List.mem_map]
  constructor
  · rintro ⟨⟨a, ha, rfl⟩ | ⟨a, -, rfl⟩, hown⟩
    · exact ⟨a, ha, rfl⟩
    · cases hown
  · rintro ⟨a, ha, rfl⟩
    exact ⟨.inl ⟨a, ha, rfl⟩, rfl⟩

def madeBy? (repo : Repository) (c : Configuration) (l : PlacedLine) : Option Command :=
  (tryLine (c.builder repo) (c.scopes repo) l).toOption

theorem madeBy?_congr {b : Builder} {s t : Scopes} {k l : PlacedLine} (hs : Scopes.Agree s t)
    (hown : k.own = l.own) (hscope : k.command.scope = l.command.scope)
    (hbody : k.command.body = l.command.body) :
    (tryLine b s k).toOption = (tryLine b t l).toOption := by
  rw [tryLine, tryLine, fillIn, fillIn, hown, hscope, hbody]
  cases l.command.body with
  | faulty fault => rfl
  | invocation key value => simp only [hs.substitute]

def made (repo : Repository) (c : Configuration) : List Command :=
  (c.placedLines repo).filterMap (c.madeBy? repo)

theorem runCommands_made (b : Builder) (s : Scopes) (g : TargetGroup) (t : Target)
    (ls : List PlacedLine) (releases : List Command) :
    runCommands g t (ls.map (lineCommand b s) ++ releases) =
      runCommands g t (ls.filterMap (fun l => (tryLine b s l).toOption) ++ releases) := by
  induction ls with
  | nil => rfl
  | cons l ls ih =>
    rw [List.map_cons, List.filterMap_cons, List.cons_append, lineCommand]
    cases tryLine b s l with
    | ok command =>
      rw [Except.toOption, List.cons_append, runCommands, runCommands, ih]
    | error reason =>
      rw [Except.toOption, runCommands, ← ih]
      exact if_neg (by simp [Command.appliesTo])

theorem releases_made (b : Builder) (s : Scopes) (ls : List PlacedLine) :
    (ls.map (lineCommand b s)).filterMap Command.release? =
      (ls.filterMap fun l => (tryLine b s l).toOption).filterMap Command.release? := by
  rw [List.filterMap_map, List.filterMap_filterMap]
  congr 1
  funext l
  rw [Function.comp_apply, lineCommand]
  cases tryLine b s l <;> rfl

def withReleases (built : List Command) : List Command := built ++ built.filterMap Command.release?

theorem commands_eq_withReleases {c : Configuration} {repo : Repository} {built : List Command}
    (h : c.lineCommands repo = built) : c.commands repo = withReleases built := by
  rw [← h]
  rfl

theorem runCommands_commands (repo : Repository) (c : Configuration) (g : TargetGroup)
    (t : Target) :
    runCommands g t (c.commands repo) = runCommands g t (withReleases (c.made repo)) := by
  rw [commands, lineCommands, runCommands_made, releases_made]
  rfl

def placedOwn (repo : Repository) (c : Configuration) (own : List CommandLine) :
    List PlacedLine :=
  let blocks := (ImportTree.blocks (c.imports repo)).map fun (line, commands) =>
    (line, commands.map fun command => { own := false, command : PlacedLine })
  ImportTree.interleave (·.command.line) blocks (own.map ownLine)

theorem placedLines_eq (repo : Repository) (c : Configuration) :
    c.placedLines repo = c.placedOwn repo c.sheet.commands := rfl

/-- A line stands between the same lines whatever it is, and these follow each other without it. -/
theorem exists_placedOwn (repo : Repository) (c : Configuration) {n : Nat}
    (first : List CommandLine) {later : List CommandLine} (h : ∀ a ∈ later, n ≤ a.line) :
    ∃ before after, c.placedOwn repo (first ++ later) = before ++ after ∧
      ∀ a, a.line = n → c.placedOwn repo (first ++ a :: later) = before ++ ownLine a :: after := by
  have hlater : ∀ b ∈ later.map ownLine, n ≤ b.command.line := by
    intro b hb
    obtain ⟨a, ha, rfl⟩ := List.mem_map.mp hb
    exact h a ha
  simp only [placedOwn, List.map_append, List.map_cons]
  generalize List.map _ (ImportTree.blocks (c.imports repo)) = blocks
  obtain ⟨before, after, hwithout, hwith⟩ :=
    ImportTree.exists_interleave (first.map ownLine) hlater blocks
  exact ⟨before, after, hwithout, fun a ha => hwith (ownLine a) ha⟩

/-- The second configuration is the first one without the command lines at some numbers, under other
line numbers that keep their order. -/
structure Left (c d : Configuration) (drop : Nat → Bool) (f : Nat → Nat) : Prop where
  ascending : c.sheet.commands.Pairwise fun a b => a.line < b.line
  sheet : d.sheet = (c.sheet.withoutCommands drop).renumber f
  mono : StrictMonoOn f {k | k ∈ (c.sheet.withoutCommands drop).numbers}
  values : d.values = c.values
  globals : d.globals = c.globals

namespace Left

variable {drop : Nat → Bool} {f : Nat → Nat}

theorem options (h : Left c d drop f) : d.sheet.options = c.sheet.options := by rw [h.sheet]; rfl

theorem declarations (h : Left c d drop f) :
    d.sheet.declarations = c.sheet.declarations.map (·.renumber f) := by rw [h.sheet]; rfl

theorem imports (h : Left c d drop f) : d.sheet.imports = c.sheet.imports.map (·.renumber f) := by
  rw [h.sheet]; rfl

theorem commands (h : Left c d drop f) :
    d.sheet.commands = (c.sheet.commands.filter fun a => !drop a.line).map (·.renumber f) := by
  rw [h.sheet]; rfl

theorem builder (h : Left c d drop f) : d.builder repo = c.builder repo := by
  simp only [Configuration.builder, namespaces, rules_renumber h.options h.imports]

theorem scopes (h : Left c d drop f) : Scopes.Agree (d.scopes repo) (c.scopes repo) := by
  rw [Configuration.scopes, h.values, h.globals, h.declarations,
    importedVariables_renumber h.imports]
  exact Scopes.agree_renumber f (c.scopes repo)

theorem madeBy? (h : Left c d drop f) {k l : PlacedLine} (hown : k.own = l.own)
    (hscope : k.command.scope = l.command.scope) (hbody : k.command.body = l.command.body) :
    d.madeBy? repo k = c.madeBy? repo l := by
  rw [Configuration.madeBy?, h.builder]
  exact madeBy?_congr h.scopes hown hscope hbody

theorem knownVariables (h : Left c d drop f) : d.knownVariables repo = c.knownVariables repo := by
  have hgiven : d.withGiven = c.withGiven := by
    funext v
    rw [withGiven, withGiven, h.values]
  rw [Configuration.knownVariables, Configuration.knownVariables,
    declared_renumber h.declarations, importedVariables_renumber h.imports, hgiven]

theorem lt_iff (h : Left c d drop f) {i : Import} {a : CommandLine} (hi : i ∈ c.sheet.imports)
    (ha : a ∈ c.sheet.commands) (hkept : drop a.line = false) :
    f i.line < f a.line ↔ i.line < a.line := by
  refine h.mono.lt_iff_lt (Sheet.line_mem_of_import hi) (Sheet.line_mem_of_command ?_)
  exact List.mem_filter.mpr ⟨ha, by simp [hkept]⟩

theorem made (h : Left c d drop f) :
    d.made repo = (c.placedOwn repo (c.sheet.commands.filter fun a => !drop a.line)).filterMap
      (c.madeBy? repo) := by
  let notOwn : Nat × List CommandLine → Nat × List PlacedLine := fun b =>
    (b.1, b.2.map fun command => { own := false, command })
  let renumber : PlacedLine → PlacedLine := fun l => { l with command := l.command.renumber f }
  let blocks := (ImportTree.blocks (c.imports repo)).map notOwn
  let own := (c.sheet.commands.filter fun a => !drop a.line).map ownLine
  have hd : d.placedLines repo = ImportTree.interleave (·.command.line)
      (blocks.map fun b => (f b.1, b.2)) (own.map renumber) := by
    rw [placedLines, imports_renumber h.imports, ImportTree.blocks_renumber, h.commands,
      List.map_map, List.map_map, List.map_map, List.map_map]
    rfl
  have hmade : d.madeBy? repo = c.madeBy? repo := funext fun l => h.madeBy? rfl rfl rfl
  have hrenumber : ∀ l ∈ own, c.madeBy? repo (renumber l) = c.madeBy? repo l :=
    fun l _ => (congrFun hmade (renumber l)).symm.trans (h.madeBy? rfl rfl rfl)
  -- a block stands where its import is asked for, and imports keep their order to all lines left
  have horder : ∀ b ∈ blocks, ∀ l ∈ own,
      f b.1 < (renumber l).command.line ↔ b.1 < l.command.line := by
    intro b hb l hl
    obtain ⟨block, hblock, rfl⟩ := List.mem_map.mp hb
    obtain ⟨i, hi, hline⟩ := mem_imports_of_block hblock
    obtain ⟨a, ha, rfl⟩ := List.mem_map.mp hl
    obtain ⟨ha, hkept⟩ := List.mem_filter.mp ha
    have hlt := h.lt_iff hi ha (by simpa using hkept)
    rwa [hline] at hlt
  rw [Configuration.made, hd, hmade]
  exact ImportTree.interleave_map hrenumber blocks horder

theorem mayTouch (h : Left c d drop f) : d.mayTouch = c.mayTouch := by
  have hlists : d.lists = c.lists := by
    funext key tag
    rw [lists, lists, optionItems, optionItems, optionValues, optionValues, h.options]
  funext p t
  cases t with
  | node n path => simp only [Configuration.mayTouch, blocks, hlists]
  | _ => rfl

end Left

/-- A text without some command lines makes a configuration like the first one. -/
theorem exists_left {source : String} {numbers : List Nat} (hc : c.sheet = Sheet.read source)
    (hd : d.sheet = Sheet.read (Sheet.without numbers source))
    (hnumbers : ∀ n ∈ numbers, ∃ a ∈ c.sheet.commands, a.line = n)
    (hv : d.values = c.values) (hg : d.globals = c.globals) :
    ∃ f, Left c d (fun n => numbers.contains n) f := by
  obtain ⟨hascending, hfrom⟩ := Sheet.commands_read source
  have hcommands : ∀ l ∈ Sheet.lines source.toList, l.number ∈ numbers → l.body?.isSome := by
    intro l hl hn
    obtain ⟨a, ha, hline⟩ := hnumbers _ hn
    rw [hc] at ha
    obtain ⟨k, hk, hkline, hbody⟩ := hfrom a ha
    rw [(Sheet.ascending_lines _).eq_of_number hl hk (hline.symm.trans hkline.symm), hbody]
    rfl
  obtain ⟨f, hmono, hread⟩ := Sheet.read_without fun l hl hn _ => hcommands l hl hn
  rw [← hd] at hread
  rw [← hc] at hascending hmono hread
  exact ⟨f, ⟨hascending, hread, hmono, hv, hg⟩⟩

end Configuration
end PageOverlay
