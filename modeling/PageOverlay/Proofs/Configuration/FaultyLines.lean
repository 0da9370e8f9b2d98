import PageOverlay.Proofs.Configuration.LeftLines

/-!
# Faulty lines

A line that is not accepted, or whose command cannot be built, stays among the commands and never
applies. What a configuration does is what it would do if these lines were not there.
-/

set_option autoImplicit false

namespace PageOverlay

open Sheet (CommandLine Import)

namespace Configuration

variable {repo : Repository} {c d : Configuration}

theorem mem_lines_diagnostics {n : Nat} :
    n ∈ (c.diagnostics repo).map (·.line) ↔
      ∃ a ∈ c.sheet.commands, a.line = n ∧ c.madeBy? repo (ownLine a) = none := by
  simp only [diagnostics, List.mem_map, List.mem_filterMap, List.mem_filter]
  constructor
  · rintro ⟨e, ⟨l, hl, he⟩, rfl⟩
    obtain ⟨a, ha, rfl⟩ := mem_placedLines_own.mp hl
    cases hm : tryLine (c.builder repo) (c.scopes repo) (ownLine a) with
    | ok command => simp [hm] at he
    | error reason =>
      rw [hm] at he
      cases he
      exact ⟨a, ha, rfl, by rw [madeBy?, hm]; rfl⟩
  · rintro ⟨a, ha, rfl, hm⟩
    rw [madeBy?] at hm
    cases hl : tryLine (c.builder repo) (c.scopes repo) (ownLine a) with
    | ok command => simp [hl, Except.toOption] at hm
    | error reason =>
      exact ⟨_, ⟨ownLine a, mem_placedLines_own.mpr ⟨a, ha, rfl⟩, by rw [hl]⟩, rfl⟩

def reported (repo : Repository) (c : Configuration) (n : Nat) : Bool :=
  ((c.diagnostics repo).map (·.line)).contains n

/-- The second configuration is the first one without the lines that are told of. -/
structure Rest (repo : Repository) (c d : Configuration) (f : Nat → Nat) : Prop
  extends Left c d (c.reported repo) f

namespace Rest

variable {f : Nat → Nat}

theorem kept (h : Rest repo c d f) {a : CommandLine} (ha : a ∈ c.sheet.commands) :
    (!c.reported repo a.line) = (c.madeBy? repo (ownLine a)).isSome := by
  rw [Bool.eq_iff_iff, Bool.not_eq_true', ← Bool.not_eq_true, reported, List.contains_iff_mem,
    mem_lines_diagnostics, ← Option.ne_none_iff_isSome]
  refine not_congr ⟨?_, fun hm => ⟨a, ha, rfl, hm⟩⟩
  rintro ⟨b, hb, hline, hm⟩
  have hlines : (c.sheet.commands.map (·.line)).Nodup := by
    rw [List.Nodup, List.pairwise_map]
    exact h.ascending.imp Nat.ne_of_lt
  rwa [List.inj_on_of_nodup_map hlines hb ha hline] at hm

theorem diagnostics (h : Rest repo c d f) : d.diagnostics repo = [] := by
  rw [← List.map_eq_nil_iff (f := (·.line)), List.eq_nil_iff_forall_not_mem]
  intro n hn
  obtain ⟨a, ha, -, hm⟩ := mem_lines_diagnostics.mp hn
  rw [h.commands] at ha
  obtain ⟨b, hb, rfl⟩ := List.mem_map.mp ha
  obtain ⟨hb, hkept⟩ := List.mem_filter.mp hb
  have hsame : d.madeBy? repo (ownLine (b.renumber f)) = c.madeBy? repo (ownLine b) :=
    h.madeBy? rfl rfl rfl
  rw [hsame] at hm
  rw [h.kept hb, hm] at hkept
  cases hkept

theorem made (h : Rest repo c d f) : d.made repo = c.made repo := by
  have hown : (c.sheet.commands.filter fun a => !c.reported repo a.line).map ownLine =
      (c.sheet.commands.map ownLine).filter fun l => (c.madeBy? repo l).isSome := by
    rw [List.filter_map, List.filter_congr fun a ha => h.kept ha]
    rfl
  have hnone : ∀ l ∈ c.sheet.commands.map ownLine, (c.madeBy? repo l).isSome = false →
      c.madeBy? repo l = none := fun l _ hl => by simpa using hl
  have hsorted : (c.sheet.commands.map ownLine).Pairwise
      fun k l => k.command.line ≤ l.command.line :=
    List.pairwise_map.mpr (h.ascending.imp Nat.le_of_lt)
  rw [h.toLeft.made, placedOwn, hown]
  exact ImportTree.interleave_filter hnone hsorted _

theorem apply (h : Rest repo c d f) (g : TargetGroup) (t : Target) :
    d.apply repo g t = c.apply repo g t := by
  rw [Configuration.apply, Configuration.apply, applyCommands, applyCommands, h.mayTouch,
    runCommands_commands, runCommands_commands, h.made]

end Rest

theorem exists_rest {source : String} (hc : c.sheet = Sheet.read source)
    (hd : d.sheet = Sheet.read (Sheet.without ((c.diagnostics repo).map (·.line)) source))
    (hv : d.values = c.values) (hg : d.globals = c.globals) : ∃ f, Rest repo c d f := by
  have hlines : ∀ n ∈ (c.diagnostics repo).map (·.line), ∃ a ∈ c.sheet.commands, a.line = n := by
    intro n hn
    obtain ⟨a, ha, hline, -⟩ := mem_lines_diagnostics.mp hn
    exact ⟨a, ha, hline⟩
  obtain ⟨f, h⟩ := exists_left hc hd hlines hv hg
  exact ⟨f, ⟨h⟩⟩

/-- Lines that are told of can be left out, and nothing else changes: neither what the text
declares, nor what is known through its imports, nor what comes of applying it to any target in any
state, be it changes or an error. -/
theorem faulty_lines_inert (source : String) (repo : Repository) (enabled : Bool)
    (values : List (String × String)) (globals : List Variable) :
    let c : Configuration := { ofText source with enabled, values, globals }
    let faulty := (c.diagnostics repo).map (·.line)
    let rest : Configuration :=
      { ofText (Sheet.without faulty source) with enabled, values, globals }
    rest.sheet.options = c.sheet.options ∧
      rest.knownVariables repo = c.knownVariables repo ∧
      rest.sheet.imports.map (·.name) = c.sheet.imports.map (·.name) ∧
      rest.namespaces repo = c.namespaces repo ∧
      rest.diagnostics repo = [] ∧
      ∀ g t w, (rest.apply repo g t).run w = (c.apply repo g t).run w := by
  intro c faulty rest
  have hsheet : ∀ text, (ofText text).sheet = Sheet.read text := fun _ => rfl
  have hrest : rest.sheet = Sheet.read (Sheet.without faulty source) := by
    simp only [rest, hsheet]
  obtain ⟨f, h⟩ : ∃ f, Rest repo c rest f := exists_rest (hsheet source) hrest rfl rfl
  refine ⟨h.options, h.knownVariables, ?_, ?_, h.diagnostics, fun g t w => by rw [h.apply]⟩
  · rw [h.imports, List.map_map]
    rfl
  · rw [namespaces, namespaces, rules_renumber h.options h.imports]

end Configuration
end PageOverlay
