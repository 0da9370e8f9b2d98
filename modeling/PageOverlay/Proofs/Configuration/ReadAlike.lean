import Mathlib.Data.List.Basic
import PageOverlay.Proofs.Sheet.LineBreaks
import PageOverlay.Run.Runner

/-!
# Texts that are read alike

The text of a configuration is read once, and from then on only the sheet counts, in the
configuration itself and in all that import it. Lines that are joined by different line breaks are
read as the same sheet, so nothing that is built from them tells the breaks apart.
-/

set_option autoImplicit false

namespace PageOverlay

open Sheet (Import lineBreaks)

def Configuration.bare (c : Configuration) : Configuration := { c with raw := "" }

def Repository.bare (repo : Repository) : Repository := repo.map fun e => (e.1, e.2.bare)

theorem Repository.find?_bare (repo : Repository) (name : String) :
    repo.bare.find? name = (repo.find? name).map Configuration.bare := by
  rw [find?, bare, List.find?_map, Option.map_map, find?, Option.map_map]
  rfl

theorem Repository.bare_add (name : String) (c : Configuration) (repo : Repository) :
    Repository.bare (add name c repo) = add name c.bare repo.bare := by
  induction repo with
  | nil => rfl
  | cons e repo ih =>
    obtain ⟨n, d⟩ := e
    by_cases h : n = name
    · simp [add, bare, h]
    · simpa [add, bare, h] using ih

namespace ImportTree

mutual

def bare : ImportTree → ImportTree
  | .node i c children => .node i c.bare (allBare children)

def allBare : List ImportTree → List ImportTree
  | [] => []
  | t :: ts => bare t :: allBare ts

end

mutual

theorem rules_bare (key : String) : ∀ t : ImportTree, rules key (bare t) = rules key t
  | .node i c children => by
    rw [bare, rules, rules, allRules_bare key children]
    rfl

theorem allRules_bare (key : String) :
    ∀ ts : List ImportTree, allRules key (allBare ts) = allRules key ts
  | [] => rfl
  | t :: ts => by rw [allBare, allRules, allRules, rules_bare key t, allRules_bare key ts]

end

mutual

theorem exported_bare : ∀ t : ImportTree, exported (bare t) = exported t
  | .node i c children => by
    rw [bare, exported, exported, merged_bare [] children]
    rfl

theorem merged_bare (vs : List Variable) :
    ∀ ts : List ImportTree, merged vs (allBare ts) = merged vs ts
  | [] => rfl
  | t :: ts => by rw [allBare, merged, merged, exported_bare t, merged_bare _ ts]

end

theorem line_bare (t : ImportTree) : (bare t).line = t.line := by
  cases t
  rw [bare, line, line]

mutual

theorem commands_bare : ∀ t : ImportTree, commands (bare t) = commands t
  | .node i c children => by
    rw [bare, commands, commands, blocks_bare children]
    rfl

theorem blocks_bare : ∀ ts : List ImportTree, blocks (allBare ts) = blocks ts
  | [] => rfl
  | t :: ts => by rw [allBare, blocks, blocks, line_bare, commands_bare t, blocks_bare ts]

end

end ImportTree

namespace Labels

theorem normalize_congr {t t' : Transformer} (h : t'.transform = t.transform) :
    normalize t' = normalize t := by
  have hflow : flowMap t' = flowMap t := by
    funext labels title
    rw [flowMap, h, flowMap]
  have hsplit : splitLine t' = splitLine t := by
    funext title
    rw [splitLine, h, splitLine]
  have htruncated : truncatedTitle t' = truncatedTitle t := by
    funext title
    rw [truncatedTitle, h, truncatedTitle]
  have hnamed : named t' = named t := by
    funext span
    rw [named, h, named]
  have hjourney : journey t' = journey t := by
    funext n
    rw [journey, h, journey]
  simp only [normalize, forAll, flowMaps, hflow, splitLines, hsplit, truncatedTitles, htruncated,
    namedSpans, hnamed, journeys, hjourney]

end Labels

namespace Runner

variable (c : Configuration) (commands : List Command)

theorem applyEach_bare (g : TargetGroup) (path : String) (ns : List NodeId) :
    applyEach c.bare commands g path ns = applyEach c commands g path ns := by
  induction ns with
  | nil => rfl
  | cons n ns ih =>
    rw [applyEach, ih]
    rfl

theorem applyGroup_bare (s : Selector) (g : TargetGroup) (path : String) :
    applyGroup c.bare commands s g path = applyGroup c commands s g path := by
  simp only [applyGroup, applyEach_bare]

theorem applyAttributes_bare (names : List String) :
    applyAttributes c.bare commands names = applyAttributes c commands names := by
  induction names with
  | nil => rfl
  | cons name names ih => simp only [applyAttributes, ih, applyGroup_bare]

theorem applyTick_bare : applyTick c.bare commands = applyTick c commands := by
  have hlabels : Labels.normalize { configuration := c.bare, commands } =
      Labels.normalize { configuration := c, commands } := Labels.normalize_congr rfl
  simp only [applyTick, hlabels, applyGroup_bare, applyAttributes_bare]
  rfl

end Runner

namespace Configuration

theorem located_bare (repo : Repository) (is : List Import) :
    located repo.bare is = (located repo is).map fun e => (e.1, e.2.bare) := by
  rw [located, located, List.map_filterMap]
  refine List.filterMap_congr fun i _ => ?_
  rw [Repository.find?_bare, Option.map_map, Option.map_map]
  rfl

theorem unfold_bare (repo : Repository) (levels : Nat) (visited : List String)
    (c : Configuration) :
    unfold repo.bare levels visited c.bare =
      (ImportTree.allBare (unfold repo levels visited c).1, (unfold repo levels visited c).2) := by
  induction levels generalizing visited c with
  | zero => rfl
  | succ levels ih =>
    have heach (visited : List String) (es : List (Import × Configuration)) :
        unfoldEach (unfold repo.bare levels) visited (es.map fun e => (e.1, e.2.bare)) =
          (ImportTree.allBare (unfoldEach (unfold repo levels) visited es).1,
            (unfoldEach (unfold repo levels) visited es).2) := by
      induction es generalizing visited with
      | nil => rfl
      | cons e es ihes =>
        simp only [List.map_cons, unfoldEach, ih, ihes]
        rfl
    rw [unfold, located_bare, heach]
    rfl

theorem imports_bare (repo : Repository) (c : Configuration) :
    c.bare.imports repo.bare = ImportTree.allBare (c.imports repo) := by
  rw [imports, unfold_bare, Repository.bare, List.length_map]
  rfl

/-- In the second repository the second configuration does all that the first one does in the
first. -/
structure ActsAlike (repo : Repository) (c : Configuration) (repo' : Repository)
    (c' : Configuration) : Prop where
  sheet : c'.sheet = c.sheet
  rules : ∀ key, c'.rules repo' key = c.rules repo key
  knownVariables : c'.knownVariables repo' = c.knownVariables repo
  commands : c'.commands repo' = c.commands repo
  diagnostics : c'.diagnostics repo' = c.diagnostics repo
  isEnabledFor : ∀ location, c'.isEnabledFor repo' location = c.isEnabledFor repo location
  apply : ∀ g t, c'.apply repo' g t = c.apply repo g t
  transformText : ∀ location text,
    c'.transformText repo' location text = c.transformText repo location text
  applyRules : Runner.applyRules c' (c'.commands repo') = Runner.applyRules c (c.commands repo)
  applyTick : Runner.applyTick c' (c'.commands repo') = Runner.applyTick c (c.commands repo)

variable {repo repo' repo'' : Repository} {c c' c'' : Configuration}

theorem ActsAlike.symm (h : ActsAlike repo c repo' c') : ActsAlike repo' c' repo c where
  sheet := h.sheet.symm
  rules key := (h.rules key).symm
  knownVariables := h.knownVariables.symm
  commands := h.commands.symm
  diagnostics := h.diagnostics.symm
  isEnabledFor location := (h.isEnabledFor location).symm
  apply g t := (h.apply g t).symm
  transformText location text := (h.transformText location text).symm
  applyRules := h.applyRules.symm
  applyTick := h.applyTick.symm

theorem ActsAlike.trans (h : ActsAlike repo c repo' c') (g : ActsAlike repo' c' repo'' c'') :
    ActsAlike repo c repo'' c'' where
  sheet := g.sheet.trans h.sheet
  rules key := (g.rules key).trans (h.rules key)
  knownVariables := g.knownVariables.trans h.knownVariables
  commands := g.commands.trans h.commands
  diagnostics := g.diagnostics.trans h.diagnostics
  isEnabledFor location := (g.isEnabledFor location).trans (h.isEnabledFor location)
  apply group t := (g.apply group t).trans (h.apply group t)
  transformText location text :=
    (g.transformText location text).trans (h.transformText location text)
  applyRules := g.applyRules.trans h.applyRules
  applyTick := g.applyTick.trans h.applyTick

theorem actsAlike_bare (repo : Repository) (c : Configuration) :
    ActsAlike repo c repo.bare c.bare := by
  have hrules (key : String) : c.bare.rules repo.bare key = c.rules repo key := by
    rw [rules, imports_bare, ImportTree.allRules_bare]
    rfl
  have himported : c.bare.importedVariables repo.bare = c.importedVariables repo := by
    rw [importedVariables, imports_bare, ImportTree.merged_bare]
    rfl
  have hplaced : c.bare.placedLines repo.bare = c.placedLines repo := by
    rw [placedLines, imports_bare, ImportTree.blocks_bare]
    rfl
  have hbuilder : c.bare.builder repo.bare = c.builder repo := by
    rw [builder, namespaces, hrules, hrules, hrules]
    rfl
  have hscopes : c.bare.scopes repo.bare = c.scopes repo := by
    rw [scopes, himported]
    rfl
  have hcommands : c.bare.commands repo.bare = c.commands repo := by
    rw [commands, lineCommands, hplaced, hbuilder, hscopes]
    rfl
  exact {
    sheet := rfl
    rules := hrules
    knownVariables := by
      rw [knownVariables, himported]
      rfl
    commands := hcommands
    diagnostics := by
      rw [diagnostics, hplaced, hbuilder, hscopes]
      rfl
    isEnabledFor := fun location => by
      rw [isEnabledFor, hrules, hrules]
      rfl
    apply := fun g t => by
      rw [apply, hcommands]
      rfl
    transformText := fun location text => by
      rw [transformText, hcommands]
      rfl
    applyRules := by
      rw [hcommands]
      rfl
    applyTick := by rw [hcommands, Runner.applyTick_bare] }

theorem actsAlike_of_bare (hr : repo'.bare = repo.bare) (hc : c'.bare = c.bare) :
    ActsAlike repo c repo' c' := by
  have h := (actsAlike_bare repo' c').symm
  rw [hr, hc] at h
  exact (actsAlike_bare repo c).trans h

end Configuration

theorem Sheet.number_eq (n : Nat) (ls : List (List Char)) :
    number n ls = (ls.zipIdx n).map fun (l, k) =>
      { number := k, kind := kindOf (Text.trim l), text := Text.trim l } := by
  induction ls generalizing n with
  | nil => rfl
  | cons l ls ih => rw [number, ih, List.zipIdx_cons, List.map_cons]

/-- Lines are numbered from one on and classified by their trimmed texts, whatever breaks they are
joined by. Configurations with these texts act alike, by themselves and in any repository, and so
does every configuration that finds them there. -/
theorem Configuration.lineBreaks_inert {sep sep' : List Char} (hsep : sep ∈ lineBreaks)
    (hsep' : sep' ∈ lineBreaks) {ls : List (List Char)} (hne : ls ≠ [])
    (hls : ∀ l ∈ ls, Sheet.IsUnbroken l) :
    let text := String.ofList (Text.joinWith sep ls)
    let text' := String.ofList (Text.joinWith sep' ls)
    (Sheet.lines text.toList = (ls.zipIdx 1).map fun (l, k) =>
        { number := k, kind := Sheet.kindOf (Text.trim l), text := Text.trim l }) ∧
      Sheet.lines text'.toList = Sheet.lines text.toList ∧
      Sheet.read text' = Sheet.read text ∧
      ∀ (enabled : Bool) (values : List (String × String)) (globals : List Variable),
        let c : Configuration := { ofText text with enabled, values, globals }
        let c' : Configuration := { ofText text' with enabled, values, globals }
        ∀ (repo : Repository) (name : String),
          ActsAlike repo c repo c' ∧
          ActsAlike (repo.add name c) c (repo.add name c') c' ∧
          ∀ d, ActsAlike (repo.add name c) d (repo.add name c') d := by
  intro text text'
  have hlines {sep : List Char} (hsep : sep ∈ lineBreaks) :
      Sheet.lines (String.ofList (Text.joinWith sep ls)).toList = Sheet.number 1 ls := by
    rw [String.toList_ofList, Sheet.lines, Sheet.splitLines_joinWith hsep hne hls]
  have hsame : Sheet.lines text'.toList = Sheet.lines text.toList :=
    (hlines hsep').trans (hlines hsep).symm
  have hread : Sheet.read text' = Sheet.read text := by rw [Sheet.read, hsame, Sheet.read]
  refine ⟨(hlines hsep).trans (Sheet.number_eq 1 ls), hsame, hread, ?_⟩
  intro enabled values globals c c' repo name
  have hc : c'.bare = c.bare := by
    simp only [bare, c, c', ofText, hread]
  have hr : Repository.bare (repo.add name c') = Repository.bare (repo.add name c) := by
    rw [Repository.bare_add, Repository.bare_add, hc]
  exact ⟨actsAlike_of_bare rfl hc, actsAlike_of_bare hr hc, fun d => actsAlike_of_bare hr rfl⟩

def spacedLines : List (List Char) :=
  [[], [' ', 'a', '=', 'b', ' '], [], ['+', 'C'], []]

theorem Configuration.lineBreaks_inert_spaced :
    spacedLines ≠ [] ∧ (∀ l ∈ spacedLines, Sheet.IsUnbroken l) ∧
      Sheet.lines "\r a=b \r\r+C\r".toList = Sheet.lines "\r\n a=b \r\n\r\n+C\r\n".toList ∧
      ActsAlike [] (ofText "\r\n a=b \r\n\r\n+C\r\n") [] (ofText "\r a=b \r\r+C\r") := by
  have hne : spacedLines ≠ [] := List.cons_ne_nil _ _
  have hls : ∀ l ∈ spacedLines, Sheet.IsUnbroken l := by
    simp [spacedLines, Sheet.IsUnbroken]
  have hrn : ['\r', '\n'] ∈ lineBreaks := by decide
  have hr : ['\r'] ∈ lineBreaks := by decide
  obtain ⟨-, hlines, -, halike⟩ := lineBreaks_inert hrn hr hne hls
  exact ⟨hne, hls, hlines, (halike true [] [] [] "C").1⟩

end PageOverlay
