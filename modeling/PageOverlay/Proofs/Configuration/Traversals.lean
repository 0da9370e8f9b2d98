import PageOverlay.Configuration.Commands
import PageOverlay.Proofs.Configuration.ImportGraph

/-!
# Walks over the imports

The values of options, the variables and the command lines of the imports are each gathered by a
walk of its own. A walk marks the imports of a configuration as visited, all at once, and then goes
on from one of them to the next. Here the walks stand as they are made, with the names in the order
in which they are visited and with no bound on the steps. Each of them ends, in one way, with what
is read off the tree of imports.
-/

set_option autoImplicit false

namespace PageOverlay

open Sheet (CommandLine Import)

namespace Configuration

def marked (visited : List String) (c : Configuration) : List String :=
  visited ++ (fresh visited c.sheet.imports).map (·.name)

def direct (repo : Repository) (visited : List String) (c : Configuration) :
    List (Import × Configuration) :=
  located repo (fresh visited c.sheet.imports)

inductive GathersRules (repo : Repository) (key : String) : List String →
    List (Import × Configuration) → List String → List String → List String → Prop
  | nil (visited : List String) : GathersRules repo key visited [] [] [] visited
  | cons {visited after last deeper others names names' : List String} {i : Import}
      {c : Configuration} {rest : List (Import × Configuration)}
      (inside : GathersRules repo key (marked visited c) (direct repo visited c) deeper names after)
      (onward : GathersRules repo key after rest others names' last) :
      GathersRules repo key visited ((i, c) :: rest) ((c.optionValues key ++ deeper) ++ others)
        (i.name :: names ++ names') last

/-- The walk that gathers variables, given those gathered before. An import hands on its own ones
and those of its imports that it does not declare. -/
inductive GathersVariables (repo : Repository) : List String → List (Import × Configuration) →
    List Variable → List Variable → List String → List String → Prop
  | nil (visited : List String) (vs : List Variable) :
      GathersVariables repo visited [] vs vs [] visited
  | cons {visited after last names names' : List String} {vs ws imported : List Variable}
      {i : Import} {c : Configuration} {rest : List (Import × Configuration)}
      (inside : GathersVariables repo (marked visited c) (direct repo visited c) [] imported names
        after)
      (onward : GathersVariables repo after rest
        ((addMissing (c.declared (some i.name)) imported).foldl (fun vs v => upsert v vs) vs) ws
        names' last) :
      GathersVariables repo visited ((i, c) :: rest) vs ws (i.name :: names ++ names') last

inductive GathersLines (repo : Repository) : List String → List (Import × Configuration) →
    List (Nat × List PlacedLine) → List String → List String → Prop
  | nil (visited : List String) : GathersLines repo visited [] [] [] visited
  | cons {visited after last names names' : List String}
      {deeper others : List (Nat × List PlacedLine)} {i : Import} {c : Configuration}
      {rest : List (Import × Configuration)}
      (inside : GathersLines repo (marked visited c) (direct repo visited c) deeper names after)
      (onward : GathersLines repo after rest others names' last) :
      GathersLines repo visited ((i, c) :: rest)
        ((i.line, ImportTree.interleave (·.command.line) deeper
          (c.sheet.commands.map fun command => { own := false, command })) :: others)
        (i.name :: names ++ names') last

/-- What the three walks have in common: the tree of the visits. -/
inductive Visits (repo : Repository) : List String → List (Import × Configuration) →
    List ImportTree → List String → List String → Prop
  | nil (visited : List String) : Visits repo visited [] [] [] visited
  | cons {visited after last names names' : List String} {children ts : List ImportTree}
      {i : Import} {c : Configuration} {rest : List (Import × Configuration)}
      (inside : Visits repo (marked visited c) (direct repo visited c) children names after)
      (onward : Visits repo after rest ts names' last) :
      Visits repo visited ((i, c) :: rest) (.node i c children :: ts) (i.name :: names ++ names')
        last

variable {repo : Repository} {c : Configuration} {visited after names : List String}
  {es : List (Import × Configuration)} {ts : List ImportTree}

theorem visits_unfoldEach {unfold : List String → Configuration → List ImportTree × List String}
    {levels : Nat}
    (hu : ∀ v c, unseen repo v < levels → v ⊆ (unfold v c).2 ∧
      Visits repo (marked v c) (direct repo v c) (unfold v c).1
        (ImportTree.allNames (unfold v c).1) (unfold v c).2)
    (hv : es ≠ [] → unseen repo visited < levels) :
    Visits repo visited es (unfoldEach unfold visited es).1
      (ImportTree.allNames (unfoldEach unfold visited es).1) (unfoldEach unfold visited es).2 := by
  induction es generalizing visited with
  | nil => exact .nil visited
  | cons e es ih =>
    obtain ⟨i, d⟩ := e
    have hlevel := hv (by simp)
    obtain ⟨hgrown, hinside⟩ := hu visited d hlevel
    have hrest := ih fun _ => Nat.lt_of_le_of_lt (unseen_le hgrown) hlevel
    exact .cons hinside hrest

theorem visits_unfold (levels : Nat) (visited : List String) (c : Configuration)
    (h : unseen repo visited < levels) :
    Visits repo (marked visited c) (direct repo visited c) (unfold repo levels visited c).1
      (ImportTree.allNames (unfold repo levels visited c).1) (unfold repo levels visited c).2 := by
  induction levels generalizing visited c with
  | zero => omega
  | succ levels ih =>
    -- if there is an import to go on from, it was marked just now and not before
    refine visits_unfoldEach (fun v d hd => ⟨(unfold_spec levels v d hd).grown.kept, ih v d hd⟩)
      fun hne => ?_
    exact Nat.lt_of_lt_of_le (unseen_fresh_lt hne) (Nat.le_of_lt_succ h)

theorem Visits.unique {ts' : List ImportTree} {names' after' : List String}
    (h : Visits repo visited es ts names after) (h' : Visits repo visited es ts' names' after') :
    ts' = ts ∧ names' = names ∧ after' = after := by
  induction h generalizing ts' names' after' with
  | nil => cases h' ; exact ⟨rfl, rfl, rfl⟩
  | cons _ _ ihInside ihOnward =>
    cases h' with
    | cons inside onward =>
      obtain ⟨rfl, rfl, rfl⟩ := ihInside inside
      obtain ⟨rfl, rfl, rfl⟩ := ihOnward onward
      exact ⟨rfl, rfl, rfl⟩

theorem gathersRules_iff {key : String} {rules : List String} :
    GathersRules repo key visited es rules names after ↔
      ∃ ts, Visits repo visited es ts names after ∧ rules = ImportTree.allRules key ts := by
  constructor
  · intro h
    induction h with
    | nil visited => exact ⟨[], .nil visited, rfl⟩
    | cons _ _ ihInside ihOnward =>
      obtain ⟨children, hinside, rfl⟩ := ihInside
      obtain ⟨ts, honward, rfl⟩ := ihOnward
      exact ⟨_, .cons hinside honward, rfl⟩
  · rintro ⟨ts, h, rfl⟩
    induction h with
    | nil visited => exact .nil visited
    | cons _ _ ihInside ihOnward => exact .cons ihInside ihOnward

theorem gathersVariables_iff {vs ws : List Variable} :
    GathersVariables repo visited es vs ws names after ↔
      ∃ ts, Visits repo visited es ts names after ∧ ws = ImportTree.merged vs ts := by
  constructor
  · intro h
    induction h with
    | nil visited vs => exact ⟨[], .nil visited, rfl⟩
    | cons _ _ ihInside ihOnward =>
      obtain ⟨children, hinside, rfl⟩ := ihInside
      obtain ⟨ts, honward, rfl⟩ := ihOnward
      exact ⟨_, .cons hinside honward, rfl⟩
  · rintro ⟨ts, h, rfl⟩
    induction h generalizing vs with
    | nil visited => exact .nil visited vs
    | cons _ _ ihInside ihOnward => exact .cons ihInside ihOnward

theorem map_interleave {α β : Type} {line : α → Nat} {line' : β → Nat} {g : α → β}
    (hg : ∀ a, line' (g a) = line a) (blocks : List (Nat × List α)) (as : List α) :
    ImportTree.interleave line' (blocks.map fun b => (b.1, b.2.map g)) (as.map g) =
      (ImportTree.interleave line blocks as).map g := by
  induction as generalizing blocks with
  | nil => simp [ImportTree.interleave, List.flatMap_map, List.map_flatMap]
  | cons a as ih =>
    simp [ImportTree.interleave, hg, ih, List.takeWhile_map, List.dropWhile_map, List.flatMap_map,
      List.map_flatMap, Function.comp_def]

def foreign (block : Nat × List CommandLine) : Nat × List PlacedLine :=
  (block.1, block.2.map fun command => { own := false, command })

theorem gathersLines_iff {blocks : List (Nat × List PlacedLine)} :
    GathersLines repo visited es blocks names after ↔
      ∃ ts, Visits repo visited es ts names after ∧
        blocks = (ImportTree.blocks ts).map foreign := by
  have hblock : ∀ (i : Import) (c : Configuration) (children : List ImportTree),
      foreign (i.line, ImportTree.commands (.node i c children)) =
        (i.line, ImportTree.interleave (·.command.line) ((ImportTree.blocks children).map foreign)
          (c.sheet.commands.map fun command => { own := false, command })) := by
    intro i c children
    have hlines : ImportTree.interleave (·.command.line)
        ((ImportTree.blocks children).map foreign)
        (c.sheet.commands.map fun command => { own := false, command : PlacedLine }) =
          (ImportTree.interleave (·.line) (ImportTree.blocks children) c.sheet.commands).map
            fun command => { own := false, command } := map_interleave (fun _ => rfl) _ _
    rw [ImportTree.commands, hlines, foreign]
  constructor
  · intro h
    induction h with
    | nil visited => exact ⟨[], .nil visited, rfl⟩
    | cons _ _ ihInside ihOnward =>
      obtain ⟨children, hinside, rfl⟩ := ihInside
      obtain ⟨ts, honward, rfl⟩ := ihOnward
      refine ⟨_, .cons hinside honward, ?_⟩
      rw [ImportTree.blocks, List.map_cons, ImportTree.line, hblock]
  · rintro ⟨ts, h, rfl⟩
    induction h with
    | nil visited => exact .nil visited
    | cons _ _ ihInside ihOnward =>
      rw [ImportTree.blocks, List.map_cons, ImportTree.line, hblock]
      exact .cons ihInside ihOnward

/-- The walks over the imports of a configuration all end, each in one way and with the values that
the configuration has. They visit the same names in the same order: those that can be reached
through imports, and none of them twice. -/
theorem walks_agree (repo : Repository) (c : Configuration) :
    ∃ names : List String,
      names.Nodup ∧ (∀ n, n ∈ names ↔ Reaches repo c n) ∧
      (∀ key rules visits,
        (∃ inner after, GathersRules repo key (marked [] c) (direct repo [] c) inner visits after ∧
          rules = c.optionValues key ++ inner) ↔
            rules = c.rules repo key ∧ visits = names) ∧
      (∀ vs visits,
        (∃ after, GathersVariables repo (marked [] c) (direct repo [] c) [] vs visits
          after) ↔ vs = c.importedVariables repo ∧ visits = names) ∧
      ∀ lines visits,
        (∃ inner after, GathersLines repo (marked [] c) (direct repo [] c) inner visits after ∧
          lines = ImportTree.interleave (·.command.line) inner
            (c.sheet.commands.map fun command => { own := true, command })) ↔
              lines = c.placedLines repo ∧ visits = names := by
  have hends : Visits repo (marked [] c) (direct repo [] c) (c.imports repo)
      (ImportTree.allNames (c.imports repo)) (unfold repo (repo.length + 1) [] c).2 :=
    visits_unfold _ [] c (by simp [unseen, Repository.names])
  refine ⟨ImportTree.allNames (c.imports repo), imports_nodup repo c, fun n => mem_imports, ?_, ?_,
    ?_⟩
  · intro key rules visits
    constructor
    · rintro ⟨inner, after, h, rfl⟩
      obtain ⟨ts, hvisits, rfl⟩ := gathersRules_iff.mp h
      obtain ⟨rfl, rfl, -⟩ := hends.unique hvisits
      exact ⟨rfl, rfl⟩
    · rintro ⟨rfl, rfl⟩
      exact ⟨_, _, gathersRules_iff.mpr ⟨_, hends, rfl⟩, rfl⟩
  · intro vs visits
    constructor
    · rintro ⟨after, h⟩
      obtain ⟨ts, hvisits, rfl⟩ := gathersVariables_iff.mp h
      obtain ⟨rfl, rfl, -⟩ := hends.unique hvisits
      exact ⟨rfl, rfl⟩
    · rintro ⟨rfl, rfl⟩
      exact ⟨_, gathersVariables_iff.mpr ⟨_, hends, rfl⟩⟩
  · intro lines visits
    constructor
    · rintro ⟨inner, after, h, rfl⟩
      obtain ⟨ts, hvisits, rfl⟩ := gathersLines_iff.mp h
      obtain ⟨rfl, rfl, -⟩ := hends.unique hvisits
      exact ⟨rfl, rfl⟩
    · rintro ⟨rfl, rfl⟩
      exact ⟨_, _, gathersLines_iff.mpr ⟨_, hends, rfl⟩, rfl⟩

end Configuration
end PageOverlay
