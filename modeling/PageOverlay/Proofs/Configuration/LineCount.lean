import PageOverlay.Configuration.Commands
import PageOverlay.Proofs.Configuration.ImportGraph

/-!
# How often a command line counts

The flattened lines of a configuration are its own and those of every name that it reaches. Each
line counts once, unless the configuration imports itself in a cycle: then it is reached under its
own name as well, and its lines count twice.
-/

set_option autoImplicit false

namespace PageOverlay

open Sheet (CommandLine)

def Repository.linesOf (repo : Repository) (n : String) : List CommandLine :=
  ((repo.find? n).map (·.sheet.commands)).getD []

theorem Repository.linesOf_of_find? {repo : Repository} {n : String} {c : Configuration}
    (h : repo.find? n = some c) : repo.linesOf n = c.sheet.commands := by
  simp [linesOf, h]

namespace ImportTree

theorem interleave_perm {α : Type} (line : α → Nat) (blocks : List (Nat × List α))
    (as : List α) : (interleave line blocks as).Perm (as ++ blocks.flatMap (·.2)) := by
  induction as generalizing blocks with
  | nil => exact .refl _
  | cons a as ih =>
    rw [interleave]
    let before := blocks.takeWhile fun b => b.1 < line a
    let after := blocks.dropWhile fun b => b.1 < line a
    have hblocks : before ++ after = blocks := List.takeWhile_append_dropWhile
    calc (before.flatMap (·.2) ++ a :: interleave line after as).Perm
          (before.flatMap (·.2) ++ a :: (as ++ after.flatMap (·.2))) :=
          ((ih after).cons a).append_left _
      _ |>.Perm ((a :: as) ++ (before.flatMap (·.2) ++ after.flatMap (·.2))) := by
          have hswap : (before.flatMap (·.2) ++ a :: as).Perm (a :: as ++ before.flatMap (·.2)) :=
            List.perm_append_comm
          simpa using hswap.append_right (after.flatMap (·.2))
      _ = (a :: as) ++ blocks.flatMap (·.2) := by
          rw [← List.flatMap_append, hblocks]

mutual

theorem commands_perm {repo : Repository} :
    ∀ t : ImportTree, Follows repo t → (commands t).Perm ((names t).flatMap repo.linesOf)
  | .node i c children, h => by
    rw [commands, names, List.flatMap_cons, Repository.linesOf_of_find? h.1]
    exact (interleave_perm _ _ _).trans ((blocks_perm children h.2).append_left _)

theorem blocks_perm {repo : Repository} :
    ∀ ts : List ImportTree, AllFollow repo ts →
      ((blocks ts).flatMap (·.2)).Perm ((allNames ts).flatMap repo.linesOf)
  | [], _ => .refl _
  | t :: ts, h => by
    rw [blocks, allNames, List.flatMap_cons, List.flatMap_append]
    exact (commands_perm t h.1).append (blocks_perm ts h.2)

end

end ImportTree

namespace Configuration

open ImportTree (allNames)

variable {repo : Repository} {c : Configuration}

theorem placedLines_perm (repo : Repository) (c : Configuration) :
    (c.placedLines repo).Perm
      ((c.sheet.commands.map fun command => { own := true, command }) ++
        ((allNames (c.imports repo)).flatMap repo.linesOf).map fun command =>
          { own := false, command }) := by
  refine (ImportTree.interleave_perm _ _ _).trans (List.Perm.append_left _ ?_)
  have h := (ImportTree.blocks_perm _ (imports_follow repo c)).map
    fun command => ({ own := false, command } : PlacedLine)
  simpa [List.flatMap_map, List.map_flatMap] using h

/-- Names reached from a configuration under the name `k`, its own name among them. -/
structure Covers (repo : Repository) (c : Configuration) (k : String) (all : List String) : Prop
    where
  once : all.Nodup
  mem_iff : ∀ n, n ∈ all ↔ n = k ∨ Reaches repo c n

theorem covers_of_reaches {k : String} (h : Reaches repo c k) :
    Covers repo c k (allNames (c.imports repo)) where
  once := imports_nodup repo c
  mem_iff n := by
    rw [mem_imports]
    constructor
    · exact .inr
    · rintro (rfl | hn)
      · exact h
      · exact hn

theorem covers_of_not_reaches {k : String} (h : ¬ Reaches repo c k) :
    Covers repo c k (k :: allNames (c.imports repo)) where
  once := List.nodup_cons.mpr ⟨fun hk => h (mem_imports.mp hk), imports_nodup repo c⟩
  mem_iff n := by rw [List.mem_cons, mem_imports]

theorem Covers.perm {k : String} {all all' : List String} (h : Covers repo c k all)
    (h' : Covers repo c k all') : all.Perm all' := by
  rw [List.perm_ext_iff_of_nodup h.once h'.once]
  intro n
  rw [h.mem_iff, h'.mem_iff]

theorem commands_placedLines_perm (repo : Repository) (c : Configuration) :
    ((c.placedLines repo).map (·.command)).Perm
      (c.sheet.commands ++ (allNames (c.imports repo)).flatMap repo.linesOf) := by
  simpa [Function.comp_def] using (placedLines_perm repo c).map (·.command)

/-- A registered configuration and all that it reaches give each of their lines once, exactly when
the configuration does not reach itself or has no lines to repeat. If it does reach itself, the
other lines count once and its own twice. -/
theorem placedLines_once_iff {k : String} (hk : repo.find? k = some c) :
    ∃ all, Covers repo c k all ∧
      (((c.placedLines repo).map (·.command)).Perm (all.flatMap repo.linesOf) ↔
        (Reaches repo c k → c.sheet.commands = [])) ∧
      (Reaches repo c k →
        ((c.placedLines repo).map (·.command)).Perm
          (c.sheet.commands ++ all.flatMap repo.linesOf)) := by
  have hlines := commands_placedLines_perm repo c
  by_cases hr : Reaches repo c k
  · refine ⟨_, covers_of_reaches hr, ?_, fun _ => hlines⟩
    constructor
    · intro h _
      have hlength := (hlines.symm.trans h).length_eq
      rw [List.length_append] at hlength
      exact List.length_eq_zero_iff.mp (by omega)
    · intro h
      rwa [h hr, List.nil_append] at hlines
  · refine ⟨_, covers_of_not_reaches hr, ?_, fun h => absurd h hr⟩
    rw [List.flatMap_cons, Repository.linesOf_of_find? hk]
    exact ⟨fun _ h => absurd h hr, fun _ => hlines⟩

def importsBack : Configuration := ofText "+A\nc = d"

/-- The first of two configurations that import each other. -/
def importsMutually : Configuration := ofText "+B\na = aa"

def mutualRepository : Repository := [("A", importsMutually), ("B", importsBack)]

theorem names_importsMutually :
    allNames (importsMutually.imports mutualRepository) = ["B", "A"] := by
  decide

theorem importsMutually_reaches_itself : Reaches mutualRepository importsMutually "A" := by
  rw [← mem_imports, names_importsMutually]
  decide

theorem placedLines_once_iff_mutual :
    mutualRepository.find? "A" = some importsMutually ∧
      Reaches mutualRepository importsMutually "A" ∧ importsMutually.sheet.commands ≠ [] ∧
      ∃ all, Covers mutualRepository importsMutually "A" all ∧
        ((importsMutually.placedLines mutualRepository).map (·.command)).Perm
          (importsMutually.sheet.commands ++ all.flatMap mutualRepository.linesOf) := by
  have hfind : mutualRepository.find? "A" = some importsMutually := rfl
  obtain ⟨all, hall, -, hlines⟩ := placedLines_once_iff hfind
  exact ⟨hfind, importsMutually_reaches_itself, by decide, all, hall,
    hlines importsMutually_reaches_itself⟩

theorem mutual_lines_not_once :
    ¬ ∃ all, Covers mutualRepository importsMutually "A" all ∧
      ((importsMutually.placedLines mutualRepository).map (·.command)).Perm
        (all.flatMap mutualRepository.linesOf) := by
  rintro ⟨all, hall, hlines⟩
  have hperm := hall.perm (covers_of_reaches importsMutually_reaches_itself)
  have hlength := (hlines.trans (hperm.flatMap_right _)).length_eq
  rw [names_importsMutually] at hlength
  exact absurd hlength (by decide)

end Configuration
end PageOverlay
