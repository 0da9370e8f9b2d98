import Mathlib.Data.List.Nodup
import PageOverlay.Proofs.Configuration.Traversals

/-!
# Which import a variable comes from

Imports hand variables on, and of two that share a name one is lost. The one that is left is found
from the importing configuration down: among its imports the last one counts that has a declaration
somewhere in it. If it declares the name itself, that is where the variable comes from, and
otherwise it is sought in the same way among the imports of this one. Nothing but the sheets has a
part in that.
-/

set_option autoImplicit false

namespace PageOverlay

open Sheet (Declaration Import)

def Variable.called? (name : String) (vs : List Variable) : Option Variable :=
  vs.find? (·.name == name)

namespace Variable

variable {name : String} {v w : Variable} {vs : List Variable}

theorem called?_cons (v : Variable) (vs : List Variable) :
    called? name (v :: vs) = if v.name = name then some v else called? name vs := by
  by_cases h : v.name = name <;> simp [called?, h]

theorem called?_append (ws : List Variable) :
    called? name (vs ++ ws) = (called? name vs).or (called? name ws) := List.find?_append

theorem name_of_called? (h : called? name vs = some v) : v.name = name := by
  simpa using List.find?_some h

theorem called?_isSome : (called? name vs).isSome ↔ name ∈ vs.map (·.name) := by
  simp [called?, List.find?_isSome]

theorem mem_iff_called? (h : (vs.map (·.name)).Nodup) :
    v ∈ vs ↔ called? v.name vs = some v := by
  refine ⟨fun hv => ?_, List.mem_of_find?_eq_some⟩
  obtain ⟨before, after, rfl⟩ := List.append_of_mem hv
  rw [List.map_append, List.nodup_append] at h
  have hbefore : called? v.name before = none :=
    List.find?_eq_none.mpr fun w hw heq =>
      h.2.2 w.name (List.mem_map_of_mem hw) v.name (by simp) (by simpa using heq)
  rw [called?_append, hbefore, Option.none_or, called?, List.find?_cons_of_pos (by simp)]

theorem called?_reverse (h : (vs.map (·.name)).Nodup) :
    called? name vs.reverse = called? name vs := by
  have hrev : (vs.reverse.map (·.name)).Nodup := by
    rw [List.map_reverse, List.nodup_reverse]
    exact h
  refine Option.ext fun v => ⟨fun hv => ?_, fun hv => ?_⟩
  · obtain rfl := name_of_called? hv
    exact (mem_iff_called? h).mp (List.mem_reverse.mp ((mem_iff_called? hrev).mpr hv))
  · obtain rfl := name_of_called? hv
    exact (mem_iff_called? hrev).mp (List.mem_reverse.mpr ((mem_iff_called? h).mpr hv))

end Variable

namespace Configuration

open Variable (called? called?_append called?_cons called?_isSome called?_reverse)

variable {name : String} {vs ws : List Variable} {c : Configuration} {owner : Option String}

theorem called?_upsert (v : Variable) (vs : List Variable) :
    called? name (upsert v vs) = if v.name = name then some v else called? name vs := by
  induction vs with
  | nil => by_cases hv : v.name = name <;> simp [upsert, called?, hv]
  | cons w vs ih =>
    rw [upsert]
    split
    · next hw => by_cases hv : v.name = name <;> simp [called?_cons, hw, hv]
    · next hw =>
      rw [called?_cons, called?_cons, ih]
      by_cases hwn : w.name = name
      · have hv : v.name ≠ name := fun hv => hw (hwn.trans hv.symm)
        simp [hwn, hv]
      · simp [hwn]

theorem nodup_upsert (v : Variable) (h : (vs.map (·.name)).Nodup) :
    ((upsert v vs).map (·.name)).Nodup := by
  induction vs with
  | nil => simp [upsert]
  | cons w vs ih =>
    rw [List.map_cons, List.nodup_cons] at h
    rw [upsert]
    split
    · next hw => rwa [List.map_cons, List.nodup_cons, ← hw]
    · next hw =>
      rw [List.map_cons, List.nodup_cons]
      refine ⟨fun hmem => ?_, ih h.2⟩
      rw [← called?_isSome, called?_upsert, if_neg fun hv => hw hv.symm, called?_isSome] at hmem
      exact h.1 hmem

theorem called?_foldl_upsert (ws vs : List Variable) :
    called? name (ws.foldl (fun vs w => upsert w vs) vs) =
      (called? name ws.reverse).or (called? name vs) := by
  induction ws generalizing vs with
  | nil => rfl
  | cons w ws ih =>
    rw [List.foldl_cons, ih, called?_upsert, List.reverse_cons, called?_append, Option.or_assoc]
    by_cases hw : w.name = name <;> simp [called?, hw]

theorem nodup_foldl_upsert (ws : List Variable) (h : (vs.map (·.name)).Nodup) :
    ((ws.foldl (fun vs w => upsert w vs) vs).map (·.name)).Nodup := by
  induction ws generalizing vs with
  | nil => exact h
  | cons w ws ih => exact ih (nodup_upsert w h)

theorem called?_addMissing (vs ws : List Variable) :
    called? name (addMissing vs ws) = (called? name vs).or (called? name ws) := by
  induction ws generalizing vs with
  | nil => exact Option.or_none.symm
  | cons w ws ih =>
    rw [addMissing, List.foldl_cons]
    change called? name (addMissing _ ws) = _
    rw [ih]
    split
    · next hany =>
      obtain ⟨v, hv, hname⟩ := List.any_eq_true.mp hany
      by_cases hw : w.name = name
      · have hsome : (called? name vs).isSome :=
          called?_isSome.mpr (List.mem_map.mpr ⟨v, hv, by simpa [hw] using hname⟩)
        rw [Option.or_of_isSome hsome, Option.or_of_isSome hsome]
      · simp [called?, hw]
    · rw [called?_append, Option.or_assoc]
      by_cases hw : w.name = name <;> simp [called?, hw]

theorem nodup_addMissing (ws : List Variable) (h : (vs.map (·.name)).Nodup) :
    ((addMissing vs ws).map (·.name)).Nodup := by
  induction ws generalizing vs with
  | nil => exact h
  | cons w ws ih =>
    rw [addMissing, List.foldl_cons]
    refine ih ?_
    split
    · exact h
    · next hnone =>
      rw [List.map_append, List.nodup_append]
      refine ⟨h, by simp, fun a ha b hb hab => hnone ?_⟩
      obtain ⟨v, hv, rfl⟩ := List.mem_map.mp ha
      obtain rfl : b = w.name := by simpa using hb
      exact List.any_eq_true.mpr ⟨v, hv, by simpa using hab⟩

def Declares (c : Configuration) (name : String) : Prop :=
  ∃ d ∈ c.sheet.declarations, d.name = name

def LastDeclares (c : Configuration) (name : String) (d : Declaration) : Prop :=
  ∃ before after, c.sheet.declarations = before ++ d :: after ∧ d.name = name ∧
    ∀ e ∈ after, e.name ≠ name

theorem lastDeclares_iff {d : Declaration} :
    c.LastDeclares name d ↔ c.sheet.declarations.reverse.find? (·.name == name) = some d := by
  rw [List.find?_eq_some_iff_append]
  constructor
  · rintro ⟨before, after, hsplit, hname, hafter⟩
    refine ⟨by simpa using hname, after.reverse, before.reverse, by simp [hsplit], fun e he => ?_⟩
    simpa using hafter e (List.mem_reverse.mp he)
  · rintro ⟨hname, after, before, hsplit, hafter⟩
    refine ⟨before.reverse, after.reverse, ?_, by simpa using hname, fun e he => ?_⟩
    · rw [List.reverse_eq_iff] at hsplit
      simp [hsplit]
    · simpa using hafter e (List.mem_reverse.mp he)

theorem Declares.exists_last (h : c.Declares name) : ∃ d, c.LastDeclares name d := by
  obtain ⟨d, hd, hname⟩ := h
  have hsome : (c.sheet.declarations.reverse.find? (·.name == name)).isSome :=
    List.find?_isSome.mpr ⟨d, List.mem_reverse.mpr hd, by simpa using hname⟩
  obtain ⟨last, hlast⟩ := Option.isSome_iff_exists.mp hsome
  exact ⟨last, lastDeclares_iff.mpr hlast⟩

theorem LastDeclares.declares {d : Declaration} (h : c.LastDeclares name d) : c.Declares name := by
  obtain ⟨before, after, hsplit, hname, -⟩ := h
  exact ⟨d, by simp [hsplit], hname⟩

def handedOn (owner : Option String) (d : Declaration) : Variable :=
  { name := d.name, value := d.value, description := d.description, owner }

theorem declared_eq (c : Configuration) (owner : Option String) :
    c.declared owner =
      (c.sheet.declarations.map (handedOn owner)).foldl (fun vs v => upsert v vs) [] := by
  rw [List.foldl_map]
  rfl

theorem called?_declared (c : Configuration) (owner : Option String) (name : String) :
    called? name (c.declared owner) =
      (c.sheet.declarations.reverse.find? (·.name == name)).map (handedOn owner) := by
  rw [declared_eq, called?_foldl_upsert, ← List.map_reverse, called?, List.find?_map,
    called?, List.find?_nil, Option.or_none]
  rfl

theorem called?_declared_eq_some {v : Variable} :
    called? name (c.declared owner) = some v ↔
      ∃ d, c.LastDeclares name d ∧ handedOn owner d = v := by
  rw [called?_declared, Option.map_eq_some_iff]
  exact exists_congr fun d => and_congr_left fun _ => lastDeclares_iff.symm

theorem called?_declared_isSome : (called? name (c.declared owner)).isSome ↔ c.Declares name := by
  rw [Option.isSome_iff_exists]
  constructor
  · rintro ⟨v, hv⟩
    obtain ⟨d, hd, -⟩ := called?_declared_eq_some.mp hv
    exact hd.declares
  · intro h
    obtain ⟨d, hd⟩ := h.exists_last
    exact ⟨_, called?_declared_eq_some.mpr ⟨d, hd, rfl⟩⟩

theorem nodup_declared (c : Configuration) (owner : Option String) :
    ((c.declared owner).map (·.name)).Nodup := by
  rw [declared_eq]
  exact nodup_foldl_upsert _ List.nodup_nil

end Configuration

namespace ImportTree

open Variable (called?)

variable {name : String} {v : Variable} {repo : Repository}

mutual

def Declares (name : String) : ImportTree → Prop
  | .node _ c children => c.Declares name ∨ AnyDeclares name children

def AnyDeclares (name : String) : List ImportTree → Prop
  | [] => False
  | t :: ts => Declares name t ∨ AnyDeclares name ts

end

theorem anyDeclares_append {xs ys : List ImportTree} :
    AnyDeclares name (xs ++ ys) ↔ AnyDeclares name xs ∨ AnyDeclares name ys := by
  induction xs with
  | nil => simp [AnyDeclares]
  | cons t ts ih => rw [List.cons_append, AnyDeclares, AnyDeclares, ih, or_assoc]

/-- The variable comes from the last of the imports that declares the name itself or has it declared
by an import of its own. -/
inductive Prevails (name : String) : List ImportTree → Variable → Prop
  | own {before later children : List ImportTree} {i : Import} {c : Configuration}
      {d : Sheet.Declaration} (last : ¬ AnyDeclares name later) (declared : c.LastDeclares name d) :
      Prevails name (before ++ .node i c children :: later) (Configuration.handedOn (some i.name) d)
  | imported {before later children : List ImportTree} {i : Import} {c : Configuration}
      {v : Variable} (last : ¬ AnyDeclares name later) (undeclared : ¬ c.Declares name)
      (deeper : Prevails name children v) :
      Prevails name (before ++ .node i c children :: later) v

theorem nodup_exported (t : ImportTree) : ((exported t).map (·.name)).Nodup := by
  cases t with
  | node i c children =>
    rw [exported]
    exact Configuration.nodup_addMissing _ (c.nodup_declared _)

theorem nodup_merged {vs : List Variable} (h : (vs.map (·.name)).Nodup) (ts : List ImportTree) :
    ((merged vs ts).map (·.name)).Nodup := by
  induction ts generalizing vs with
  | nil => exact h
  | cons t ts ih =>
    rw [merged]
    exact ih (Configuration.nodup_foldl_upsert _ h)

theorem called?_exported (i : Import) (c : Configuration) (children : List ImportTree) :
    called? name (exported (.node i c children)) =
      (called? name (c.declared (some i.name))).or (called? name (merged [] children)) := by
  rw [exported, Configuration.called?_addMissing]

theorem called?_merged (vs : List Variable) (ts : List ImportTree) :
    called? name (merged vs ts) = (called? name (merged [] ts)).or (called? name vs) := by
  induction ts generalizing vs with
  | nil => rfl
  | cons t ts ih =>
    rw [merged, merged, ih, ih (List.foldl _ [] _), Configuration.called?_foldl_upsert,
      Configuration.called?_foldl_upsert, Option.or_assoc, Option.or_assoc]
    rfl

theorem called?_merged_cons (t : ImportTree) (ts : List ImportTree) :
    called? name (merged [] (t :: ts)) =
      (called? name (merged [] ts)).or (called? name (exported t)) := by
  rw [merged, called?_merged, Configuration.called?_foldl_upsert,
    Variable.called?_reverse (nodup_exported t)]
  exact congrArg _ Option.or_none

theorem called?_merged_append (xs ys : List ImportTree) :
    called? name (merged [] (xs ++ ys)) =
      (called? name (merged [] ys)).or (called? name (merged [] xs)) := by
  induction xs with
  | nil => exact Option.or_none.symm
  | cons t ts ih =>
    rw [List.cons_append, called?_merged_cons, ih, called?_merged_cons, Option.or_assoc]

mutual

theorem called?_exported_isSome :
    ∀ t : ImportTree, (called? name (exported t)).isSome ↔ Declares name t
  | .node i c children => by
    rw [called?_exported, Option.isSome_or, Bool.or_eq_true, Declares,
      Configuration.called?_declared_isSome, called?_merged_isSome children]

theorem called?_merged_isSome :
    ∀ ts : List ImportTree, (called? name (merged [] ts)).isSome ↔ AnyDeclares name ts
  | [] => by simp [merged, called?, AnyDeclares]
  | t :: ts => by
    rw [called?_merged_cons, Option.isSome_or, Bool.or_eq_true, AnyDeclares,
      called?_exported_isSome t, called?_merged_isSome ts, or_comm]

end

/-- What comes before an import that declares the name does not matter, nor does what comes after
the last one of these. -/
theorem called?_merged_last {before later : List ImportTree} {t : ImportTree}
    (h : ¬ AnyDeclares name later) (ht : Declares name t) :
    called? name (merged [] (before ++ t :: later)) = called? name (exported t) := by
  have hlater : called? name (merged [] later) = none := by
    rw [← Option.isNone_iff_eq_none, ← Option.not_isSome, Bool.not_eq_true', ← Bool.not_eq_true,
      called?_merged_isSome]
    exact h
  rw [called?_merged_append, called?_merged_cons, hlater, Option.none_or,
    Option.or_of_isSome ((called?_exported_isSome t).mpr ht)]

theorem Prevails.anyDeclares {ts : List ImportTree} (h : Prevails name ts v) :
    AnyDeclares name ts := by
  induction h with
  | own _ declared =>
    rw [anyDeclares_append, AnyDeclares, Declares]
    exact .inr (.inl (.inl declared.declares))
  | imported _ _ _ ih =>
    rw [anyDeclares_append, AnyDeclares, Declares]
    exact .inr (.inl (.inr ih))

theorem Prevails.found {ts : List ImportTree} (h : Prevails name ts v) :
    called? name (merged [] ts) = some v := by
  induction h with
  | @own before later children i c d last declared =>
    have hdeclared : called? name (c.declared (some i.name)) =
        some (Configuration.handedOn (some i.name) d) :=
      Configuration.called?_declared_eq_some.mpr ⟨d, declared, rfl⟩
    rw [called?_merged_last last (by rw [Declares]; exact .inl declared.declares), called?_exported,
      hdeclared, Option.some_or]
  | @imported before later children i c v last undeclared deeper ih =>
    have hnone : called? name (c.declared (some i.name)) = none := by
      rw [← Option.not_isSome_iff_eq_none, Configuration.called?_declared_isSome]
      exact undeclared
    rw [called?_merged_last last (by rw [Declares]; exact .inr deeper.anyDeclares),
      called?_exported, hnone, Option.none_or, ih]

mutual

theorem exists_prevails_last {later : List ImportTree} (hlater : ¬ AnyDeclares name later)
    (before : List ImportTree) :
    ∀ t : ImportTree, Declares name t → ∃ v, Prevails name (before ++ t :: later) v
  | .node i c children, h => by
    rw [Declares] at h
    by_cases hc : c.Declares name
    · obtain ⟨d, hd⟩ := hc.exists_last
      exact ⟨_, .own hlater hd⟩
    · obtain ⟨v, hv⟩ := exists_prevails [] children (h.resolve_left hc)
      exact ⟨v, .imported hlater hc hv⟩

/-- Where the name is declared at all, the search comes to its end. -/
theorem exists_prevails (before : List ImportTree) :
    ∀ ts : List ImportTree, AnyDeclares name ts → ∃ v, Prevails name (before ++ ts) v
  | [], h => by
    rw [AnyDeclares] at h
    exact h.elim
  | t :: ts, h => by
    rw [AnyDeclares] at h
    -- an import counts only if none that comes later has the name
    by_cases hts : AnyDeclares name ts
    · obtain ⟨v, hv⟩ := exists_prevails (before ++ [t]) ts hts
      exact ⟨v, by simpa using hv⟩
    · exact exists_prevails_last hts before t (h.resolve_right hts)

end

theorem called?_merged_eq_some {ts : List ImportTree} :
    called? name (merged [] ts) = some v ↔ Prevails name ts v := by
  refine ⟨fun h => ?_, Prevails.found⟩
  have hdeclared : AnyDeclares name ts :=
    (called?_merged_isSome ts).mp (Option.isSome_iff_exists.mpr ⟨v, h⟩)
  obtain ⟨w, hw⟩ := exists_prevails [] ts hdeclared
  obtain rfl := Option.some.inj (h.symm.trans hw.found)
  exact hw

mutual

theorem declares_iff :
    ∀ {t : ImportTree}, Follows repo t →
      (Declares name t ↔ ∃ n ∈ names t, ∃ d, repo.find? n = some d ∧ d.Declares name)
  | .node i c children, h => by
    rw [Follows] at h
    rw [Declares, anyDeclares_iff h.2, names]
    simp [h.1]

theorem anyDeclares_iff :
    ∀ {ts : List ImportTree}, AllFollow repo ts →
      (AnyDeclares name ts ↔ ∃ n ∈ allNames ts, ∃ d, repo.find? n = some d ∧ d.Declares name)
  | [], _ => by simp [AnyDeclares, allNames]
  | t :: ts, h => by
    rw [AllFollow] at h
    rw [AnyDeclares, declares_iff h.1, anyDeclares_iff h.2, allNames]
    simp only [List.mem_append, or_and_right, exists_or]

end

end ImportTree

namespace Configuration

variable {repo repo' : Repository} {c c' : Configuration} {visited : List String}

def SameSheets (repo repo' : Repository) : Prop :=
  ∀ n, (repo'.find? n).map (·.sheet) = (repo.find? n).map (·.sheet)

def bySheet (e : Import × Configuration) : Import × Sheet := (e.1, e.2.sheet)

theorem located_congr (h : SameSheets repo repo') (is : List Import) :
    (located repo' is).map bySheet = (located repo is).map bySheet := by
  rw [located, located, List.map_filterMap, List.map_filterMap]
  refine List.filterMap_congr fun i _ => ?_
  have hi := congrArg (Option.map (Prod.mk i)) (h i.name)
  simpa [Option.map_map, Function.comp_def, bySheet] using hi

theorem GathersVariables.congr (h : SameSheets repo repo') {es es' : List (Import × Configuration)}
    {vs ws : List Variable} {names after : List String}
    (hg : GathersVariables repo visited es vs ws names after)
    (hes : es'.map bySheet = es.map bySheet) :
    GathersVariables repo' visited es' vs ws names after := by
  -- on the walk, which only ever looks at the sheets of what it goes through
  induction hg generalizing es' with
  | nil visited vs =>
    obtain rfl := List.map_eq_nil_iff.mp hes
    exact .nil visited vs
  | @cons visited after last names names' vs ws imported i c rest _ _ ihInside ihOnward =>
    obtain ⟨e, rest', rfl, he, hrest⟩ := List.map_eq_cons_iff.mp hes
    obtain ⟨rfl, hsheet⟩ := Prod.mk.inj he
    obtain ⟨i, d⟩ := e
    have hdeclared : d.declared (some i.name) = c.declared (some i.name) := by
      rw [declared, declared, hsheet]
    have hmarked : marked visited d = marked visited c := by rw [marked, marked, hsheet]
    have hdirect : (direct repo' visited d).map bySheet = (direct repo visited c).map bySheet := by
      rw [direct, direct, hsheet]
      exact located_congr h _
    have hinside := ihInside hdirect
    have honward := ihOnward hrest
    rw [← hmarked] at hinside
    rw [← hdeclared] at honward
    exact .cons hinside honward

theorem visits_imports (repo : Repository) (c : Configuration) :
    Visits repo (marked [] c) (direct repo [] c) (c.imports repo)
      (ImportTree.allNames (c.imports repo)) (unfold repo (repo.length + 1) [] c).2 :=
  visits_unfold _ [] c (by simp [unseen, Repository.names])

theorem importedVariables_congr (h : SameSheets repo repo') (hc : c'.sheet = c.sheet) :
    c'.importedVariables repo' = c.importedVariables repo := by
  have hgathers : GathersVariables repo (marked [] c) (direct repo [] c) []
      (c.importedVariables repo) (ImportTree.allNames (c.imports repo))
      (unfold repo (repo.length + 1) [] c).2 :=
    gathersVariables_iff.mpr ⟨_, visits_imports repo c, rfl⟩
  have hdirect : (direct repo' [] c').map bySheet = (direct repo [] c).map bySheet := by
    rw [direct, direct, hc]
    exact located_congr h _
  obtain ⟨ts, hvisits, hmerged⟩ := gathersVariables_iff.mp (hgathers.congr h hdirect)
  have hmarked : marked [] c' = marked [] c := by rw [marked, marked, hc]
  rw [← hmarked] at hvisits
  obtain ⟨rfl, -, -⟩ := (visits_imports repo' c').unique hvisits
  exact hmerged.symm

def giving (given : String → List (String × String)) (repo : Repository) : Repository :=
  repo.map fun e => (e.1, { e.2 with values := given e.1 })

theorem sameSheets_giving (given : String → List (String × String)) (repo : Repository) :
    SameSheets repo (giving given repo) := by
  intro n
  rw [Repository.find?, Repository.find?, giving, List.find?_map, Option.map_map, Option.map_map,
    Option.map_map]
  rfl

/-- Each name is there once, and those are there that a configuration declares that is visited
through imports. Which declaration a variable comes from is found by going down from the importing
configuration, and the values that are given to imports have no part in it. -/
theorem importedVariables_prevail (repo : Repository) (c : Configuration) :
    ∃ ts names after,
      Visits repo (marked [] c) (direct repo [] c) ts names after ∧
      (∀ n, n ∈ names ↔ Reaches repo c n) ∧
      ((c.importedVariables repo).map (·.name)).Nodup ∧
      (∀ name, name ∈ (c.importedVariables repo).map (·.name) ↔
        ∃ n ∈ names, ∃ d, repo.find? n = some d ∧ d.Declares name) ∧
      (∀ v, v ∈ c.importedVariables repo ↔ ImportTree.Prevails v.name ts v) ∧
      ∀ given, c.importedVariables (giving given repo) = c.importedVariables repo := by
  have hnone : (([] : List Variable).map (·.name)).Nodup := List.nodup_nil
  have honce : ((c.importedVariables repo).map (·.name)).Nodup := ImportTree.nodup_merged hnone _
  refine ⟨c.imports repo, _, _, visits_imports repo c, fun n => mem_imports, honce, fun name => ?_,
    fun v => ?_, fun given => importedVariables_congr (sameSheets_giving given repo) rfl⟩
  · rw [← Variable.called?_isSome, importedVariables, ImportTree.called?_merged_isSome,
      ImportTree.anyDeclares_iff (imports_follow repo c)]
  · rw [Variable.mem_iff_called? honce, importedVariables, ImportTree.called?_merged_eq_some]

example :
    let repo := [("first", ofText "$a = 1\n$b = 1"), ("second", ofText "+third"),
      ("third", ofText "$a = 3\n[inner]\n$a = 4\n+first")]
    (ofText "+first\n+second").importedVariables repo =
      [{ name := "a", value := "4", owner := some "third" },
        { name := "b", value := "1", owner := some "first" }] := by
  decide +kernel

end Configuration
end PageOverlay
