import PageOverlay.Configuration.Commands
import PageOverlay.Proofs.Configuration.Precedence
import PageOverlay.Proofs.Sheet.Scoping

/-!
# The variables that are listed

The list of variables is made by setting one declaration after the other, and the value of a name in
a line is found by looking for the declaration that counts. Where all declarations of a sheet stand
at the top level, both come to the same.
-/

set_option autoImplicit false

namespace PageOverlay

open Sheet (Declaration)

namespace Scopes

theorem nearest?_top {ds : List Declaration} (h : ∀ d ∈ ds, d.scope = "") (name : String) :
    nearest? ds name "" = ds.reverse.find? (·.name == name) := by
  have hfilter : (ds.filter fun d => d.name == name && d.scope == "") =
      ds.filter (·.name == name) :=
    List.filter_congr fun d hd => by simp [h d hd]
  have hlast : (ds.filter (·.name == name)).getLast? = ds.reverse.find? (·.name == name) := by
    rw [List.getLast?_eq_head?_reverse, ← List.filter_reverse, List.head?_filter]
  ext d
  rw [nearest?_eq_some_iff, ← hlast, ← hfilter]
  refine ⟨fun hd => ?_, fun hd => ?_⟩
  · have hscope := h d hd.mem
    exact hscope ▸ hd.last
  · obtain ⟨-, hboth⟩ := List.mem_filter.mp (List.mem_of_getLast? hd)
    obtain ⟨hname, hscope⟩ : d.name = name ∧ d.scope = "" := by simpa using hboth
    refine ⟨⟨hname, by rw [hscope]; exact .top ""⟩, fun e he _ => ?_, by rwa [hscope]⟩
    rw [h e he]
    exact .top _

end Scopes

namespace Configuration

open Variable (called? called?_isSome mem_iff_called?)

variable {repo : Repository} {c : Configuration} {name : String}

theorem name_withGiven (c : Configuration) (v : Variable) : (c.withGiven v).name = v.name := by
  rw [withGiven]
  split <;> rfl

theorem value_withGiven (c : Configuration) (v : Variable) :
    (c.withGiven v).value = (Scopes.given? c.values v.name).getD v.value := by
  rw [withGiven]
  split <;> simp [*]

theorem map_name_withGiven (c : Configuration) (vs : List Variable) :
    (vs.map c.withGiven).map (·.name) = vs.map (·.name) := by
  rw [List.map_map]
  exact List.map_congr_left fun v _ => c.name_withGiven v

theorem called?_map_withGiven (c : Configuration) (vs : List Variable) :
    called? name (vs.map c.withGiven) = (called? name vs).map c.withGiven := by
  have hname : (fun v : Variable => v.name == name) ∘ c.withGiven = fun v => v.name == name :=
    funext fun v => by simp [name_withGiven]
  rw [called?, List.find?_map, hname, called?]

theorem called?_knownVariables :
    called? name (c.knownVariables repo) =
      ((called? name (c.declared none)).or (called? name (c.importedVariables repo))).map
        c.withGiven := by
  rw [knownVariables, called?_addMissing, called?_map_withGiven, called?_map_withGiven,
    Option.map_or]

theorem nodup_knownVariables (repo : Repository) (c : Configuration) :
    ((c.knownVariables repo).map (·.name)).Nodup := by
  refine nodup_addMissing _ ?_
  rw [map_name_withGiven]
  exact c.nodup_declared none

theorem lookup_top (htop : ∀ d ∈ c.sheet.declarations, d.scope = "") (s : Scopes)
    (hdeclared : s.declared = c.sheet.declarations)
    (himported : s.imported = c.importedVariables repo) (name : String) :
    s.lookup name "" = (Scopes.given? s.values name).or
      ((((called? name (c.declared none)).or (called? name (c.importedVariables repo))).map
        (·.value)).or (Scopes.foreign? s.globals name)) := by
  have hforeign : Scopes.foreign? (c.importedVariables repo) name =
      (called? name (c.importedVariables repo)).map (·.value) := rfl
  rw [Scopes.lookup, hdeclared, himported, Scopes.nearest?_top htop, called?_declared,
    Option.map_or, hforeign, Option.map_map, Option.or_assoc]
  rfl

/-- Where all declarations of a sheet stand at the top level, each name is listed once, with the
value that is filled in for it at the top level, and those names are listed that have a value there
from the sheet or its imports. -/
theorem knownVariables_top (repo : Repository) (c : Configuration)
    (htop : ∀ d ∈ c.sheet.declarations, d.scope = "") :
    ((c.knownVariables repo).map (·.name)).Nodup ∧
    (∀ v ∈ c.knownVariables repo, (c.scopes repo).lookup v.name "" = some v.value) ∧
    ∀ name, name ∈ (c.knownVariables repo).map (·.name) ↔
      ∃ value, ({ c.scopes repo with values := [], globals := [] } : Scopes).lookup name "" =
        some value := by
  refine ⟨nodup_knownVariables repo c, fun v hv => ?_, fun name => ?_⟩
  · have hfound := (mem_iff_called? (nodup_knownVariables repo c)).mp hv
    rw [called?_knownVariables] at hfound
    obtain ⟨w, hw, rfl⟩ := Option.map_eq_some_iff.mp hfound
    rw [lookup_top htop (c.scopes repo) rfl rfl, hw, name_withGiven, value_withGiven,
      Option.map_some, Option.some_or, scopes]
    cases Scopes.given? c.values w.name <;> rfl
  · have hlookup : ({ c.scopes repo with values := [], globals := [] } : Scopes).lookup name "" =
        ((called? name (c.declared none)).or (called? name (c.importedVariables repo))).map
          (·.value) := by
      rw [lookup_top htop _ rfl rfl]
      exact Option.or_none
    rw [← called?_isSome, called?_knownVariables, hlookup, ← Option.isSome_iff_exists,
      Option.isSome_map, Option.isSome_map]

theorem knownVariables_top_clash :
    let repo := [("first", ofText "$b = 1\n$c = 1\n[inner]\n$d = 1\n$d = 2"),
      ("second", ofText "+first\n$c = 2")]
    let c := { ofText "$a = 1\n+first\n$b = 3\n+second\n$a = 2" with
      values := [("c", "given"), ("e", "given")]
      globals := [.ofGlobal "d" "3", .ofGlobal "g" "3"] }
    (∀ d ∈ c.sheet.declarations, d.scope = "") ∧
      ((c.knownVariables repo).map (·.name)).Nodup ∧
      (∀ v ∈ c.knownVariables repo, (c.scopes repo).lookup v.name "" = some v.value) ∧
      ∀ name, name ∈ (c.knownVariables repo).map (·.name) ↔
        ∃ value, ({ c.scopes repo with values := [], globals := [] } : Scopes).lookup name "" =
          some value := by
  intro repo c
  have htop : ∀ d ∈ c.sheet.declarations, d.scope = "" := by decide +kernel
  exact ⟨htop, knownVariables_top repo c htop⟩

end Configuration
end PageOverlay
