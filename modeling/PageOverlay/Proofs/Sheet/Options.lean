import Mathlib.Data.List.Induction
import PageOverlay.Sheet.Basic

/-!
# Values by keys

Each key stands where it first appears, with all its values in order. Adding them one by one and
collecting them at once give the same.
-/

set_option autoImplicit false

namespace PageOverlay.Sheet

section

variable {α : Type} [BEq α] [LawfulBEq α]

theorem eraseDups_concat (keys : List α) (key : α) :
    (keys ++ [key]).eraseDups =
      if key ∈ keys then keys.eraseDups else keys.eraseDups ++ [key] := by
  have hsingle : [key].eraseDups = [key] := by rw [List.eraseDups_cons]; rfl
  rw [List.eraseDups_append, List.removeAll]
  split
  · next hkey => simp [hkey]
  · next hkey => simp [hkey, hsingle]

theorem nodup_eraseDups (keys : List α) : keys.eraseDups.Nodup := by
  induction keys using List.reverseRecOn with
  | nil => simp
  | append_singleton keys key ih =>
    rw [eraseDups_concat]
    split
    · exact ih
    · next hkey =>
      refine List.nodup_append.mpr ⟨ih, by simp, ?_⟩
      intro k hk j hj hkj
      rw [List.mem_singleton.mp hj] at hkj
      exact hkey (hkj ▸ List.mem_eraseDups.mp hk)

end

theorem addOption_map {α : Type} [DecidableEq α] {name : α → String}
    (hname : Function.Injective name) {keys : List α} (hkeys : keys.Nodup) (key : α)
    (value : Option String) (values : α → List String) :
    addOption (name key) value (keys.map fun k => (name k, values k)) =
      (keys.map fun k => (name k, values k ++ if k = key then value.toList else [])) ++
        if key ∈ keys then [] else [(name key, value.toList)] := by
  induction keys with
  | nil => rfl
  | cons k keys ih =>
    obtain ⟨hk, hkeys⟩ := List.nodup_cons.mp hkeys
    rw [List.map_cons, addOption]
    by_cases hsame : k = key
    · subst hsame
      have hothers : (keys.map fun j => (name j, values j)) =
          keys.map fun j => (name j, values j ++ if j = k then value.toList else []) := by
        refine List.map_congr_left fun j hj => ?_
        rw [if_neg fun hjk : j = k => hk (hjk ▸ hj), List.append_nil]
      simp [hothers]
    · have hstring : name k ≠ name key := fun h => hsame (hname h)
      rw [if_neg hstring, ih hkeys]
      simp [hsame, Ne.symm hsame]

/-- The values of a key, in order. -/
def valuesOf (key : String) (given : List (String × Option String)) : List String :=
  given.filterMap fun p => if p.1 = key then p.2 else none

def gathered (given : List (String × Option String)) : List (String × List String) :=
  (given.map (·.1)).eraseDups.map fun key => (key, valuesOf key given)

theorem valuesOf_append (key : String) (given others : List (String × Option String)) :
    valuesOf key (given ++ others) = valuesOf key given ++ valuesOf key others :=
  List.filterMap_append

theorem valuesOf_singleton (key other : String) (value : Option String) :
    valuesOf key [(other, value)] = if key = other then value.toList else [] := by
  by_cases h : other = key
  · cases value <;> simp [valuesOf, h]
  · simp [valuesOf, h, Ne.symm h]

theorem valuesOf_of_unknown {key : String} {given : List (String × Option String)}
    (h : key ∉ given.map (·.1)) : valuesOf key given = [] := by
  refine List.filterMap_eq_nil_iff.mpr fun p hp => if_neg fun hkey => h ?_
  exact List.mem_map.mpr ⟨p, hp, hkey⟩

theorem gathered_concat (given : List (String × Option String)) (key : String)
    (value : Option String) :
    gathered (given ++ [(key, value)]) = addOption key value (gathered given) := by
  have hid : Function.Injective fun k : String => k := Function.injective_id
  have hadd := addOption_map hid (nodup_eraseDups (given.map (·.1))) key value
    fun k => valuesOf k given
  rw [gathered, gathered, hadd, List.map_append, List.map_singleton, eraseDups_concat]
  simp only [valuesOf_append, valuesOf_singleton, List.mem_eraseDups]
  split
  · rw [List.append_nil]
  · next hkey => simp [valuesOf_of_unknown hkey]

theorem mem_gathered {key : String} {given : List (String × Option String)}
    (h : key ∈ given.map (·.1)) : (key, valuesOf key given) ∈ gathered given :=
  List.mem_map.mpr ⟨key, List.mem_eraseDups.mpr h, rfl⟩

end PageOverlay.Sheet
