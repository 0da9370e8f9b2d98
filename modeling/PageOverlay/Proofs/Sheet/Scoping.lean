import Mathlib.Data.List.Induction
import PageOverlay.Sheet.Variables

/-!
# The value that a name has

A sheet's declarations count for a scope when their section is the scope or stands around it. Of the
sections around one scope each stands in every shorter one, so comparing lengths finds the innermost
of them, whatever the order of the declarations. What stands in other sections has no part in it,
and of each section only the order of its own declarations counts.
-/

set_option autoImplicit false

namespace PageOverlay.Scopes

open Sheet (Declaration)

inductive Encloses : String → String → Prop
  | top (inner : String) : Encloses "" inner
  | same (s : String) : Encloses s s
  | inside (outer rest : String) : Encloses outer (outer ++ "." ++ rest)

theorem encloses_iff {outer inner : String} :
    encloses outer.toList inner.toList = true ↔ Encloses outer inner := by
  simp only [encloses, Bool.or_eq_true, List.isEmpty_iff, beq_iff_eq, List.isPrefixOf_iff_prefix,
    String.toList_eq_nil_iff, String.toList_inj]
  constructor
  · rintro ((rfl | rfl) | ⟨rest, hrest⟩)
    · exact .top inner
    · exact .same outer
    · have hinner : inner = outer ++ "." ++ String.ofList rest := by
        rw [← String.toList_inj, ← hrest]
        simp
      exact hinner ▸ .inside outer (String.ofList rest)
  · rintro (_ | _ | ⟨_, rest⟩)
    · exact .inl (.inl rfl)
    · exact .inl (.inr rfl)
    · exact .inr ⟨rest.toList, by simp⟩

instance (outer inner : String) : Decidable (Encloses outer inner) :=
  decidable_of_iff _ encloses_iff

namespace Encloses

variable {a b inner : String}

theorem isPrefix (h : Encloses a inner) : a.toList <+: inner.toList := by
  cases h with
  | top => exact List.nil_prefix
  | same => exact List.prefix_rfl
  | inside _ rest => exact ⟨'.' :: rest.toList, by simp⟩

theorem length_le (h : Encloses a inner) : a.length ≤ inner.length := h.isPrefix.length_le

theorem eq_of_length (ha : Encloses a inner) (hb : Encloses b inner) (h : a.length = b.length) :
    a = b := by
  have hab : a.toList <+: b.toList :=
    List.prefix_of_prefix_length_le ha.isPrefix hb.isPrefix (Nat.le_of_eq h)
  exact String.toList_inj.mp (hab.eq_of_length h)

theorem of_length_le (ha : Encloses a inner) (hb : Encloses b inner) (h : a.length ≤ b.length) :
    Encloses a b := by
  rcases Nat.eq_or_lt_of_le h with heq | hlt
  · exact ha.eq_of_length hb heq ▸ .same a
  · cases ha with
    | top => exact .top b
    | same => exact absurd hb.length_le (Nat.not_le_of_lt hlt)
    | inside _ rest =>
      -- the longer section goes on with the dot that the scope has there
      have hdot : a.toList ++ ['.'] <+: b.toList :=
        List.prefix_of_prefix_length_le ⟨rest.toList, by simp⟩ hb.isPrefix
          (by rw [List.length_append, List.length_singleton]; exact hlt)
      exact encloses_iff.mp (by simp [encloses, List.isPrefixOf_iff_prefix.mpr hdot])

theorem antisymm (hab : Encloses a b) (hba : Encloses b a) : a = b :=
  hab.eq_of_length (.same b) (Nat.le_antisymm hab.length_le hba.length_le)

end Encloses

structure Visible (name scope : String) (d : Declaration) : Prop where
  name_eq : d.name = name
  encloses : Encloses d.scope scope

/-- The last declaration of the name in the innermost section around the scope that has one. -/
structure Nearest (ds : List Declaration) (name scope : String) (d : Declaration) : Prop where
  visible : Visible name scope d
  innermost : ∀ e ∈ ds, Visible name scope e → Encloses e.scope d.scope
  last : (ds.filter fun e => e.name == name && e.scope == d.scope).getLast? = some d

variable {ds ds' : List Declaration} {name scope : String} {d e : Declaration}

theorem visible_iff :
    (d.name == name && encloses d.scope.toList scope.toList) = true ↔ Visible name scope d := by
  rw [Bool.and_eq_true, beq_iff_eq, encloses_iff]
  exact ⟨fun h => ⟨h.1, h.2⟩, fun h => ⟨h.name_eq, h.encloses⟩⟩

theorem nearest?_concat_of_visible (h : Visible name scope e) (ds : List Declaration) :
    nearest? (ds ++ [e]) name scope = inner (nearest? ds name scope) e := by
  simp only [nearest?, List.filter_append, List.foldl_append, List.filter_cons,
    visible_iff.mpr h, if_true, List.filter_nil, List.foldl_cons, List.foldl_nil]

theorem nearest?_concat_of_not_visible (h : ¬ Visible name scope e) (ds : List Declaration) :
    nearest? (ds ++ [e]) name scope = nearest? ds name scope := by
  simp only [nearest?, List.filter_append, List.filter_cons, if_neg (mt visible_iff.mp h),
    List.filter_nil, List.append_nil]

theorem nearest?_eq_none_iff :
    nearest? ds name scope = none ↔ ∀ d ∈ ds, ¬ Visible name scope d := by
  induction ds using List.reverseRecOn with
  | nil => simp [nearest?]
  | append_singleton ds e ih =>
    by_cases he : Visible name scope e
    · have hsome : inner (nearest? ds name scope) e ≠ none := by
        cases nearest? ds name scope with
        | none => simp [inner]
        | some b => by_cases hlength : b.scope.length ≤ e.scope.length <;> simp [inner, hlength]
      rw [nearest?_concat_of_visible he]
      exact ⟨fun h => absurd h hsome, fun h => absurd he (h e (by simp))⟩
    · rw [nearest?_concat_of_not_visible he, ih]
      simp [he, or_imp, forall_and]

/-- One more declaration makes no difference if it stands further outside. -/
theorem Nearest.concat (h : Nearest ds name scope d)
    (he : Visible name scope e → Encloses e.scope d.scope ∧ e.scope ≠ d.scope) :
    Nearest (ds ++ [e]) name scope d := by
  refine ⟨h.visible, fun f hf hvisible => ?_, ?_⟩
  · rcases List.mem_append.mp hf with hf | hf
    · exact h.innermost f hf hvisible
    · obtain rfl := List.mem_singleton.mp hf
      exact (he hvisible).1
  · have hskip : (e.name == name && e.scope == d.scope) = false := by
      rw [Bool.eq_false_iff]
      intro hboth
      obtain ⟨hname, hscope⟩ : e.name = name ∧ e.scope = d.scope := by simpa using hboth
      exact (he ⟨hname, hscope ▸ h.visible.encloses⟩).2 hscope
    rw [List.filter_append, List.filter_cons_of_neg (by simp [hskip]), List.filter_nil,
      List.append_nil, h.last]

/-- One more declaration is the one that counts if no other stands further inside. -/
theorem nearest_concat_self (he : Visible name scope e)
    (h : ∀ f ∈ ds, Visible name scope f → Encloses f.scope e.scope) :
    Nearest (ds ++ [e]) name scope e := by
  refine ⟨he, fun f hf hvisible => ?_, ?_⟩
  · rcases List.mem_append.mp hf with hf | hf
    · exact h f hf hvisible
    · exact List.mem_singleton.mp hf ▸ .same e.scope
  · rw [List.filter_append, List.filter_cons_of_pos (by simp [he.name_eq])]
    simp

theorem nearest_of_nearest? (h : nearest? ds name scope = some d) : Nearest ds name scope d := by
  -- from the last declaration backwards: it is compared with the best of those before it
  induction ds using List.reverseRecOn generalizing d with
  | nil => cases h
  | append_singleton ds e ih =>
    by_cases he : Visible name scope e
    · rw [nearest?_concat_of_visible he] at h
      cases hbest : nearest? ds name scope with
      | none =>
        obtain rfl : e = d := by simpa [inner, hbest] using h
        exact nearest_concat_self he fun f hf hvisible =>
          absurd hvisible (nearest?_eq_none_iff.mp hbest f hf)
      | some b =>
        have hb := ih hbest
        have hbe : Visible name scope b := hb.visible
        rw [hbest, inner] at h
        split at h
        · next hlength =>
          obtain rfl := Option.some.inj h
          refine nearest_concat_self he fun f hf hvisible => ?_
          -- all these sections stand around the scope, so lengths decide which holds which
          have hfb := (hb.innermost f hf hvisible).length_le
          exact hvisible.encloses.of_length_le he.encloses (Nat.le_trans hfb hlength)
        · next hlength =>
          obtain rfl := Option.some.inj h
          have hlt := Nat.lt_of_not_le hlength
          refine hb.concat fun _ => ⟨?_, fun heq => ?_⟩
          · exact he.encloses.of_length_le hbe.encloses (Nat.le_of_lt hlt)
          · exact absurd (heq ▸ hlt) (Nat.lt_irrefl _)
    · rw [nearest?_concat_of_not_visible he] at h
      exact (ih h).concat fun hvisible => absurd hvisible he

theorem Nearest.mem (h : Nearest ds name scope d) : d ∈ ds :=
  (List.mem_filter.mp (List.mem_of_getLast? h.last)).1

theorem Nearest.unique (hd : Nearest ds name scope d) (he : Nearest ds name scope e) : d = e := by
  have hscope : d.scope = e.scope :=
    (he.innermost d hd.mem hd.visible).antisymm (hd.innermost e he.mem he.visible)
  have hlast := hd.last
  rw [hscope, he.last] at hlast
  exact (Option.some.inj hlast).symm

theorem nearest?_eq_some_iff : nearest? ds name scope = some d ↔ Nearest ds name scope d := by
  refine ⟨nearest_of_nearest?, fun h => ?_⟩
  cases hbest : nearest? ds name scope with
  | none => exact absurd h.visible (nearest?_eq_none_iff.mp hbest d h.mem)
  | some e => rw [(nearest_of_nearest? hbest).unique h]

/-- Both lists have the same declarations in the same order in each section around the scope. -/
def SameAround (scope : String) (ds ds' : List Declaration) : Prop :=
  ∀ part, Encloses part scope → ds.filter (·.scope == part) = ds'.filter (·.scope == part)

theorem sameAround_iff :
    SameAround scope ds ds' ↔ ∀ d ∈ ds ++ ds', Encloses d.scope scope →
      ds.filter (·.scope == d.scope) = ds'.filter (·.scope == d.scope) := by
  refine ⟨fun h d _ hd => h d.scope hd, fun h part hpart => ?_⟩
  by_cases hany : ∃ d ∈ ds ++ ds', d.scope = part
  · obtain ⟨d, hd, rfl⟩ := hany
    exact h d hd hpart
  · have hempty {es : List Declaration} (hes : es ⊆ ds ++ ds') :
        es.filter (·.scope == part) = [] :=
      List.filter_eq_nil_iff.mpr fun d hd heq => hany ⟨d, hes hd, by simpa using heq⟩
    rw [hempty (List.subset_append_left _ _), hempty (List.subset_append_right _ _)]

instance (scope : String) (ds ds' : List Declaration) : Decidable (SameAround scope ds ds') :=
  decidable_of_iff _ sameAround_iff.symm

theorem SameAround.mem (h : SameAround scope ds ds') (he : e ∈ ds) (hs : Encloses e.scope scope) :
    e ∈ ds' := by
  have hfilter : e ∈ ds.filter (·.scope == e.scope) := List.mem_filter.mpr ⟨he, by simp⟩
  rw [h e.scope hs] at hfilter
  exact (List.mem_filter.mp hfilter).1

theorem SameAround.symm (h : SameAround scope ds ds') : SameAround scope ds' ds :=
  fun part hpart => (h part hpart).symm

theorem Nearest.of_same (h : Nearest ds name scope d) (hs : SameAround scope ds ds') :
    Nearest ds' name scope d := by
  refine ⟨h.visible, fun e he hvisible => ?_, ?_⟩
  · exact h.innermost e (hs.symm.mem he hvisible.encloses) hvisible
  · have hlast := h.last
    rwa [← List.filter_filter, hs d.scope h.visible.encloses, List.filter_filter] at hlast

theorem nearest?_of_same (h : SameAround scope ds ds') (name : String) :
    nearest? ds name scope = nearest? ds' name scope := by
  ext d
  rw [nearest?_eq_some_iff, nearest?_eq_some_iff]
  exact ⟨fun hd => hd.of_same h, fun hd => hd.of_same h.symm⟩

def First {α : Type} (nameOf : α → String) (name : String) (xs : List α) (x : α) : Prop :=
  ∃ before after, xs = before ++ x :: after ∧ nameOf x = name ∧ ∀ y ∈ before, nameOf y ≠ name

/-- The value of a name is the one that the caller gave for it, or else that of the declaration that
counts in the scope, or else that of the first imported variable of the name, or else that of the
first global one. -/
inductive Resolves (s : Scopes) (name scope : String) : String → Prop
  | given {value : String} (first : First Prod.fst name s.values (name, value)) :
      Resolves s name scope value
  | declared {d : Declaration} (notGiven : ∀ e ∈ s.values, e.1 ≠ name)
      (nearest : Nearest s.declared name scope d) : Resolves s name scope d.value
  | imported {v : Variable} (notGiven : ∀ e ∈ s.values, e.1 ≠ name)
      (undeclared : ∀ d ∈ s.declared, ¬ Visible name scope d)
      (first : First Variable.name name s.imported v) : Resolves s name scope v.value
  | ofGlobal {v : Variable} (notGiven : ∀ e ∈ s.values, e.1 ≠ name)
      (undeclared : ∀ d ∈ s.declared, ¬ Visible name scope d)
      (notImported : ∀ v ∈ s.imported, v.name ≠ name)
      (first : First Variable.name name s.globals v) : Resolves s name scope v.value

structure Unknown (s : Scopes) (name scope : String) : Prop where
  notGiven : ∀ e ∈ s.values, e.1 ≠ name
  undeclared : ∀ d ∈ s.declared, ¬ Visible name scope d
  notImported : ∀ v ∈ s.imported, v.name ≠ name
  notGlobal : ∀ v ∈ s.globals, v.name ≠ name

variable {s : Scopes} {value : String}

theorem first_iff {α : Type} {nameOf : α → String} {xs : List α} {x : α} :
    First nameOf name xs x ↔ xs.find? (nameOf · == name) = some x := by
  rw [List.find?_eq_some_iff_append]
  constructor
  · rintro ⟨before, after, hsplit, hname, hbefore⟩
    exact ⟨by simpa using hname, before, after, hsplit, by simpa using hbefore⟩
  · rintro ⟨hname, before, after, hsplit, hbefore⟩
    exact ⟨before, after, hsplit, by simpa using hname, by simpa using hbefore⟩

theorem First.mem {α : Type} {nameOf : α → String} {xs : List α} {x : α}
    (h : First nameOf name xs x) : x ∈ xs :=
  List.mem_of_find?_eq_some (first_iff.mp h)

theorem First.name_eq {α : Type} {nameOf : α → String} {xs : List α} {x : α}
    (h : First nameOf name xs x) : nameOf x = name := by
  obtain ⟨-, -, -, hname, -⟩ := h
  exact hname

theorem given?_eq_some_iff {values : List (String × String)} :
    given? values name = some value ↔ First Prod.fst name values (name, value) := by
  rw [given?, Option.map_eq_some_iff, first_iff]
  constructor
  · rintro ⟨⟨n, v⟩, hfind, rfl⟩
    have hname : n = name := by simpa using List.find?_some hfind
    rw [hfind, hname]
  · exact fun hfind => ⟨_, hfind, rfl⟩

theorem given?_eq_none_iff {values : List (String × String)} :
    given? values name = none ↔ ∀ e ∈ values, e.1 ≠ name := by
  simp [given?, List.find?_eq_none]

theorem foreign?_eq_some_iff {vs : List Variable} :
    foreign? vs name = some value ↔ ∃ v, First Variable.name name vs v ∧ v.value = value := by
  rw [foreign?, Option.map_eq_some_iff]
  exact exists_congr fun v => and_congr_left fun _ => first_iff.symm

theorem foreign?_eq_none_iff {vs : List Variable} :
    foreign? vs name = none ↔ ∀ v ∈ vs, v.name ≠ name := by
  simp [foreign?, List.find?_eq_none]

theorem lookup_eq_some_iff : s.lookup name scope = some value ↔ s.Resolves name scope value := by
  simp only [lookup, Option.or_eq_some_iff, Option.map_eq_some_iff, Option.map_eq_none_iff,
    given?_eq_some_iff, given?_eq_none_iff, nearest?_eq_some_iff, nearest?_eq_none_iff,
    foreign?_eq_some_iff, foreign?_eq_none_iff]
  constructor
  · rintro (hgiven | ⟨hnone, ⟨d, hd, rfl⟩ | ⟨hundeclared, ⟨v, hv, rfl⟩ | ⟨hforeign, v, hv, rfl⟩⟩⟩)
    · exact .given hgiven
    · exact .declared hnone hd
    · exact .imported hnone hundeclared hv
    · exact .ofGlobal hnone hundeclared hforeign hv
  · rintro (hgiven | ⟨hnone, hd⟩ | ⟨hnone, hundeclared, hv⟩ | ⟨hnone, hundeclared, hforeign, hv⟩)
    · exact .inl hgiven
    · exact .inr ⟨hnone, .inl ⟨_, hd, rfl⟩⟩
    · exact .inr ⟨hnone, .inr ⟨hundeclared, .inl ⟨_, hv, rfl⟩⟩⟩
    · exact .inr ⟨hnone, .inr ⟨hundeclared, .inr ⟨hforeign, _, hv, rfl⟩⟩⟩

theorem lookup_eq_none_iff : s.lookup name scope = none ↔ s.Unknown name scope := by
  simp only [lookup, Option.or_eq_none_iff, Option.map_eq_none_iff, given?_eq_none_iff,
    nearest?_eq_none_iff, foreign?_eq_none_iff]
  exact ⟨fun ⟨hgiven, hdeclared, himported, hglobal⟩ => ⟨hgiven, hdeclared, himported, hglobal⟩,
    fun h => ⟨h.notGiven, h.undeclared, h.notImported, h.notGlobal⟩⟩

theorem lookup_of_same {ds : List Declaration} (h : SameAround scope s.declared ds)
    (name : String) :
    ({ s with declared := ds } : Scopes).lookup name scope = s.lookup name scope := by
  rw [lookup, lookup, nearest?_of_same h]

/-- What a name stands for in a scope, and when it stands for nothing. Declarations in sections that
are not around the scope have no part in it, nor has the order between declarations of different
sections. -/
theorem lookup_resolves (s : Scopes) (name scope : String) :
    (∀ value, s.lookup name scope = some value ↔ s.Resolves name scope value) ∧
    (s.lookup name scope = none ↔ s.Unknown name scope) ∧
    ∀ ds, SameAround scope s.declared ds →
      ({ s with declared := ds } : Scopes).lookup name scope = s.lookup name scope :=
  ⟨fun _ => lookup_eq_some_iff, lookup_eq_none_iff, fun _ h => lookup_of_same h name⟩

theorem lookup_resolves_nested :
    let declare (value scope : String) : Declaration := ⟨"a", value, "", scope, 0⟩
    let s : Scopes := {
      values := [("b", "given")]
      declared := [declare "outer" "Part", declare "top" "", declare "aside" "Part.Aside",
        declare "last" "Part", declare "longer" "Part.Inner.Deep", declare "beside" "Part.Inn"]
      imported := [{ name := "a", value := "imported" }] }
    let ds := [declare "top" "", declare "outer" "Part", declare "other" "Other",
      declare "last" "Part"]
    SameAround "Part.Inner" s.declared ds ∧
      ({ s with declared := ds } : Scopes).lookup "a" "Part.Inner" = s.lookup "a" "Part.Inner" ∧
      s.Resolves "a" "Part.Inner" "last" := by
  intro declare s ds
  have hsame : SameAround "Part.Inner" s.declared ds := by decide +kernel
  have hspec := lookup_resolves s "a" "Part.Inner"
  exact ⟨hsame, hspec.2.2 ds hsame, (hspec.1 "last").mp (by decide +kernel)⟩

end PageOverlay.Scopes
