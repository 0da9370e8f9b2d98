import PageOverlay.Json.MergePatch
import PageOverlay.Proofs.Json.Ordered

/-!
# What merging a patch does

The rules for JSON merge patches relate a target, which may be missing, to a patch and a result.
Merging gives the one ordered value that they allow. That merging once more changes nothing, that
`null` takes away and that the rest stays alone follows from the rules.
-/

set_option autoImplicit false

namespace PageOverlay.Json

variable {t : Option Json} {p r : Json} {fields changes : List (String × Json)} {name : String}

def member? (name : String) (j : Json) : Option Json := Fields.get? name j.fields

def at? : List String → Json → Option Json
  | [], j => some j
  | name :: path, j => (member? name j).bind (at? path)

inductive Merges : Option Json → Json → Json → Prop
  | replaced {t : Option Json} {p : Json} (plain : ∀ changes, p ≠ .object changes) : Merges t p p
  | object {t : Option Json} {changes fields : List (String × Json)}
      (kept : ∀ name, Fields.get? name changes = none →
        Fields.get? name fields = t.bind (member? name))
      (dropped : ∀ name, Fields.get? name changes = some .null → Fields.get? name fields = none)
      (there : ∀ name change, Fields.get? name changes = some change → change ≠ .null →
        (Fields.get? name fields).isSome)
      (merged : ∀ name change member, Fields.get? name changes = some change → change ≠ .null →
        Fields.get? name fields = some member → Merges (t.bind (member? name)) change member) :
      Merges t (.object changes) (.object fields)

def Names (p : Json) (path : List String) : Prop :=
  (at? path p).isSome ∨
    ∃ above value, above <+: path ∧ at? above p = some value ∧ ∀ changes, value ≠ .object changes

theorem exists_object_of_member? {j : Json} (h : member? name p = some j) :
    ∃ changes, p = .object changes := by
  cases p with
  | object changes => exact ⟨changes, rfl⟩
  | _ => cases h

theorem names_of_not_object {path : List String} (h : ∀ changes, p ≠ .object changes) :
    p.Names path :=
  .inr ⟨[], p, List.nil_prefix, rfl, h⟩

theorem names_cons_iff {path : List String} :
    Names (.object changes) (name :: path) ↔
      ∃ change, Fields.get? name changes = some change ∧ change.Names path := by
  have hpath (path : List String) : at? (name :: path) (.object changes) =
      (Fields.get? name changes).bind (at? path) := rfl
  constructor
  · rintro (hsome | ⟨above, value, hprefix, hvalue, hplain⟩)
    · obtain ⟨value, hvalue⟩ := Option.isSome_iff_exists.mp hsome
      obtain ⟨change, hchange, hfound⟩ := Option.bind_eq_some_iff.mp (hpath path ▸ hvalue)
      exact ⟨change, hchange, .inl (Option.isSome_iff_exists.mpr ⟨value, hfound⟩)⟩
    · cases above with
      | nil => exact absurd (Option.some.inj hvalue).symm (hplain changes)
      | cons first above =>
        obtain ⟨rfl, hrest⟩ := List.cons_prefix_cons.mp hprefix
        obtain ⟨change, hchange, hfound⟩ := Option.bind_eq_some_iff.mp (hpath above ▸ hvalue)
        exact ⟨change, hchange, .inr ⟨above, value, hrest, hfound, hplain⟩⟩
  · rintro ⟨change, hchange, hsome | ⟨above, value, hprefix, hvalue, hplain⟩⟩
    · exact .inl (by rwa [hpath, hchange])
    · exact .inr ⟨name :: above, value, List.cons_prefix_cons.mpr ⟨rfl, hprefix⟩,
        by rwa [hpath, hchange], hplain⟩

namespace Merges

theorem member (h : Merges t (.object changes) r) (name : String) :
    (Fields.get? name changes = none ∧ member? name r = t.bind (member? name)) ∨
      (Fields.get? name changes = some .null ∧ member? name r = none) ∨
      ∃ change m, Fields.get? name changes = some change ∧ change ≠ .null ∧
        member? name r = some m ∧ Merges (t.bind (member? name)) change m := by
  cases h with
  | replaced plain => exact absurd rfl (plain changes)
  | object kept dropped there merged =>
    cases hchange : Fields.get? name changes with
    | none => exact .inl ⟨rfl, kept name hchange⟩
    | some change =>
      by_cases hnull : change = .null
      · subst hnull
        exact .inr (.inl ⟨rfl, dropped name hchange⟩)
      · obtain ⟨m, hm⟩ := Option.isSome_iff_exists.mp (there name change hchange hnull)
        exact .inr (.inr ⟨change, m, rfl, hnull, hm, merged name change m hchange hnull hm⟩)

theorem again (h : Merges t p r) : Merges (some r) p r := by
  induction h with
  | replaced plain => exact .replaced plain
  | @object t changes fields kept dropped there merged ih =>
    refine .object (fun _ _ => rfl) dropped there fun name change m hchange hnull hm => ?_
    have htarget : (some (Json.object fields)).bind (member? name) = some m := hm
    rw [htarget]
    exact ih name change m hchange hnull hm

theorem unique {r' : Json} (h : Merges t p r) (h' : Merges t p r') (hr : r.Ordered)
    (hr' : r'.Ordered) : r = r' := by
  induction h generalizing r' with
  | replaced plain =>
    cases h' with
    | replaced _ => rfl
    | object => exact absurd rfl (plain _)
  | @object t changes fields kept dropped there merged ih =>
    obtain ⟨fields', rfl⟩ : ∃ fields', r' = .object fields' := by
      cases h' with
      | replaced plain => exact absurd rfl (plain changes)
      | object => exact ⟨_, rfl⟩
    refine congrArg _ (hr.ascending_fields.eq_of_get? hr'.ascending_fields fun name => ?_)
    change Fields.get? name fields = member? name (.object fields')
    rcases h'.member name with
      ⟨hchange, hm'⟩ | ⟨hchange, hm'⟩ | ⟨change, m', hchange, hnull, hm', h'⟩
    · rw [hm', kept name hchange]
    · rw [hm', dropped name hchange]
    · obtain ⟨m, hm⟩ := Option.isSome_iff_exists.mp (there name change hchange hnull)
      rw [hm, hm', ih name change m hchange hnull hm h' (hr.get?_fields hm) (hr'.get?_fields hm')]

theorem at?_of_null {path : List String} (h : Merges t p r) (hp : p ≠ .null)
    (hnull : at? path p = some .null) : at? path r = none := by
  induction path generalizing t p r with
  | nil => exact absurd (Option.some.inj hnull) hp
  | cons name path ih =>
    obtain ⟨c, hc, hpath⟩ := Option.bind_eq_some_iff.mp hnull
    obtain ⟨changes, rfl⟩ := exists_object_of_member? hc
    rw [member?, fields] at hc
    rcases h.member name with ⟨hchange, -⟩ | ⟨-, hm⟩ | ⟨change, m, hchange, hne, hm, hmerges⟩
    · rw [hchange] at hc
      cases hc
    · rw [at?, hm, Option.bind_none]
    · rw [hchange, Option.some.injEq] at hc
      subst hc
      rw [at?, hm, Option.bind_some]
      exact ih hmerges hne hpath

theorem at?_of_not_names {path : List String} (h : Merges t p r) (hn : ¬ p.Names path) :
    at? path r = t.bind (at? path) := by
  induction path generalizing t p r with
  | nil => exact absurd (.inl rfl) hn
  | cons name path ih =>
    cases p with
    | object changes =>
      have htarget : t.bind (at? (name :: path)) = (t.bind (member? name)).bind (at? path) := by
        cases t <;> rfl
      rw [at?, htarget]
      rcases h.member name with ⟨-, hm⟩ | ⟨hchange, -⟩ | ⟨change, m, hchange, -, hm, hmerges⟩
      · rw [hm]
      · exact absurd (names_cons_iff.mpr ⟨_, hchange, names_of_not_object (by simp)⟩) hn
      · rw [hm, Option.bind_some]
        exact ih hmerges fun hnames => hn (names_cons_iff.mpr ⟨change, hchange, hnames⟩)
    | _ => exact absurd (names_of_not_object (by simp)) hn

end Merges

theorem isNull_iff {j : Json} : j.isNull = true ↔ j = .null := by
  cases j <;> simp [isNull]

/-- A patch's fields are merged one after the other; as each name stands there once, what is found
under it afterwards is the doing of its own field. -/
theorem get?_mergeFields (h : Fields.Ascending changes) (fields : Fields Json) (name : String) :
    Fields.get? name (mergeFields fields changes) =
      match Fields.get? name changes with
      | none => Fields.get? name fields
      | some change =>
        if change.isNull then none
        else some (mergePatch ((Fields.get? name fields).getD .null) change) := by
  induction h generalizing fields with
  | nil => rw [mergeFields, Fields.get?]
  | @cons f changes hfirst _ ih =>
    obtain ⟨key, change⟩ := f
    rw [mergeFields, ih]
    by_cases hname : key = name
    · subst hname
      have hlater : Fields.get? key changes = none := by
        cases hc : Fields.get? key changes with
        | none => rfl
        | some c => exact absurd (hfirst _ (Fields.mem_of_get? hc)) (lt_irrefl key)
      rw [hlater, Fields.get?, if_pos rfl]
      by_cases hnull : change.isNull = true
      · simp [hnull, Fields.get?_erase_self]
      · simp [hnull, Fields.get?_put_self]
    · have hother : Fields.get? name (if change.isNull then Fields.erase key fields
          else Fields.put key (mergePatch ((Fields.get? key fields).getD .null) change) fields) =
          Fields.get? name fields := by
        split_ifs
        · exact Fields.get?_erase_of_ne (Ne.symm hname) fields
        · exact Fields.get?_put_of_ne (Ne.symm hname) _ fields
      rw [hother, Fields.get?, if_neg hname]

theorem ascending_mergeFields {fields : Fields Json} (h : Fields.Ascending fields)
    (changes : List (String × Json)) : Fields.Ascending (mergeFields fields changes) := by
  induction changes generalizing fields with
  | nil => rwa [mergeFields]
  | cons f changes ih =>
    obtain ⟨key, change⟩ := f
    rw [mergeFields]
    refine ih ?_
    split_ifs
    · exact h.erase key
    · exact h.put key _

theorem ordered_mergePatch {t : Json} (ht : t.Ordered) (hp : p.Ordered) :
    (mergePatch t p).Ordered := by
  induction hp generalizing t with
  | null => exact .null
  | bool b => exact .bool b
  | number n => exact .number n
  | string s => exact .string s
  | array inside _ => exact .array inside
  | @object changes ascending inside ih =>
    rw [mergePatch]
    refine .object (ascending_mergeFields ht.ascending_fields changes) fun name j hj => ?_
    rw [get?_mergeFields ascending] at hj
    split at hj
    · exact ht.get?_fields hj
    · next change hchange =>
      split at hj
      · cases hj
      · cases hj
        refine ih name change hchange ?_
        cases htarget : Fields.get? name t.fields with
        | none => exact .null
        | some m => exact ht.get?_fields htarget

theorem merges_mergePatch (hp : p.Ordered) (t : Option Json) :
    Merges t p (mergePatch (t.getD .null) p) := by
  induction hp generalizing t with
  | @object changes ascending inside ih =>
    have htarget (name : String) :
        Fields.get? name (t.getD .null).fields = t.bind (member? name) := by
      cases t <;> rfl
    rw [mergePatch]
    refine .object (fun name hchange => ?_) (fun name hchange => ?_)
      (fun name change hchange hnull => ?_) fun name change m hchange hnull hm => ?_
    · rw [get?_mergeFields ascending, hchange, htarget]
    · rw [get?_mergeFields ascending, hchange]
      exact if_pos rfl
    · simp [get?_mergeFields ascending, hchange, isNull_iff, hnull]
    · simp only [get?_mergeFields ascending, hchange, isNull_iff, hnull, if_false, htarget,
        Option.some.injEq] at hm
      subst hm
      exact ih name change hchange (t.bind (member? name))
  | _ => exact .replaced (by simp)

/-- What comes of merging is what the rules for merge patches allow, and nothing else is. Merging
once more changes nothing, what the patch sets to `null` is gone, and where the patch names nothing
the target is as it was. -/
theorem mergePatch_spec {t : Json} (ht : t.Ordered) (hp : p.Ordered) :
    (∀ r, r.Ordered → (Merges (some t) p r ↔ r = mergePatch t p)) ∧
      (mergePatch t p).Ordered ∧
      mergePatch (mergePatch t p) p = mergePatch t p ∧
      (∀ changes, p = .object changes → ∀ path, at? path p = some .null →
        at? path (mergePatch t p) = none) ∧
      (∀ path, ¬ p.Names path → at? path (mergePatch t p) = at? path t) ∧
      ∀ body patch : String, read? body.toList = some t → read? patch.toList = some p →
        patchText body patch = compact (mergePatch t p) := by
  have hmerges : Merges (some t) p (mergePatch t p) := merges_mergePatch hp (some t)
  have hordered := ordered_mergePatch ht hp
  refine ⟨fun r hr => ⟨fun h => h.unique hmerges hr hordered, ?_⟩, hordered, ?_, ?_, ?_, ?_⟩
  · rintro rfl
    exact hmerges
  · exact (merges_mergePatch hp (some (mergePatch t p))).unique hmerges.again
      (ordered_mergePatch hordered hp) hordered
  · rintro changes rfl path hnull
    exact hmerges.at?_of_null (by simp) hnull
  · exact fun path hn => hmerges.at?_of_not_names hn
  · intro body patch hbody hpatch
    rw [patchText, hbody, hpatch]

def nestedTarget : Json :=
  .object [("a", .string "b"), ("c", .object [("d", .string "e"), ("f", .null), ("g", .null)])]

def nestedPatch : Json :=
  .object [("a", .object [("b", .null)]), ("c", .object [("f", .null)])]

theorem ordered_nestedTarget : nestedTarget.Ordered := by
  have hsettle : settle nestedTarget = nestedTarget := by
    simp +decide only [nestedTarget, settle, settleFields, Fields.ofList, Fields.put, List.foldl,
      if_false]
  exact hsettle ▸ ordered_settle nestedTarget

theorem ordered_nestedPatch : nestedPatch.Ordered := by
  have hsettle : settle nestedPatch = nestedPatch := by
    simp +decide only [nestedPatch, settle, settleFields, Fields.ofList, Fields.put, List.foldl,
      if_false]
  exact hsettle ▸ ordered_settle nestedPatch

theorem not_names_nestedPatch : ¬ nestedPatch.Names ["c", "g"] := by
  simp [nestedPatch, names_cons_iff, Fields.get?]

theorem mergePatch_spec_nested :
    nestedTarget.Ordered ∧ nestedPatch.Ordered ∧
      at? ["a", "b"] (mergePatch nestedTarget nestedPatch) = none ∧
      at? ["c", "g"] (mergePatch nestedTarget nestedPatch) = some .null ∧
      mergePatch (mergePatch nestedTarget nestedPatch) nestedPatch =
        mergePatch nestedTarget nestedPatch := by
  obtain ⟨-, -, hagain, hgone, hleft, -⟩ := mergePatch_spec ordered_nestedTarget ordered_nestedPatch
  exact ⟨ordered_nestedTarget, ordered_nestedPatch, hgone _ rfl _ rfl,
    hleft _ not_names_nestedPatch, hagain⟩

end PageOverlay.Json
