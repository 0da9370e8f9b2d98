import Mathlib.Data.List.Induction
import Mathlib.Data.List.Perm.Basic
import Mathlib.Data.String.Basic
import PageOverlay.Json.Reader

/-!
# Ordered values

The fields of a value that was read stand in ascending order, each name once, at every depth.
Fields in this order are known by what is found under each name.
-/

set_option autoImplicit false

namespace PageOverlay

namespace Fields

variable {α : Type} {fs gs : Fields α} {name : String} {value : α}

def Ascending (fs : Fields α) : Prop := fs.Pairwise fun f g => f.1 < g.1

theorem Ascending.nodup (h : Ascending fs) : fs.Nodup :=
  h.imp fun hlt heq => absurd (heq ▸ hlt) (lt_irrefl _)

theorem mem_of_get? (h : get? name fs = some value) : (name, value) ∈ fs := by
  induction fs with
  | nil => cases h
  | cons f fs ih =>
    rw [get?] at h
    split at h
    · next hn =>
      cases h
      exact hn ▸ List.mem_cons_self
    · exact List.mem_cons_of_mem _ (ih h)

theorem Ascending.mem_iff (h : Ascending fs) : (name, value) ∈ fs ↔ get? name fs = some value := by
  refine ⟨fun hm => ?_, mem_of_get?⟩
  induction h with
  | nil => cases hm
  | cons hfirst _ ih =>
    rw [get?]
    rcases List.mem_cons.mp hm with rfl | hm
    · exact if_pos rfl
    · rw [if_neg (hfirst _ hm).ne, ih hm]

theorem Ascending.eq_of_get? (hfs : Ascending fs) (hgs : Ascending gs)
    (h : ∀ name, get? name fs = get? name gs) : fs = gs := by
  have hperm : fs.Perm gs := (List.perm_ext_iff_of_nodup hfs.nodup hgs.nodup).mpr fun f => by
    rw [hfs.mem_iff, hgs.mem_iff, h]
  exact hperm.eq_of_pairwise (fun f g _ _ hfg hgf => absurd (hfg.trans hgf) (lt_irrefl _)) hfs hgs

theorem mem_put {f : String × α} (h : f ∈ put name value fs) : f = (name, value) ∨ f ∈ fs := by
  induction fs with
  | nil => simpa [put] using h
  | cons g fs ih =>
    rw [put] at h
    split_ifs at h
    · exact (List.mem_cons.mp h).imp_right (List.mem_cons_of_mem _)
    · exact List.mem_cons.mp h
    · rcases List.mem_cons.mp h with rfl | h
      · exact .inr List.mem_cons_self
      · exact (ih h).imp_right (List.mem_cons_of_mem _)

theorem erase_sublist (name : String) (fs : Fields α) : (erase name fs).Sublist fs := by
  induction fs with
  | nil => exact .refl _
  | cons f fs ih =>
    rw [erase]
    split_ifs
    · exact ih.cons _
    · exact ih.cons_cons _

theorem Ascending.put (h : Ascending fs) (name : String) (value : α) :
    Ascending (put name value fs) := by
  induction h with
  | nil => exact List.pairwise_singleton _ _
  | @cons f fs hfirst htail ih =>
    rw [Fields.put]
    split_ifs with heq hlt
    · exact htail.cons fun g hg => heq ▸ hfirst g hg
    · refine (htail.cons hfirst).cons fun g hg => ?_
      rcases List.mem_cons.mp hg with rfl | hg
      · exact hlt
      · exact hlt.trans (hfirst g hg)
    · refine List.Pairwise.cons (fun g hg => ?_) ih
      rcases mem_put hg with rfl | hg
      · exact lt_of_le_of_ne (not_lt.mp hlt) heq
      · exact hfirst g hg

theorem Ascending.erase (h : Ascending fs) (name : String) : Ascending (erase name fs) :=
  h.sublist (erase_sublist name fs)

theorem ofList_concat (entries : List (String × α)) (e : String × α) :
    ofList (entries ++ [e]) = put e.1 e.2 (ofList entries) := by
  rw [ofList, List.foldl_concat, ofList]

theorem ascending_ofList (entries : List (String × α)) : Ascending (ofList entries) := by
  induction entries using List.reverseRecOn with
  | nil => exact .nil
  | append_singleton entries e ih => exact ofList_concat entries e ▸ ih.put e.1 e.2

theorem mem_ofList {entries : List (String × α)} {f : String × α} (h : f ∈ ofList entries) :
    f ∈ entries := by
  induction entries using List.reverseRecOn with
  | nil => exact h
  | append_singleton entries e ih =>
    rw [ofList_concat] at h
    rcases mem_put h with rfl | h
    · exact List.mem_append_right _ List.mem_cons_self
    · exact List.mem_append_left _ (ih h)

end Fields

namespace Json

inductive Ordered : Json → Prop
  | null : Ordered .null
  | bool (b : Bool) : Ordered (.bool b)
  | number (n : JsonNumber) : Ordered (.number n)
  | string (s : String) : Ordered (.string s)
  | array {items : List Json} (inside : ∀ j ∈ items, Ordered j) : Ordered (.array items)
  | object {fields : List (String × Json)} (ascending : Fields.Ascending fields)
      (inside : ∀ name j, Fields.get? name fields = some j → Ordered j) : Ordered (.object fields)

theorem Ordered.ascending_fields {j : Json} (h : j.Ordered) : Fields.Ascending j.fields := by
  cases h with
  | object ascending _ => exact ascending
  | _ => exact .nil

theorem Ordered.get?_fields {j member : Json} {name : String} (h : j.Ordered)
    (hm : Fields.get? name j.fields = some member) : member.Ordered := by
  cases h with
  | object _ inside => exact inside _ _ hm
  | _ => cases hm

mutual

theorem ordered_settle (j : Json) : (settle j).Ordered := by
  cases j with
  | null => exact .null
  | bool b => exact .bool b
  | number n => exact .number n
  | string s => exact .string s
  | array items =>
    rw [settle]
    exact .array (ordered_settleItems items)
  | object fields =>
    rw [settle]
    exact .object (Fields.ascending_ofList _) fun name j hj =>
      ordered_settleFields fields _ (Fields.mem_ofList (Fields.mem_of_get? hj))

theorem ordered_settleItems (items : List Json) : ∀ j ∈ settleItems items, j.Ordered := by
  cases items with
  | nil => rw [settleItems]; exact fun _ hj => absurd hj List.not_mem_nil
  | cons item items =>
    rw [settleItems]
    exact List.forall_mem_cons.mpr ⟨ordered_settle item, ordered_settleItems items⟩

theorem ordered_settleFields (fields : List (String × Json)) :
    ∀ f ∈ settleFields fields, f.2.Ordered := by
  cases fields with
  | nil => rw [settleFields]; exact fun _ hf => absurd hf List.not_mem_nil
  | cons field fields =>
    obtain ⟨name, j⟩ := field
    rw [settleFields]
    exact List.forall_mem_cons.mpr ⟨ordered_settle j, ordered_settleFields fields⟩

end

theorem ordered_of_read? {cs : List Char} {j : Json} (h : read? cs = some j) : j.Ordered := by
  obtain ⟨raw, -, rfl⟩ := Option.map_eq_some_iff.mp h
  exact ordered_settle raw

end Json
end PageOverlay
