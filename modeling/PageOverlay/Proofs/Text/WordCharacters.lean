import Mathlib.Data.List.Basic
import PageOverlay.Text.Word

/-!
# Word characters are not blank

What is found in a set lies in one of the ranges that it was read from. No range of the word
characters meets a blank.
-/

set_option autoImplicit false

namespace PageOverlay.Text

namespace CodeSet

def InRange (n : Nat) (r : Nat × Nat) : Prop := r.1 ≤ n ∧ n ≤ r.2

theorem exists_of_within {rs : Array (Nat × Nat)} {n fuel lo hi : Nat}
    (h : within rs n fuel lo hi = true) : ∃ r ∈ rs.toList, InRange n r := by
  induction fuel generalizing lo hi with
  | zero => simp [within] at h
  | succ fuel ih =>
    rw [within] at h
    split at h
    · simp only at h
      split at h
      · cases h
      · next a b hr =>
        split at h
        · exact ih h
        · next hlow =>
          split at h
          · exact ih h
          · next hhigh =>
            exact ⟨(a, b), Array.mem_toList_iff.mpr (Array.mem_of_getElem? hr),
              Nat.le_of_not_lt hlow, Nat.le_of_not_lt hhigh⟩
    · cases h

theorem exists_of_joined {n : Nat} {r s : Nat × Nat} {rest : List (Nat × Nat)}
    (hs : s ∈ joined r rest) (hn : InRange n s) : ∃ t ∈ r :: rest, InRange n t := by
  induction rest generalizing r with
  | nil => exact ⟨s, hs, hn⟩
  | cons t rest ih =>
    obtain ⟨a, b⟩ := r
    obtain ⟨c, d⟩ := t
    rw [joined] at hs
    split at hs
    · next htouch =>
      obtain ⟨u, hu, hin⟩ := ih hs
      rcases List.mem_cons.mp hu with rfl | hu
      · obtain ⟨hlow, hhigh⟩ := hin
        rcases Nat.le_total n b with hb | hb
        · exact ⟨(a, b), List.mem_cons_self, hlow, hb⟩
        · by_cases hd : n ≤ d ∧ c ≤ n
          · exact ⟨(c, d), by simp, hd.2, hd.1⟩
          · exact ⟨(a, b), List.mem_cons_self, hlow, by simp only at hhigh htouch ⊢; omega⟩
      · exact ⟨u, by simp [hu], hin⟩
    · rcases List.mem_cons.mp hs with rfl | hs
      · exact ⟨(a, b), List.mem_cons_self, hn⟩
      · obtain ⟨u, hu, hin⟩ := ih hs
        exact ⟨u, List.mem_cons_of_mem _ hu, hin⟩

theorem exists_of_contains_ofRanges {rs : List (Nat × Nat)} {n : Nat}
    (h : (ofRanges rs).contains n = true) : ∃ r ∈ rs, InRange n r := by
  obtain ⟨s, hs, hin⟩ := exists_of_within h
  rw [ofRanges] at hs
  split at hs
  · cases hs
  · next r rest hsort =>
    obtain ⟨t, ht, htn⟩ := exists_of_joined hs hin
    rw [← hsort, List.mem_mergeSort] at ht
    exact ⟨t, List.mem_of_mem_filter ht, htn⟩

end CodeSet

def blankRanges : List (Nat × Nat) :=
  [(9, 13), (0x20, 0x20), (0x85, 0x85), (0xA0, 0xA0), (0x1680, 0x1680), (0x2000, 0x200A),
    (0x2028, 0x2029), (0x202F, 0x202F), (0x205F, 0x205F), (0x3000, 0x3000)]

theorem exists_of_isBlank {c : Char} (h : isBlank c = true) :
    ∃ r ∈ blankRanges, CodeSet.InRange c.toNat r := by
  simp only [isBlank, Bool.or_eq_true, Bool.and_eq_true, decide_eq_true_eq, beq_iff_eq] at h
  simp only [blankRanges, List.mem_cons, List.not_mem_nil, or_false, exists_eq_or_imp,
    exists_eq_left, CodeSet.InRange]
  omega

def apart (rs : List (Nat × Nat)) : Bool :=
  rs.all fun r => blankRanges.all fun b => decide (r.2 < b.1) || decide (b.2 < r.1)

theorem not_inRange_of_apart {rs : List (Nat × Nat)} (h : apart rs = true) {r b : Nat × Nat}
    (hr : r ∈ rs) (hb : b ∈ blankRanges) {n : Nat} (hn : CodeSet.InRange n r) :
    ¬ CodeSet.InRange n b := by
  have hrb := List.all_eq_true.mp (List.all_eq_true.mp h r hr) b hb
  simp only [Bool.or_eq_true, decide_eq_true_eq] at hrb
  obtain ⟨hlow, hhigh⟩ := hn
  rintro ⟨hlow', hhigh'⟩
  omega

theorem wordRanges_apart : apart wordRanges = true := by decide +kernel

theorem not_blank_of_isWord {c : Char} (h : isWord c = true) : isBlank c = false := by
  cases hblank : isBlank c with
  | false => rfl
  | true =>
    obtain ⟨b, hb, hcb⟩ := exists_of_isBlank hblank
    rw [isWord] at h
    split at h
    · next hascii =>
      -- the blanks of ASCII are neither letters nor digits
      have hnone : isAsciiWord c = false := by
        simp only [isBlank, Bool.or_eq_true, Bool.and_eq_true, decide_eq_true_eq, beq_iff_eq]
          at hblank
        have hcode : c.toNat ∈ [9, 10, 11, 12, 13, 32] := by
          simp only [List.mem_cons, List.not_mem_nil, or_false]
          omega
        have hall : [9, 10, 11, 12, 13, 32].all fun n => !isAsciiWord (Char.ofNat n) := by decide
        have hc := List.all_eq_true.mp hall _ hcode
        rw [Char.ofNat_toNat] at hc
        simpa using hc
      rw [hnone] at h
      cases h
    · obtain ⟨r, hr, hcr⟩ := CodeSet.exists_of_contains_ofRanges h
      exact absurd hcb (not_inRange_of_apart wordRanges_apart hr hb hcr)

end PageOverlay.Text
