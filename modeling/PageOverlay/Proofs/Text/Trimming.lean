import Mathlib.Data.List.DropRight
import PageOverlay.Text.Blank

/-!
# What trimming leaves alone

A text that is trimmed already begins and ends with characters that are not blank. Trimming a
longer text around such a part stops at it.
-/

set_option autoImplicit false

namespace PageOverlay.Text

theorem trimStart_eq_self_of_trim {cs : List Char} (h : trim cs = cs) : trimStart cs = cs := by
  have hend : (trim cs).length ≤ (trimStart cs).length := length_trimEnd_le _
  have hstart := length_trimStart_le cs
  rw [h] at hend
  exact (List.dropWhile_sublist isBlank).eq_of_length (Nat.le_antisymm hstart hend)

theorem trimEnd_eq_self_of_trim {cs : List Char} (h : trim cs = cs) : trimEnd cs = cs := by
  have hs := trimStart_eq_self_of_trim h
  rwa [trim, hs] at h

theorem not_blank_of_trim {c : Char} {cs : List Char} (h : trim (c :: cs) = c :: cs) :
    isBlank c = false := by
  have hs := trimStart_eq_self_of_trim h
  cases hc : isBlank c with
  | false => rfl
  | true =>
    have hle := length_trimStart_le cs
    rw [trimStart, List.dropWhile_cons_of_pos hc] at hs
    have hlen := congrArg List.length hs
    change (trimStart cs).length = _ at hlen
    simp only [List.length_cons] at hlen
    omega

theorem trimStart_cons {c : Char} (h : isBlank c = false) (cs : List Char) :
    trimStart (c :: cs) = c :: cs := by
  simp [trimStart, h]

theorem trimEnd_cons_of_not_blank {c : Char} (h : isBlank c = false) (cs : List Char) :
    trimEnd (c :: cs) = c :: trimEnd cs := by
  rw [trimEnd]
  split
  · next he => simp [h, he]
  · next d ds he => rw [he]

theorem trimEnd_cons_of_blank {c : Char} (h : isBlank c = true) {cs : List Char}
    (hcs : trimEnd cs = cs) : trimEnd (c :: cs) = if cs = [] then [] else c :: cs := by
  rw [trimEnd, hcs]
  cases cs with
  | nil => simp [h]
  | cons d ds => simp

theorem trimEnd_append_cons {c : Char} (h : isBlank c = false) (before after : List Char) :
    trimEnd (before ++ c :: after) = before ++ c :: trimEnd after := by
  induction before with
  | nil => exact trimEnd_cons_of_not_blank h after
  | cons b before ih => rw [List.cons_append, trimEnd, ih]; cases before <;> rfl

theorem trimEnd_append_blank {cs : List Char} (h : trimEnd cs = cs) {c : Char}
    (hc : isBlank c = true) : trimEnd (cs ++ [c]) = cs := by
  induction cs with
  | nil => simp [trimEnd, hc]
  | cons d ds ih =>
    rw [trimEnd] at h
    rw [List.cons_append, trimEnd]
    split at h
    · next he =>
      split at h
      · simp at h
      · next hd =>
        obtain ⟨-, rfl⟩ := List.cons.inj h
        simp [trimEnd, hc, hd]
    · next e es he =>
      have hds : trimEnd ds = ds := by
        rw [he]
        exact (List.cons.inj h).2
      rw [ih hds, ← hds, he]

theorem trimEnd_trimEnd (cs : List Char) : trimEnd (trimEnd cs) = trimEnd cs := by
  induction cs with
  | nil => rfl
  | cons c cs ih =>
    rw [trimEnd]
    split
    · next he =>
      split
      · rfl
      · next hc => simp [trimEnd, hc]
    · next d ds he =>
      rw [he] at ih
      rw [trimEnd, ih]

theorem trimStart_trimEnd (cs : List Char) : trimStart (trimEnd cs) = trimEnd (trimStart cs) := by
  induction cs with
  | nil => rfl
  | cons c cs ih =>
    cases hc : isBlank c with
    | false => rw [trimStart_cons hc, trimEnd_cons_of_not_blank hc, trimStart_cons hc]
    | true =>
      have hstart (ds : List Char) : trimStart (c :: ds) = trimStart ds := by simp [trimStart, hc]
      rw [hstart, ← ih, trimEnd]
      split
      · next he => simp [he, hc]
      · next d ds he => rw [he, hstart]

theorem trim_trimEnd (cs : List Char) : trim (trimEnd cs) = trim cs := by
  rw [trim, trimStart_trimEnd, trimEnd_trimEnd, trim]

theorem trim_trim (cs : List Char) : trim (trim cs) = trim cs := by
  have hstart : trimStart (trimStart cs) = trimStart cs := List.dropWhile_idempotent _ _
  have hends : trim (trim cs) = trim (trimStart cs) := trim_trimEnd _
  rw [hends, trim, hstart, trim]

theorem trim_cons_blank {c : Char} (hc : isBlank c = true) (cs : List Char) :
    trim (c :: cs) = trim cs := by
  simp [trim, trimStart, hc]

theorem trim_append_blank {cs : List Char} (h : trim cs = cs) {c : Char} (hc : isBlank c = true) :
    trim (cs ++ [c]) = cs := by
  cases cs with
  | nil => simp [trim, trimStart, hc, trimEnd]
  | cons d ds =>
    rw [trim, List.cons_append, trimStart_cons (not_blank_of_trim h), ← List.cons_append]
    exact trimEnd_append_blank (trimEnd_eq_self_of_trim h) hc

theorem trim_cons {c : Char} (hc : isBlank c = false) {cs : List Char} (h : trimEnd cs = cs) :
    trim (c :: cs) = c :: cs := by
  rw [trim, trimStart_cons hc, trimEnd_cons_of_not_blank hc, h]

theorem trimEnd_of_not_blank {cs : List Char} (h : ∀ c ∈ cs, isBlank c = false) :
    trimEnd cs = cs := by
  induction cs with
  | nil => rfl
  | cons c cs ih =>
    rw [trimEnd_cons_of_not_blank (h c List.mem_cons_self),
      ih fun d hd => h d (List.mem_cons_of_mem c hd)]

theorem trimEnd_of_allBlank {cs : List Char} (h : allBlank cs = true) : trimEnd cs = [] := by
  induction cs with
  | nil => rfl
  | cons c cs ih =>
    obtain ⟨hc, hcs⟩ := Bool.and_eq_true_iff.mp h
    simp [trimEnd, ih hcs, hc]

theorem not_allBlank_of_trim {cs : List Char} (hne : cs ≠ []) (h : trim cs = cs) :
    allBlank cs = false := by
  obtain ⟨c, ds, rfl⟩ := List.exists_cons_of_ne_nil hne
  simp [allBlank, not_blank_of_trim h]

end PageOverlay.Text
