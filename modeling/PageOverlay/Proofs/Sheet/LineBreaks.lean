import PageOverlay.Sheet.Line
import PageOverlay.Text.Pieces

/-!
# Lines and line breaks

Lines that hold no break of their own can be joined by any of the three line breaks, and are
found again.
-/

set_option autoImplicit false

namespace PageOverlay.Sheet

def lineBreaks : List (List Char) := [['\r', '\n'], ['\r'], ['\n']]

def IsUnbroken (cs : List Char) : Prop := ∀ c ∈ cs, c ≠ '\r' ∧ c ≠ '\n'

theorem head_ne_newline {cs : List Char} (h : IsUnbroken cs) : cs.head? ≠ some '\n' := by
  intro hc
  cases cs with
  | nil => simp at hc
  | cons c cs =>
    have hne := (h c (by simp)).2
    simp at hc
    exact hne hc

theorem splitLines_unbroken {cs : List Char} (h : IsUnbroken cs) : splitLines cs = [cs] := by
  induction cs with
  | nil => rfl
  | cons c cs ih =>
    obtain ⟨hr, hn⟩ := h c (by simp)
    rw [splitLines, ih fun d hd => h d (by simp [hd])]
    · simp [hr, hn]
    · intro _ hc
      exact absurd hc hr

theorem splitLines_break {sep rest : List Char} (hsep : sep ∈ lineBreaks)
    (hrest : sep = ['\r'] → rest.head? ≠ some '\n') :
    splitLines (sep ++ rest) = [] :: splitLines rest := by
  simp only [lineBreaks, List.mem_cons, List.not_mem_nil, or_false] at hsep
  rcases hsep with rfl | rfl | rfl
  · rfl
  · rw [List.singleton_append, splitLines]
    · simp
    · intro ds _ hds
      exact hrest rfl (by rw [hds]; rfl)
  · rw [List.singleton_append, splitLines]
    · simp
    · intro _ hc
      exact absurd hc (by decide)

theorem splitLines_append {cs : List Char} (h : IsUnbroken cs) {rest : List Char}
    {ls : List (List Char)} (hrest : splitLines rest = [] :: ls) :
    splitLines (cs ++ rest) = cs :: ls := by
  induction cs with
  | nil => exact hrest
  | cons c cs ih =>
    obtain ⟨hr, hn⟩ := h c (by simp)
    rw [List.cons_append, splitLines, ih fun d hd => h d (by simp [hd])]
    · simp [hr, hn]
    · intro _ hc
      exact absurd hc hr

theorem head_joinWith_ne_newline {ls : List (List Char)} (h : ∀ l ∈ ls, IsUnbroken l) :
    (Text.joinWith ['\r'] ls).head? ≠ some '\n' := by
  match ls with
  | [] => simp [Text.joinWith]
  | [l] => exact head_ne_newline (h l (by simp))
  | [] :: m :: ms => simp [Text.joinWith]
  | (c :: cs) :: m :: ms =>
    have hc : IsUnbroken (c :: cs) := h _ (by simp)
    have hhead : (c :: cs).head? ≠ some '\n' := head_ne_newline hc
    exact hhead

theorem splitLines_joinWith {sep : List Char} (hsep : sep ∈ lineBreaks) {ls : List (List Char)}
    (hne : ls ≠ []) (h : ∀ l ∈ ls, IsUnbroken l) : splitLines (Text.joinWith sep ls) = ls := by
  induction ls with
  | nil => exact absurd rfl hne
  | cons l ls ih =>
    have hl := h l (by simp)
    cases ls with
    | nil => exact splitLines_unbroken hl
    | cons m ms =>
      have hms : ∀ k ∈ m :: ms, IsUnbroken k := fun k hk => h k (List.mem_cons_of_mem l hk)
      have hrest : sep = ['\r'] → (Text.joinWith sep (m :: ms)).head? ≠ some '\n' := by
        rintro rfl
        exact head_joinWith_ne_newline hms
      rw [Text.joinWith_cons sep l (List.cons_ne_nil m ms), List.append_assoc]
      apply splitLines_append hl
      rw [splitLines_break hsep hrest, ih (List.cons_ne_nil m ms) hms]

end PageOverlay.Sheet
