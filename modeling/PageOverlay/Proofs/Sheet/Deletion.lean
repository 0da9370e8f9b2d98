import Mathlib.Order.Monotone.Basic
import PageOverlay.Proofs.Sheet.LineBreaks
import PageOverlay.Sheet.Basic

/-!
# Leaving out lines

Lines are cut out of a text together with the breaks that end them. The other lines are found again
in their order, though a carriage return and a line feed that come together may swallow a blank
line between them. So reading what is left gives the sheet as it was without the command lines that
were cut out, and under other line numbers.
-/

set_option autoImplicit false

namespace PageOverlay.Sheet

def leaveOut (drop : Nat → Bool) : Nat → List Char → List Char
  | _, [] => []
  | n, '\r' :: '\n' :: cs =>
    if drop n then leaveOut drop (n + 1) cs else '\r' :: '\n' :: leaveOut drop (n + 1) cs
  | n, c :: cs =>
    let rest := leaveOut drop (if c = '\r' ∨ c = '\n' then n + 1 else n) cs
    if drop n then rest else c :: rest

def without (numbers : List Nat) (source : String) : String :=
  String.ofList (leaveOut (fun n => numbers.contains n) 1 source.toList)

/-- The second lines are those of the first that are not picked, in order, and perhaps other
blank lines. The number of the first line is given. -/
inductive Pruned (drop : Nat → Bool) : Nat → List (List Char) → List (List Char) → Prop
  | nil (n : Nat) : Pruned drop n [] []
  | lost {n : Nat} {l : List Char} {ls ls' : List (List Char)} (hl : Text.trim l = [])
      (h : Pruned drop (n + 1) ls ls') : Pruned drop n (l :: ls) ls'
  | found {n : Nat} {l : List Char} {ls ls' : List (List Char)} (hl : Text.trim l = [])
      (h : Pruned drop n ls ls') : Pruned drop n ls (l :: ls')
  | cut {n : Nat} {l : List Char} {ls ls' : List (List Char)} (hd : drop n)
      (h : Pruned drop (n + 1) ls ls') : Pruned drop n (l :: ls) ls'
  | kept {n : Nat} {l : List Char} {ls ls' : List (List Char)} (hd : drop n = false)
      (h : Pruned drop (n + 1) ls ls') : Pruned drop n (l :: ls) (l :: ls')

variable {drop : Nat → Bool} {n : Nat}

theorem Pruned.of_blank {l : List Char} {ls ls' : List (List Char)} (hl : Text.trim l = [])
    (h : Pruned drop n ls (l :: ls')) : Pruned drop n ls ls' := by
  generalize hk : l :: ls' = ks at h
  induction h with
  | nil => cases hk
  | lost hb _ ih => exact .lost hb (ih hk)
  | found _ h _ =>
    cases hk
    exact h
  | cut hd _ ih => exact .cut hd (ih hk)
  | kept _ h _ =>
    cases hk
    exact .lost hl h

def Cuts (drop : Nat → Bool) (n : Nat) (cs rest : List Char) : Prop :=
  ∃ l ls, splitLines cs = l :: ls ∧
    if drop n then Pruned drop (n + 1) ls (splitLines rest)
    else ∃ ls', splitLines rest = l :: ls' ∧ Pruned drop (n + 1) ls ls'

theorem Cuts.pruned {cs rest : List Char} (h : Cuts drop n cs rest) :
    Pruned drop n (splitLines cs) (splitLines rest) := by
  obtain ⟨l, ls, hcs, h⟩ := h
  rw [hcs]
  split at h
  · next hd => exact .cut hd h
  · next hd =>
    obtain ⟨ls', hrest, h⟩ := h
    rw [hrest]
    exact .kept (by simpa using hd) h

theorem splitLines_char {c : Char} {cs l : List Char} {ls : List (List Char)}
    (hc : ¬ (c = '\r' ∨ c = '\n')) (h : splitLines cs = l :: ls) :
    splitLines (c :: cs) = (c :: l) :: ls := by
  rw [splitLines, if_neg hc, h]
  intro _ hr
  exact absurd (.inl hr) hc

theorem splitLines_single {c : Char} {cs : List Char} (hc : c = '\r' ∨ c = '\n')
    (hcs : ∀ ds, c = '\r' → cs = '\n' :: ds → False) :
    splitLines (c :: cs) = [] :: splitLines cs := by
  rw [splitLines, if_pos hc]
  intro ds hr hds
  exact hcs ds hr hds

/-- A break that is kept may join with a line feed after it, and then a blank line goes. -/
theorem splitLines_kept_break {c : Char} {rest : List Char} {ls : List (List Char)}
    (hc : c = '\r' ∨ c = '\n') (h : Pruned drop n ls (splitLines rest)) :
    ∃ ls', splitLines (c :: rest) = [] :: ls' ∧ Pruned drop n ls ls' := by
  by_cases hjoin : ∃ ds, c = '\r' ∧ rest = '\n' :: ds
  · obtain ⟨ds, rfl, rfl⟩ := hjoin
    have hfeed : splitLines ('\n' :: ds) = [] :: splitLines ds :=
      splitLines_single (.inr rfl) fun _ hr => absurd hr (by decide)
    rw [hfeed] at h
    exact ⟨splitLines ds, rfl, h.of_blank rfl⟩
  · exact ⟨_, splitLines_single hc fun ds hr hds => hjoin ⟨ds, hr, hds⟩, h⟩

theorem cuts_leaveOut (drop : Nat → Bool) (n : Nat) (cs : List Char) :
    Cuts drop n cs (leaveOut drop n cs) := by
  -- a line may still be open where the text stands, so its beginning is kept apart in `Cuts`
  fun_induction leaveOut drop n cs with
  | case1 n =>
    refine ⟨[], [], rfl, ?_⟩
    split
    · exact .found rfl (.nil _)
    · exact ⟨[], rfl, .nil _⟩
  | case2 n cs hd ih =>
    refine ⟨[], splitLines cs, rfl, ?_⟩
    rw [if_pos hd]
    exact ih.pruned
  | case3 n cs hd ih =>
    refine ⟨[], splitLines cs, rfl, ?_⟩
    rw [if_neg hd]
    exact ⟨_, rfl, ih.pruned⟩
  | case4 n c cs hcs rest hd ih =>
    -- a single character of a line that is cut out
    by_cases hc : c = '\r' ∨ c = '\n'
    · rw [if_pos hc] at ih
      refine ⟨[], splitLines cs, splitLines_single hc hcs, ?_⟩
      simp only [hd, if_true, rest, if_pos hc]
      exact ih.pruned
    · rw [if_neg hc] at ih
      obtain ⟨l, ls, hl, h⟩ := ih
      refine ⟨c :: l, ls, splitLines_char hc hl, ?_⟩
      simp only [hd, if_true, rest, if_neg hc] at h ⊢
      exact h
  | case5 n c cs hcs rest hd ih =>
    -- a single character of a line that stays
    by_cases hc : c = '\r' ∨ c = '\n'
    · rw [if_pos hc] at ih
      refine ⟨[], splitLines cs, splitLines_single hc hcs, ?_⟩
      rw [if_neg hd]
      simp only [rest, if_pos hc]
      exact splitLines_kept_break hc ih.pruned
    · rw [if_neg hc] at ih
      obtain ⟨l, ls, hl, h⟩ := ih
      rw [if_neg hd] at h
      obtain ⟨ls', hrest, h⟩ := h
      refine ⟨c :: l, ls, splitLines_char hc hl, ?_⟩
      rw [if_neg hd]
      simp only [rest, if_neg hc]
      exact ⟨ls', splitLines_char hc hrest, h⟩

example : without [2] "a = b\r\nb\n\nc = d" = "a = b\r\n\nc = d" := by decide +kernel

end PageOverlay.Sheet
