import PageOverlay.Text.Pieces
import PageOverlay.Text.Search

/-!
# Replacing piece by piece

Where a text is cut such that nothing that is looked for lies across the cut, the two parts are
replaced on their own. What is replaced cuts a text into pieces, and the new text stands between
these.
-/

set_option autoImplicit false

namespace PageOverlay.Text

variable {n : Char} {ns new cs : List Char}

theorem replaceAll_of_not_occursIn (new : List Char) (h : occursIn (n :: ns) cs = false) :
    replaceAll n ns new cs = cs := by
  induction cs with
  | nil => rw [replaceAll]
  | cons c cs ih =>
    simp only [occursIn, Bool.or_eq_false_iff, List.isPrefixOf_cons_cons, Bool.and_eq_false_iff,
      beq_eq_false_iff_ne] at h
    obtain ⟨hc, hcs⟩ := h
    rw [replaceAll, if_neg, ih hcs]
    rintro ⟨rfl, hp⟩
    rcases hc with hc | hc
    · exact hc rfl
    · simp [hc] at hp

theorem mem_of_occursIn {needle : List Char} (h : occursIn needle cs) {c : Char}
    (hc : c ∈ needle) : c ∈ cs := by
  induction cs with
  | nil =>
    have hempty : needle = [] := by simpa [occursIn] using h
    rw [hempty] at hc
    cases hc
  | cons d cs ih =>
    rcases Bool.or_eq_true_iff.mp h with h | h
    · exact (List.isPrefixOf_iff_prefix.mp h).subset hc
    · exact List.mem_cons_of_mem d (ih h)

theorem replaceAll_of_not_mem {c : Char} (hc : c ∈ n :: ns) (hcs : c ∉ cs) (new : List Char) :
    replaceAll n ns new cs = cs := by
  refine replaceAll_of_not_occursIn new ?_
  cases h : occursIn (n :: ns) cs with
  | false => rfl
  | true => exact absurd (mem_of_occursIn h hc) hcs

theorem replaceAll_append_match (new cs : List Char) :
    replaceAll n ns new (n :: (ns ++ cs)) = new ++ replaceAll n ns new cs := by
  rw [replaceAll, if_pos ⟨rfl, by simp⟩, List.drop_left]

theorem replaceAll_single_nil (c : Char) (cs : List Char) :
    replaceAll c [] [] cs = cs.filter (· != c) := by
  induction cs with
  | nil => rw [replaceAll, List.filter_nil]
  | cons d cs ih =>
    by_cases hd : d = c
    · subst hd
      rw [List.filter_cons_of_neg (by simp), ← ih]
      exact replaceAll_append_match [] cs
    · rw [List.filter_cons_of_pos (by simpa using hd), ← ih, replaceAll, if_neg fun h => hd h.1]

theorem not_mem_replaceAll {c : Char} (hcs : c ∉ cs) (hnew : c ∉ new) :
    c ∉ replaceAll n ns new cs := by
  fun_induction replaceAll n ns new cs with
  | case1 => exact List.not_mem_nil
  | case2 d cs h ih =>
    obtain ⟨-, hcs⟩ : c ≠ d ∧ c ∉ cs := by simpa using hcs
    have hrest : c ∉ cs.drop ns.length := fun hm => hcs (List.mem_of_mem_drop hm)
    simp [hnew, ih hrest]
  | case3 d cs h ih =>
    obtain ⟨hd, hcs⟩ : c ≠ d ∧ c ∉ cs := by simpa using hcs
    simp [hd, ih hcs]

/-- The needle lies across no cut between the two texts. -/
def Apart (needle a b : List Char) : Prop :=
  ∀ u v, u <:+ a → v <+: b → u ++ v = needle → u = [] ∨ v = []

theorem Apart.of_suffix {needle a a' b : List Char} (h : Apart needle a b) (ha : a' <:+ a) :
    Apart needle a' b := fun u v hu hv hn => h u v (hu.trans ha) hv hn

theorem replaceAll_append {a b : List Char} (h : Apart (n :: ns) a b) :
    replaceAll n ns new (a ++ b) = replaceAll n ns new a ++ replaceAll n ns new b := by
  fun_induction replaceAll n ns new a with
  | case1 => rfl
  | case2 c cs hc ih =>
    obtain ⟨rfl, hprefix⟩ := hc
    obtain ⟨rest, rfl⟩ := List.isPrefixOf_iff_prefix.mp hprefix
    rw [List.drop_left] at ih ⊢
    have hrest : rest <:+ c :: (ns ++ rest) := ⟨c :: ns, rfl⟩
    rw [List.cons_append, List.append_assoc, replaceAll_append_match, ih (h.of_suffix hrest),
      List.append_assoc]
  | case3 c cs hc ih =>
    have hnot : ¬(c = n ∧ ns.isPrefixOf (cs ++ b)) := by
      rintro ⟨rfl, hprefix⟩
      rw [List.isPrefixOf_iff_prefix] at hprefix
      by_cases hlen : ns.length ≤ cs.length
      · exact hc ⟨rfl, List.isPrefixOf_iff_prefix.mpr
          (List.prefix_of_prefix_length_le hprefix (List.prefix_append cs b) hlen)⟩
      · -- the needle goes on behind the cut
        obtain ⟨v, rfl⟩ := List.prefix_of_prefix_length_le (List.prefix_append cs b) hprefix
          (Nat.le_of_not_le hlen)
        have hv : v <+: b := (List.prefix_append_right_inj cs).mp hprefix
        rcases h (c :: cs) v List.suffix_rfl hv rfl with hnil | rfl
        · cases hnil
        · exact hlen (by simp)
    rw [List.cons_append, replaceAll, if_neg hnot, ih (h.of_suffix (List.suffix_cons c cs)),
      List.cons_append]

theorem apart_of_not_mem {needle a b : List Char} {c : Char} (hc : c ∉ needle) :
    Apart needle a (c :: b) := by
  intro u v _ hv hn
  cases v with
  | nil => exact .inr rfl
  | cons d v =>
    obtain ⟨rfl, -⟩ := List.cons_prefix_cons.mp hv
    exact absurd (by simp [← hn]) hc

/-- The pieces of a text between the leftmost occurrences of the needle `n :: ns` that do not
overlap an earlier one. -/
def between (n : Char) (ns : List Char) : List Char → List (List Char)
  | [] => [[]]
  | c :: cs =>
    if c = n ∧ ns.isPrefixOf cs then [] :: between n ns (cs.drop ns.length)
    else (between n ns cs).modifyHead (c :: ·)
termination_by cs => cs.length
decreasing_by
  · simp only [List.length_drop, List.length_cons]; omega
  · simp

theorem between_ne_nil (cs : List Char) : between n ns cs ≠ [] := by
  fun_induction between n ns cs with
  | case1 => simp
  | case2 => simp
  | case3 c cs _ ih => simpa using ih

theorem joinWith_modifyHead (sep : List Char) (c : Char) {ps : List (List Char)} (h : ps ≠ []) :
    joinWith sep (ps.modifyHead (c :: ·)) = c :: joinWith sep ps := by
  obtain ⟨p, ps, rfl⟩ := List.exists_cons_of_ne_nil h
  cases ps with
  | nil => rfl
  | cons q ps => simp [joinWith]

theorem mem_joinWith {sep p : List Char} {ps : List (List Char)} (hp : p ∈ ps) {c : Char}
    (hc : c ∈ p) : c ∈ joinWith sep ps := by
  induction ps with
  | nil => cases hp
  | cons q ps ih =>
    cases ps with
    | nil =>
      obtain rfl := List.mem_singleton.mp hp
      exact hc
    | cons r ps =>
      rw [joinWith_cons _ _ (List.cons_ne_nil r ps), List.mem_append]
      rcases List.mem_cons.mp hp with rfl | hp
      · exact .inl (List.mem_append_left sep hc)
      · exact .inr (ih hp)

theorem not_mem_joinWith {sep : List Char} {ps : List (List Char)} {c : Char} (hsep : c ∉ sep)
    (hps : ∀ p ∈ ps, c ∉ p) : c ∉ joinWith sep ps := by
  induction ps with
  | nil => exact List.not_mem_nil
  | cons p ps ih =>
    have ih := ih fun q hq => hps q (List.mem_cons_of_mem p hq)
    cases ps with
    | nil => exact hps p List.mem_cons_self
    | cons q ps =>
      rw [joinWith_cons _ _ (List.cons_ne_nil q ps)]
      simp only [List.mem_append, not_or]
      exact ⟨⟨hps p List.mem_cons_self, hsep⟩, ih⟩

theorem replaceAll_eq_joinWith (new cs : List Char) :
    replaceAll n ns new cs = joinWith new (between n ns cs) := by
  fun_induction between n ns cs with
  | case1 => rw [replaceAll, joinWith]
  | case2 c cs h ih =>
    rw [replaceAll, if_pos h, ih, joinWith_cons _ _ (between_ne_nil _), List.nil_append]
  | case3 c cs h ih => rw [replaceAll, if_neg h, ih, joinWith_modifyHead _ _ (between_ne_nil _)]

theorem joinWith_between (cs : List Char) : joinWith (n :: ns) (between n ns cs) = cs := by
  fun_induction between n ns cs with
  | case1 => rfl
  | case2 c cs h ih =>
    obtain ⟨rfl, hprefix⟩ := h
    obtain ⟨rest, rfl⟩ := List.isPrefixOf_iff_prefix.mp hprefix
    rw [joinWith_cons _ _ (between_ne_nil _), ih]
    simp
  | case3 c cs h ih => rw [joinWith_modifyHead _ _ (between_ne_nil _), ih]

theorem not_mem_of_mem_between {c : Char} (h : c ∉ cs) : ∀ p ∈ between n ns cs, c ∉ p := by
  intro p hp hc
  have hmem : c ∈ joinWith (n :: ns) (between n ns cs) := mem_joinWith hp hc
  rw [joinWith_between] at hmem
  exact h hmem

end PageOverlay.Text
