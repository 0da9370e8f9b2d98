import PageOverlay.Proofs.Text.Replacing

/-!
# Marked gaps

A text can have some of the gaps between its characters marked by a separator that it does not
hold itself. Replacing a word by its letters with separators between them marks the gaps inside of
the occurrences that are found, and replacing back takes marks away. Done for several words in
turn, both in the same order, nothing is left marked.
-/

set_option autoImplicit false

namespace PageOverlay.Text

variable {sep n : Char} {ns cs : List Char} {m : Nat → Bool}

def gap (sep : Char) (isMarked : Bool) : List Char := if isMarked then [sep] else []

/-- A text with a separator after each character whose place is marked. The place of the first
character is given. -/
def marked (sep : Char) (m : Nat → Bool) : Nat → List Char → List Char
  | _, [] => []
  | i, c :: cs => c :: (gap sep (m i) ++ marked sep m (i + 1) cs)

theorem marked_of_none (i : Nat) (cs : List Char) : marked sep (fun _ => false) i cs = cs := by
  induction cs generalizing i with
  | nil => rfl
  | cons c cs ih =>
    rw [marked, ih]
    rfl

theorem marked_congr {m' : Nat → Bool} {i : Nat} (h : ∀ g, i ≤ g → m' g = m g) (cs : List Char) :
    marked sep m' i cs = marked sep m i cs := by
  induction cs generalizing i with
  | nil => rfl
  | cons c cs ih =>
    rw [marked, marked, h i (Nat.le_refl i), ih fun g hg => h g (Nat.le_of_succ_le hg)]

def spread (sep : Char) (isMarked : Bool) (ns : List Char) : List Char :=
  ns.flatMap fun c => gap sep isMarked ++ [c]

theorem spread_cons (b : Bool) (n : Char) (ns : List Char) :
    spread sep b (n :: ns) = gap sep b ++ n :: spread sep b ns := by
  simp [spread]

theorem spread_false (ns : List Char) : spread sep false ns = ns := by
  simp [spread, gap]

theorem cons_spread_true (n : Char) (ns : List Char) :
    n :: spread sep true ns = (n :: ns).intersperse sep := by
  induction ns generalizing n with
  | nil => rfl
  | cons e es ih =>
    rw [List.intersperse_cons_cons, ← ih]
    rfl

/-- A word with all the gaps inside of it marked or none. -/
def spaced (sep : Char) (isMarked : Bool) : List Char → List Char
  | [] => []
  | n :: ns => n :: spread sep isMarked ns

theorem spaced_false (word : List Char) : spaced sep false word = word := by
  cases word with
  | nil => rfl
  | cons n ns => rw [spaced, spread_false]

theorem spaced_true (word : List Char) : spaced sep true word = word.intersperse sep := by
  cases word with
  | nil => rfl
  | cons n ns => rw [spaced, cons_spread_true]

theorem follow_append {b : Bool} {i : Nat} (h : ∀ j < ns.length, m (i + j) = b) (cs : List Char) :
    gap sep (m i) ++ marked sep m (i + 1) (ns ++ cs) =
      spread sep b ns ++ (gap sep (m (i + ns.length)) ++ marked sep m (i + ns.length + 1) cs) := by
  induction ns generalizing i with
  | nil => rfl
  | cons e es ih =>
    have hrest : ∀ j < es.length, m (i + 1 + j) = b := by
      intro j hj
      rw [Nat.add_assoc, Nat.add_comm 1 j]
      exact h (j + 1) (Nat.succ_lt_succ hj)
    have hplace : i + (e :: es).length = i + 1 + es.length := by
      rw [List.length_cons, Nat.add_assoc, Nat.add_comm 1]
    have hfirst : m i = b := h 0 (Nat.zero_lt_succ _)
    rw [List.cons_append, marked, ih hrest, hfirst, hplace, spread_cons]
    simp only [List.append_assoc, List.cons_append]

theorem spread_prefix_iff {b : Bool} {i : Nat} (hns : sep ∉ ns) (hcs : sep ∉ cs) :
    spread sep b ns <+: gap sep (m i) ++ marked sep m (i + 1) cs ↔
      ns <+: cs ∧ ∀ j < ns.length, m (i + j) = b := by
  constructor
  · induction ns generalizing i cs with
    | nil => exact fun _ => ⟨List.nil_prefix, by simp⟩
    | cons e es ih =>
      intro h
      obtain ⟨he, hes⟩ : sep ≠ e ∧ sep ∉ es := by simpa using hns
      rw [spread_cons] at h
      cases cs with
      | nil =>
        have hmem : e ∈ gap sep (m i) ++ [] := h.subset (by simp)
        cases hm : m i <;> simp [gap, hm, Ne.symm he] at hmem
      | cons c cs =>
        obtain ⟨hc, hcs⟩ : sep ≠ c ∧ sep ∉ cs := by simpa using hcs
        have hmark : m i = b := by
          rw [marked] at h
          cases b <;> cases hm : m i <;> simp [gap, hm, hc, Ne.symm he] at h ⊢
        rw [marked, hmark, List.prefix_append_right_inj, List.cons_prefix_cons] at h
        obtain ⟨hhead, hmarks⟩ := ih hes hcs h.2
        refine ⟨List.cons_prefix_cons.mpr ⟨h.1, hhead⟩, ?_⟩
        intro j hj
        cases j with
        | zero => exact hmark
        | succ j =>
          have hj' := hmarks j (Nat.lt_of_succ_lt_succ hj)
          rwa [Nat.add_assoc, Nat.add_comm 1 j] at hj'
  · rintro ⟨⟨rest, rfl⟩, hmarks⟩
    rw [follow_append hmarks]
    exact List.prefix_append _ _

/-- The places at which a word is found from left to right, with no overlap, where all gaps inside
of it are open. -/
def places (n : Char) (ns : List Char) (isOpen : Nat → Bool) : Nat → List Char → List Nat
  | _, [] => []
  | i, c :: cs =>
    if c = n ∧ ns <+: cs ∧ ∀ j < ns.length, isOpen (i + j) then
      i :: places n ns isOpen (i + ns.length + 1) (cs.drop ns.length)
    else places n ns isOpen (i + 1) cs
termination_by _ cs => cs.length
decreasing_by
  · simp only [List.length_drop, List.length_cons]; omega
  · simp

def inside (gaps : Nat) (ps : List Nat) (g : Nat) : Bool := ps.any fun p => p ≤ g && g < p + gaps

theorem le_of_mem_places {isOpen : Nat → Bool} {i p : Nat} (h : p ∈ places n ns isOpen i cs) :
    i ≤ p := by
  fun_induction places n ns isOpen i cs with
  | case1 => cases h
  | case2 i c cs _ ih =>
    rcases List.mem_cons.mp h with rfl | h
    · exact Nat.le_refl _
    · have := ih h
      omega
  | case3 i c cs _ ih => exact Nat.le_of_succ_le (ih h)

theorem open_of_mem_places {isOpen : Nat → Bool} {i p : Nat} (h : p ∈ places n ns isOpen i cs) :
    ∀ j < ns.length, isOpen (p + j) := by
  fun_induction places n ns isOpen i cs with
  | case1 => cases h
  | case2 i c cs hc ih =>
    rcases List.mem_cons.mp h with rfl | h
    · exact hc.2.2
    · exact ih h
  | case3 i c cs _ ih => exact ih h

theorem open_of_inside {isOpen : Nat → Bool} {i g : Nat}
    (h : inside ns.length (places n ns isOpen i cs) g) : isOpen g := by
  obtain ⟨p, hp, hg⟩ := List.any_eq_true.mp h
  obtain ⟨hle, hlt⟩ : p ≤ g ∧ g < p + ns.length := by simpa using hg
  have hopen := open_of_mem_places hp (g - p) (by omega)
  rwa [Nat.add_sub_cancel' hle] at hopen

theorem places_congr {isOpen isOpen' : Nat → Bool} (hless : ∀ g, isOpen' g → isOpen g) {i : Nat}
    (hfound : ∀ p ∈ places n ns isOpen i cs, ∀ j < ns.length, isOpen' (p + j)) :
    places n ns isOpen' i cs = places n ns isOpen i cs := by
  fun_induction places n ns isOpen i cs with
  | case1 => rw [places]
  | case2 i c cs hc ih =>
    have hopen : ∀ j < ns.length, isOpen' (i + j) := hfound i List.mem_cons_self
    rw [places, if_pos ⟨hc.1, hc.2.1, hopen⟩, ih fun p hp => hfound p (List.mem_cons_of_mem i hp)]
  | case3 i c cs hc ih =>
    rw [places, if_neg, ih hfound]
    rintro ⟨hn, hprefix, hopen⟩
    exact hc ⟨hn, hprefix, fun j hj => hless _ (hopen j hj)⟩

def hit (n : Char) (ns : List Char) (b : Bool) (m : Nat → Bool) (i : Nat) (cs : List Char)
    (g : Nat) : Bool :=
  inside ns.length (places n ns (fun g => m g == b) i cs) g

/-- The marks after the gaps inside of all words that are found were set. -/
def remark (n : Char) (ns : List Char) (b b' : Bool) (m : Nat → Bool) (i : Nat) (cs : List Char)
    (g : Nat) : Bool :=
  if hit n ns b m i cs g then b' else m g

theorem mark_of_hit {b : Bool} {i g : Nat} (h : hit n ns b m i cs g) : m g = b := by
  simpa using open_of_inside h

theorem hit_of_mem_places {b : Bool} {i p j : Nat} (hp : p ∈ places n ns (fun g => m g == b) i cs)
    (hj : j < ns.length) : hit n ns b m i cs (p + j) :=
  List.any_eq_true.mpr ⟨p, hp, by simpa using hj⟩

theorem replaceAll_gap (hn : sep ≠ n) (new : List Char) (b : Bool) (cs : List Char) :
    replaceAll n ns new (gap sep b ++ cs) = gap sep b ++ replaceAll n ns new cs := by
  cases b with
  | false => rfl
  | true =>
    change replaceAll n ns new (sep :: cs) = sep :: replaceAll n ns new cs
    rw [replaceAll, if_neg fun h => hn h.1]

theorem remark_of_lt {b b' : Bool} {i g : Nat} (hg : g < i) :
    remark n ns b b' m i cs g = m g := by
  rw [remark, if_neg]
  intro h
  rw [hit] at h
  obtain ⟨p, hp, hin⟩ := List.any_eq_true.mp h
  have hle := le_of_mem_places hp
  have : p ≤ g ∧ g < p + ns.length := by simpa using hin
  omega

theorem remark_of_match {b b' : Bool} {i : Nat} (hopen : ∀ j < ns.length, m (i + j) = b) (g : Nat) :
    remark n ns b b' m i (n :: (ns ++ cs)) g =
      if i ≤ g ∧ g < i + ns.length then b' else remark n ns b b' m (i + ns.length + 1) cs g := by
  have hfound : places n ns (fun g => m g == b) i (n :: (ns ++ cs)) =
      i :: places n ns (fun g => m g == b) (i + ns.length + 1) cs := by
    rw [places, if_pos ⟨rfl, List.prefix_append ns cs, by simpa using hopen⟩, List.drop_left]
  rw [remark, hit, hfound, inside, List.any_cons, ← inside, ← hit]
  by_cases hg : i ≤ g ∧ g < i + ns.length
  · simp [hg]
  · have hout : (decide (i ≤ g) && decide (g < i + ns.length)) = false := by simpa using hg
    rw [if_neg hg, hout, Bool.false_or, remark]

theorem remark_of_no_match {b b' : Bool} {i : Nat} {c : Char}
    (h : ¬(c = n ∧ ns <+: cs ∧ ∀ j < ns.length, m (i + j) = b)) :
    remark n ns b b' m i (c :: cs) = remark n ns b b' m (i + 1) cs := by
  have hskip : places n ns (fun g => m g == b) i (c :: cs) =
      places n ns (fun g => m g == b) (i + 1) cs := by
    rw [places, if_neg (by simpa using h)]
  funext g
  rw [remark, hit, hskip, ← hit, ← remark]

/-- Replacing a word with its gaps marked one way by the same word with them marked the other way
changes the marks where the word is found. -/
theorem replaceAll_marked {b b' : Bool} (hn : sep ≠ n) (hns : sep ∉ ns) (hcs : sep ∉ cs) (i : Nat) :
    replaceAll n (spread sep b ns) (n :: spread sep b' ns) (marked sep m i cs) =
      marked sep (remark n ns b b' m i cs) i cs := by
  induction hlen : cs.length using Nat.strongRecOn generalizing i cs with
  | _ len ih =>
  cases cs with
  | nil => rw [marked, replaceAll, marked]
  | cons c cs =>
    obtain ⟨-, hcs⟩ : sep ≠ c ∧ sep ∉ cs := by simpa using hcs
    by_cases h : c = n ∧ ns <+: cs ∧ ∀ j < ns.length, m (i + j) = b
    · obtain ⟨rfl, ⟨rest, rfl⟩, hopen⟩ := h
      have hin : ∀ j < ns.length, remark c ns b b' m i (c :: (ns ++ rest)) (i + j) = b' := by
        intro j hj
        rw [remark_of_match hopen, if_pos ⟨Nat.le_add_right i j, Nat.add_lt_add_left hj i⟩]
      have hbehind : remark c ns b b' m i (c :: (ns ++ rest)) (i + ns.length) =
          m (i + ns.length) := by
        rw [remark_of_match hopen, if_neg (by omega), remark_of_lt (Nat.lt_succ_self _)]
      have hafter : ∀ g, i + ns.length + 1 ≤ g →
          remark c ns b b' m i (c :: (ns ++ rest)) g =
            remark c ns b b' m (i + ns.length + 1) rest g := by
        intro g hg
        rw [remark_of_match hopen, if_neg (by omega)]
      have hrest := ih rest.length (by simp at hlen; omega)
        (fun hs => hcs (List.mem_append_right ns hs)) (i + ns.length + 1) rfl
      rw [marked, follow_append hopen, replaceAll_append_match, replaceAll_gap hn, hrest,
        marked, follow_append hin, hbehind, marked_congr hafter]
      rfl
    · have hat : remark n ns b b' m i (c :: cs) i = m i := by
        rw [remark_of_no_match h, remark_of_lt (Nat.lt_succ_self i)]
      have hrest := ih cs.length (by simp at hlen; omega) hcs (i + 1) rfl
      have hnot :
          ¬(c = n ∧ (spread sep b ns).isPrefixOf (gap sep (m i) ++ marked sep m (i + 1) cs)) := by
        rw [List.isPrefixOf_iff_prefix, spread_prefix_iff hns hcs]
        exact h
      rw [marked, replaceAll, if_neg hnot, replaceAll_gap hn, hrest, marked, hat,
        remark_of_no_match h]

def remarkAll (b b' : Bool) (cs : List Char) : List (List Char) → (Nat → Bool) → Nat → Bool
  | [], m => m
  | [] :: words, m => remarkAll b b' cs words m
  | (n :: ns) :: words, m => remarkAll b b' cs words (remark n ns b b' m 0 cs)

theorem remark_back {v w : Nat → Bool} (hv : ∀ g, v g = (hit n ns false m 0 cs g || w g))
    (hopen : ∀ g, w g → m g = false) (hother : ∀ g, w g → hit n ns false m 0 cs g = false) :
    remark n ns true false v 0 cs = w := by
  have hplaces : places n ns (fun g => v g == true) 0 cs =
      places n ns (fun g => m g == false) 0 cs := by
    refine places_congr ?_ ?_
    · intro g hg
      have hor : hit n ns false m 0 cs g ∨ w g := by simpa [hv] using hg
      rcases hor with hin | hmark
      · exact open_of_inside hin
      · simpa using hopen g hmark
    · intro p hp j hj
      simp [hv, hit_of_mem_places hp hj]
  funext g
  rw [remark, hit, hplaces, ← hit, hv]
  cases hin : hit n ns false m 0 cs g with
  | true =>
    cases hg : w g with
    | true => exact absurd (hother g hg) (by simp [hin])
    | false => rfl
  | false => simp

/-- Words that are marked in turn add marks to those that were there, and taking the marks of the
words away from the added ones, in the same order, leaves none. -/
theorem exists_added (cs : List Char) (words : List (List Char)) (m : Nat → Bool) :
    ∃ v : Nat → Bool, (∀ g, v g → m g = false) ∧
      (∀ g, remarkAll false true cs words m g = (m g || v g)) ∧
      remarkAll true false cs words v = fun _ => false := by
  induction words generalizing m with
  | nil => exact ⟨fun _ => false, by simp, by simp [remarkAll], rfl⟩
  | cons word words ih =>
    cases word with
    | nil => exact ih m
    | cons n ns =>
      have hfirst : ∀ g, hit n ns false m 0 cs g → m g = false := fun g hg => mark_of_hit hg
      have hm : ∀ g, remark n ns false true m 0 cs g = (m g || hit n ns false m 0 cs g) := by
        intro g
        rw [remark]
        split <;> simp_all
      -- what the later words add is neither marked before nor by the first word
      obtain ⟨w, hdisjoint, hadded, hback⟩ := ih (remark n ns false true m 0 cs)
      have hlater : ∀ g, w g → m g = false ∧ hit n ns false m 0 cs g = false := fun g hg => by
        simpa [hm] using hdisjoint g hg
      refine ⟨fun g => hit n ns false m 0 cs g || w g, ?_, ?_, ?_⟩
      · intro g hg
        rcases Bool.or_eq_true_iff.mp hg with hg | hg
        · exact hfirst g hg
        · exact (hlater g hg).1
      · intro g
        rw [remarkAll, hadded, hm, Bool.or_assoc]
      · have hw := remark_back (fun g => rfl) (fun g hg => (hlater g hg).1)
          fun g hg => (hlater g hg).2
        rw [remarkAll, hw, hback]

end PageOverlay.Text
