import PageOverlay.Text.Casing

/-!
# The cases of ASCII texts

Texts of ASCII characters change their case letter by letter. No run of the map to upper case
reaches a small letter of ASCII, so a text in upper case that is ASCII comes back from its lower
case.
-/

set_option autoImplicit false

namespace PageOverlay.Text

def isAscii (cs : List Char) : Bool := cs.all fun c => c.toNat < 128

variable {c : Char} {cs : List Char}

theorem isAscii_cons : isAscii (c :: cs) = true ↔ c.toNat < 128 ∧ isAscii cs = true := by
  simp [isAscii]

theorem lt_of_isAscii (h : isAscii cs = true) (hc : c ∈ cs) : c.toNat < 128 :=
  of_decide_eq_true (List.all_eq_true.mp h c hc)

theorem of_ascii {P : Char → Bool} (h : (List.range 128).all fun n => P (Char.ofNat n))
    (hc : c.toNat < 128) : P c = true := by
  have := List.all_eq_true.mp h c.toNat (List.mem_range.mpr hc)
  rwa [Char.ofNat_toNat] at this

theorem upperOf_ascii (h : c.toNat < 128) : upperOf c = [c.toUpper] := by rw [upperOf, if_pos h]

theorem lowerOf_ascii (h : c.toNat < 128) : lowerOf c = [c.toLower] := by rw [lowerOf, if_pos h]

theorem toUpper_lt (h : c.toNat < 128) : c.toUpper.toNat < 128 :=
  of_decide_eq_true (of_ascii (P := fun c => c.toUpper.toNat < 128) (by decide) h)

theorem toLower_lt (h : c.toNat < 128) : c.toLower.toNat < 128 :=
  of_decide_eq_true (of_ascii (P := fun c => c.toLower.toNat < 128) (by decide) h)

theorem toLower_toUpper (h : c.toNat < 128) : c.toUpper.toLower = c.toLower :=
  eq_of_beq (of_ascii (P := fun c => c.toUpper.toLower == c.toLower) (by decide) h)

theorem toLower_toLower (h : c.toNat < 128) : c.toLower.toLower = c.toLower :=
  eq_of_beq (of_ascii (P := fun c => c.toLower.toLower == c.toLower) (by decide) h)

theorem isLower_toUpper (h : c.toNat < 128) : c.toUpper.isLower = false :=
  eq_of_beq (of_ascii (P := fun c => c.toUpper.isLower == false) (by decide) h)

theorem upper_cons (c : Char) (cs : List Char) : upper (c :: cs) = upperOf c ++ upper cs := rfl

theorem upper_ascii (h : isAscii cs = true) : upper cs = cs.map Char.toUpper := by
  induction cs with
  | nil => rfl
  | cons c cs ih =>
    obtain ⟨hc, hcs⟩ := isAscii_cons.mp h
    rw [upper_cons, upperOf_ascii hc, ih hcs]
    rfl

/-- The capital sigma, whose lower case hangs on its neighbours, is not in ASCII. -/
theorem lowerAfter_ascii (h : isAscii cs = true) (before : List Char) :
    lowerAfter before cs = cs.map Char.toLower := by
  induction cs generalizing before with
  | nil => rfl
  | cons c cs ih =>
    obtain ⟨hc, hcs⟩ := isAscii_cons.mp h
    have hsigma : c ≠ 'Σ' := by
      rintro rfl
      exact absurd hc (by decide)
    rw [lowerAfter, if_neg hsigma, lowerOf_ascii hc, ih hcs]
    rfl

theorem lower_ascii (h : isAscii cs = true) : lower cs = cs.map Char.toLower :=
  lowerAfter_ascii h []

theorem isAscii_map {f : Char → Char} (hf : ∀ c : Char, c.toNat < 128 → (f c).toNat < 128)
    (h : isAscii cs = true) : isAscii (cs.map f) = true := by
  rw [isAscii, List.all_eq_true]
  intro d hd
  obtain ⟨c, hc, rfl⟩ := List.mem_map.mp hd
  exact decide_eq_true (hf c (lt_of_isAscii h hc))

theorem isAscii_lower (h : isAscii cs = true) : isAscii (lower cs) = true := by
  rw [lower_ascii h]
  exact isAscii_map (fun _ => toLower_lt) h

theorem lower_upper (h : isAscii cs = true) : lower (upper cs) = lower cs := by
  rw [upper_ascii h, lower_ascii (isAscii_map (fun _ => toUpper_lt) h), lower_ascii h, List.map_map]
  exact List.map_congr_left fun c hc => toLower_toUpper (lt_of_isAscii h hc)

theorem lower_lower (h : isAscii cs = true) : lower (lower cs) = lower cs := by
  rw [lower_ascii (isAscii_lower h), lower_ascii h, List.map_map]
  exact List.map_congr_left fun c hc => toLower_toLower (lt_of_isAscii h hc)

def isSmall (n : Nat) : Bool := 97 ≤ n && n ≤ 122

theorem isSmall_toNat (c : Char) : isSmall c.toNat = c.isLower := rfl

def CaseRun.missesSmall (r : CaseRun) : Bool :=
  r.image.all fun i => decide (122 < i) || decide (i + (r.last - r.first) < 97)

theorem CaseRun.not_isSmall_of_mem_apply {r : CaseRun} {n m : Nat} (h : r.missesSmall = true)
    (hn : r.holds n = true) (hm : m ∈ r.apply n) : isSmall m = false := by
  obtain ⟨i, hi, rfl⟩ := List.mem_map.mp hm
  have himage := List.all_eq_true.mp h i hi
  simp only [CaseRun.holds, Bool.and_eq_true, decide_eq_true_eq] at hn
  simp only [Bool.or_eq_true, decide_eq_true_eq] at himage
  simp only [isSmall, Bool.and_eq_false_iff, decide_eq_false_iff_not]
  omega

theorem CaseMap.not_isSmall_of_mem_apply {map : CaseMap} {n m : Nat}
    (h : map.runs.all CaseRun.missesSmall = true) (hn : isSmall n = false) (hm : m ∈ map.apply n) :
    isSmall m = false := by
  rw [CaseMap.apply] at hm
  split at hm
  · next r hr =>
    exact CaseRun.not_isSmall_of_mem_apply (List.all_eq_true.mp h r (List.mem_of_find?_eq_some hr))
      (List.find?_some (p := fun r : CaseRun => r.holds n) hr) hm
  · rwa [List.mem_singleton.mp hm]

theorem upperMap_missesSmall : upperMap.runs.all CaseRun.missesSmall = true := by decide +kernel

theorem not_isSmall_of_mem_upperOf {d : Char} (hd : d ∈ upperOf c) : isSmall d.toNat = false := by
  by_cases hc : c.toNat < 128
  · rw [upperOf_ascii hc, List.mem_singleton] at hd
    subst hd
    rw [isSmall_toNat, isLower_toUpper hc]
  · rw [upperOf, if_neg hc] at hd
    obtain ⟨m, hm, rfl⟩ := List.mem_map.mp hd
    have hcode : isSmall c.toNat = false := by
      simp only [isSmall, Bool.and_eq_false_iff, decide_eq_false_iff_not]
      omega
    have hsmall := CaseMap.not_isSmall_of_mem_apply upperMap_missesSmall hcode hm
    -- a number that is no code point becomes the character of number zero
    by_cases hvalid : m.isValidChar
    · have hchar : Char.ofNat m = Char.ofNatAux m hvalid := dif_pos hvalid
      rw [hchar]
      exact hsmall
    · have hchar : Char.ofNat m = Char.ofNat 0 := dif_neg hvalid
      rw [hchar]
      rfl

theorem toUpper_toLower (h : c.toNat < 128) (hsmall : isSmall c.toNat = false) :
    c.toLower.toUpper = c := by
  have hall : (isSmall c.toNat || c.toLower.toUpper == c) = true :=
    of_ascii (P := fun c => isSmall c.toNat || c.toLower.toUpper == c) (by decide) h
  rw [hsmall, Bool.false_or] at hall
  exact eq_of_beq hall

theorem upper_lower_upper (h : isAscii (upper cs) = true) :
    upper (lower (upper cs)) = upper cs := by
  have hmap : ∀ c ∈ upper cs, c.toLower.toUpper = c := by
    intro c hc
    obtain ⟨d, -, hcd⟩ := List.mem_flatMap.mp hc
    exact toUpper_toLower (lt_of_isAscii h hc) (not_isSmall_of_mem_upperOf hcd)
  rw [lower_ascii h, upper_ascii (isAscii_map (fun _ => toLower_lt) h), List.map_map]
  exact (List.map_congr_left hmap).trans (List.map_id _)

end PageOverlay.Text
