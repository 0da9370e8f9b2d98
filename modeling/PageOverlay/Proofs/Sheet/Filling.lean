import PageOverlay.Proofs.Sheet.Balance
import PageOverlay.Sheet.Placeholder

/-!
# Filling in part by part

Placeholders are replaced from left to right, each by itself. So a text can be cut where no
placeholder goes on: before a character that belongs to no name, unless a brace is still open there
that is closed further on.
-/

set_option autoImplicit false

namespace PageOverlay

namespace Text

variable {p : Char → Bool} {a b : List Char}

theorem takeWhile_append (h : ∀ c ∈ b.head?, p c = false) :
    (a ++ b).takeWhile p = a.takeWhile p ∧ (a ++ b).dropWhile p = a.dropWhile p ++ b := by
  induction a with
  | nil =>
    cases b with
    | nil => exact ⟨rfl, rfl⟩
    | cons c b => simp [h c rfl]
  | cons c a ih =>
    by_cases hc : p c
    · simp [hc, ih]
    · simp [hc]

theorem cutAtFirst?_of_not_mem {c : Char} (h : c ∉ a) : cutAtFirst? c a = none := by
  induction a with
  | nil => rfl
  | cons d a ih =>
    obtain ⟨hd, ha⟩ : c ≠ d ∧ c ∉ a := by simpa using h
    rw [cutAtFirst?, if_neg hd.symm, ih ha, Option.map_none]

theorem cutAtFirst?_of_first {c : Char} (h : c ∉ a) :
    cutAtFirst? c (a ++ c :: b) = some (a, b) := by
  induction a with
  | nil => rw [List.nil_append, cutAtFirst?, if_pos rfl]
  | cons d a ih =>
    obtain ⟨hd, ha⟩ : c ≠ d ∧ c ∉ a := by simpa using h
    rw [List.cons_append, cutAtFirst?, if_neg hd.symm, ih ha]
    rfl

theorem cutAtFirst?_append {c : Char} (h : c ∈ a ∨ c ∉ b) :
    cutAtFirst? c (a ++ b) = (cutAtFirst? c a).map fun r => (r.1, r.2 ++ b) := by
  induction a with
  | nil => exact cutAtFirst?_of_not_mem (h.resolve_left List.not_mem_nil)
  | cons d a ih =>
    rw [List.cons_append, cutAtFirst?, cutAtFirst?]
    by_cases hd : d = c
    · rw [if_pos hd, if_pos hd, Option.map_some]
    · have hrest : c ∈ a ∨ c ∉ b := h.imp_left fun hm => by simpa [Ne.symm hd] using hm
      rw [if_neg hd, if_neg hd, ih hrest, Option.map_map, Option.map_map]
      rfl

theorem cutAtFirst?_eq_some_iff {c : Char} {before after : List Char} :
    cutAtFirst? c a = some (before, after) ↔ c ∉ before ∧ before ++ c :: after = a := by
  refine ⟨fun h => ?_, fun ⟨hc, ha⟩ => ha ▸ cutAtFirst?_of_first hc⟩
  induction a generalizing before with
  | nil => cases h
  | cons d a ih =>
    rw [cutAtFirst?] at h
    split at h
    · next hd =>
      cases h
      exact ⟨List.not_mem_nil, by rw [hd, List.nil_append]⟩
    · next hd =>
      obtain ⟨r, hr, hparts⟩ := Option.map_eq_some_iff.mp h
      obtain ⟨rfl, rfl⟩ := Prod.mk.inj hparts
      obtain ⟨hc, rfl⟩ := ih hr
      exact ⟨by simpa [Ne.symm hd] using hc, rfl⟩

theorem suffix_cutAtFirst? {c : Char} {before after : List Char}
    (h : cutAtFirst? c a = some (before, after)) : after <:+ a := by
  obtain ⟨-, rfl⟩ := cutAtFirst?_eq_some_iff.mp h
  exact ⟨before ++ [c], by simp⟩

end Text

def IsClosed (cs : List Char) : Prop :=
  ∀ rest, '$' :: '\x7b' :: rest <:+ cs → '\x7d' ∈ rest

theorem IsClosed.of_suffix {a b : List Char} (h : IsClosed a) (hb : b <:+ a) : IsClosed b :=
  fun rest hrest => h rest (hrest.trans hb)

namespace Scopes

variable {s : Scopes} {scope : String} {a b cs text after : List Char}

theorem suffix_placeholder? (h : s.placeholder? scope cs = some (text, after)) : after <:+ cs := by
  cases cs with
  | nil => cases h
  | cons c rest =>
    refine List.IsSuffix.trans ?_ (List.suffix_cons c rest)
    rw [placeholder?] at h
    split at h
    · split at h
      · cases h
      · next name after' hcut =>
        have hafter := Text.suffix_cutAtFirst? hcut
        split at h <;> cases h <;> exact hafter
    · split at h
      · have hafter := List.dropWhile_suffix (l := rest) Text.isWord
        dsimp only at h
        split at h <;> cases h <;> exact hafter
      · cases h

theorem fillIn_congr {m n : Nat} (hm : cs.length ≤ m) (hn : cs.length ≤ n) :
    s.fillIn scope m cs = s.fillIn scope n cs := by
  induction m generalizing n cs with
  | zero =>
    obtain rfl := List.length_eq_zero_iff.mp (Nat.le_zero.mp hm)
    cases n <;> rfl
  | succ m ih =>
    cases cs with
    | nil => cases n <;> rfl
    | cons c cs =>
      obtain ⟨n, rfl⟩ := Nat.exists_eq_succ_of_ne_zero (Nat.ne_of_gt (Nat.lt_of_lt_of_le
        (Nat.zero_lt_succ cs.length) hn))
      have hm : cs.length ≤ m := Nat.le_of_succ_le_succ hm
      have hn : cs.length ≤ n := Nat.le_of_succ_le_succ hn
      rw [fillIn, fillIn, ih hm hn]
      split
      · split
        · next text after hp =>
          have hafter := (suffix_placeholder? hp).length_le
          rw [ih (Nat.le_trans hafter hm) (Nat.le_trans hafter hn)]
        · rfl
      · rfl

def fill (s : Scopes) (scope : String) (cs : List Char) : List Char :=
  s.fillIn scope cs.length cs

theorem substitute_ofList (s : Scopes) (scope : String) (cs : List Char) :
    s.substitute scope (String.ofList cs) = String.ofList (s.fill scope cs) := by
  rw [substitute, String.toList_ofList, fill]

theorem fill_cons {c : Char} (h : c ≠ '$') (cs : List Char) :
    s.fill scope (c :: cs) = c :: s.fill scope cs := by
  rw [fill, List.length_cons, fillIn, if_neg h, fill]

theorem fill_dollar (cs : List Char) :
    s.fill scope ('$' :: cs) =
      match s.placeholder? scope cs with
      | some (text, after) => text ++ s.fill scope after
      | none => '$' :: s.fill scope cs := by
  rw [fill, List.length_cons, fillIn, if_pos rfl]
  cases hp : s.placeholder? scope cs with
  | none => rfl
  | some r =>
    have hle := (suffix_placeholder? hp).length_le
    exact congrArg (r.1 ++ ·) (fillIn_congr hle (Nat.le_refl _))

theorem placeholder?_append (hb : ∀ c ∈ b.head?, Text.isWord c = false ∧ c ≠ '\x7b')
    (hab : IsClosed ('$' :: a) ∨ '\x7d' ∉ b) :
    s.placeholder? scope (a ++ b) =
      (s.placeholder? scope a).map fun r => (r.1, r.2 ++ b) := by
  cases a with
  | nil =>
    cases b with
    | nil => rfl
    | cons c b =>
      obtain ⟨hword, hbrace⟩ := hb c rfl
      have hstart : Text.isNameStart c = false := by
        cases h : Text.isNameStart c with
        | false => rfl
        | true => exact absurd (Text.isWord_of_isNameStart c h) (by simp [hword])
      simp [placeholder?, hbrace, hstart]
  | cons c a =>
    by_cases hbrace : c = '\x7b'
    · have hclose : '\x7d' ∈ a ∨ '\x7d' ∉ b :=
        hab.imp_left fun h => h a (hbrace ▸ List.suffix_rfl)
      simp only [List.cons_append, placeholder?, if_pos hbrace, Text.cutAtFirst?_append hclose]
      cases Text.cutAtFirst? '\x7d' a with
      | none => rfl
      | some r =>
        simp only [Option.map_some]
        cases s.lookup (String.ofList (Text.trim r.1)) scope <;> rfl
    · obtain ⟨htake, hdrop⟩ := Text.takeWhile_append (p := Text.isWord) (a := a)
        fun d hd => (hb d hd).1
      simp only [List.cons_append, placeholder?, if_neg hbrace, htake, hdrop]
      split
      · cases s.lookupPrefix (c :: a.takeWhile Text.isWord) scope <;> rfl
      · rfl

theorem fill_append (hb : ∀ c ∈ b.head?, Text.isWord c = false ∧ c ≠ '\x7b')
    (hab : IsClosed a ∨ '\x7d' ∉ b) :
    s.fill scope (a ++ b) = s.fill scope a ++ s.fill scope b := by
  induction hlen : a.length using Nat.strongRecOn generalizing a with
  | ind n ih =>
  cases a with
  | nil => rfl
  | cons c a =>
    have hrest : ∀ {r : List Char}, r <:+ a → s.fill scope (r ++ b) =
        s.fill scope r ++ s.fill scope b := fun {r} hr =>
      ih r.length (by
        have := hr.length_le
        simp only [List.length_cons] at hlen
        omega) (hab.imp_left fun h => h.of_suffix (hr.trans (List.suffix_cons c a))) rfl
    by_cases hc : c = '$'
    · subst hc
      rw [List.cons_append, fill_dollar, fill_dollar, placeholder?_append hb hab]
      cases hp : s.placeholder? scope a with
      | none => simp only [Option.map_none, hrest List.suffix_rfl, List.cons_append]
      | some r =>
        simp only [Option.map_some, hrest (suffix_placeholder? hp), List.append_assoc]
    · rw [List.cons_append, fill_cons hc, fill_cons hc, hrest List.suffix_rfl, List.cons_append]

theorem fill_of_no_dollar (ha : '$' ∉ a) (b : List Char) :
    s.fill scope (a ++ b) = a ++ s.fill scope b := by
  induction a with
  | nil => rfl
  | cons c a ih =>
    obtain ⟨hc, ha⟩ : '$' ≠ c ∧ '$' ∉ a := by simpa using ha
    rw [List.cons_append, fill_cons hc.symm, ih ha, List.cons_append]

theorem fill_callText {name : List Char} (hname : '$' ∉ name) (inside : List Char) :
    s.fill scope (Sheet.callText name inside) = Sheet.callText name (s.fill scope inside) := by
  have htext (cs : List Char) :
      Sheet.callText name cs = ('!' :: name ++ ['(']) ++ (cs ++ [')']) := by
    simp [Sheet.callText]
  have hhead : '$' ∉ '!' :: name ++ ['('] := by simpa using hname
  have hclose : s.fill scope [')'] = [')'] := rfl
  rw [htext, fill_of_no_dollar hhead, fill_append (by simp; decide) (.inr (by decide)), hclose,
    ← htext]

theorem fill_append_comma (ha : IsClosed a) (b : List Char) :
    s.fill scope (a ++ ',' :: ' ' :: b) = s.fill scope a ++ ',' :: ' ' :: s.fill scope b := by
  rw [fill_append (by simp; decide) (.inl ha), fill_cons (by decide), fill_cons (by decide)]

end Scopes
end PageOverlay
