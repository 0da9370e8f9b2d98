import PageOverlay.Command.Basic

/-!
# Invocations

A command is called by name, perhaps within a namespace, with parameters in parentheses:
`!name(a, b)` or `!space.name(a, b)`.
-/

set_option autoImplicit false

namespace PageOverlay

structure Call where
  space : Option (List Char)
  name : List Char
  inside : List Char
  deriving DecidableEq, Repr

namespace Call

def takeName? (cs : List Char) : Option (List Char × List Char) :=
  match cs with
  | [] => none
  | c :: rest =>
    if Text.isNameStart c then
      some (c :: rest.takeWhile Sheet.isNameTail, rest.dropWhile Sheet.isNameTail)
    else none

/-- The text between the parentheses that end a call; a call without any has none. It holds no
line feed. -/
def readInside? (cs : List Char) : Option (List Char) :=
  match Text.trimStart cs with
  | [] => some []
  | c :: rest =>
    if c = '(' then
      match Text.cutAtLast? ')' rest with
      | some (inside, after) =>
        if Text.allBlank after && !inside.contains '\n' then some inside else none
      | none => none
    else none

def read? (cs : List Char) : Option Call :=
  match takeName? (Text.trimStart cs) with
  | none => none
  | some (first, rest) =>
    match rest with
    | '.' :: more =>
      match takeName? more with
      | none => none
      | some (second, rest) =>
        (readInside? rest).map fun inside => { space := some first, name := second, inside }
    | _ => (readInside? rest).map fun inside => { space := none, name := first, inside }

theorem length_takeName? {cs name rest : List Char} (h : takeName? cs = some (name, rest)) :
    rest.length < cs.length := by
  match cs, h with
  | c :: cs, h =>
    simp only [takeName?] at h
    split at h
    · obtain ⟨-, rfl⟩ := Prod.mk.inj (Option.some.inj h)
      have := (List.dropWhile_sublist (l := cs) Sheet.isNameTail).length_le
      simp only [List.length_cons]; omega
    · exact absurd h (by simp)

end Call

theorem Text.length_cutAtLast? {c : Char} {cs before after : List Char}
    (h : Text.cutAtLast? c cs = some (before, after)) :
    before.length + after.length + 1 = cs.length := by
  induction cs generalizing before after with
  | nil => simp [Text.cutAtLast?] at h
  | cons d cs ih =>
    rw [Text.cutAtLast?] at h
    split at h
    · next b a hb =>
      obtain ⟨rfl, rfl⟩ := Prod.mk.inj (Option.some.inj h)
      have := ih hb
      simp only [List.length_cons]; omega
    · split at h
      · obtain ⟨rfl, rfl⟩ := Prod.mk.inj (Option.some.inj h)
        simp
      · exact absurd h (by simp)

namespace Call

theorem length_readInside? {cs inside : List Char} (h : readInside? cs = some inside) :
    inside.length ≤ cs.length := by
  have ht := Text.length_trimStart_le cs
  unfold readInside? at h
  split at h
  · simp [← Option.some.inj h]
  · next c rest hc =>
    rw [hc] at ht
    split at h
    · split at h
      · next a b hb =>
        split at h
        · have := Text.length_cutAtLast? hb
          have := Option.some.inj h
          subst this
          simp only [List.length_cons] at ht; omega
        · exact absurd h (by simp)
      · exact absurd h (by simp)
    · exact absurd h (by simp)

theorem length_inside {cs : List Char} {call : Call} (h : read? cs = some call) :
    call.inside.length < cs.length := by
  have ht := Text.length_trimStart_le cs
  unfold read? at h
  split at h
  · exact absurd h (by simp)
  · next first rest hn =>
    have hr := length_takeName? hn
    split at h
    · next more =>
      split at h
      · exact absurd h (by simp)
      · next second rest' hm =>
        obtain ⟨inside, hi, rfl⟩ := Option.map_eq_some_iff.mp h
        have := length_readInside? hi
        have := length_takeName? hm
        simp only [List.length_cons] at hr
        show inside.length < _
        omega
    · obtain ⟨inside, hi, rfl⟩ := Option.map_eq_some_iff.mp h
      have := length_readInside? hi
      show inside.length < _
      omega

end Call

namespace Sheet

def Part.length (p : Part) : Nat := p.kept.length + p.tail.length

theorem Part.length_finish (p : Part) : p.finish.length ≤ p.length := by
  have := Text.length_trimEnd_le p.tail
  simp only [Part.finish, Part.length, List.length_append]; omega

@[simp] theorem Part.length_push (p : Part) (c : Char) : (p.push c).length = p.length + 1 := by
  simp [Part.push, Part.length]; omega

@[simp] theorem Part.length_closeQuote (p : Part) : p.closeQuote.length = p.length := by
  simp [Part.closeQuote, Part.length]

theorem length_scanParameters {place : Place} {p : Part} {cs : List Char} {ps : List (List Char)}
    (h : scanParameters place p cs = .ok ps) :
    ps ≠ [] ∧ (Text.joinWith [','] ps).length ≤ p.length + cs.length := by
  fun_induction scanParameters place p cs generalizing ps
  case case1 p =>
    cases h
    exact ⟨by simp, by simpa [Text.joinWith] using p.length_finish⟩
  case case15 p cs _ _ _ ih =>
    cases hs : scanParameters .top {} cs with
    | error e => rw [hs] at h; cases h
    | ok qs =>
      rw [hs] at h
      cases h
      obtain ⟨hne, hle⟩ := ih hs
      have := p.length_finish
      refine ⟨by simp, ?_⟩
      rw [Text.joinWith_cons _ _ hne]
      simp only [Part.length, List.length_append, List.length_cons, List.length_nil] at *
      omega
  case case2 => cases h
  case case3 => cases h
  case case4 => cases h
  case case17 => cases h
  case case14 ih =>
    obtain ⟨hne, hle⟩ := ih h
    exact ⟨hne, Nat.le_trans hle (by simp [Part.length])⟩
  all_goals
    rename_i ih
    obtain ⟨hne, hle⟩ := ih h
    refine ⟨hne, Nat.le_trans hle ?_⟩
    simp only [Part.length_push, Part.length_closeQuote, List.length_cons, List.length_nil]
    omega

theorem length_splitParameters {cs : List Char} {ps : List (List Char)}
    (h : splitParameters cs = .ok ps) : (Text.joinWith [','] ps).length ≤ cs.length := by
  unfold splitParameters at h
  split at h
  · cases h; simp [Text.joinWith]
  · simpa [Part.length] using (length_scanParameters h).2

end Sheet

theorem Text.length_joinWith_drop (sep : List Char) (ps : List (List Char)) (k : Nat) :
    (Text.joinWith sep (ps.drop k)).length ≤ (Text.joinWith sep ps).length := by
  induction k generalizing ps with
  | zero => simp
  | succ k ih =>
    match ps with
    | [] => simp
    | [p] => simp [Text.joinWith]
    | p :: q :: rest =>
      have := ih (q :: rest)
      rw [List.drop_succ_cons, Text.joinWith_cons sep p (List.cons_ne_nil q rest)]
      simp only [List.length_append]
      omega

end PageOverlay
