import PageOverlay.Proofs.Sheet.Balance
import PageOverlay.Proofs.Sheet.LineBreaks
import PageOverlay.Proofs.Text.Trimming
import PageOverlay.Sheet.Assignment

/-!
# Expressions as keys

A line may begin with a regular expression between slashes, in which slashes are escaped and equals
signs are not. The line is cut behind the expression, except where the expression itself looks
finished before one of its equals signs: there it is cut at that sign already.
-/

set_option autoImplicit false

namespace PageOverlay

namespace Text

theorem exists_trimEnd_append (cs : List Char) :
    ∃ blanks, cs = trimEnd cs ++ blanks ∧ allBlank blanks = true := by
  induction cs with
  | nil => exact ⟨[], rfl, rfl⟩
  | cons c cs ih =>
    obtain ⟨blanks, hcs, hb⟩ := ih
    rw [trimEnd]
    split
    · next hnil =>
      rw [hnil, List.nil_append] at hcs
      split
      · next hc => exact ⟨c :: cs, rfl, by rw [hcs]; simpa [allBlank, hc] using hb⟩
      · exact ⟨cs, rfl, hcs ▸ hb⟩
    · next d ds hd =>
      rw [hd] at hcs
      exact ⟨blanks, by rw [List.cons_append, ← hcs], hb⟩

theorem cutAtLast?_eq_none_iff {c : Char} {cs : List Char} :
    cutAtLast? c cs = none ↔ c ∉ cs := by
  induction cs with
  | nil => simp [cutAtLast?]
  | cons d ds ih =>
    rw [cutAtLast?]
    cases hds : cutAtLast? c ds with
    | none => simp [ih.mp hds, eq_comm]
    | some parts =>
      have hc : c ∈ ds := by
        by_contra hc
        rw [ih.mpr hc] at hds
        cases hds
      simp [hc]

theorem cutAtLast?_eq_some_iff {c : Char} {cs before after : List Char} :
    cutAtLast? c cs = some (before, after) ↔ c ∉ after ∧ before ++ c :: after = cs := by
  constructor
  · intro h
    induction cs generalizing before with
    | nil => cases h
    | cons d ds ih =>
      rw [cutAtLast?] at h
      split at h
      · next hds =>
        cases h
        obtain ⟨hc, rfl⟩ := ih hds
        exact ⟨hc, rfl⟩
      · next hds =>
        split at h
        · next hd =>
          cases h
          exact ⟨cutAtLast?_eq_none_iff.mp hds, by rw [hd, List.nil_append]⟩
        · cases h
  · rintro ⟨hc, rfl⟩
    induction before with
    | nil =>
      rw [List.nil_append, cutAtLast?, cutAtLast?_eq_none_iff.mpr hc]
      exact if_pos rfl
    | cons d ds ih => rw [List.cons_append, cutAtLast?, ih]

end Text

namespace Sheet

/-- Every slash has a backslash before it that takes it along. -/
def escapesSlashes : List Char → Bool
  | '\\' :: _ :: cs => escapesSlashes cs
  | c :: cs => c != '/' && escapesSlashes cs
  | [] => true

/-- A body and flags that can be written between and behind slashes. -/
structure IsExpression (body flags : List Char) : Prop where
  nonempty : body ≠ []
  unbroken : IsUnbroken body
  escaped : escapesSlashes body = true
  paired : pairsBackslashes body = true
  flags : flags.all Pattern.isFlag = true

def expressionKey (body flags : List Char) : List Char := '!' :: '/' :: (body ++ '/' :: flags)

def expressionLine (body flags value : List Char) : List Char :=
  expressionKey body flags ++ ' ' :: '=' :: ' ' :: value

/-- The text ends as expressions do: with a slash, flags, and blanks after them, if any. -/
def LooksFinished (cs : List Char) : Prop :=
  ∃ body flags blanks, cs = body ++ '/' :: (flags ++ blanks) ∧ flags.all Pattern.isFlag = true ∧
    Text.allBlank blanks = true

def Tempts (body before after : List Char) : Prop :=
  body = before ++ '=' :: after ∧ LooksFinished before

def FirstTempts (body before after : List Char) : Prop :=
  Tempts body before after ∧
    ∀ before' after', Tempts body before' after' → before.length ≤ before'.length

theorem not_blank_of_isFlag {c : Char} (h : Pattern.isFlag c = true) : Text.isBlank c = false := by
  simp only [Pattern.isFlag, Bool.or_eq_true, beq_iff_eq] at h
  rcases h with (((rfl | rfl) | rfl) | rfl) | rfl <;> decide

theorem not_mem_flags {c : Char} {flags : List Char} (hc : Pattern.isFlag c = false)
    (h : flags.all Pattern.isFlag = true) : c ∉ flags := by
  intro hm
  rw [List.all_eq_true.mp h c hm] at hc
  cases hc

theorem trimEnd_flags {flags blanks : List Char} (h : flags.all Pattern.isFlag = true)
    (hb : Text.allBlank blanks = true) : Text.trimEnd (flags ++ blanks) = flags := by
  induction flags with
  | nil => exact Text.trimEnd_of_allBlank hb
  | cons c cs ih =>
    obtain ⟨hc, hcs⟩ := Bool.and_eq_true_iff.mp h
    rw [List.cons_append, Text.trimEnd_cons_of_not_blank (not_blank_of_isFlag hc), ih hcs]

theorem looksFinished_iff {cs : List Char} :
    LooksFinished cs ↔ ∃ body flags, Text.trimEnd cs = body ++ '/' :: flags ∧
      flags.all Pattern.isFlag = true := by
  constructor
  · rintro ⟨body, flags, blanks, rfl, hf, hb⟩
    exact ⟨body, flags, by rw [Text.trimEnd_append_cons (by decide), trimEnd_flags hf hb], hf⟩
  · rintro ⟨body, flags, htrim, hf⟩
    obtain ⟨blanks, hcs, hb⟩ := Text.exists_trimEnd_append cs
    exact ⟨body, flags, blanks, by rw [hcs, htrim]; simp, hf, hb⟩

theorem isSlashed_iff {cs : List Char} :
    Pattern.isSlashed ('/' :: cs) = true ↔ ∃ body flags, cs = body ++ '/' :: flags ∧ body ≠ [] ∧
      '\n' ∉ body ∧ flags.all Pattern.isFlag = true := by
  rw [Pattern.isSlashed, Pattern.slashed?]
  constructor
  · intro h
    cases hcut : Text.cutAtLast? '/' cs with
    | none => simp [hcut] at h
    | some parts =>
      refine ⟨parts.1, parts.2, (Text.cutAtLast?_eq_some_iff.mp hcut).2.symm, ?_⟩
      simpa [hcut, and_assoc] using h
  · rintro ⟨body, flags, rfl, hne, hbreak, hf⟩
    have hcut := Text.cutAtLast?_eq_some_iff.mpr
      ⟨not_mem_flags (c := '/') (by decide) hf, (rfl : body ++ _ = _)⟩
    simpa [hcut, hne, hbreak] using List.all_eq_true.mp hf

theorem head_ne_slash {body : List Char} (h : escapesSlashes body = true) :
    body.head? ≠ some '/' := by
  rintro he
  cases body with
  | nil => cases he
  | cons c cs =>
    rw [List.head?_cons, Option.some.injEq] at he
    subst he
    simp [escapesSlashes] at h

theorem trim_marked (cs : List Char) :
    Text.trim ('!' :: '/' :: cs) = '!' :: '/' :: Text.trimEnd cs := by
  rw [Text.trim, Text.trimStart_cons (by decide), Text.trimEnd_cons_of_not_blank (by decide),
    Text.trimEnd_cons_of_not_blank (by decide)]

theorem isExpressionKey_iff {cs : List Char} (hbreak : '\n' ∉ cs) (hslash : cs.head? ≠ some '/') :
    isExpressionKey (Text.trim ('!' :: '/' :: cs)) = true ↔ LooksFinished cs := by
  rw [trim_marked, isExpressionKey, isSlashed_iff, looksFinished_iff]
  refine exists_congr fun body => exists_congr fun flags => and_congr_right fun hcs => ?_
  obtain ⟨blanks, hall, -⟩ := Text.exists_trimEnd_append cs
  rw [hcs, List.append_assoc] at hall
  constructor
  · exact fun h => h.2.2
  · refine fun hf => ⟨?_, fun hm => hbreak ?_, hf⟩
    · rintro rfl
      exact hslash (by rw [hall]; rfl)
    · rw [hall]
      exact List.mem_append_left _ hm

theorem cutAfterExpression?_skip {before cs : List Char}
    (h : ∀ a b, cs = a ++ '=' :: b → isExpressionKey (Text.trim (before.reverse ++ a)) = false)
    (rest : List Char) :
    cutAfterExpression? before (cs ++ rest) = cutAfterExpression? (cs.reverse ++ before) rest := by
  induction cs generalizing before with
  | nil => rfl
  | cons c cs ih =>
    have hcut : ¬ (c = '=' ∧ isExpressionKey (Text.trim before.reverse) = true) := by
      rintro ⟨rfl, hkey⟩
      have hfirst := h [] cs rfl
      rw [List.append_nil, hkey] at hfirst
      cases hfirst
    have hnext : ∀ a b, cs = a ++ '=' :: b →
        isExpressionKey (Text.trim ((c :: before).reverse ++ a)) = false := by
      rintro a b rfl
      simpa using h (c :: a) b rfl
    rw [List.cons_append, cutAfterExpression?, if_neg hcut, ih hnext]
    simp

theorem cutAfterExpression?_here {before : List Char}
    (h : isExpressionKey (Text.trim before.reverse) = true) (cs : List Char) :
    cutAfterExpression? before ('=' :: cs) =
      some (Text.trim before.reverse, Text.trim cs) := by
  rw [cutAfterExpression?, if_pos ⟨rfl, h⟩]

theorem splitAssignment_at {cs : List Char} (value : List Char)
    (hkey : isExpressionKey (Text.trim ('!' :: '/' :: cs)) = true)
    (hfirst : ∀ a b, cs = a ++ '=' :: b →
      isExpressionKey (Text.trim ('!' :: '/' :: a)) = false) :
    splitAssignment ('!' :: '/' :: (cs ++ '=' :: value)) =
      (Text.trim ('!' :: '/' :: cs), some (Text.trim value)) := by
  have hskip : cutAfterExpression? [] ('!' :: '/' :: (cs ++ '=' :: value)) =
      cutAfterExpression? (cs.reverse ++ ['/', '!']) ('=' :: value) := by
    have hmarks : cutAfterExpression? [] ('!' :: '/' :: (cs ++ '=' :: value)) =
        cutAfterExpression? ['/', '!'] (cs ++ '=' :: value) := by
      simp [cutAfterExpression?]
    rw [hmarks]
    exact cutAfterExpression?_skip (by simpa using hfirst) _
  have hhere : cutAfterExpression? (cs.reverse ++ ['/', '!']) ('=' :: value) =
      some (Text.trim (cs.reverse ++ ['/', '!']).reverse, Text.trim value) :=
    cutAfterExpression?_here (by simpa using hkey) value
  rw [splitAssignment]
  simp only [hskip, hhere]
  simp

variable {body flags value before after : List Char}

theorem trim_expressionKey (h : flags.all Pattern.isFlag = true) (body : List Char) :
    Text.trim (expressionKey body flags ++ [' ']) = expressionKey body flags := by
  have hflags : Text.trimEnd (flags ++ [' ']) = flags := trimEnd_flags h (by decide)
  have hslash := Text.trimEnd_append_cons (c := '/') (by decide) body (flags ++ [' '])
  rw [hflags] at hslash
  rw [expressionKey, List.cons_append, List.cons_append, List.append_assoc, List.cons_append,
    trim_marked, hslash]

theorem exists_of_append_eq {c : Char} {rest a b : List Char} (hc : c ∉ rest)
    (h : body ++ rest = a ++ c :: b) : ∃ b', body = a ++ c :: b' := by
  rcases List.append_eq_append_iff.mp h with ⟨between, ha, hrest⟩ | ⟨between, hbody, hrest⟩
  · exact absurd (hrest ▸ by simp) hc
  · cases between with
    | nil => exact absurd (hrest ▸ List.mem_cons_self : c ∈ [] ++ rest) hc
    | cons d ds =>
      obtain ⟨rfl, -⟩ := List.cons.inj hrest
      exact ⟨ds, hbody⟩

theorem exists_firstTempts (h : Tempts body before after) :
    ∃ first rest, FirstTempts body first rest := by
  induction hn : before.length using Nat.strongRecOn generalizing before after with
  | ind n ih =>
    by_cases hearlier : ∃ before' after', Tempts body before' after' ∧ before'.length < n
    · obtain ⟨before', after', ht, hlt⟩ := hearlier
      exact ih _ hlt ht rfl
    · refine ⟨before, after, h, fun before' after' ht => ?_⟩
      by_contra hlt
      exact hearlier ⟨before', after', ht, by omega⟩

namespace IsExpression

variable (h : IsExpression body flags)

include h

theorem isExpressionKey_expressionKey :
    isExpressionKey (Text.trim (expressionKey body flags ++ [' '])) = true := by
  rw [trim_expressionKey h.flags, expressionKey, isExpressionKey, isSlashed_iff]
  exact ⟨body, flags, rfl, h.nonempty, fun hm => (h.unbroken _ hm).2 rfl, h.flags⟩

theorem isExpressionKey_before (hbody : body = before ++ '=' :: after) :
    isExpressionKey (Text.trim ('!' :: '/' :: before)) = true ↔ LooksFinished before := by
  refine isExpressionKey_iff (fun hm => (h.unbroken '\n' ?_).2 rfl) fun hslash => ?_
  · rw [hbody]
    exact List.mem_append_left _ hm
  · refine head_ne_slash h.escaped ?_
    rw [hbody, List.head?_append, hslash]
    rfl

theorem splitAssignment_of_first (hf : FirstTempts body before after) (value : List Char) :
    splitAssignment (expressionLine body flags value) =
      ('!' :: '/' :: Text.trimEnd before,
        some (Text.trim (after ++ '/' :: (flags ++ ' ' :: '=' :: ' ' :: value)))) := by
  obtain ⟨⟨hbody, hlooks⟩, hleast⟩ := hf
  have hline : expressionLine body flags value = '!' :: '/' ::
      (before ++ '=' :: (after ++ '/' :: (flags ++ ' ' :: '=' :: ' ' :: value))) := by
    simp [expressionLine, expressionKey, hbody]
  rw [hline, splitAssignment_at _ ((h.isExpressionKey_before hbody).mpr hlooks), trim_marked]
  intro a b hab
  have hsplit : body = a ++ '=' :: (b ++ '=' :: after) := by simp [hbody, hab]
  by_contra hkey
  have hearlier := hleast a _ ⟨hsplit, (h.isExpressionKey_before hsplit).mp (by simpa using hkey)⟩
  rw [hab, List.length_append, List.length_cons] at hearlier
  omega

theorem splitAssignment_of_none (hn : ∀ before after, ¬ Tempts body before after)
    (hvalue : Text.trim value = value) :
    splitAssignment (expressionLine body flags value) = (expressionKey body flags, some value) := by
  have hline : expressionLine body flags value =
      '!' :: '/' :: ((body ++ '/' :: (flags ++ [' '])) ++ '=' :: ' ' :: value) := by
    simp [expressionLine, expressionKey]
  have hkey : expressionKey body flags ++ [' '] =
      '!' :: '/' :: (body ++ '/' :: (flags ++ [' '])) := by
    simp [expressionKey]
  rw [hline, splitAssignment_at _ (hkey ▸ h.isExpressionKey_expressionKey), ← hkey,
    trim_expressionKey h.flags, Text.trim_cons_blank (by decide), hvalue]
  intro a b hab
  have hnone : '=' ∉ '/' :: (flags ++ [' ']) := by
    simpa using not_mem_flags (c := '=') (by decide) h.flags
  obtain ⟨b', hbody⟩ := exists_of_append_eq hnone hab
  by_contra hfinished
  exact hn a b' ⟨hbody, (h.isExpressionKey_before hbody).mp (by simpa using hfinished)⟩

end IsExpression

/-- An expression that is a line's key is found again, with the value behind it, just if it does not
look finished before any of its own equals signs. Otherwise the first such sign cuts the line. -/
theorem splitAssignment_expression (h : IsExpression body flags)
    (hvalue : Text.trim value = value) :
    (splitAssignment (expressionLine body flags value) = (expressionKey body flags, some value) ↔
        ∀ before after, ¬ Tempts body before after) ∧
      ∀ before after, FirstTempts body before after →
        splitAssignment (expressionLine body flags value) =
          ('!' :: '/' :: Text.trimEnd before,
            some (Text.trim (after ++ '/' :: (flags ++ ' ' :: '=' :: ' ' :: value)))) := by
  refine ⟨⟨fun hsplit before after ht => ?_, fun hn => h.splitAssignment_of_none hn hvalue⟩,
    fun before after hf => h.splitAssignment_of_first hf value⟩
  -- the key of a line that is cut at the first such sign is shorter than the expression
  obtain ⟨first, rest, hf⟩ := exists_firstTempts ht
  rw [h.splitAssignment_of_first hf] at hsplit
  have hlength := congrArg List.length (congrArg Prod.fst hsplit)
  have hshort := Text.length_trimEnd_le first
  have hbody := congrArg List.length hf.1.1
  simp only [expressionKey, List.length_cons, List.length_append] at hlength hbody
  omega

def slashBody : List Char := ['a', '\\', '/', '=', 'b']

theorem isExpression_slashBody : IsExpression slashBody ['g', 'i'] where
  nonempty := by decide
  unbroken := by simp [slashBody, IsUnbroken]
  escaped := by decide
  paired := by decide
  flags := by decide

theorem firstTempts_slashBody : FirstTempts slashBody ['a', '\\', '/'] ['b'] := by
  refine ⟨⟨rfl, ['a', '\\'], [], [], rfl, rfl, rfl⟩, fun before after ht => ?_⟩
  obtain ⟨hbody, -⟩ := ht
  -- no equals sign stands earlier
  rcases before with _ | ⟨c, _ | ⟨d, _ | ⟨e, before⟩⟩⟩ <;> simp [slashBody] at hbody ⊢

theorem splitAssignment_expression_cut :
    IsExpression slashBody ['g', 'i'] ∧ Text.trim ['x', '=', 'y'] = ['x', '=', 'y'] ∧
      splitAssignment (expressionLine slashBody ['g', 'i'] ['x', '=', 'y']) =
        ("!/a\\/".toList, some "b/gi = x=y".toList) ∧
      splitAssignment (expressionLine slashBody ['g', 'i'] ['x', '=', 'y']) ≠
        (expressionKey slashBody ['g', 'i'], some ['x', '=', 'y']) := by
  have hvalue : Text.trim ['x', '=', 'y'] = ['x', '=', 'y'] := by decide
  obtain ⟨hfound, hcut⟩ := splitAssignment_expression isExpression_slashBody hvalue
  refine ⟨isExpression_slashBody, hvalue, hcut _ _ firstTempts_slashBody, fun hsplit => ?_⟩
  exact hfound.mp hsplit _ _ firstTempts_slashBody.1

/-- So not every expression that is a line's key is found again. -/
theorem exists_expression_cut :
    ¬ ∀ body flags value : List Char, IsExpression body flags → Text.trim value = value →
      splitAssignment (expressionLine body flags value) =
        (expressionKey body flags, some value) := by
  intro h
  have hsplit := h slashBody ['g', 'i'] ['c'] isExpression_slashBody (by decide)
  exact absurd hsplit (by decide)

example : splitAssignment "!/a=g=b\\/c=d/gi = x=y".toList =
    ("!/a=g=b\\/c=d/gi".toList, some "x=y".toList) := by decide

end Sheet
end PageOverlay
