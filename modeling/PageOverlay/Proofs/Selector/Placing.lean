import PageOverlay.Proofs.Selector.Reading
import PageOverlay.Proofs.Selector.RoundTrip

/-!
# Where the combinators of an alternative stand

An alternative is laid out as compounds and `>` signs with blanks between them. It is read if and
only if it has such a layout and a compound is the first sign of it. A `>` that another one or the
end follows is accepted too, and it is read as if it were not there: only the `>` at the beginning
is refused.
-/

set_option autoImplicit false

namespace PageOverlay

inductive Sign
  | compound (c : Compound)
  | child
  deriving DecidableEq, Repr

def Combinator.signs : Combinator → List Sign
  | .descendant => []
  | .child => [.child]

def Chain.signs : Chain → List Sign
  | .one c => [.compound c]
  | .step before op c => before.signs ++ (op.signs ++ [.compound c])

namespace Sign

/-- Each `>` has a compound right before it and one right after it. -/
def Placed (signs : List Sign) : Prop :=
  ∀ before after, signs = before ++ .child :: after →
    (∃ c, before.getLast? = some (.compound c)) ∧ ∃ c, after.head? = some (.compound c)

/-- The signs without each `>` that no compound follows. -/
def tidy : List Sign → List Sign
  | [] => []
  | .compound c :: signs => .compound c :: tidy signs
  | .child :: signs =>
    match signs with
    | .compound _ :: _ => .child :: tidy signs
    | _ => tidy signs

variable {signs before after : List Sign}

theorem placed_of_followed (hfirst : signs.head? ≠ some .child)
    (h : ∀ before after, signs = before ++ .child :: after →
      ∃ c, after.head? = some (.compound c)) : Placed signs := by
  intro before after hsigns
  refine ⟨?_, h before after hsigns⟩
  rcases before.eq_nil_or_concat' with rfl | ⟨before, sign, rfl⟩
  · exact absurd (by rw [hsigns]; rfl) hfirst
  cases sign with
  | compound c => exact ⟨c, by simp⟩
  | child =>
    -- the `>` before it is not followed by a compound
    obtain ⟨c, hc⟩ := h before (.child :: after) (by rw [hsigns]; simp)
    cases hc

theorem placed_iff : Placed signs ↔ signs.head? ≠ some .child ∧
    signs.getLast? ≠ some .child ∧ ¬ [.child, .child] <:+: signs := by
  constructor
  · intro h
    refine ⟨fun hfirst => ?_, fun hlast => ?_, fun hdouble => ?_⟩
    · obtain ⟨after, rfl⟩ := List.head?_eq_some_iff.mp hfirst
      obtain ⟨⟨c, hc⟩, -⟩ := h [] after rfl
      cases hc
    · obtain ⟨before, rfl⟩ := List.getLast?_eq_some_iff.mp hlast
      obtain ⟨-, c, hc⟩ := h before [] rfl
      cases hc
    · obtain ⟨before, after, rfl⟩ := hdouble
      obtain ⟨-, c, hc⟩ := h before (.child :: after) (by simp)
      cases hc
  · rintro ⟨hfirst, hlast, hdouble⟩
    refine placed_of_followed hfirst fun before after hsigns => ?_
    cases after with
    | nil => exact absurd (by simp [hsigns]) hlast
    | cons sign after =>
      cases sign with
      | compound c => exact ⟨c, rfl⟩
      | child => exact absurd ⟨before, after, by simp [hsigns]⟩ hdouble

theorem followed_of_tidy (h : tidy signs = before ++ .child :: after) :
    ∃ c, after.head? = some (.compound c) := by
  induction signs generalizing before with
  | nil => simp [tidy] at h
  | cons sign signs ih =>
    cases sign with
    | compound c =>
      cases before with
      | nil => cases h
      | cons first before => exact ih (List.cons.inj h).2
    | child =>
      cases signs with
      | nil => simp [tidy] at h
      | cons next signs =>
        cases next with
        | compound c =>
          cases before with
          | nil =>
            obtain ⟨-, rfl⟩ := List.cons.inj h
            exact ⟨c, rfl⟩
          | cons first before => exact ih (List.cons.inj h).2
        | child => exact ih h

theorem tidy_of_placed (h : Placed signs) : tidy signs = signs := by
  have hfollowed := fun before after hsigns => (h before after hsigns).2
  clear h
  induction signs with
  | nil => rfl
  | cons sign signs ih =>
    have hrest := ih fun before after hsigns =>
      hfollowed (sign :: before) after (by rw [hsigns, List.cons_append])
    cases sign with
    | compound c => rw [tidy, hrest]
    | child =>
      obtain ⟨c, hc⟩ := hfollowed [] signs rfl
      obtain ⟨rest, rfl⟩ := List.head?_eq_some_iff.mp hc
      rw [tidy, hrest]

theorem placed_tidy (hfirst : ∃ c, signs.head? = some (.compound c)) : Placed (tidy signs) := by
  obtain ⟨c, hc⟩ := hfirst
  obtain ⟨rest, rfl⟩ := List.head?_eq_some_iff.mp hc
  exact placed_of_followed (by simp [tidy]) fun before after => followed_of_tidy

end Sign

open Sign (tidy Placed)

namespace Chain

theorem exists_signs_concat (chain : Chain) :
    ∃ before c, chain.signs = before ++ [.compound c] := by
  cases chain with
  | one c => exact ⟨[], c, rfl⟩
  | step before op c => exact ⟨before.signs ++ op.signs, c, by simp [signs]⟩

theorem tidy_signs_append (chain : Chain) (after : List Sign) :
    tidy (chain.signs ++ after) = chain.signs ++ tidy after := by
  induction chain generalizing after with
  | one c => rfl
  | step before op c ih =>
    have hop (after : List Sign) : tidy (op.signs ++ .compound c :: after) =
        op.signs ++ .compound c :: tidy after := by cases op <;> rfl
    simp only [signs, List.append_assoc, List.singleton_append, ih, hop]

theorem signs_ne_concat_child (chain : Chain) (before : List Sign) :
    chain.signs ≠ before ++ [.child] := by
  intro h
  obtain ⟨init, c, hinit⟩ := chain.exists_signs_concat
  rw [hinit] at h
  cases (List.append_inj' h rfl).2

theorem signs_one_ne_step (c : Compound) (before : Chain) (op : Combinator) (d : Compound) :
    (Chain.one c).signs ≠ (Chain.step before op d).signs := by
  intro h
  obtain ⟨init, e, hinit⟩ := before.exists_signs_concat
  have hlength := congrArg List.length h
  simp only [signs, hinit, List.length_append, List.length_singleton] at hlength
  omega

theorem signs_injective : Function.Injective signs := by
  intro chain other h
  induction chain generalizing other with
  | one c =>
    cases other with
    | one d => simpa [signs] using h
    | step before op d => exact absurd h (signs_one_ne_step c before op d)
  | step before op c ih =>
    cases other with
    | one d => exact absurd h.symm (signs_one_ne_step d before op c)
    | step before' op' d =>
      rw [signs, signs, ← List.append_assoc, ← List.append_assoc] at h
      obtain ⟨hbefore, hc⟩ := List.append_inj' h rfl
      obtain rfl : c = d := by simpa using hc
      cases op <;> cases op' <;> simp only [Combinator.signs, List.append_nil] at hbefore
      · rw [ih hbefore]
      · exact absurd hbefore (before.signs_ne_concat_child _)
      · exact absurd hbefore.symm (before'.signs_ne_concat_child _)
      · rw [ih (List.append_inj' hbefore rfl).1]

end Chain

namespace Selector

variable {cs : List Char} {signs other : List Sign}

/-- The text is made of these signs, one after the other, with blanks between them or none. -/
inductive Laid : List Char → List Sign → Prop
  | blanks {cs : List Char} (h : Text.allBlank cs = true) : Laid cs []
  | child {blanks cs : List Char} {signs : List Sign} (hblanks : Text.allBlank blanks = true)
      (h : Laid cs signs) : Laid (blanks ++ '>' :: cs) (.child :: signs)
  | compound {blanks text cs : List Char} {c : Compound} {signs : List Sign}
      (hblanks : Text.allBlank blanks = true) (hread : Reads c text cs) (h : Laid cs signs) :
      Laid (blanks ++ (text ++ cs)) (.compound c :: signs)

theorem trimStart_child (cs : List Char) : Text.trimStart ('>' :: cs) = '>' :: cs :=
  Text.trimStart_cons (by decide) cs

theorem Reads.trimStart {c : Compound} {text rest : List Char} (h : Reads c text rest) :
    Text.trimStart (text ++ rest) = text ++ rest := by
  obtain ⟨a, as, rfl, hblank, -⟩ := h.starts
  exact Text.trimStart_cons hblank _

theorem trimStart_of_allBlank (h : Text.allBlank cs = true) : Text.trimStart cs = [] :=
  List.dropWhile_eq_nil_iff.mpr fun c hc => List.all_eq_true.mp h c hc

theorem Laid.first (h : Laid cs signs) :
    (Text.trimStart cs = [] ∧ signs = []) ∨
      (∃ rest others, Text.trimStart cs = '>' :: rest ∧ signs = .child :: others ∧
        Laid rest others) ∨
      ∃ c text rest others, Text.trimStart cs = text ++ rest ∧ Reads c text rest ∧
        signs = .compound c :: others ∧ Laid rest others := by
  cases h with
  | blanks h => exact .inl ⟨trimStart_of_allBlank h, rfl⟩
  | child hblanks h =>
    rw [Text.trimStart_append hblanks, trimStart_child]
    exact .inr (.inl ⟨_, _, rfl, rfl, h⟩)
  | compound hblanks hread h =>
    rw [Text.trimStart_append hblanks, hread.trimStart]
    exact .inr (.inr ⟨_, _, _, _, rfl, hread, rfl, h⟩)

theorem Laid.unique (h : Laid cs signs) (g : Laid cs other) : signs = other := by
  induction h generalizing other with
  | blanks h =>
    rcases g.first with ⟨-, rfl⟩ | ⟨rest, others, hfirst, -⟩ |
      ⟨c, text, rest, others, hfirst, hr, -⟩
    · rfl
    · rw [trimStart_of_allBlank h] at hfirst
      cases hfirst
    · obtain ⟨a, as, rfl, -⟩ := hr.starts
      rw [trimStart_of_allBlank h] at hfirst
      cases hfirst
  | child hblanks h ih =>
    rcases g.first with ⟨hfirst, -⟩ | ⟨rest, others, hfirst, rfl, hothers⟩ |
        ⟨c, text, rest, others, hfirst, hr, -⟩ <;>
      rw [Text.trimStart_append hblanks, trimStart_child] at hfirst
    · cases hfirst
    · obtain ⟨-, rfl⟩ := List.cons.inj hfirst
      rw [ih hothers]
    · obtain ⟨a, as, rfl, -, hchild⟩ := hr.starts
      exact absurd (List.cons.inj hfirst).1.symm hchild
  | compound hblanks hread h ih =>
    rcases g.first with ⟨hfirst, -⟩ | ⟨rest, others, hfirst, -⟩ |
        ⟨c, text, rest, others, hfirst, hr, rfl, hothers⟩ <;>
      rw [Text.trimStart_append hblanks, hread.trimStart] at hfirst
    · obtain ⟨a, as, rfl, -⟩ := hread.starts
      cases hfirst
    · obtain ⟨a, as, rfl, -, hchild⟩ := hread.starts
      exact absurd (List.cons.inj hfirst).1 hchild
    · have hsame := hread.read
      rw [hfirst, hr.read] at hsame
      obtain ⟨rfl, rfl⟩ := Prod.mk.inj (Except.ok.inj hsame)
      rw [ih hothers]

theorem Laid.length_le (h : Laid cs signs) : signs.length ≤ cs.length := by
  induction h with
  | blanks h => exact Nat.zero_le _
  | child hblanks h ih =>
    simp only [List.length_cons, List.length_append]
    omega
  | compound hblanks hread h ih =>
    obtain ⟨a, as, rfl, -⟩ := hread.starts
    simp only [List.length_cons, List.length_append]
    omega

def join : Option Chain → Combinator → List Sign → Except SelectorFault (Option Chain)
  | read, _, [] => .ok read
  | none, _, .child :: _ => .error .leadingChild
  | some before, _, .child :: signs => join (some before) .child signs
  | none, _, .compound c :: signs => join (some (.one c)) .descendant signs
  | some before, op, .compound c :: signs => join (some (.step before op c)) .descendant signs

theorem chain_of_laid (h : Laid cs signs) {fuel : Nat} (hfuel : signs.length < fuel)
    (read : Option Chain) (op : Combinator) : chain fuel read op cs = join read op signs := by
  induction h generalizing fuel read op with
  | blanks h =>
    obtain ⟨fuel, rfl⟩ := Nat.exists_eq_succ_of_ne_zero (Nat.ne_of_gt hfuel)
    rw [chain, trimStart_of_allBlank h]
    rw [join]
  | child hblanks h ih =>
    obtain ⟨fuel, rfl⟩ := Nat.exists_eq_succ_of_ne_zero (Nat.ne_zero_of_lt hfuel)
    have hrest : _ < fuel := Nat.lt_of_succ_lt_succ hfuel
    simp only [chain, Text.trimStart_append hblanks, trimStart_child, if_true]
    cases read with
    | none => rfl
    | some before => exact ih hrest (some before) .child
  | compound hblanks hread h ih =>
    obtain ⟨fuel, rfl⟩ := Nat.exists_eq_succ_of_ne_zero (Nat.ne_zero_of_lt hfuel)
    have hrest : _ < fuel := Nat.lt_of_succ_lt_succ hfuel
    have htext := hread.read
    have htrim := hread.trimStart
    obtain ⟨a, as, rfl, -, hchild⟩ := hread.starts
    rw [List.cons_append] at htext htrim ⊢
    simp only [chain, Text.trimStart_append hblanks, htrim, if_neg hchild, htext]
    cases read with
    | none => exact ih hrest _ _
    | some before => exact ih hrest _ _

theorem exists_laid_of_chain {fuel : Nat} {read : Option Chain} {op : Combinator}
    {result : Option Chain} (h : chain fuel read op cs = .ok result) (hfuel : cs.length < fuel) :
    ∃ signs, Laid cs signs := by
  induction fuel generalizing read op cs with
  | zero => cases hfuel
  | succ fuel ih =>
    obtain ⟨blanks, hblanks, hcs⟩ := Text.exists_blanks cs
    rw [chain] at h
    split at h
    · next htrim =>
      rw [htrim, List.append_nil] at hcs
      exact ⟨[], .blanks (hcs ▸ hblanks)⟩
    · next a rest htrim =>
      rw [htrim] at hcs
      have hlength := congrArg List.length hcs
      simp only [List.length_append, List.length_cons] at hlength
      split at h
      · next hchild =>
        split at h
        · cases h
        · obtain ⟨signs, hlaid⟩ := ih h (by omega)
          rw [hcs, hchild]
          exact ⟨_, .child hblanks hlaid⟩
      · next hchild =>
        have hblank : Text.isBlank a = false := by
          have hdrop : cs.dropWhile Text.isBlank = a :: rest := htrim
          simpa [hdrop] using List.head?_dropWhile_not Text.isBlank cs
        cases hread : compound (a :: rest) with
        | error e => rw [hread] at h; cases h
        | ok next =>
          obtain ⟨c, after⟩ := next
          rw [hread] at h
          obtain ⟨text, htext, hreads⟩ := reads_of_compound hread hblank hchild
          have hshort := congrArg List.length htext
          obtain ⟨b, bs, rfl, -⟩ := hreads.starts
          simp only [List.length_append, List.length_cons] at hshort
          obtain ⟨signs, hlaid⟩ := ih h (by omega)
          rw [hcs, htext]
          exact ⟨_, .compound hblanks hreads hlaid⟩

theorem join_some (before : Chain) (op : Combinator) (signs : List Sign) :
    ∃ read, join (some before) op signs = .ok (some read) ∧
      read.signs = tidy (before.signs ++ (op.signs ++ signs)) := by
  induction signs generalizing before op with
  | nil =>
    refine ⟨before, rfl, ?_⟩
    rw [before.tidy_signs_append]
    cases op <;> simp [Combinator.signs, tidy]
  | cons sign signs ih =>
    cases sign with
    | child =>
      obtain ⟨read, hread, hsigns⟩ := ih before .child
      refine ⟨read, hread, hsigns.trans ?_⟩
      rw [before.tidy_signs_append, before.tidy_signs_append]
      cases op <;> rfl
    | compound c =>
      obtain ⟨read, hread, hsigns⟩ := ih (.step before op c) .descendant
      refine ⟨read, hread, hsigns.trans ?_⟩
      simp [Chain.signs, Combinator.signs]

def LaidFromCompound (cs : List Char) (signs : List Sign) : Prop :=
  Laid cs signs ∧ ∃ c, signs.head? = some (.compound c)

theorem alternative_ok_iff {read : Chain} : alternative cs = .ok read ↔
    ∃ signs, LaidFromCompound cs signs ∧ tidy signs = read.signs := by
  have hjoin {signs : List Sign} (hlaid : Laid cs signs) :
      chain (cs.length + 1) none .descendant cs = join none .descendant signs :=
    chain_of_laid hlaid (Nat.lt_succ_of_le hlaid.length_le) none .descendant
  constructor
  · intro h
    rw [alternative] at h
    split at h
    · next found hchain =>
      obtain rfl := Except.ok.inj h
      obtain ⟨signs, hlaid⟩ := exists_laid_of_chain hchain (Nat.lt_succ_self _)
      rw [hjoin hlaid] at hchain
      cases signs with
      | nil => cases hchain
      | cons sign signs =>
        cases sign with
        | child => cases hchain
        | compound c =>
          obtain ⟨found, hfound, hsigns⟩ := join_some (.one c) .descendant signs
          rw [join, hfound] at hchain
          obtain rfl := Option.some.inj (Except.ok.inj hchain)
          exact ⟨_, ⟨hlaid, c, rfl⟩, hsigns.symm⟩
    · cases h
    · cases h
  · rintro ⟨signs, ⟨hlaid, c, hc⟩, hsigns⟩
    obtain ⟨rest, rfl⟩ := List.head?_eq_some_iff.mp hc
    obtain ⟨found, hfound, hfoundSigns⟩ := join_some (.one c) .descendant rest
    obtain rfl : read = found := Chain.signs_injective (hsigns.symm.trans hfoundSigns.symm)
    rw [alternative, hjoin hlaid, join, hfound]

theorem exists_alternative_iff :
    (∃ read, alternative cs = .ok read) ↔ ∃ signs, LaidFromCompound cs signs := by
  simp only [alternative_ok_iff]
  refine ⟨fun ⟨read, signs, h, _⟩ => ⟨signs, h⟩, fun ⟨signs, h⟩ => ?_⟩
  obtain ⟨hlaid, c, hc⟩ := h
  obtain ⟨rest, rfl⟩ := List.head?_eq_some_iff.mp hc
  obtain ⟨found, -, hfound⟩ := join_some (.one c) .descendant rest
  exact ⟨found, _, ⟨hlaid, c, rfl⟩, hfound.symm⟩

theorem alternative_child (cs : List Char) : alternative ('>' :: cs) = .error .leadingChild := by
  rw [alternative, chain, trimStart_child]
  rfl

variable {texts : List (List Char)}

theorem alternatives_ok_iff {chains : List Chain} : alternatives texts = .ok chains ↔
    List.Forall₂ (fun read text => alternative (Text.trim text) = .ok read) chains texts := by
  refine ⟨fun h => ?_, alternatives_of_forall₂⟩
  induction texts generalizing chains with
  | nil =>
    obtain rfl := Except.ok.inj h
    exact .nil
  | cons text texts ih =>
    rw [alternatives] at h
    cases hfirst : alternative (Text.trim text) with
    | error e => rw [hfirst] at h; cases h
    | ok first =>
      rw [hfirst] at h
      cases hothers : alternatives texts with
      | error e => rw [hothers] at h; cases h
      | ok others =>
        rw [hothers] at h
        obtain rfl := Except.ok.inj h
        exact .cons hfirst (ih hothers)

theorem alternatives_child {before after : List (List Char)} {piece : List Char}
    (hbefore : ∀ p ∈ before, ∃ read, alternative (Text.trim p) = .ok read)
    (hpiece : (Text.trim piece).head? = some '>') :
    alternatives (before ++ piece :: after) = .error .leadingChild := by
  induction before with
  | nil =>
    obtain ⟨cs, hcs⟩ := List.head?_eq_some_iff.mp hpiece
    rw [List.nil_append, alternatives, hcs, alternative_child]
    rfl
  | cons p before ih =>
    obtain ⟨⟨read, hread⟩, hrest⟩ := List.forall_mem_cons.mp hbefore
    rw [List.cons_append, alternatives, hread, ih hrest]
    rfl

def pieces (source : String) : List (List Char) :=
  (splitAlternatives 0 none (Text.trim source.toList)).map Text.trim

theorem parse_ok_iff {source : String} {s : Selector} : parse source = .ok s ↔
    Text.trim source.toList ≠ [] ∧ ∃ chains, s = .css chains ∧
      List.Forall₂ (fun read piece => alternative piece = .ok read) chains (pieces source) := by
  simp only [pieces, List.forall₂_map_right_iff, ← alternatives_ok_iff, parse]
  cases hcs : Text.trim source.toList with
  | nil => simp
  | cons c cs =>
    cases hread : alternatives (splitAlternatives 0 none (c :: cs)) with
    | error e => simp
    | ok chains => simp [eq_comm]

theorem parse_leading {source : String} {before after : List (List Char)} {piece : List Char}
    (hpieces : pieces source = before ++ piece :: after)
    (hbefore : ∀ p ∈ before, ∃ signs, LaidFromCompound p signs) (hpiece : piece.head? = some '>') :
    parse source =
      .error { source := String.ofList (Text.trim source.toList), fault := .leadingChild } := by
  obtain ⟨texts, others, hsplit, rfl, hothers⟩ := List.map_eq_append_iff.mp hpieces
  obtain ⟨text, rest, rfl, rfl, rfl⟩ := List.map_eq_cons_iff.mp hothers
  have hreadable : ∀ p ∈ texts, ∃ read, alternative (Text.trim p) = .ok read :=
    fun p hp => exists_alternative_iff.mpr (hbefore _ (List.mem_map_of_mem hp))
  have hne : (Text.trim source.toList).isEmpty = false := by
    cases hcs : Text.trim source.toList with
    | cons c cs => rfl
    | nil =>
      -- the only alternative of an empty source is empty
      rw [hcs] at hsplit
      have hempty : text ∈ [[]] := by
        change text ∈ splitAlternatives 0 none []
        rw [hsplit]
        simp
      obtain rfl := List.mem_singleton.mp hempty
      cases hpiece
  simp only [parse, hne, Bool.false_eq_true, if_false, hsplit,
    alternatives_child hreadable hpiece]

/-- A source is read if and only if there is something in it and each of its alternatives begins
with a compound. The layout of an alternative is the only one, and the chain is read from what is
left of it after tidying. So the `>` of an alternative are all placed if and only if no `>` ends it
and no two follow each other, which the reading does not ask for; a `>` at the beginning is an
error. -/
theorem parse_iff_laid (source : String) :
    (∀ s, parse source = .ok s ↔ Text.trim source.toList ≠ [] ∧ ∃ chains, s = .css chains ∧
      List.Forall₂ (fun read piece => ∃ signs, LaidFromCompound piece signs ∧
        tidy signs = read.signs) chains (pieces source)) ∧
    ((∃ s, parse source = .ok s) ↔ Text.trim source.toList ≠ [] ∧
      ∀ piece ∈ pieces source, ∃ signs, LaidFromCompound piece signs) ∧
    (∀ piece ∈ pieces source, ∀ signs, LaidFromCompound piece signs →
      (∀ other, Laid piece other → other = signs) ∧
      (Placed signs ↔ signs.getLast? ≠ some .child ∧ ¬ [.child, .child] <:+: signs) ∧
      (Placed signs ↔ tidy signs = signs) ∧ Placed (tidy signs)) ∧
    ∀ before piece after, pieces source = before ++ piece :: after →
      (∀ p ∈ before, ∃ signs, LaidFromCompound p signs) → piece.head? = some '>' →
      parse source =
        .error { source := String.ofList (Text.trim source.toList), fault := .leadingChild } := by
  have hread (s : Selector) : parse source = .ok s ↔ Text.trim source.toList ≠ [] ∧
      ∃ chains, s = .css chains ∧ List.Forall₂ (fun read piece => ∃ signs,
        LaidFromCompound piece signs ∧ tidy signs = read.signs) chains (pieces source) := by
    simp only [parse_ok_iff, alternative_ok_iff]
  refine ⟨hread, ?_, ?_, ?_⟩
  · constructor
    · rintro ⟨s, hs⟩
      obtain ⟨hne, chains, -, hchains⟩ := (hread s).mp hs
      exact ⟨hne, forall_mem_right hchains fun read _ piece ⟨signs, h, _⟩ => ⟨signs, h⟩⟩
    · rintro ⟨hne, hall⟩
      obtain ⟨chains, hchains⟩ := exists_forall₂ fun piece hpiece =>
        exists_alternative_iff.mpr (hall piece hpiece)
      exact ⟨_, parse_ok_iff.mpr ⟨hne, chains, rfl, List.Forall₂.flip hchains⟩⟩
  · rintro piece - signs ⟨hlaid, hfirst⟩
    have hchild : signs.head? ≠ some .child := by
      obtain ⟨c, hc⟩ := hfirst
      simp [hc]
    refine ⟨fun other hother => hother.unique hlaid, ?_, ?_, Sign.placed_tidy hfirst⟩
    · rw [Sign.placed_iff, and_iff_right hchild]
    · exact ⟨Sign.tidy_of_placed, fun h => h ▸ Sign.placed_tidy hfirst⟩
  · exact fun before piece after hpieces hbefore hpiece =>
      parse_leading hpieces hbefore hpiece

theorem parse_iff_laid_leading :
    parse "ul > li, > a" = .error { source := "ul > li, > a", fault := .leadingChild } ∧
      Placed [.compound { tag := some "UL" }, .child, .compound { tag := some "LI" }] := by
  obtain ⟨-, -, hplaced, herror⟩ := parse_iff_laid "ul > li, > a"
  have hpieces : pieces "ul > li, > a" = ["ul > li".toList, "> a".toList] := by decide +kernel
  have hlist : Reads { tag := some "UL" } ['u', 'l'] " > li".toList :=
    reads_of_rest (by decide +kernel) rfl (by decide) (by decide)
  have hitem : Reads { tag := some "LI" } ['l', 'i'] [] :=
    reads_of_rest (by decide +kernel) rfl (by decide) (by decide)
  have hlaid : LaidFromCompound "ul > li".toList
      [.compound { tag := some "UL" }, .child, .compound { tag := some "LI" }] :=
    ⟨@Laid.compound [] _ _ _ _ rfl hlist (@Laid.child [' '] _ _ rfl
      (@Laid.compound [' '] _ _ _ _ rfl hitem (.blanks rfl))), _, rfl⟩
  constructor
  · refine (herror ["ul > li".toList] "> a".toList [] hpieces ?_ rfl).trans (by decide +kernel)
    exact List.forall_mem_singleton.mpr ⟨_, hlaid⟩
  · obtain ⟨-, -, htidy, -⟩ := hplaced _ (by rw [hpieces]; exact List.mem_cons_self) _ hlaid
    exact htidy.mpr rfl

/-- A `>` at the end has no compound after it, and the source is read all the same. -/
theorem exists_dangling_child :
    parse "li >" = .ok (.css [.one { tag := some "LI" }]) ∧
      ∃ signs, Laid "li >".toList signs ∧ "li >".toList ∈ pieces "li >" ∧ ¬ Placed signs := by
  have hitem : Reads { tag := some "LI" } ['l', 'i'] " >".toList :=
    reads_of_rest (by decide +kernel) rfl (by decide) (by decide)
  refine ⟨by decide +kernel, [.compound { tag := some "LI" }, .child], ?_, by decide +kernel, ?_⟩
  · exact @Laid.compound [] _ _ _ _ rfl hitem (@Laid.child [' '] _ _ rfl (.blanks rfl))
  · exact fun h => (Sign.placed_iff.mp h).2.1 rfl

end Selector
end PageOverlay
