import PageOverlay.Proofs.Configuration.LeftLines
import PageOverlay.Proofs.Configuration.Protecting

/-!
# What reaches a protected word

The joiners keep a protected word from being found. A search term without joiners can still be one
of its letters, or take its first or last letter together with what stands next to the word. A term
that does neither passes by the word, and what stands between protected words is replaced as if it
stood on its own.
-/

set_option autoImplicit false

namespace PageOverlay

open Text (Apart between joinWith replaceAll)

/-- The search term is no letter of the word, it does not end as the word begins and does not begin
as the word ends. -/
structure PassesBy (word search : List Char) : Prop where
  letters : ∀ c ∈ word, search ≠ [c]
  before : search.getLast? ≠ word.head?
  after : search.head? ≠ word.getLast?

def outside (word text : List Char) : List (List Char) :=
  match word with
  | [] => [text]
  | n :: ns => between n ns text

namespace Configuration

variable {word search replacement text : List Char}

theorem replaceText_append {a b : List Char} (h : Apart search a b) :
    replaceText search replacement (a ++ b) =
      replaceText search replacement a ++ replaceText search replacement b := by
  cases search with
  | nil => rfl
  | cons n ns => exact Text.replaceAll_append h

theorem replaceText_of_not_mem {c : Char} (hc : c ∈ search) (h : c ∉ text) :
    replaceText search replacement text = text := by
  obtain ⟨n, ns, rfl⟩ := List.exists_cons_of_ne_nil (List.ne_nil_of_mem hc)
  exact Text.replaceAll_of_not_mem hc h replacement

theorem replaceText_nil (search replacement : List Char) :
    replaceText search replacement [] = [] := by
  cases search with
  | nil => rfl
  | cons n ns => exact Text.replaceAll.eq_1 n ns replacement

theorem replaceText_self_append (h : search ≠ []) (b : List Char) :
    replaceText search replacement (search ++ b) =
      replacement ++ replaceText search replacement b := by
  obtain ⟨n, ns, rfl⟩ := List.exists_cons_of_ne_nil h
  exact Text.replaceAll_append_match replacement b

theorem replaceText_self (h : search ≠ []) :
    replaceText search replacement search = replacement := by
  have hself : replaceText search replacement (search ++ []) =
      replacement ++ replaceText search replacement [] := replaceText_self_append h []
  rwa [replaceText_nil, List.append_nil, List.append_nil] at hself

theorem replaceText_cons {c : Char} (h : search.head? ≠ some c) (b : List Char) :
    replaceText search replacement (c :: b) = c :: replaceText search replacement b := by
  cases search with
  | nil => rfl
  | cons n ns =>
    have hc : c ≠ n := fun hc => h (by simp [hc])
    change replaceAll n ns replacement (c :: b) = c :: replaceAll n ns replacement b
    rw [replaceAll, if_neg fun h => hc h.1]

theorem replaceText_concat {c : Char} (h : search.getLast? ≠ some c) (a : List Char) :
    replaceText search replacement (a ++ [c]) = replaceText search replacement a ++ [c] := by
  have hapart : Apart search a [c] := by
    intro u v _ hv hs
    rcases List.prefix_cons_iff.mp hv with rfl | ⟨w, rfl, hw⟩
    · exact .inr rfl
    · obtain rfl := List.prefix_nil.mp hw
      exact absurd (by simp [← hs]) h
  have hsingle : replaceText search replacement [c] = [c] := by
    rcases List.eq_nil_or_concat search with rfl | ⟨init, e, rfl⟩
    · rfl
    · exact replaceText_of_not_mem (c := e) (by simp) (by simpa using h)
  rw [replaceText_append hapart, hsingle]

theorem replaceText_at_joiner (h : joiner ∉ search) (a b : List Char) :
    replaceText search replacement (a ++ joiner :: b) =
      replaceText search replacement a ++ joiner :: replaceText search replacement b := by
  have hhead : search.head? ≠ some joiner := fun hj => h (List.mem_of_head? hj)
  rw [replaceText_append (Text.apart_of_not_mem h), replaceText_cons hhead]

theorem guarded_cons_cons (c d : Char) (cs : List Char) :
    guarded (c :: d :: cs) = c :: joiner :: guarded (d :: cs) := List.intersperse_cons_cons

theorem mem_guarded {c : Char} (h : c ∈ word) : c ∈ guarded word := by
  induction word with
  | nil => cases h
  | cons d ds ih =>
    cases ds with
    | nil => exact h
    | cons e es =>
      rw [guarded_cons_cons]
      rcases List.mem_cons.mp h with rfl | h
      · exact List.mem_cons_self
      · exact List.mem_cons_of_mem d (List.mem_cons_of_mem joiner (ih h))

theorem joiner_mem_guarded (h : 2 ≤ word.length) : joiner ∈ guarded word := by
  match word, h with
  | c :: d :: cs, _ => simp [guarded_cons_cons]

theorem replaceText_guarded_append (hletters : ∀ c ∈ word, search ≠ [c])
    (hafter : search.head? ≠ word.getLast?) (hsearch : joiner ∉ search) (b : List Char) :
    replaceText search replacement (guarded word ++ b) =
      guarded word ++ replaceText search replacement b := by
  cases search with
  | nil => rfl
  | cons n ns =>
    obtain ⟨hn, hns⟩ : joiner ≠ n ∧ joiner ∉ ns := by simpa using hsearch
    change replaceAll n ns replacement (guarded word ++ b) =
      guarded word ++ replaceAll n ns replacement b
    induction word with
    | nil => rfl
    | cons c cs ih =>
      cases cs with
      | nil =>
        have hc : c ≠ n := fun hc => hafter (by simp [hc])
        change replaceAll n ns replacement (c :: b) = c :: replaceAll n ns replacement b
        rw [replaceAll, if_neg fun h => hc h.1]
      | cons d cs =>
        have hrest := ih (fun e he => hletters e (List.mem_cons_of_mem c he))
          (by simpa using hafter)
        have hletter : ¬(c = n ∧ ns.isPrefixOf (joiner :: (guarded (d :: cs) ++ b))) := by
          rintro ⟨rfl, h⟩
          cases ns with
          | nil => exact hletters c List.mem_cons_self rfl
          | cons e es =>
            rw [List.isPrefixOf_iff_prefix, List.cons_prefix_cons] at h
            exact hns (by simp [h.1])
        rw [guarded_cons_cons, List.cons_append, List.cons_append, replaceAll, if_neg hletter,
          replaceAll, if_neg fun h => hn h.1, hrest]
        rfl

theorem apart_guarded (hlen : 2 ≤ word.length) (hbefore : search.getLast? ≠ word.head?)
    (hsearch : joiner ∉ search) (a b : List Char) : Apart search a (guarded word ++ b) := by
  match word, hlen with
  | c :: d :: cs, _ =>
    intro u v _ hv hs
    rw [guarded_cons_cons, List.cons_append, List.cons_append] at hv
    match v with
    | [] => exact .inr rfl
    | [e] =>
      have he : e = c := (List.cons_prefix_cons.mp hv).1
      exact absurd (by simp [← hs, he]) hbefore
    | e :: f :: v =>
      have hf : f = joiner := (List.cons_prefix_cons.mp (List.cons_prefix_cons.mp hv).2).1
      exact absurd (by simp [← hs, hf]) hsearch

theorem replaceText_joinWith (h : PassesBy word search) (hlen : 2 ≤ word.length)
    (hsearch : joiner ∉ search) (ps : List (List Char)) :
    replaceText search replacement (joinWith (guarded word) ps) =
      joinWith (guarded word) (ps.map (replaceText search replacement)) := by
  induction ps with
  | nil => exact replaceText_nil search replacement
  | cons p ps ih =>
    cases ps with
    | nil => rfl
    | cons q ps =>
      rw [Text.joinWith_cons _ _ (List.cons_ne_nil q ps), List.append_assoc,
        replaceText_append (apart_guarded hlen h.before hsearch p _),
        replaceText_guarded_append h.letters h.after hsearch, ih, List.map_cons (l := q :: ps),
        Text.joinWith_cons _ _ (by simp), List.append_assoc]

theorem replaceEach_joinWith {pairs : List (List Char × List Char)}
    (h : ∀ p ∈ pairs, PassesBy word p.1 ∧ joiner ∉ p.1) (hlen : 2 ≤ word.length)
    (ps : List (List Char)) :
    replaceEach pairs (joinWith (guarded word) ps) =
      joinWith (guarded word) (ps.map (replaceEach pairs)) := by
  induction pairs generalizing ps with
  | nil =>
    have hsame : ps.map (replaceEach []) = ps := List.map_id ps
    rw [hsame]
    rfl
  | cons p pairs ih =>
    obtain ⟨hp, hjoiner⟩ := h p List.mem_cons_self
    have ih := ih fun q hq => h q (List.mem_cons_of_mem p hq)
    rw [replaceEach, List.foldl_cons, replaceText_joinWith hp hlen hjoiner, ← replaceEach, ih,
      List.map_map]
    rfl

/-- A guard that begins in a text without joiners would have its first joiner further on, where
the next word begins. -/
theorem apart_of_joiner_not_mem (hlen : 2 ≤ word.length) (hword : joiner ∉ word) {a : List Char}
    (ha : joiner ∉ a) (b : List Char) : Apart (guarded word) a (guarded word ++ b) := by
  match word, hlen with
  | c :: d :: cs, _ =>
    have hc : joiner ≠ c := fun hc => hword (by simp [hc])
    intro u v hu hv hs
    rw [guarded_cons_cons, List.cons_append] at hv
    rw [guarded_cons_cons] at hs
    match u, v with
    | [], _ => exact .inl rfl
    | _, [] => exact .inr rfl
    | [e], f :: v =>
      have hf : f = c := (List.cons_prefix_cons.mp hv).1
      have hj : f = joiner := (List.cons.inj (List.cons.inj hs).2).1
      exact absurd (hj.symm.trans hf) hc
    | e :: f :: u, _ =>
      have hj : f = joiner := (List.cons.inj (List.cons.inj hs).2).1
      exact absurd (hu.subset (by simp [hj])) ha

theorem replaceText_release (hlen : 2 ≤ word.length) (hword : joiner ∉ word)
    {ps : List (List Char)} (hps : ∀ p ∈ ps, joiner ∉ p) :
    replaceText (guarded word) word (joinWith (guarded word) ps) = joinWith word ps := by
  have hmem := joiner_mem_guarded hlen
  have hpiece : ∀ p ∈ ps, replaceText (guarded word) word p = p :=
    fun p hp => replaceText_of_not_mem hmem (hps p hp)
  induction ps with
  | nil => exact replaceText_nil _ _
  | cons p ps ih =>
    cases ps with
    | nil => exact hpiece p List.mem_cons_self
    | cons q ps =>
      have ih := ih (fun r hr => hps r (List.mem_cons_of_mem p hr))
        fun r hr => hpiece r (List.mem_cons_of_mem p hr)
      rw [Text.joinWith_cons _ _ (List.cons_ne_nil q ps), List.append_assoc,
        replaceText_append (apart_of_joiner_not_mem hlen hword (hps p List.mem_cons_self) _),
        hpiece p List.mem_cons_self, replaceText_self_append (List.ne_nil_of_mem hmem), ih,
        Text.joinWith_cons _ _ (List.cons_ne_nil q ps), List.append_assoc]

theorem replaceText_eq_joinWith (hword : word ≠ []) (new text : List Char) :
    replaceText word new text = joinWith new (outside word text) := by
  obtain ⟨n, ns, rfl⟩ := List.exists_cons_of_ne_nil hword
  exact Text.replaceAll_eq_joinWith new text

theorem joiner_not_mem_outside (htext : joiner ∉ text) : ∀ p ∈ outside word text, joiner ∉ p := by
  cases word with
  | nil => simpa [outside] using htext
  | cons n ns => exact Text.not_mem_of_mem_between htext

theorem joiner_not_mem_replaceEach {pairs : List (List Char × List Char)}
    (hpairs : ∀ p ∈ pairs, joiner ∉ p.2) (htext : joiner ∉ text) :
    joiner ∉ replaceEach pairs text := by
  induction pairs generalizing text with
  | nil => exact htext
  | cons p pairs ih =>
    rw [replaceEach, List.foldl_cons, ← replaceEach]
    refine ih (fun q hq => hpairs q (List.mem_cons_of_mem p hq)) ?_
    rcases p with ⟨_ | ⟨n, ns⟩, new⟩
    · exact htext
    · exact Text.not_mem_replaceAll htext (hpairs _ List.mem_cons_self)

def protectedLines (word : List Char) (pairs : List (List Char × List Char)) : List Command :=
  protecting word :: pairs.map fun p => literalReplacement p.1 p.2

theorem onTextAll_protectedLines (location : String) (word : List Char)
    (pairs : List (List Char × List Char)) (text : List Char) :
    Command.onTextAll location text (withReleases (protectedLines word pairs)) =
      replaceText (guarded word) word
        (replaceEach pairs (replaceText word (guarded word) text)) := by
  have hnone : (pairs.map fun p => literalReplacement p.1 p.2).filterMap Command.release? = [] := by
    rw [List.filterMap_map, List.filterMap_eq_nil_iff]
    intro p _
    rfl
  rw [withReleases, protectedLines, Command.onTextAll_append, Command.onTextAll,
    onText_protecting, onTextAll_literal, List.filterMap_cons, release?_protecting, hnone,
    Command.onTextAll, onText_literalReplacement, Command.onTextAll]

/-- What is meant to come of it: the word stands wherever it stood, and the lines replace what is
outside of it. -/
def replacedOutside (word : List Char) (pairs : List (List Char × List Char))
    (text : List Char) : List Char :=
  joinWith word ((outside word text).map (replaceEach pairs))

theorem onTextAll_of_passesBy {pairs : List (List Char × List Char)}
    (h : ∀ p ∈ pairs, PassesBy word p.1 ∧ joiner ∉ p.1 ∧ joiner ∉ p.2) (hlen : 2 ≤ word.length)
    (hword : joiner ∉ word) (htext : joiner ∉ text) (location : String) :
    Command.onTextAll location text (withReleases (protectedLines word pairs)) =
      replacedOutside word pairs text := by
  have hne : word ≠ [] := List.ne_nil_of_length_pos (Nat.lt_of_lt_of_le Nat.two_pos hlen)
  have hpieces : ∀ p ∈ (outside word text).map (replaceEach pairs), joiner ∉ p := by
    intro p hp
    obtain ⟨q, hq, rfl⟩ := List.mem_map.mp hp
    exact joiner_not_mem_replaceEach (fun p hp => (h p hp).2.2) (joiner_not_mem_outside htext q hq)
  rw [onTextAll_protectedLines, replaceText_eq_joinWith hne,
    replaceEach_joinWith (fun p hp => ⟨(h p hp).1, (h p hp).2.1⟩) hlen,
    replaceText_release hlen hword hpieces, replacedOutside]

theorem joiner_not_mem_replacedOutside {pairs : List (List Char × List Char)}
    (hpairs : ∀ p ∈ pairs, joiner ∉ p.2) (hword : joiner ∉ word) (htext : joiner ∉ text) :
    joiner ∉ replacedOutside word pairs text := by
  refine Text.not_mem_joinWith hword fun p hp => ?_
  obtain ⟨q, hq, rfl⟩ := List.mem_map.mp hp
  exact joiner_not_mem_replaceEach hpairs (joiner_not_mem_outside htext q hq)

theorem exists_other (a b : Char) : ∃ x, x ≠ a ∧ x ≠ b ∧ x ≠ joiner := by
  by_cases ha : 'a' ≠ a ∧ 'a' ≠ b
  · exact ⟨'a', ha.1, ha.2, by decide⟩
  · by_cases hb : 'b' ≠ a ∧ 'b' ≠ b
    · exact ⟨'b', hb.1, hb.2, by decide⟩
    · refine ⟨'c', ?_, ?_, by decide⟩ <;> rintro rfl <;> grind

theorem joiner_mem_of_letter {c : Char} (hc : c ∈ word) (hlen : 2 ≤ word.length)
    (hword : joiner ∉ word) (location : String) :
    joiner ∈ Command.onTextAll location word (withReleases (protectedLines word [([c], [])])) := by
  have hne : word ≠ [] := List.ne_nil_of_mem hc
  have hprotected : replaceText word (guarded word) word = guarded word := replaceText_self hne
  have hline : replaceEach [([c], [])] (guarded word) = (guarded word).filter (· != c) :=
    Text.replaceAll_single_nil c (guarded word)
  have hkept : replaceText (guarded word) word ((guarded word).filter (· != c)) =
      (guarded word).filter (· != c) := replaceText_of_not_mem (mem_guarded hc) (by simp)
  have hj : joiner ≠ c := fun hj => hword (hj ▸ hc)
  rw [onTextAll_protectedLines, hprotected, hline, hkept]
  exact List.mem_filter.mpr ⟨joiner_mem_guarded hlen, by simpa using hj⟩

theorem guarded_concat (h : word ≠ []) (c : Char) :
    guarded (word ++ [c]) = guarded word ++ [joiner, c] := by
  induction word with
  | nil => exact absurd rfl h
  | cons d ds ih =>
    cases ds with
    | nil => rfl
    | cons e es =>
      rw [List.cons_append, List.cons_append, guarded_cons_cons, guarded_cons_cons,
        ← List.cons_append, ih (List.cons_ne_nil e es), List.cons_append, List.cons_append]

theorem joiner_mem_of_last {y x : Char} {rest : List Char} (hne : word ≠ [])
    (hword : joiner ∉ word ++ [y]) (hrest : joiner ∉ rest) (hx : x ≠ y) (hjx : joiner ≠ x)
    (location : String) :
    joiner ∈ Command.onTextAll location (word ++ [y] ++ [x, x])
      (withReleases (protectedLines (word ++ [y]) [([x, x], rest), (y :: rest, [])])) := by
  have hjy : joiner ≠ y := fun hj => hword (by simp [hj])
  have hguard : guarded (word ++ [y]) = guarded word ++ [joiner, y] := guarded_concat hne y
  have hprotected : replaceText (word ++ [y]) (guarded (word ++ [y])) (word ++ [y] ++ [x, x]) =
      guarded (word ++ [y]) ++ [x, x] := by
    rw [replaceText_self_append (by simp),
      replaceText_of_not_mem (c := y) (by simp) (by simpa using hx.symm)]
  have hfirst : replaceText [x, x] rest (guarded (word ++ [y]) ++ [x, x]) =
      guarded (word ++ [y]) ++ rest := by
    rw [replaceText_guarded_append (by simp) (by simpa using hx) (by simp [hjx]),
      replaceText_self (by simp)]
  have hsecond : replaceText (y :: rest) [] (guarded (word ++ [y]) ++ rest) =
      replaceText (y :: rest) [] (guarded word) ++ [joiner] := by
    have hedge : guarded (word ++ [y]) ++ rest = guarded word ++ joiner :: (y :: rest) := by
      rw [hguard, List.append_assoc]
      rfl
    rw [hedge, replaceText_at_joiner (by simp [hjy, hrest]), replaceText_self (by simp)]
  have hlast : (guarded (word ++ [y])).getLast? ≠ some joiner := by
    simpa [hguard] using hjy.symm
  rw [onTextAll_protectedLines, hprotected, replaceEach, List.foldl_cons, hfirst, List.foldl_cons,
    hsecond, List.foldl_nil, replaceText_concat hlast]
  simp

theorem joiner_mem_of_first {y x : Char} {rest : List Char} (hne : word ≠ [])
    (hword : joiner ∉ y :: word) (hrest : joiner ∉ rest) (hx : x ≠ y) (hjx : joiner ≠ x)
    (hlast : word.getLast? ≠ some x) (location : String) :
    joiner ∈ Command.onTextAll location ([x, x] ++ y :: word)
      (withReleases (protectedLines (y :: word) [([x, x], rest), (rest ++ [y], [])])) := by
  have hjy : joiner ≠ y := fun hj => hword (by simp [hj])
  obtain ⟨d, ds, rfl⟩ := List.exists_cons_of_ne_nil hne
  have hguard : guarded (y :: d :: ds) = y :: joiner :: guarded (d :: ds) :=
    guarded_cons_cons y d ds
  have hprotected : replaceText (y :: d :: ds) (guarded (y :: d :: ds)) ([x, x] ++ y :: d :: ds) =
      [x, x] ++ guarded (y :: d :: ds) := by
    have hhead : (y :: d :: ds).head? ≠ some x := by simpa using hx.symm
    rw [List.cons_append, List.singleton_append, replaceText_cons hhead, replaceText_cons hhead,
      replaceText_self (by simp)]
    rfl
  have hfirst : replaceText [x, x] rest ([x, x] ++ guarded (y :: d :: ds)) =
      rest ++ guarded (y :: d :: ds) := by
    have hafter : [x, x].head? ≠ (y :: d :: ds).getLast? := by simpa using hlast.symm
    have hguarded : replaceText [x, x] rest (guarded (y :: d :: ds) ++ []) =
        guarded (y :: d :: ds) ++ replaceText [x, x] rest [] :=
      replaceText_guarded_append (by simp) hafter (by simp [hjx]) []
    rw [List.append_nil, replaceText_nil, List.append_nil] at hguarded
    rw [replaceText_self_append (by simp), hguarded]
  have hsecond : replaceText (rest ++ [y]) [] (rest ++ guarded (y :: d :: ds)) =
      joiner :: replaceText (rest ++ [y]) [] (guarded (d :: ds)) := by
    have hedge : rest ++ guarded (y :: d :: ds) = (rest ++ [y]) ++ joiner :: guarded (d :: ds) := by
      rw [hguard, List.append_assoc]
      rfl
    rw [hedge, replaceText_at_joiner (by simp [hjy, hrest]), replaceText_self (by simp)]
    rfl
  have hhead : (guarded (y :: d :: ds)).head? ≠ some joiner := by
    simpa [hguard] using hjy.symm
  rw [onTextAll_protectedLines, hprotected, replaceEach, List.foldl_cons, hfirst, List.foldl_cons,
    hsecond, List.foldl_nil, replaceText_cons hhead]
  exact List.mem_cons_self

theorem passesBy_pair {x : Char} (hfirst : word.head? ≠ some x) (hlast : word.getLast? ≠ some x) :
    PassesBy word [x, x] :=
  ⟨by simp, by simpa using hfirst.symm, by simpa using hlast.symm⟩

/-- A term that does not pass by has lines and a text with which a joiner is left behind. The lines
first put in what the term takes along of its surroundings. -/
theorem exists_joiner_mem (hlen : 2 ≤ word.length) (hword : joiner ∉ word)
    (hsearch : joiner ∉ search) (h : ¬PassesBy word search) (location : String) :
    ∃ pairs : List (List Char × List Char), ∃ text,
      (∀ p ∈ pairs, (p.1 = search ∨ PassesBy word p.1) ∧ joiner ∉ p.1 ∧ joiner ∉ p.2) ∧
        joiner ∉ text ∧
        joiner ∈ Command.onTextAll location text (withReleases (protectedLines word pairs)) := by
  have hne : word ≠ [] := List.ne_nil_of_length_pos (Nat.lt_of_lt_of_le Nat.two_pos hlen)
  obtain ⟨x, hfirst, hlast, hjx⟩ := exists_other (word.head hne) (word.getLast hne)
  have hjx : joiner ≠ x := hjx.symm
  have hpair : PassesBy word [x, x] :=
    passesBy_pair (by simpa [List.head?_eq_some_head hne] using hfirst.symm)
      (by simpa [List.getLast?_eq_some_getLast hne] using hlast.symm)
  have hcases : (∃ c ∈ word, search = [c]) ∨ search.getLast? = word.head? ∨
      search.head? = word.getLast? := by
    by_cases hb : search.getLast? = word.head?
    · exact .inr (.inl hb)
    · by_cases ha : search.head? = word.getLast?
      · exact .inr (.inr ha)
      · left
        by_contra hl
        exact h ⟨fun c hc hs => hl ⟨c, hc, hs⟩, hb, ha⟩
  rcases hcases with ⟨c, hc, rfl⟩ | hb | ha
  · exact ⟨[([c], [])], word, by simpa using hsearch, hword,
      joiner_mem_of_letter hc hlen hword location⟩
  · match word, hlen with
    | y :: d :: ds, _ =>
      obtain ⟨rest, rfl⟩ := List.getLast?_eq_some_iff.mp hb
      have hrest : joiner ∉ rest := fun hm => hsearch (List.mem_append_left _ hm)
      refine ⟨[([x, x], rest), (rest ++ [y], [])], [x, x] ++ y :: d :: ds, ?_, ?_,
        joiner_mem_of_first (List.cons_ne_nil d ds) hword hrest hfirst hjx ?_ location⟩
      · simp [hpair, hjx, hrest, hsearch]
      · simpa [hjx] using hword
      · simpa [List.getLast?_eq_some_getLast] using hlast.symm
  · obtain ⟨init, y, rfl⟩ : ∃ init y, word = init ++ [y] := by
      simpa [hne] using List.eq_nil_or_concat word
    obtain ⟨rest, rfl⟩ := List.head?_eq_some_iff.mp (ha.trans List.getLast?_concat)
    have hrest : joiner ∉ rest := fun hm => hsearch (List.mem_cons_of_mem y hm)
    have hinit : init ≠ [] := fun hi => by simp [hi] at hlen
    refine ⟨[([x, x], rest), (y :: rest, [])], init ++ [y] ++ [x, x], ?_, ?_,
      joiner_mem_of_last hinit hword hrest (by simpa using hlast) hjx location⟩
    · simp [hpair, hjx, hrest, hsearch]
    · simpa [hjx] using hword

/-- Terms that pass by a protected word are exactly those that may be searched for in the lines
after it. -/
theorem passesBy_iff (hlen : 2 ≤ word.length) (hword : joiner ∉ word) (hsearch : joiner ∉ search)
    (c : Configuration) (location : String) :
    PassesBy word search ↔
      ∀ pairs : List (List Char × List Char),
        (∀ p ∈ pairs, (p.1 = search ∨ PassesBy word p.1) ∧ joiner ∉ p.1 ∧ joiner ∉ p.2) →
        ∀ text : String, joiner ∉ text.toList →
          c.transformWith (withReleases (protectedLines word pairs)) location text =
            .ok (String.ofList (replacedOutside word pairs text.toList)) := by
  constructor
  · intro h pairs hpairs text htext
    have hpass : ∀ p ∈ pairs, PassesBy word p.1 ∧ joiner ∉ p.1 ∧ joiner ∉ p.2 := by
      intro p hp
      obtain ⟨rfl | hp1, hfree⟩ := hpairs p hp
      · exact ⟨h, hfree⟩
      · exact ⟨hp1, hfree⟩
    rw [transformWith_eq, onTextAll_of_passesBy hpass hlen hword htext]
  · intro hall
    by_contra h
    obtain ⟨pairs, text, hpairs, htext, hmem⟩ :=
      exists_joiner_mem hlen hword hsearch h location
    have hright := hall pairs hpairs (String.ofList text) (by rwa [String.toList_ofList])
    rw [transformWith_eq, String.toList_ofList] at hright
    have hsame := String.ofList_injective (Except.ok.inj hright)
    rw [hsame] at hmem
    exact joiner_not_mem_replacedOutside (fun p hp => (hpairs p hp).2.2) hword htext hmem

theorem passesBy_iff_beginning :
    PassesBy "Order Service".toList "Order".toList ∧
      (Configuration.ofText "").transformWith
          (withReleases
            (protectedLines "Order Service".toList [("Order".toList, "Purchase".toList)]))
          "http://example.com" "Order Service handles each Order" =
        .ok "Order Service handles each Purchase" := by
  have h : PassesBy "Order Service".toList "Order".toList := ⟨by simp, by decide, by decide⟩
  have hresult := (passesBy_iff (by decide) (by decide) (by decide) (Configuration.ofText "")
    "http://example.com").mp h [("Order".toList, "Purchase".toList)]
    (by simp [joiner]) "Order Service handles each Order" (by decide)
  refine ⟨h, hresult.trans ?_⟩
  simp [replacedOutside, outside, between, joinWith, replaceEach, replaceText, Pattern.replaceAll,
    replaceAll]

/-- A term of a single letter takes that letter out of a protected word. -/
theorem transformText_letter_of_protected :
    (Configuration.ofText "!protect(ab)\na = x").transformText [] "http://example.com" "ab" =
        .ok "x\u2060b" ∧
      replacedOutside "ab".toList [("a".toList, "x".toList)] "ab".toList = "ab".toList := by
  let c := Configuration.ofText "!protect(ab)\na = x"
  have hplaced : c.placedLines [] =
      [⟨true, 1, "", .invocation "!protect(ab)" ""⟩, ⟨true, 2, "", .invocation "a" "x"⟩] := rfl
  have hplain : Sheet.IsPlain ['a'] ['x'] :=
    ⟨by decide, by decide, by simp, by simp [Sheet.leadingMarks], by decide, by simp⟩
  have hverbatim : IsVerbatim "ab".toList := ⟨by decide, by decide, by decide, rfl⟩
  have hline : lineCommand (c.builder []) (c.scopes []) ⟨true, 2, "", .invocation "a" "x"⟩ =
      literalReplacement ['a'] ['x'] :=
    lineCommand_of_no_dollar rfl (by decide) (by decide) (tryBuild_plain _ hplain)
  have hlines : c.lineCommands [] = protectedLines "ab".toList [("a".toList, "x".toList)] := by
    rw [lineCommands, hplaced, List.map_cons, List.map_cons, lineCommand_protect _ _ hverbatim rfl,
      hline]
    rfl
  constructor
  · rw [transformText, commands_eq_withReleases hlines, transformWith_eq, onTextAll_protectedLines]
    simp [replaceEach, replaceText, Pattern.replaceAll, replaceAll, guarded, joiner]
  · simp [replacedOutside, outside, between, joinWith, replaceEach, replaceText,
      Pattern.replaceAll, replaceAll]

end Configuration
end PageOverlay
