import PageOverlay.Proofs.Selector.Matching
import PageOverlay.Proofs.Selector.Placing

/-!
# What a selector compares with

Each value that a selector compares with stands in its source, as it is and set off from what is
around it. And only a test for the very value can tell a value from its double, the value twice with
a blank between.
-/

set_option autoImplicit false

namespace PageOverlay

namespace Text

variable {cs : List Char}

theorem trimEnd_begins (cs : List Char) : trimEnd cs <+: cs := by
  induction cs with
  | nil => exact List.prefix_refl []
  | cons c cs ih =>
    rw [trimEnd]
    split
    · split
      · exact List.nil_prefix
      · exact List.prefix_cons_inj c |>.mpr List.nil_prefix
    · next d ds h =>
      rw [← h]
      exact (List.prefix_cons_inj c).mpr ih

theorem trim_within (cs : List Char) : trim cs <:+: cs :=
  (trimEnd_begins _).isInfix.trans (List.dropWhile_suffix isBlank).isInfix

end Text

theorem Sign.mem_of_mem_tidy {sign : Sign} {signs : List Sign} (h : sign ∈ tidy signs) :
    sign ∈ signs := by
  induction signs with
  | nil => exact h
  | cons first signs ih =>
    cases first with
    | compound c =>
      rw [tidy] at h
      exact (List.mem_cons.mp h).elim (fun h => h ▸ List.mem_cons_self)
        fun h => List.mem_cons_of_mem _ (ih h)
    | child =>
      simp only [tidy] at h
      split at h
      · exact (List.mem_cons.mp h).elim (fun h => h ▸ List.mem_cons_self)
          fun h => List.mem_cons_of_mem _ (ih h)
      · exact List.mem_cons_of_mem _ (ih h)

theorem Chain.compound_mem_signs {chain : Chain} {c : Compound} (h : c ∈ chain.compounds) :
    .compound c ∈ chain.signs := by
  induction chain with
  | one d =>
    obtain rfl := List.mem_singleton.mp h
    exact List.mem_singleton_self _
  | step before op d ih =>
    rw [signs]
    rcases List.mem_append.mp h with h | h
    · exact List.mem_append_left _ (ih h)
    · obtain rfl := List.mem_singleton.mp h
      simp

namespace Selector

variable {cs : List Char} {signs : List Sign} {c : Compound} {chains : List Chain} {source : String}

theorem Laid.reads (h : Laid cs signs) (hc : .compound c ∈ signs) :
    ∃ text rest, Reads c text rest ∧ text <:+: cs := by
  induction h with
  | blanks h => cases hc
  | @child blanks cs signs hblanks h ih =>
    obtain ⟨text, rest, hreads, hpart⟩ := ih (by simpa using hc)
    exact ⟨text, rest, hreads, hpart.trans ⟨blanks ++ ['>'], [], by simp⟩⟩
  | @compound blanks text cs d signs hblanks hread h ih =>
    rcases List.mem_cons.mp hc with hd | hc
    · obtain rfl := Sign.compound.inj hd
      exact ⟨text, cs, hread, blanks, cs, by simp⟩
    · obtain ⟨other, rest, hreads, hpart⟩ := ih hc
      exact ⟨other, rest, hreads, hpart.trans ⟨blanks ++ text, [], by simp⟩⟩

/-- The first of the pieces begins the text, and the others stand in it. -/
def CutFrom (cs : List Char) (pieces : List (List Char)) : Prop :=
  ∃ first others, pieces = first :: others ∧ first <+: cs ∧ ∀ piece ∈ others, piece <:+: cs

theorem CutFrom.consHead {pieces : List (List Char)} (h : CutFrom cs pieces) (a : Char) :
    CutFrom (a :: cs) (splitAlternatives.consHead a pieces) := by
  obtain ⟨first, others, rfl, hfirst, hothers⟩ := h
  exact ⟨a :: first, others, rfl, (List.prefix_cons_inj a).mpr hfirst,
    fun piece hpiece => (hothers piece hpiece).trans (List.suffix_cons a cs).isInfix⟩

theorem CutFrom.cut {pieces : List (List Char)} (h : CutFrom cs pieces) (a : Char) :
    CutFrom (a :: cs) ([] :: pieces) := by
  obtain ⟨first, others, rfl, hfirst, hothers⟩ := h
  refine ⟨[], first :: others, rfl, List.nil_prefix, fun piece hpiece => ?_⟩
  have hpart : piece <:+: cs :=
    (List.mem_cons.mp hpiece).elim (fun h => h ▸ hfirst.isInfix) (hothers piece)
  exact hpart.trans (List.suffix_cons a cs).isInfix

theorem cutFrom_splitAlternatives (depth : Nat) (quote : Option Char) (cs : List Char) :
    CutFrom cs (splitAlternatives depth quote cs) := by
  fun_induction splitAlternatives depth quote cs with
  | case1 => exact ⟨[], [], rfl, List.nil_prefix, by simp⟩
  | case6 _ _ _ _ _ _ _ ih => exact ih.cut _
  | case2 _ _ _ _ ih | case3 _ _ _ _ ih | case4 _ _ _ ih | case5 _ _ _ _ ih
  | case7 _ _ _ _ _ _ _ ih => exact ih.consHead _

theorem infix_of_mem_pieces {piece : List Char} (h : piece ∈ pieces source) :
    piece <:+: source.toList := by
  obtain ⟨text, htext, rfl⟩ := List.mem_map.mp h
  obtain ⟨first, others, hsplit, hfirst, hothers⟩ :=
    cutFrom_splitAlternatives 0 none (Text.trim source.toList)
  rw [hsplit] at htext
  have hpart : text <:+: Text.trim source.toList :=
    (List.mem_cons.mp htext).elim (fun h => h ▸ hfirst.isInfix) (hothers text)
  exact (Text.trim_within text).trans (hpart.trans (Text.trim_within _))

theorem gives_of_parse (h : parse source = .ok (.css chains)) :
    ∀ chain ∈ chains, ∀ c ∈ chain.compounds, ∀ f ∈ c.attributes, Gives source.toList f := by
  obtain ⟨-, found, hfound, hread⟩ := parse_ok_iff.mp h
  obtain rfl := Selector.css.inj hfound
  intro chain hchain c hc f hf v hv
  obtain ⟨piece, hpiece, hok⟩ : ∃ piece ∈ pieces source, alternative piece = .ok chain := by
    obtain ⟨i, hi, rfl⟩ := List.getElem_of_mem hchain
    exact ⟨_, List.getElem_mem (hread.length_eq ▸ hi), hread.get hi (hread.length_eq ▸ hi)⟩
  obtain ⟨signs, ⟨hlaid, -⟩, htidy⟩ := alternative_ok_iff.mp hok
  have hmem : .compound c ∈ signs :=
    Sign.mem_of_mem_tidy (htidy ▸ Chain.compound_mem_signs hc)
  obtain ⟨text, rest, hreads, hpart⟩ := hlaid.reads hmem
  exact (hreads.gives f hf v hv).longer (hpart.trans (infix_of_mem_pieces hpiece))

end Selector

namespace Text

section words

variable {c d : Char} {cs w rest : List Char} {ws : List (List Char)}

theorem words_nil : words [] = [] := by rw [words.eq_def]

theorem words_blank (h : isBlank c = true) (cs : List Char) : words (c :: cs) = words cs := by
  rw [words.eq_def]
  simp only [h, if_true]

theorem words_single (h : isBlank c = false) : words [c] = [[c]] := by
  rw [words.eq_def]
  simp only [h, Bool.false_eq_true, if_false, words_nil]

theorem words_end (h : isBlank c = false) (hd : isBlank d = true) (cs : List Char) :
    words (c :: d :: cs) = [c] :: words (d :: cs) := by
  rw [words.eq_def]
  simp only [h, Bool.false_eq_true, if_false]
  cases words (d :: cs) with
  | nil => rfl
  | cons w ws => simp only [hd, if_true]

theorem words_longer (h : isBlank c = false) (hd : isBlank d = false)
    (hws : words (d :: cs) = w :: ws) : words (c :: d :: cs) = (c :: w) :: ws := by
  rw [words.eq_def]
  simp only [hws, h, hd, Bool.false_eq_true, if_false]

theorem exists_words_cons (h : isBlank c = false) (cs : List Char) :
    ∃ w ws, words (c :: cs) = w :: ws := by
  induction cs generalizing c with
  | nil => exact ⟨_, _, words_single h⟩
  | cons d cs ih =>
    cases hd : isBlank d with
    | true => exact ⟨_, _, words_end h hd cs⟩
    | false =>
      obtain ⟨w, ws, hws⟩ := ih hd
      exact ⟨_, _, words_longer h hd hws⟩

theorem words_append_blank (hd : isBlank d = true) (cs rest : List Char) :
    words (cs ++ d :: rest) = words cs ++ words rest := by
  induction cs with
  | nil => rw [List.nil_append, words_blank hd, words_nil, List.nil_append]
  | cons c cs ih =>
    rw [List.cons_append]
    cases hc : isBlank c with
    | true => rw [words_blank hc, words_blank hc, ih]
    | false =>
      cases cs with
      | nil =>
        rw [words_single hc, List.nil_append, words_end hc hd, words_blank hd]
        rfl
      | cons e cs =>
        rw [List.cons_append] at ih ⊢
        cases he : isBlank e with
        | true =>
          rw [words_end hc he, words_end hc he, ih]
          rfl
        | false =>
          obtain ⟨w, ws, hws⟩ := exists_words_cons he cs
          rw [hws, List.cons_append] at ih
          rw [words_longer hc he hws, words_longer hc he ih]
          rfl

end words
end Text

def doubled (value : String) : String := value ++ " " ++ value

theorem doubled_toList (value : String) :
    (doubled value).toList = value.toList ++ ' ' :: value.toList := by
  simp [doubled]

theorem length_doubled (value : String) : (doubled value).length = 2 * value.length + 1 := by
  rw [← String.length_toList, doubled_toList, List.length_append, List.length_cons,
    String.length_toList]
  omega

theorem AttributeTest.holds_doubled (t : AttributeTest) {value : String} (h : t.Holds value)
    (hne : t ≠ .equals value) : t.Holds (doubled value) := by
  cases t with
  | present => trivial
  | equals v => exact absurd (congrArg AttributeTest.equals h.symm) hne
  | contains v =>
    change v.toList <:+: (doubled value).toList
    rw [doubled_toList]
    exact List.IsInfix.trans h (List.prefix_append _ _).isInfix
  | beginsWith v =>
    change v.toList <+: (doubled value).toList
    rw [doubled_toList]
    exact List.IsPrefix.trans h (List.prefix_append _ _)
  | endsWith v =>
    change v.toList <:+ (doubled value).toList
    rw [doubled_toList]
    exact List.IsSuffix.trans h ⟨value.toList ++ [' '], by simp⟩
  | hasWord v =>
    change v ∈ textWords (doubled value)
    rw [textWords, doubled_toList, Text.words_append_blank (by decide), List.map_append]
    exact List.mem_append_left _ h

/-- The two pages stand alike, and where the second one shows anything else than the first one, it
is the double of a value under this name. -/
structure Page.Doubles (p q : Page) (name value : String) : Prop where
  tag : ∀ n, q.tag? n = p.tag? n
  parent : ∀ n, q.parent? n = p.parent? n
  size : q.nodes.size = p.nodes.size
  others : ∀ n path, path ≠ name → q.property? n path = p.property? n path
  value : ∀ n actual, p.property? n name = some actual →
    actual = value ∧ q.property? n name = some (doubled value)

variable {p q : Page} {name value : String} {n : NodeId}

theorem Compound.Holds.doubled {c : Compound} (h : c.Holds p n) (hd : p.Doubles q name value)
    (hid : name ≠ "id") (hclass : name ≠ "class") (hne : ⟨name, .equals value⟩ ∉ c.attributes) :
    c.Holds q n where
  element := by
    have helement := h.element
    rwa [Page.isElement, ← hd.tag] at helement
  tag t ht := (hd.tag n).trans (h.tag t ht)
  id i hi := (hd.others n "id" hid.symm).trans (h.id i hi)
  classes cl hcl := by
    obtain ⟨actual, hactual, hword⟩ := h.classes cl hcl
    exact ⟨actual, (hd.others n "class" hclass.symm).trans hactual, hword⟩
  attributes f hf := by
    obtain ⟨actual, hactual, hholds⟩ := h.attributes f hf
    by_cases hname : f.name = name
    · rw [hname] at hactual ⊢
      obtain ⟨rfl, hdouble⟩ := hd.value n actual hactual
      refine ⟨_, hdouble, f.test.holds_doubled hholds fun htest => hne ?_⟩
      rwa [← hname, ← htest]
    · exact ⟨actual, (hd.others n f.name hname).trans hactual, hholds⟩

theorem Chain.accepts_doubled {chain : Chain} (h : chain.accepts p n = true)
    (hd : p.Doubles q name value) (hid : name ≠ "id") (hclass : name ≠ "class")
    (hne : ∀ c ∈ chain.compounds, ⟨name, .equals value⟩ ∉ c.attributes) :
    chain.accepts q n = true := by
  have hcompound {c : Compound} {n : NodeId} (hc : ⟨name, .equals value⟩ ∉ c.attributes)
      (h : c.accepts p n = true) : c.accepts q n = true :=
    Compound.accepts_iff.mpr ((Compound.accepts_iff.mp h).doubled hd hid hclass hc)
  induction chain generalizing n with
  | one c => exact hcompound (hne c (List.mem_singleton_self c)) h
  | step before op c ih =>
    have hbefore {up : NodeId} (h : before.accepts p up = true) : before.accepts q up = true :=
      ih h fun d hd => hne d (List.mem_append_left _ hd)
    have hlast := hcompound (n := n) (hne c (List.mem_append_right _ (List.mem_singleton_self c)))
    have hancestors (fuel : Nat) (n : NodeId) :
        q.ancestorsUpTo fuel n = p.ancestorsUpTo fuel n := by
      induction fuel generalizing n with
      | zero => rfl
      | succ fuel ih =>
        rw [Page.ancestorsUpTo, Page.ancestorsUpTo, hd.parent]
        cases p.parent? n with
        | none => rfl
        | some up => simp only [ih]
    cases op with
    | child =>
      rw [accepts, Bool.and_eq_true] at h ⊢
      refine ⟨hlast h.1, ?_⟩
      rw [hd.parent]
      cases hup : p.parent? n with
      | none => simp [hup] at h
      | some up =>
        rw [hup] at h
        exact hbefore h.2
    | descendant =>
      rw [accepts, Bool.and_eq_true, List.any_eq_true] at h ⊢
      obtain ⟨hc, up, hup, hread⟩ := h
      refine ⟨hlast hc, up, ?_, hbefore hread⟩
      rwa [Page.ancestors, hd.size, hancestors]

theorem Selector.accepts_doubled {chains : List Chain}
    (h : (Selector.css chains).accepts p n = true) (hd : p.Doubles q name value)
    (hid : name ≠ "id") (hclass : name ≠ "class")
    (hne : ∀ chain ∈ chains, ∀ c ∈ chain.compounds, ⟨name, .equals value⟩ ∉ c.attributes) :
    (Selector.css chains).accepts q n = true := by
  rw [accepts, List.any_eq_true] at h ⊢
  obtain ⟨chain, hchain, hread⟩ := h
  exact ⟨chain, hchain, chain.accepts_doubled hread hd hid hclass (hne chain hchain)⟩

end PageOverlay
