import Mathlib.Logic.Relation
import PageOverlay.Proofs.Page.Operations
import PageOverlay.Selector.Parser

/-!
# Which nodes a selector names

A chain of compounds fits a node if elements can be found for all of its compounds, the last of them
the node itself, each one the parent or some ancestor of the next as the chain asks for. The search
goes up from the node, compound by compound, and finds such elements wherever they are.
-/

set_option autoImplicit false

namespace PageOverlay

namespace AttributeTest

def Holds (actual : String) : AttributeTest → Prop
  | .present => True
  | .equals v => actual = v
  | .contains v => v.toList <:+: actual.toList
  | .beginsWith v => v.toList <+: actual.toList
  | .endsWith v => v.toList <:+ actual.toList
  | .hasWord v => v ∈ textWords actual

end AttributeTest

structure Compound.Holds (c : Compound) (p : Page) (n : NodeId) : Prop where
  element : p.isElement n
  tag : ∀ t, c.tag = some t → p.tag? n = some t
  id : ∀ i, c.id = some i → p.property? n "id" = some i
  classes : ∀ name ∈ c.classes, ∃ value, p.property? n "class" = some value ∧ name ∈ textWords value
  attributes : ∀ f ∈ c.attributes, ∃ actual, p.property? n f.name = some actual ∧
    f.test.Holds actual

theorem Text.occursIn_iff {needle cs : List Char} : occursIn needle cs = true ↔ needle <:+: cs := by
  induction cs with
  | nil => simp [occursIn]
  | cons c cs ih =>
    rw [occursIn, Bool.or_eq_true, ih, List.isPrefixOf_iff_prefix, List.infix_cons_iff]

theorem AttributeTest.accepts_iff {t : AttributeTest} {actual : String} :
    t.accepts actual = true ↔ t.Holds actual := by
  cases t with
  | present => simp [accepts, Holds]
  | equals v => simp [accepts, Holds]
  | contains v => exact Text.occursIn_iff
  | beginsWith v => exact List.isPrefixOf_iff_prefix
  | endsWith v => exact List.isSuffixOf_iff_suffix
  | hasWord v => simp [accepts, Holds]

variable {p : Page} {n m : NodeId}

theorem AttributeFilter.accepts_iff {f : AttributeFilter} :
    f.accepts p n = true ↔ ∃ actual, p.property? n f.name = some actual ∧ f.test.Holds actual := by
  rw [accepts]
  cases p.property? n f.name with
  | none => simp
  | some actual => simp [AttributeTest.accepts_iff]

theorem contains_class_iff {name : String} :
    (textWords ((p.property? n "class").getD "")).contains name = true ↔
      ∃ value, p.property? n "class" = some value ∧ name ∈ textWords value := by
  have hnone : textWords "" = [] := rfl
  cases p.property? n "class" with
  | none => simp [hnone]
  | some value => simp

theorem isNone_or_eq_iff {asked actual : Option String} :
    (asked.isNone || asked == actual) = true ↔ ∀ a, asked = some a → actual = some a := by
  cases asked with
  | none => simp
  | some a =>
    rw [Option.isNone_some, Bool.false_or, beq_iff_eq]
    exact ⟨fun h b hb => by rw [← h, hb], fun h => (h a rfl).symm⟩

theorem Compound.accepts_iff {c : Compound} : c.accepts p n = true ↔ c.Holds p n := by
  rw [accepts]
  cases ht : p.tag? n with
  | none =>
    refine ⟨fun h => (Bool.false_ne_true h).elim, fun h => ?_⟩
    simpa [Page.isElement, ht] using h.element
  | some tag =>
    have hid : (c.id.isNone || p.property? n "id" == c.id) = true ↔
        ∀ i, c.id = some i → p.property? n "id" = some i := by
      rw [Bool.beq_comm]
      exact isNone_or_eq_iff
    simp only [Bool.and_eq_true, isNone_or_eq_iff, hid, List.all_eq_true, contains_class_iff,
      AttributeFilter.accepts_iff]
    constructor
    · rintro ⟨⟨⟨htag, hid⟩, hclasses⟩, hattributes⟩
      exact ⟨by simp [Page.isElement, ht], ht ▸ htag, hid, hclasses, hattributes⟩
    · rintro ⟨-, htag, hid, hclasses, hattributes⟩
      exact ⟨⟨⟨ht ▸ htag, hid⟩, hclasses⟩, hattributes⟩

namespace Page

def HasAncestor (p : Page) : NodeId → NodeId → Prop :=
  Relation.TransGen fun k up => p.parent? k = some up

theorem hasAncestor_iff :
    p.HasAncestor n m ↔ ∃ up, p.parent? n = some up ∧ (m = up ∨ p.HasAncestor up m) := by
  rw [HasAncestor, Relation.TransGen.head'_iff]
  refine exists_congr fun up => and_congr_right fun _ => ?_
  rw [Relation.reflTransGen_iff_eq_or_transGen]

theorem WellFormed.mem_ancestors (hw : WellFormed p) : m ∈ p.ancestors n ↔ p.HasAncestor n m := by
  induction n using Nat.strongRecOn with
  | ind n ih =>
    rw [hw.ancestors_eq, hasAncestor_iff]
    cases hup : p.parent? n with
    | none => simp
    | some up => simp [ih up (hw.parent?_lt hup)]

end Page

def Combinator.Joins (p : Page) (up n : NodeId) : Combinator → Prop
  | .child => p.parent? n = some up
  | .descendant => p.HasAncestor n up

namespace Chain

def compounds : Chain → List Compound
  | .one c => [c]
  | .step before _ c => before.compounds ++ [c]

def combinators : Chain → List Combinator
  | .one _ => []
  | .step before op _ => before.combinators ++ [op]

/-- The nodes are elements for the compounds, one for each, joined as the chain asks for. -/
structure Fits (chain : Chain) (p : Page) (ms : List NodeId) : Prop where
  length : ms.length = chain.compounds.length
  holds : ∀ (i : Nat) (c : Compound) (m : NodeId), chain.compounds[i]? = some c →
    ms[i]? = some m → c.Holds p m
  joined : ∀ (i : Nat) (op : Combinator) (up m : NodeId), chain.combinators[i]? = some op →
    ms[i]? = some up → ms[i + 1]? = some m → op.Joins p up m

theorem length_compounds (chain : Chain) :
    chain.compounds.length = chain.combinators.length + 1 := by
  induction chain with
  | one c => rfl
  | step before op c ih => simp [compounds, combinators, ih]

theorem fits_one {c : Compound} {ms : List NodeId} :
    (one c).Fits p ms ↔ ∃ m, ms = [m] ∧ c.Holds p m := by
  constructor
  · intro h
    obtain ⟨m, rfl⟩ := List.length_eq_one_iff.mp h.length
    exact ⟨m, rfl, h.holds 0 c m rfl rfl⟩
  · rintro ⟨m, rfl, hm⟩
    refine ⟨rfl, fun i d k hd hk => ?_, fun i op _ _ hop => by simp [combinators] at hop⟩
    cases i with
    | zero =>
      obtain rfl := Option.some.inj hd
      obtain rfl := Option.some.inj hk
      exact hm
    | succ i => simp at hk

theorem fits_step {before : Chain} {op : Combinator} {c : Compound} {ms : List NodeId} :
    (step before op c).Fits p ms ↔
      ∃ ks up m, ms = ks ++ [m] ∧ before.Fits p ks ∧ ks.getLast? = some up ∧ op.Joins p up m ∧
        c.Holds p m := by
  have hlength := before.length_compounds
  constructor
  · intro h
    have hms : ms.length = before.compounds.length + 1 := by simpa [compounds] using h.length
    obtain ⟨ks, m, rfl⟩ :=
      ms.eq_nil_or_concat'.resolve_left (List.ne_nil_of_length_eq_add_one hms)
    have hks : ks.length = before.compounds.length := by simpa using hms
    obtain ⟨js, up, rfl⟩ :=
      ks.eq_nil_or_concat'.resolve_left (List.ne_nil_of_length_eq_add_one (hks.trans hlength))
    have hjs : js.length = before.combinators.length := by simpa [hlength] using hks
    refine ⟨js ++ [up], up, m, rfl, ⟨hks, ?_, ?_⟩, by simp, ?_, ?_⟩
    · intro i d k hd hk
      exact h.holds i d k (by grind [compounds]) (by grind)
    · intro i o u k ho hu hk
      exact h.joined i o u k (by grind [combinators]) (by grind) (by grind)
    · exact h.joined before.combinators.length op up m (by simp [combinators]) (by grind) (by grind)
    · exact h.holds before.compounds.length c m (by simp [compounds]) (by grind)
  · rintro ⟨ks, up, m, rfl, hks, hup, hjoins, hc⟩
    have hlast := hks.length
    refine ⟨by simp [compounds, hlast], fun i d k hd hk => ?_, fun i o u k ho hu hk => ?_⟩
    · by_cases hi : i < ks.length
      · exact hks.holds i d k (by grind [compounds]) (by grind)
      · grind [compounds]
    · by_cases hi : i < before.combinators.length
      · exact hks.joined i o u k (by grind [combinators]) (by grind) (by grind)
      · grind [combinators]

theorem accepts_iff (hw : p.WellFormed) (chain : Chain) :
    chain.accepts p n = true ↔ ∃ ms, chain.Fits p ms ∧ ms.getLast? = some n := by
  induction chain generalizing n with
  | one c =>
    simp [accepts, Compound.accepts_iff, fits_one]
  | step before op c ih =>
    have hup : (step before op c).accepts p n = true ↔
        c.Holds p n ∧ ∃ up, op.Joins p up n ∧ before.accepts p up = true := by
      cases op with
      | child =>
        rw [accepts, Bool.and_eq_true, Compound.accepts_iff]
        cases hp : p.parent? n <;> simp [Combinator.Joins, hp]
      | descendant =>
        simp [accepts, Compound.accepts_iff, Combinator.Joins, hw.mem_ancestors]
    rw [hup]
    simp only [ih, fits_step]
    constructor
    · rintro ⟨hc, up, hjoins, ks, hks, hlast⟩
      exact ⟨ks ++ [n], ⟨ks, up, n, rfl, hks, hlast, hjoins, hc⟩, by simp⟩
    · rintro ⟨-, ⟨ks, up, m, rfl, hks, hlast, hjoins, hc⟩, hn⟩
      obtain rfl : m = n := by simpa using hn
      exact ⟨hc, up, hjoins, ks, hks, hlast⟩

end Chain

/-- A selector accepts a node exactly if the node is the last one of a chain of elements that fits
one of its alternatives, however far up and wherever else the search might have gone. -/
theorem Selector.accepts_iff_fits (hw : p.WellFormed) (alternatives : List Chain) (n : NodeId) :
    (Selector.css alternatives).accepts p n = true ↔
      ∃ chain ∈ alternatives, ∃ ms, chain.Fits p ms ∧ ms.getLast? = some n := by
  simp only [accepts, List.any_eq_true, Chain.accepts_iff hw]

theorem Selector.accepts_iff_fits_farther :
    let p := (Page.blank "x").performAll [.appendElement 0 "section" [], .appendElement 1 "p" [],
      .appendElement 2 "p" [], .appendElement 3 "span" []]
    let before := Chain.step (.one { tag := some "SECTION" }) .child { tag := some "P" }
    let chain := Chain.step before .descendant { tag := some "SPAN" }
    Selector.parse "section > p span" = .ok (.css [chain]) ∧ p.WellFormed ∧
      p.parent? 4 = some 3 ∧ (Selector.css [.one { tag := some "P" }]).accepts p 3 = true ∧
      (Selector.css [before]).accepts p 3 = false ∧
      ∃ ms, chain.Fits p ms ∧ ms.getLast? = some 4 := by
  intro p before chain
  have hw : p.WellFormed := ((Page.Origin.blank "x").reachable.performAll _).wellFormed
  have haccepts : (Selector.css [chain]).accepts p 4 = true := by decide +kernel
  obtain ⟨found, hfound, hfits⟩ := (Selector.accepts_iff_fits hw [chain] 4).mp haccepts
  obtain rfl := List.mem_singleton.mp hfound
  exact ⟨by decide +kernel, hw, by decide +kernel, by decide +kernel, by decide +kernel, hfits⟩

end PageOverlay
