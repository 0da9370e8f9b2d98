import Mathlib.Data.List.Forall2
import PageOverlay.Selector.Parser
import PageOverlay.Text.Pieces

/-!
# Selectors as they are written

A compound is written part by part, its tag first, and as a star if it asks for nothing. A value
stands between two quotes of a kind that it does not hold. Blanks or a `>` between blanks join the
compounds of a chain, and commas part the alternatives. Which quotes are taken is left open, so one
selector may be written in several ways.
-/

set_option autoImplicit false

namespace PageOverlay

namespace Selector

def isTagChar (c : Char) : Bool := c.isUpper || c.isDigit || c == '-' || c == '_'

def IsTag (t : String) : Prop :=
  ∃ c cs, t.toList = c :: cs ∧ c.isUpper = true ∧ cs.all isTagChar = true

structure IsNameOf (p : Char → Bool) (name : String) : Prop where
  ne_nil : name.toList ≠ []
  all : name.toList.all p = true

end Selector

open Selector (IsTag IsNameOf isNameChar isAttributeNameChar)

def AttributeTest.value? : AttributeTest → Option String
  | .present => none
  | .equals v | .contains v | .beginsWith v | .endsWith v | .hasWord v => some v

def AttributeTest.sign : AttributeTest → List Char
  | .present => []
  | .equals _ => ['=']
  | .contains _ => ['*', '=']
  | .beginsWith _ => ['^', '=']
  | .endsWith _ => ['$', '=']
  | .hasWord _ => ['~', '=']

structure AttributeFilter.Writable (f : AttributeFilter) : Prop where
  name : IsNameOf isAttributeNameChar f.name
  value : ∀ v, f.test.value? = some v → '"' ∉ v.toList ∨ '\'' ∉ v.toList

structure Compound.Writable (c : Compound) : Prop where
  tag : ∀ t, c.tag = some t → IsTag t
  id : ∀ i, c.id = some i → IsNameOf isNameChar i
  classes : ∀ name ∈ c.classes, IsNameOf isNameChar name
  attributes : ∀ f ∈ c.attributes, f.Writable

def Chain.Writable : Chain → Prop
  | .one c => c.Writable
  | .step before _ c => before.Writable ∧ c.Writable

def AttributeFilter.WrittenAs (f : AttributeFilter) (text : List Char) : Prop :=
  match f.test.value? with
  | none => text = '[' :: (f.name.toList ++ [']'])
  | some v => ∃ q, (q = '"' ∨ q = '\'') ∧ q ∉ v.toList ∧
      text = '[' :: (f.name.toList ++ (f.test.sign ++ q :: (v.toList ++ [q, ']'])))

def Compound.names (c : Compound) : List (List Char) :=
  (c.tag.map String.toList).toList ++ (c.id.map fun i => '#' :: i.toList).toList ++
    c.classes.map fun name => '.' :: name.toList

def Compound.ofParts : List (List Char) → List Char
  | [] => ['*']
  | part :: parts => part ++ parts.flatten

def Compound.WrittenAs (c : Compound) (text : List Char) : Prop :=
  ∃ filters, List.Forall₂ AttributeFilter.WrittenAs c.attributes filters ∧
    text = Compound.ofParts (c.names ++ filters)

def Combinator.text : Combinator → List Char
  | .descendant => [' ']
  | .child => [' ', '>', ' ']

def Chain.WrittenAs : Chain → List Char → Prop
  | .one c, text => c.WrittenAs text
  | .step before op c, text =>
    ∃ a b, before.WrittenAs a ∧ c.WrittenAs b ∧ text = a ++ (op.text ++ b)

def Selector.WrittenAs (alternatives : List Chain) (text : List Char) : Prop :=
  ∃ parts, List.Forall₂ Chain.WrittenAs alternatives parts ∧ text = Text.joinWith [',', ' '] parts

theorem AttributeFilter.WrittenAs.starts {f : AttributeFilter} {text : List Char}
    (h : f.WrittenAs text) : ∃ inside, text = '[' :: inside := by
  rw [AttributeFilter.WrittenAs] at h
  split at h
  · exact ⟨_, h⟩
  · obtain ⟨q, -, -, htext⟩ := h
    exact ⟨_, htext⟩

theorem exists_forall₂ {α β : Type} {R : α → β → Prop} {as : List α} (h : ∀ a ∈ as, ∃ b, R a b) :
    ∃ bs, List.Forall₂ R as bs := by
  induction as with
  | nil => exact ⟨[], .nil⟩
  | cons a as ih =>
    obtain ⟨b, hb⟩ := h a List.mem_cons_self
    obtain ⟨bs, hbs⟩ := ih fun c hc => h c (List.mem_cons_of_mem a hc)
    exact ⟨b :: bs, .cons hb hbs⟩

theorem forall_mem_right {α β : Type} {R : α → β → Prop} {P : β → Prop} {as : List α}
    {bs : List β} (hw : List.Forall₂ R as bs) (h : ∀ a ∈ as, ∀ b, R a b → P b) :
    ∀ b ∈ bs, P b := by
  induction hw with
  | nil => simp
  | cons hab _ ih =>
    exact List.forall_mem_cons.mpr ⟨h _ List.mem_cons_self _ hab,
      ih fun a ha => h a (List.mem_cons_of_mem _ ha)⟩

theorem AttributeFilter.Writable.exists_text {f : AttributeFilter} (h : f.Writable) :
    ∃ text, f.WrittenAs text := by
  cases hv : f.test.value? with
  | none => exact ⟨'[' :: (f.name.toList ++ [']']), by simp [WrittenAs, hv]⟩
  | some v =>
    have hquote : ∃ q, (q = '"' ∨ q = '\'') ∧ q ∉ v.toList := by
      rcases h.value v hv with hdouble | hsingle
      · exact ⟨'"', .inl rfl, hdouble⟩
      · exact ⟨'\'', .inr rfl, hsingle⟩
    obtain ⟨q, hq, hnot⟩ := hquote
    refine ⟨'[' :: (f.name.toList ++ (f.test.sign ++ q :: (v.toList ++ [q, ']']))), ?_⟩
    rw [WrittenAs, hv]
    exact ⟨q, hq, hnot, rfl⟩

theorem Compound.Writable.exists_text {c : Compound} (h : c.Writable) :
    ∃ text, c.WrittenAs text := by
  obtain ⟨filters, hfilters⟩ := exists_forall₂ fun f hf => (h.attributes f hf).exists_text
  exact ⟨_, filters, hfilters, rfl⟩

theorem Chain.Writable.exists_text {chain : Chain} (h : chain.Writable) :
    ∃ text, chain.WrittenAs text := by
  induction chain with
  | one c => exact Compound.Writable.exists_text h
  | step before op c ih =>
    obtain ⟨a, ha⟩ := ih h.1
    obtain ⟨b, hb⟩ := h.2.exists_text
    exact ⟨_, a, b, ha, hb, rfl⟩

theorem Selector.exists_text {alternatives : List Chain}
    (h : ∀ chain ∈ alternatives, chain.Writable) : ∃ text, WrittenAs alternatives text := by
  obtain ⟨parts, hparts⟩ := exists_forall₂ fun chain hchain => (h chain hchain).exists_text
  exact ⟨_, parts, hparts, rfl⟩

end PageOverlay
