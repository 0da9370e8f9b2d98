import PageOverlay.Proofs.Selector.Written
import PageOverlay.Proofs.Sheet.Filling
import PageOverlay.Proofs.Text.AsciiCase
import PageOverlay.Proofs.Text.Trimming
import PageOverlay.Proofs.Text.WordCharacters

/-!
# Reading a written compound

A part of a compound is read up to the first character that no name can hold, and each part begins
with such a character. So the parts are read back one by one, whatever follows the compound.
-/

set_option autoImplicit false

namespace PageOverlay

namespace Selector

variable {c : Char} {cs name rest : List Char}

theorem isAttributeNameChar_of_isNameChar (h : isNameChar c = true) :
    isAttributeNameChar c = true := by
  simp [isAttributeNameChar, h]

theorem not_blank_of_isAttributeNameChar (h : isAttributeNameChar c = true) :
    Text.isBlank c = false := by
  simp only [isAttributeNameChar, isNameChar, Bool.or_eq_true, beq_iff_eq] at h
  rcases h with ((h | rfl) | rfl) | rfl
  · exact Text.not_blank_of_isWord h
  · decide
  · decide
  · decide

def Stops (p : Char → Bool) (rest : List Char) : Prop := ∀ c ∈ rest.head?, p c = false

theorem stops_cons {p : Char → Bool} (h : p c = false) (cs : List Char) : Stops p (c :: cs) := by
  intro d hd
  obtain rfl := Option.some.inj hd
  exact h

theorem takeWhile_name {p : Char → Bool} (hname : name.all p = true) (hrest : Stops p rest) :
    (name ++ rest).takeWhile p = name := by
  rw [(Text.takeWhile_append hrest).1, List.takeWhile_eq_self_iff]
  exact List.all_eq_true.mp hname

theorem trimStart_name (hname : name.all isAttributeNameChar = true) (hne : name ≠ [])
    (rest : List Char) : Text.trimStart (name ++ rest) = name ++ rest := by
  obtain ⟨c, cs, rfl⟩ := List.exists_cons_of_ne_nil hne
  have hc : isAttributeNameChar c = true := List.all_eq_true.mp hname c List.mem_cons_self
  exact Text.trimStart_cons (not_blank_of_isAttributeNameChar hc) _

theorem afterBracket?_bracket (rest : List Char) : afterBracket? (']' :: rest) = some rest := by
  rw [afterBracket?, Text.trimStart_cons (by decide)]
  rfl

theorem quotedValue?_quoted {q : Char} {value : List Char} (h : q ∉ value) (rest : List Char) :
    quotedValue? q (q :: (value ++ q :: ']' :: rest)) = some (value, rest) := by
  simp only [quotedValue?, if_pos, Text.cutAtFirst?_of_first h, afterBracket?_bracket,
    Option.map_some]

theorem attributeValue?_quoted {q : Char} (hq : q = '"' ∨ q = '\'') {value : List Char}
    (h : q ∉ value) (rest : List Char) :
    attributeValue? (q :: (value ++ q :: ']' :: rest)) = some (value, rest) := by
  rw [attributeValue?]
  rcases hq with rfl | rfl
  · rw [quotedValue?_quoted h, Option.some_or]
  · have hother : quotedValue? '"' ('\'' :: (value ++ '\'' :: ']' :: rest)) = none := rfl
    rw [hother, quotedValue?_quoted h, Option.none_or, Option.some_or]

theorem operator?_sign {t : AttributeTest} {v : String} (h : t.value? = some v) (rest : List Char) :
    ∃ make, operator? (t.sign ++ rest) = some (make, rest) ∧ make v = t := by
  cases t with
  | present => cases h
  | equals w | contains w | beginsWith w | endsWith w | hasWord w =>
    obtain rfl := Option.some.inj h
    exact ⟨_, rfl, rfl⟩

theorem sign_head {t : AttributeTest} {v : String} (h : t.value? = some v) :
    ∃ d ds, t.sign = d :: ds ∧ isAttributeNameChar d = false ∧ Text.isBlank d = false := by
  cases t with
  | present => cases h
  | equals w | contains w | beginsWith w | endsWith w | hasWord w =>
    exact ⟨_, _, rfl, by decide, by decide⟩

theorem attribute?_name {name : String} (h : IsNameOf isAttributeNameChar name) {c : Char}
    (hc : isAttributeNameChar c = false) (hblank : Text.isBlank c = false) (cs : List Char) :
    attribute? (name.toList ++ c :: cs) =
      match operator? (c :: cs) with
      | some (test, rest) =>
        (attributeValue? (Text.trimStart rest)).map fun (value, after) =>
          ({ name, test := test (String.ofList value) }, after)
      | none => (afterBracket? (c :: cs)).map fun after => ({ name, test := .present }, after) := by
  have hne : name.toList.isEmpty = false := by simpa using h.ne_nil
  cases hoperator : operator? (c :: cs) <;>
    simp only [attribute?, trimStart_name h.all h.ne_nil, takeWhile_name h.all (stops_cons hc cs),
      List.drop_left, Text.trimStart_cons hblank, hne, Bool.false_eq_true, if_false,
      String.ofList_toList, hoperator]

theorem attribute?_written {f : AttributeFilter} (hf : f.Writable) {text : List Char}
    (h : f.WrittenAs ('[' :: text)) (rest : List Char) :
    attribute? (text ++ rest) = some (f, rest) := by
  obtain ⟨name, test⟩ := f
  rw [AttributeFilter.WrittenAs] at h
  split at h
  · next hv =>
    have htest : test = .present := by
      cases test with
      | present => rfl
      | equals w | contains w | beginsWith w | endsWith w | hasWord w => cases hv
    subst htest
    obtain ⟨-, rfl⟩ := List.cons.inj h
    rw [List.append_assoc, List.singleton_append,
      attribute?_name hf.name (by decide) (by decide)]
    change (afterBracket? (']' :: rest)).map _ = _
    rw [afterBracket?_bracket]
    rfl
  · next v hv =>
    obtain ⟨q, hq, hnot, htext⟩ := h
    obtain ⟨-, rfl⟩ := List.cons.inj htext
    obtain ⟨d, ds, hsign, hstop, hblank⟩ := sign_head hv
    obtain ⟨make, hmake, hmade⟩ := operator?_sign hv (q :: (v.toList ++ q :: ']' :: rest))
    have htail : name.toList ++ (test.sign ++ q :: (v.toList ++ [q, ']'])) ++ rest =
        name.toList ++ d :: (ds ++ q :: (v.toList ++ q :: ']' :: rest)) := by simp [hsign]
    have hquote : Text.isBlank q = false := by rcases hq with rfl | rfl <;> decide
    rw [htail, attribute?_name hf.name hstop hblank]
    rw [hsign, List.cons_append] at hmake
    simp only [hmake, Text.trimStart_cons hquote, attributeValue?_quoted hq hnot, Option.map_some,
      String.ofList_toList, hmade]

theorem part?_id {i : String} (h : IsNameOf isNameChar i) (c : Compound) {rest : List Char}
    (hrest : Stops isNameChar rest) :
    part? c ('#' :: i.toList ++ rest) = some ({ c with id := some i }, rest) := by
  have hne : i.toList.isEmpty = false := by simpa using h.ne_nil
  simp only [List.cons_append, part?, takeWhile_name h.all hrest, List.drop_left, hne,
    Bool.false_eq_true, if_false, String.ofList_toList]

theorem part?_class {name : String} (h : IsNameOf isNameChar name) (c : Compound)
    {rest : List Char} (hrest : Stops isNameChar rest) :
    part? c ('.' :: name.toList ++ rest) =
      some ({ c with classes := c.classes ++ [name] }, rest) := by
  have hne : name.toList.isEmpty = false := by simpa using h.ne_nil
  simp only [List.cons_append, part?, takeWhile_name h.all hrest, List.drop_left, hne,
    Bool.false_eq_true, if_false, String.ofList_toList]

theorem part?_filter {f : AttributeFilter} (hf : f.Writable) {text : List Char}
    (h : f.WrittenAs text) (c : Compound) (rest : List Char) :
    part? c (text ++ rest) = some ({ c with attributes := c.attributes ++ [f] }, rest) := by
  obtain ⟨inside, rfl⟩ := h.starts
  rw [List.cons_append, part?, attribute?_written hf h]
  rfl

def partMarks : List Char := ['#', '.', '[']

/-- The parts take one compound to another, whatever follows each of them. No name goes on into the
next part, for each part begins with a mark. -/
inductive Grows : Compound → List (List Char) → Compound → Prop
  | done (c : Compound) : Grows c [] c
  | part {c d e : Compound} {mark : Char} {inside : List Char} {parts : List (List Char)}
      (hmark : mark ∈ partMarks)
      (hpart : ∀ rest, Stops isNameChar rest → part? c (mark :: inside ++ rest) = some (d, rest))
      (hparts : Grows d parts e) : Grows c ((mark :: inside) :: parts) e

variable {a d e : Compound} {parts parts' : List (List Char)}

theorem Grows.append (h : Grows a parts d) (g : Grows d parts' e) :
    Grows a (parts ++ parts') e := by
  induction h with
  | done c => exact g
  | part hmark hpart _ ih => exact .part hmark hpart (ih g)

theorem grows_id {i : String} (h : IsNameOf isNameChar i) (c : Compound) :
    Grows c ['#' :: i.toList] { c with id := some i } :=
  .part (by decide) (fun _ hrest => part?_id h c hrest) (.done _)

theorem grows_classes {names : List String} (h : ∀ name ∈ names, IsNameOf isNameChar name)
    (c : Compound) :
    Grows c (names.map fun name => '.' :: name.toList)
      { c with classes := c.classes ++ names } := by
  induction names generalizing c with
  | nil => simpa using Grows.done c
  | cons name names ih =>
    have hrest := ih (fun n hn => h n (List.mem_cons_of_mem _ hn))
      { c with classes := c.classes ++ [name] }
    rw [List.append_assoc] at hrest
    exact .part (by decide)
      (fun _ hstop => part?_class (h name List.mem_cons_self) c hstop) hrest

theorem grows_filters {filters : List AttributeFilter} {texts : List (List Char)}
    (h : ∀ f ∈ filters, f.Writable) (hw : List.Forall₂ AttributeFilter.WrittenAs filters texts)
    (c : Compound) : Grows c texts { c with attributes := c.attributes ++ filters } := by
  induction hw generalizing c with
  | nil => simpa using Grows.done c
  | @cons f text filters texts hf _ ih =>
    have hrest := ih (fun g hg => h g (List.mem_cons_of_mem _ hg))
      { c with attributes := c.attributes ++ [f] }
    rw [List.append_assoc] at hrest
    obtain ⟨inside, rfl⟩ := hf.starts
    exact .part (by decide)
      (fun rest _ => part?_filter (h f List.mem_cons_self) hf c rest) hrest

/-- A compound ends where nothing follows, or a blank or a `>` does. -/
def Ends (rest : List Char) : Prop := ∀ c ∈ rest.head?, (Text.isBlank c || c == '>') = true

theorem Ends.stops {rest : List Char} (h : Ends rest) : Stops isNameChar rest := by
  intro c hc
  by_contra hname
  rw [Bool.not_eq_false] at hname
  have hattribute := isAttributeNameChar_of_isNameChar hname
  have hblank := not_blank_of_isAttributeNameChar hattribute
  have hmark : c ≠ '>' := by
    rintro rfl
    exact absurd hname (by decide)
  simpa [hblank, hmark] using h c hc

theorem of_mem_partMarks {mark : Char} (h : mark ∈ partMarks) :
    isNameChar mark = false ∧ Text.isBlank mark = false ∧ mark ≠ '>' ∧ mark ≠ '*' ∧
      mark.isAlpha = false := by
  rcases List.mem_cons.mp h with rfl | h
  · decide
  rcases List.mem_cons.mp h with rfl | h
  · decide
  obtain rfl := List.mem_singleton.mp h
  decide

theorem Grows.stops {c d : Compound} {parts : List (List Char)} (h : Grows c parts d)
    {rest : List Char} (hrest : Stops isNameChar rest) :
    Stops isNameChar (parts.flatten ++ rest) := by
  cases h with
  | done => exact hrest
  | part hmark hpart hparts =>
    rw [List.flatten_cons, List.append_assoc, List.cons_append]
    exact stops_cons (of_mem_partMarks hmark).1 _

theorem Grows.length_le {c d : Compound} {parts : List (List Char)} (h : Grows c parts d) :
    parts.length ≤ parts.flatten.length := by
  induction h with
  | done c => exact Nat.le_refl _
  | part _ _ _ ih =>
    simp only [List.flatten_cons, List.length_append, List.length_cons]
    omega

theorem parts_of_grows {c d : Compound} {ps : List (List Char)} (h : Grows c ps d)
    {rest : List Char} (hrest : Ends rest) {fuel : Nat} (hfuel : ps.length ≤ fuel) :
    Selector.parts fuel c (ps.flatten ++ rest) = .ok (d, rest) := by
  induction h generalizing fuel with
  | done c =>
    cases fuel with
    | zero => rfl
    | succ fuel =>
      cases rest with
      | nil => rfl
      | cons r rest =>
        have hr := hrest r rfl
        simp only [List.flatten_nil, List.nil_append, Selector.parts, hr, if_true]
  | @part c d e mark inside ps hmark hpart hparts ih =>
    cases fuel with
    | zero => simp at hfuel
    | succ fuel =>
      obtain ⟨-, hblank, hchild, -, -⟩ := of_mem_partMarks hmark
      have hread := hpart (ps.flatten ++ rest) (hparts.stops hrest.stops)
      rw [List.cons_append] at hread
      rw [List.flatten_cons, List.append_assoc, List.cons_append]
      simp only [Selector.parts, hblank, beq_eq_false_iff_ne.mpr hchild, Bool.or_self,
        Bool.false_eq_true, if_false, hread]
      exact ih (by simpa using hfuel)

theorem isTagChar_ascii {c : Char} (h : isTagChar c = true) :
    c.toNat < 128 ∧ isNameChar c = true ∧ c.toUpper = c := by
  have hcode : c.toNat < 128 := by
    simp only [isTagChar, Bool.or_eq_true, beq_iff_eq] at h
    rcases h with ((h | h) | rfl) | rfl
    · exact Nat.lt_of_le_of_lt (of_decide_eq_true h).2 (by decide)
    · exact Nat.lt_of_le_of_lt (of_decide_eq_true (Bool.and_eq_true_iff.mp h).2) (by decide)
    · decide
    · decide
  have hcases : (!isTagChar c || (isNameChar c && c.toUpper == c)) = true :=
    Text.of_ascii (P := fun c => !isTagChar c || (isNameChar c && c.toUpper == c)) (by decide) hcode
  rw [h] at hcases
  simpa [hcode] using hcases

theorem all_isNameChar {cs : List Char} (h : cs.all isTagChar = true) :
    cs.all isNameChar = true :=
  List.all_eq_true.mpr fun c hc => (isTagChar_ascii (List.all_eq_true.mp h c hc)).2.1

theorem IsTag.all {t : String} (h : IsTag t) : t.toList.all isTagChar = true := by
  obtain ⟨c, cs, ht, hupper, hcs⟩ := h
  simp [ht, isTagChar, hupper, hcs]

theorem upper_of_isTagChar {cs : List Char} (h : cs.all isTagChar = true) :
    Text.upper cs = cs := by
  have hchars := List.all_eq_true.mp h
  rw [Text.upper_ascii (List.all_eq_true.mpr fun c hc =>
    decide_eq_true (isTagChar_ascii (hchars c hc)).1)]
  exact (List.map_congr_left fun c hc => (isTagChar_ascii (hchars c hc)).2.2).trans (List.map_id cs)

theorem tag_cons {c : Char} (hstar : c ≠ '*') (rest : List Char) :
    tag (c :: rest) =
      if c.isAlpha then
        (some (String.ofList (Text.upper (c :: rest.takeWhile isNameChar))),
          rest.drop (rest.takeWhile isNameChar).length)
      else (none, c :: rest) :=
  tag.eq_2 c rest hstar

theorem tag_of_isTag {t : String} (h : IsTag t) {rest : List Char}
    (hrest : Stops isNameChar rest) : tag (t.toList ++ rest) = (some t, rest) := by
  have hall := h.all
  obtain ⟨c, cs, ht, hupper, hcs⟩ := h
  rw [ht] at hall
  have hstar : c ≠ '*' := by
    rintro rfl
    exact absurd hupper (by decide)
  have halpha : c.isAlpha = true := Bool.or_eq_true_iff.mpr (.inl hupper)
  rw [ht, List.cons_append, tag_cons hstar]
  simp only [halpha, if_true, takeWhile_name (all_isNameChar hcs) hrest,
    upper_of_isTagChar hall, List.drop_left]
  rw [← ht, String.ofList_toList]

theorem tag_ofParts {t : Option String} (ht : ∀ name, t = some name → IsTag name) {c d : Compound}
    {ps : List (List Char)} (h : Grows c ps d) {rest : List Char} (hrest : Stops isNameChar rest) :
    tag (Compound.ofParts ((t.map String.toList).toList ++ ps) ++ rest) =
      (t, ps.flatten ++ rest) := by
  cases t with
  | some name =>
    change tag (name.toList ++ ps.flatten ++ rest) = _
    rw [List.append_assoc, tag_of_isTag (ht name rfl) (h.stops hrest)]
  | none =>
    cases h with
    | done => rfl
    | @part _ _ _ mark inside ps hmark _ _ =>
      obtain ⟨-, -, -, hstar, halpha⟩ := of_mem_partMarks hmark
      change tag (mark :: inside ++ ps.flatten ++ rest) = _
      rw [List.append_assoc, List.cons_append, tag_cons hstar]
      simp [halpha]

theorem grows_parts {c : Compound} (h : c.Writable) {filters : List (List Char)}
    (hw : List.Forall₂ AttributeFilter.WrittenAs c.attributes filters) :
    Grows { tag := c.tag } ((c.id.map fun i => '#' :: i.toList).toList ++
      ((c.classes.map fun name => '.' :: name.toList) ++ filters)) c := by
  obtain ⟨t, i, classes, attributes⟩ := c
  have hid : Grows { tag := t } (i.map fun i => '#' :: i.toList).toList { tag := t, id := i } := by
    cases i with
    | none => exact .done _
    | some i => exact grows_id (h.id i rfl) _
  exact hid.append ((grows_classes h.classes _).append (grows_filters h.attributes hw _))

theorem compound_written {c : Compound} (h : c.Writable) {text : List Char}
    (hw : c.WrittenAs text) {rest : List Char} (hrest : Ends rest) :
    compound (text ++ rest) = .ok (c, rest) := by
  obtain ⟨filters, hfilters, rfl⟩ := hw
  have hgrows := grows_parts h hfilters
  have hparts : c.names ++ filters = (c.tag.map String.toList).toList ++
      ((c.id.map fun i => '#' :: i.toList).toList ++
        ((c.classes.map fun name => '.' :: name.toList) ++ filters)) := by
    simp only [Compound.names, List.append_assoc]
  rw [hparts, compound, tag_ofParts h.tag hgrows hrest.stops]
  refine parts_of_grows hgrows hrest ?_
  have hle := hgrows.length_le
  simp only [List.length_append] at hle ⊢
  omega

end Selector
end PageOverlay
