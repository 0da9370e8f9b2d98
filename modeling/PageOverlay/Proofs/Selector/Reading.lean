import PageOverlay.Proofs.Selector.Compounds

/-!
# What a compound is read from

The text of a compound is the stretch that is read as its tag and its parts. It goes on up to a
blank, a `>` or the end. No `>` stands in it but between the brackets of a filter, and each value
that a filter compares with stands there too, between two quotes or up to a blank or the bracket.
-/

set_option autoImplicit false

namespace PageOverlay

namespace Text

theorem exists_blanks (cs : List Char) :
    ∃ blanks, allBlank blanks = true ∧ cs = blanks ++ trimStart cs :=
  ⟨cs.takeWhile isBlank, List.all_takeWhile, List.takeWhile_append_dropWhile.symm⟩

theorem trimStart_append {blanks : List Char} (h : allBlank blanks = true) (cs : List Char) :
    trimStart (blanks ++ cs) = trimStart cs :=
  List.dropWhile_append_of_pos fun c hc => List.all_eq_true.mp h c hc

end Text

namespace Selector

inductive Delimits : Char → List Char → Char → Prop
  | quotes {q : Char} {value : List Char} (hq : q = '"' ∨ q = '\'') (h : q ∉ value) :
      Delimits q value q
  | bare {a z : Char} {value : List Char} (ha : a = '=' ∨ Text.isBlank a = true)
      (hz : z = ']' ∨ Text.isBlank z = true) : Delimits a value z

def StandsIn (value text : List Char) : Prop :=
  ∃ a z, Delimits a value z ∧ a :: (value ++ [z]) <:+: text

theorem StandsIn.longer {value text longer : List Char} (h : StandsIn value text)
    (hlonger : text <:+: longer) : StandsIn value longer := by
  obtain ⟨a, z, hdelimits, hpart⟩ := h
  exact ⟨a, z, hdelimits, hpart.trans hlonger⟩

variable {cs rest value : List Char}

theorem afterBracket?_some (h : afterBracket? cs = some rest) :
    ∃ blanks, Text.allBlank blanks = true ∧ cs = blanks ++ ']' :: rest := by
  obtain ⟨blanks, hblanks, hcs⟩ := Text.exists_blanks cs
  rw [afterBracket?] at h
  split at h
  · next after hbracket =>
    obtain rfl := Option.some.inj h
    exact ⟨blanks, hblanks, by rw [← hbracket, ← hcs]⟩
  · cases h

theorem quotedValue?_some {q : Char} (h : quotedValue? q cs = some (value, rest)) :
    q ∉ value ∧ ∃ blanks, cs = q :: (value ++ q :: (blanks ++ ']' :: rest)) := by
  cases cs with
  | nil => cases h
  | cons c cs =>
    simp only [quotedValue?] at h
    split at h
    · next hc =>
      subst hc
      split at h
      · next found after hcut =>
        obtain ⟨hnot, rfl⟩ := Text.cutAtFirst?_eq_some_iff.mp hcut
        obtain ⟨left, hleft, hpair⟩ := Option.map_eq_some_iff.mp h
        obtain ⟨rfl, rfl⟩ := Prod.mk.inj hpair
        obtain ⟨blanks, -, rfl⟩ := afterBracket?_some hleft
        exact ⟨hnot, blanks, rfl⟩
      · cases h
    · cases h

theorem bareValue?_some (h : bareValue? cs = some (value, rest)) :
    ∃ z tail, (z = ']' ∨ Text.isBlank z = true) ∧ cs = value ++ z :: tail ∧
      ∃ blanks, z :: tail = blanks ++ ']' :: rest := by
  obtain ⟨left, hleft, hpair⟩ := Option.map_eq_some_iff.mp h
  obtain ⟨rfl, rfl⟩ := Prod.mk.inj hpair
  obtain ⟨blanks, hblanks, hdrop⟩ := afterBracket?_some hleft
  have hcs := List.prefix_iff_eq_append.mp (List.takeWhile_prefix (l := cs)
    fun c => c != ']' && !Text.isBlank c)
  rw [hdrop] at hcs
  cases blanks with
  | nil => exact ⟨']', left, .inl rfl, hcs.symm, [], rfl⟩
  | cons b blanks =>
    have hb : Text.isBlank b = true := List.all_eq_true.mp hblanks b List.mem_cons_self
    exact ⟨b, _, .inr hb, hcs.symm, b :: blanks, rfl⟩

theorem attributeValue?_some (h : attributeValue? cs = some (value, rest)) {a : Char}
    (ha : a = '=' ∨ Text.isBlank a = true) :
    ∃ shown, cs = shown ++ ']' :: rest ∧ StandsIn value (a :: (shown ++ [']'])) := by
  have hquoted {q : Char} (hq : q = '"' ∨ q = '\'') (h : quotedValue? q cs = some (value, rest)) :
      ∃ shown, cs = shown ++ ']' :: rest ∧ StandsIn value (a :: (shown ++ [']'])) := by
    obtain ⟨hnot, blanks, rfl⟩ := quotedValue?_some h
    exact ⟨q :: (value ++ q :: blanks), by simp, q, q, .quotes hq hnot, [a], blanks ++ [']'],
      by simp⟩
  rw [attributeValue?, Option.or_eq_some_iff, Option.or_eq_some_iff] at h
  rcases h with h | ⟨-, h | ⟨-, h⟩⟩
  · exact hquoted (.inl rfl) h
  · exact hquoted (.inr rfl) h
  · obtain ⟨z, tail, hz, rfl, blanks, htail⟩ := bareValue?_some h
    refine ⟨value ++ blanks, by rw [htail, List.append_assoc], a, z, .bare ha hz, ?_⟩
    -- the character after the value is the first of the blanks or the bracket itself
    have hshown : z :: tail = (blanks ++ [']']) ++ rest := by simp [htail]
    cases blanks with
    | nil =>
      obtain rfl := (List.cons.inj hshown).1
      exact ⟨[], [], by simp⟩
    | cons b blanks =>
      obtain rfl := (List.cons.inj hshown).1
      exact ⟨[], blanks ++ [']'], by simp⟩

theorem operator?_some {make : String → AttributeTest} (h : operator? cs = some (make, rest)) :
    ∃ sign, cs = sign ++ '=' :: rest ∧ ∀ v, (make v).value? = some v := by
  rw [operator?.eq_def] at h
  split at h <;> cases h
  · exact ⟨[], rfl, fun v => rfl⟩
  · exact ⟨['*'], rfl, fun v => rfl⟩
  · exact ⟨['^'], rfl, fun v => rfl⟩
  · exact ⟨['$'], rfl, fun v => rfl⟩
  · exact ⟨['~'], rfl, fun v => rfl⟩

/-- The value of a filter, if it has one, stands in the text that the filter is read from. -/
theorem attribute?_some {f : AttributeFilter} (h : attribute? cs = some (f, rest)) :
    ∃ inside, cs = inside ++ ']' :: rest ∧
      ∀ v, f.test.value? = some v → StandsIn v.toList (inside ++ [']']) := by
  obtain ⟨before, -, hcs⟩ := Text.exists_blanks cs
  have hname := List.prefix_iff_eq_append.mp (List.takeWhile_prefix (l := Text.trimStart cs)
    isAttributeNameChar)
  obtain ⟨blanks, -, hrest⟩ := Text.exists_blanks ((Text.trimStart cs).drop
    ((Text.trimStart cs).takeWhile isAttributeNameChar).length)
  simp only [attribute?] at h
  generalize (Text.trimStart cs).takeWhile isAttributeNameChar = name at h hname hrest
  generalize Text.trimStart ((Text.trimStart cs).drop name.length) = tail at h hrest
  have htext : cs = before ++ name ++ blanks ++ tail := by
    rw [List.append_assoc, ← hrest, List.append_assoc, hname, ← hcs]
  split at h
  · cases h
  split at h
  · next make after hoperator =>
    obtain ⟨⟨value, left⟩, hvalue, hpair⟩ := Option.map_eq_some_iff.mp h
    obtain ⟨rfl, rfl⟩ := Prod.mk.inj hpair
    obtain ⟨sign, rfl, hmake⟩ := operator?_some hoperator
    obtain ⟨gap, hgap, hafter⟩ := Text.exists_blanks after
    -- the sign and the blanks after it end with an `=` or with a blank
    obtain ⟨front, a, hfront, ha⟩ : ∃ front a, '=' :: gap = front ++ [a] ∧
        (a = '=' ∨ Text.isBlank a = true) := by
      rcases gap.eq_nil_or_concat' with rfl | ⟨gap, a, rfl⟩
      · exact ⟨[], '=', rfl, .inl rfl⟩
      · exact ⟨'=' :: gap, a, rfl, .inr (List.all_eq_true.mp hgap a (by simp))⟩
    obtain ⟨shown, hshown, hstands⟩ := attributeValue?_some hvalue ha
    refine ⟨before ++ name ++ blanks ++ sign ++ front ++ a :: shown, ?_, ?_⟩
    · have hsign : '=' :: after = front ++ a :: (shown ++ ']' :: left) := by
        rw [hafter, hshown, ← List.cons_append, hfront, List.append_assoc, List.singleton_append]
      rw [htext, hsign]
      simp
    · intro v hv
      rw [hmake] at hv
      obtain rfl := Option.some.inj hv
      rw [String.toList_ofList]
      exact hstands.longer ⟨before ++ name ++ blanks ++ sign ++ front, [], by simp⟩
  · obtain ⟨left, hleft, hpair⟩ := Option.map_eq_some_iff.mp h
    obtain ⟨rfl, rfl⟩ := Prod.mk.inj hpair
    obtain ⟨gap, -, rfl⟩ := afterBracket?_some hleft
    exact ⟨before ++ name ++ blanks ++ gap, by rw [htext]; simp, fun _ hv => by cases hv⟩

def Gives (text : List Char) (f : AttributeFilter) : Prop :=
  ∀ v, f.test.value? = some v → StandsIn v.toList text

def KeepsChild (text : List Char) : Prop :=
  '>' ∈ text → ∃ inside, text = '[' :: (inside ++ [']'])

variable {c d : Compound}

theorem child_not_mem_name (name : List Char) : '>' ∉ name.takeWhile isNameChar := fun h =>
  Bool.false_ne_true (List.all_eq_true.mp List.all_takeWhile '>' h)

theorem part?_some (h : part? c cs = some (d, rest)) :
    ∃ text, cs = text ++ rest ∧ text ≠ [] ∧ KeepsChild text ∧
      ∀ f ∈ d.attributes, f ∈ c.attributes ∨ Gives text f := by
  have hname (after : List Char) :
      after.takeWhile isNameChar ++ after.drop (after.takeWhile isNameChar).length = after :=
    List.prefix_iff_eq_append.mp (List.takeWhile_prefix _)
  rw [part?.eq_def] at h
  split at h
  · next after =>
    simp only at h
    split at h
    · cases h
    · cases h
      exact ⟨'#' :: after.takeWhile isNameChar, by rw [List.cons_append, hname],
        List.cons_ne_nil _ _, fun hchild => absurd hchild (by simp [child_not_mem_name]),
        fun f hf => .inl hf⟩
  · next after =>
    simp only at h
    split at h
    · cases h
    · cases h
      exact ⟨'.' :: after.takeWhile isNameChar, by rw [List.cons_append, hname],
        List.cons_ne_nil _ _, fun hchild => absurd hchild (by simp [child_not_mem_name]),
        fun f hf => .inl hf⟩
  · next after =>
    obtain ⟨⟨filter, left⟩, hfilter, hpair⟩ := Option.map_eq_some_iff.mp h
    obtain ⟨rfl, rfl⟩ := Prod.mk.inj hpair
    obtain ⟨inside, rfl, hgives⟩ := attribute?_some hfilter
    refine ⟨'[' :: (inside ++ [']']), by simp, List.cons_ne_nil _ _, fun _ => ⟨inside, rfl⟩, ?_⟩
    intro f hf
    rcases List.mem_append.mp hf with hf | hf
    · exact .inl hf
    · obtain rfl := List.mem_singleton.mp hf
      exact .inr fun v hv => (hgives v hv).longer ⟨['['], [], by simp⟩
  · cases h

/-- Each part takes one character or more, so the bound on the parts is never reached. -/
theorem parts_ok {fuel : Nat} (h : parts fuel c cs = .ok (d, rest)) (hfuel : cs.length < fuel) :
    Ends rest ∧ ∃ texts : List (List Char), cs = texts.flatten ++ rest ∧
      (∀ text ∈ texts, KeepsChild text) ∧
      ∀ f ∈ d.attributes, f ∈ c.attributes ∨ ∃ text ∈ texts, Gives text f := by
  induction fuel generalizing c cs with
  | zero => cases hfuel
  | succ fuel ih =>
    cases cs with
    | nil =>
      cases h
      exact ⟨by simp [Ends], [], by simp, by simp, fun f hf => .inl hf⟩
    | cons a cs =>
      rw [parts] at h
      split at h
      · next hend =>
        cases h
        refine ⟨fun b hb => ?_, [], by simp, by simp, fun f hf => .inl hf⟩
        obtain rfl := Option.some.inj hb
        exact hend
      · split at h
        · next e after hpart =>
          obtain ⟨text, hcs, hne, hkeeps, hgives⟩ := part?_some hpart
          have hlength := congrArg List.length hcs
          have hpos := List.length_pos_iff.mpr hne
          rw [List.length_append] at hlength
          obtain ⟨hends, texts, rfl, hall, hmore⟩ := ih h (by omega)
          refine ⟨hends, text :: texts, by rw [hcs, List.flatten_cons, List.append_assoc],
            List.forall_mem_cons.mpr ⟨hkeeps, hall⟩, fun f hf => ?_⟩
          rcases hmore f hf with hf | ⟨other, hother, hf⟩
          · exact (hgives f hf).imp_right fun hf => ⟨text, List.mem_cons_self, hf⟩
          · exact .inr ⟨other, List.mem_cons_of_mem _ hother, hf⟩
        · cases h

theorem tag_takes (cs : List Char) : ∃ text, cs = text ++ (tag cs).2 ∧ '>' ∉ text := by
  rw [tag.eq_def]
  split
  · next after => exact ⟨['*'], rfl, by decide⟩
  · next a after hstar =>
    split
    · next halpha =>
      have hname := List.prefix_iff_eq_append.mp (List.takeWhile_prefix (l := after) isNameChar)
      refine ⟨a :: after.takeWhile isNameChar, by rw [List.cons_append, hname], ?_⟩
      have ha : '>' ≠ a := by
        rintro rfl
        exact absurd halpha (by decide)
      simp [ha, child_not_mem_name]
    · exact ⟨[], rfl, List.not_mem_nil⟩
  · exact ⟨[], rfl, List.not_mem_nil⟩

/-- The text is read as the compound, up to what comes after it. -/
structure Reads (c : Compound) (text rest : List Char) : Prop where
  read : compound (text ++ rest) = .ok (c, rest)
  starts : ∃ a as, text = a :: as ∧ Text.isBlank a = false ∧ a ≠ '>'
  ends : Ends rest
  keeps : ∃ texts : List (List Char), text = texts.flatten ∧ ∀ part ∈ texts, KeepsChild part
  gives : ∀ f ∈ c.attributes, Gives text f

theorem reads_of_compound {a : Char} {as : List Char} (h : compound (a :: as) = .ok (c, rest))
    (hblank : Text.isBlank a = false) (hchild : a ≠ '>') :
    ∃ text, a :: as = text ++ rest ∧ Reads c text rest := by
  obtain ⟨name, hname, hnot⟩ := tag_takes (a :: as)
  have hok := h
  rw [compound] at h
  obtain ⟨t, after⟩ := tag (a :: as)
  obtain ⟨hends, texts, htexts, hkeeps, hgives⟩ := parts_ok h (Nat.lt_succ_self _)
  have htext : a :: as = name ++ texts.flatten ++ rest := by
    rw [List.append_assoc, ← htexts]
    exact hname
  have hread : compound (name ++ texts.flatten ++ rest) = .ok (c, rest) := by rw [← htext, hok]
  have hall : ∀ part ∈ name :: texts, KeepsChild part :=
    List.forall_mem_cons.mpr ⟨fun hchild => absurd hchild hnot, hkeeps⟩
  refine ⟨name ++ texts.flatten, htext, hread, ?_, hends, ⟨name :: texts, rfl, hall⟩, ?_⟩
  · cases hparts : name ++ texts.flatten with
    | nil =>
      -- a compound ends neither at this character nor before it
      rw [hparts, List.nil_append] at htext
      have hend := hends a (by rw [← htext]; rfl)
      simp [hblank, hchild] at hend
    | cons b bs =>
      rw [hparts, List.cons_append] at htext
      obtain rfl := (List.cons.inj htext).1
      exact ⟨a, bs, rfl, hblank, hchild⟩
  · intro f hf v hv
    rcases hgives f hf with hf | ⟨text, hmem, hf⟩
    · cases hf
    · have hpart := List.infix_of_mem_flatten hmem
      exact (hf v hv).longer (hpart.trans (List.suffix_append _ _).isInfix)

theorem reads_of_rest {text : List Char} {a : Char} {as : List Char}
    (h : compound (text ++ rest) = .ok (c, rest)) (htext : text = a :: as)
    (hblank : Text.isBlank a = false) (hchild : a ≠ '>') : Reads c text rest := by
  subst htext
  obtain ⟨found, hfound, hreads⟩ := reads_of_compound h hblank hchild
  obtain rfl : a :: as = found := List.append_cancel_right hfound
  exact hreads

end Selector
end PageOverlay
