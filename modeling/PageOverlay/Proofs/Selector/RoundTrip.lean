import PageOverlay.Proofs.Selector.Compounds

/-!
# Selectors are read as they are written

The text of a chain is read compound by compound, in as many steps as it has compounds and `>`.
Commas, brackets and quotes inside a value do not cut the alternatives, for the value stands in a
filter and between quotes. No blank begins or ends an alternative, so trimming leaves it alone.
-/

set_option autoImplicit false

namespace PageOverlay

namespace Selector

/-- The characters on which the cutting at commas hangs. -/
def marks : List Char := ['"', '\'', '[', ']', ',']

def isPlain (c : Char) : Bool := !Text.isBlank c && c != '>' && !marks.contains c

structure Solid (text : List Char) : Prop where
  first : ∃ c cs, text = c :: cs ∧ Text.isBlank c = false ∧ c ≠ '>'
  last : ∃ cs c, text = cs ++ [c] ∧ Text.isBlank c = false

/-- Nothing is cut in the text, and it closes all the brackets and quotes that it opens. -/
def Uncut (depth : Nat) (text : List Char) : Prop :=
  ∀ rest, splitAlternatives depth none (text ++ rest) =
    text.foldr splitAlternatives.consHead (splitAlternatives depth none rest)

structure Intact (text : List Char) : Prop extends Solid text where
  uncut : Uncut 0 text

variable {a b text value inside : List Char} {depth : Nat} {q : Char}

theorem isPlain_of_isAttributeNameChar {c : Char} (h : isAttributeNameChar c = true) :
    isPlain c = true := by
  have hother : ('>' :: marks).all fun m => !isAttributeNameChar m := by decide
  have hne : c ∉ '>' :: marks := by
    intro hc
    simpa [h] using List.all_eq_true.mp hother c hc
  obtain ⟨hchild, hmarks⟩ : c ≠ '>' ∧ c ∉ marks := by simpa using hne
  simp [isPlain, not_blank_of_isAttributeNameChar h, hchild, hmarks]

theorem all_isPlain {p : Char → Bool} (hp : ∀ c, p c = true → isAttributeNameChar c = true)
    (h : text.all p = true) : text.all isPlain = true :=
  List.all_eq_true.mpr fun c hc =>
    isPlain_of_isAttributeNameChar (hp c (List.all_eq_true.mp h c hc))

theorem Solid.append (ha : Solid a) (middle : List Char) (hb : Solid b) :
    Solid (a ++ (middle ++ b)) := by
  obtain ⟨c, cs, rfl, hc⟩ := ha.first
  obtain ⟨ds, d, rfl, hd⟩ := hb.last
  exact ⟨⟨c, _, rfl, hc⟩, ⟨c :: cs ++ (middle ++ ds), d, by simp, hd⟩⟩

theorem Solid.trim (h : Solid text) : Text.trim text = text := by
  obtain ⟨cs, d, hlast, hd⟩ := h.last
  have hend : Text.trimEnd text = text := by
    rw [hlast, Text.trimEnd_append_cons hd]
    rfl
  obtain ⟨c, cs, rfl, hc, -⟩ := h.first
  rw [Text.trim, Text.trimStart_cons hc, hend]

theorem solid_of_plain (hne : text ≠ []) (h : text.all isPlain = true) : Solid text := by
  have hplain := List.all_eq_true.mp h
  have hlast := hplain _ (List.getLast_mem hne)
  refine ⟨?_, text.dropLast, text.getLast hne, (List.dropLast_append_getLast hne).symm, ?_⟩
  · obtain ⟨c, cs, rfl⟩ := List.exists_cons_of_ne_nil hne
    have hc := hplain c List.mem_cons_self
    simp only [isPlain, Bool.and_eq_true, Bool.not_eq_true', bne_iff_ne] at hc
    exact ⟨c, cs, rfl, hc.1.1, hc.1.2⟩
  · simp only [isPlain, Bool.and_eq_true, Bool.not_eq_true'] at hlast
    exact hlast.1.1

theorem foldr_consHead (text w : List Char) (ws : List (List Char)) :
    text.foldr splitAlternatives.consHead (w :: ws) = (text ++ w) :: ws := by
  induction text with
  | nil => rfl
  | cons c text ih => rw [List.foldr_cons, ih]; rfl

theorem Uncut.append (ha : Uncut depth a) (hb : Uncut depth b) : Uncut depth (a ++ b) := by
  intro rest
  rw [List.append_assoc, ha, hb, List.foldr_append]

theorem uncut_of_not_mem (h : ∀ c ∈ text, c ∉ marks) : Uncut depth text := by
  intro rest
  induction text with
  | nil => rfl
  | cons c text ih =>
    have hc : c ∉ marks := h c List.mem_cons_self
    simp only [marks, List.mem_cons, List.not_mem_nil, or_false, not_or] at hc
    obtain ⟨hdouble, hsingle, hopen, hclose, hcomma⟩ := hc
    rw [List.cons_append, splitAlternatives, if_neg (by simp [hdouble, hsingle]), if_neg hopen,
      if_neg hclose, if_neg (by simp [hcomma]), ih fun d hd => h d (List.mem_cons_of_mem c hd)]
    rfl

theorem split_in_quotes (h : q ∉ value) (rest : List Char) :
    splitAlternatives depth (some q) (value ++ q :: rest) =
      (value ++ [q]).foldr splitAlternatives.consHead (splitAlternatives depth none rest) := by
  induction value with
  | nil => rw [List.nil_append, splitAlternatives, if_pos rfl]; rfl
  | cons c value ih =>
    obtain ⟨hc, hvalue⟩ : q ≠ c ∧ q ∉ value := by simpa using h
    rw [List.cons_append, splitAlternatives, if_neg hc.symm, ih hvalue]
    rfl

theorem uncut_quoted (hq : q = '"' ∨ q = '\'') (h : q ∉ value) :
    Uncut depth (q :: (value ++ [q])) := by
  intro rest
  have htail : q :: (value ++ [q]) ++ rest = q :: (value ++ q :: rest) := by simp
  rw [htail, splitAlternatives, if_pos hq, split_in_quotes h]
  rfl

theorem Uncut.bracketed (h : Uncut (depth + 1) inside) :
    Uncut depth ('[' :: (inside ++ [']'])) := by
  intro rest
  have htail : '[' :: (inside ++ [']']) ++ rest = '[' :: (inside ++ ']' :: rest) := by simp
  have hclose : splitAlternatives (depth + 1) none (']' :: rest) =
      splitAlternatives.consHead ']' (splitAlternatives depth none rest) := rfl
  rw [htail, splitAlternatives, if_neg (by decide), if_pos rfl, h, hclose, List.foldr_cons,
    List.foldr_append]
  rfl

theorem uncut_of_plain (h : text.all isPlain = true) : Uncut depth text := by
  refine uncut_of_not_mem fun c hc => ?_
  have hplain := List.all_eq_true.mp h c hc
  simp only [isPlain, Bool.and_eq_true, Bool.not_eq_true'] at hplain
  simpa using hplain.2

theorem Intact.append (ha : Intact a) {middle : List Char} (hm : Uncut 0 middle) (hb : Intact b) :
    Intact (a ++ (middle ++ b)) :=
  ⟨ha.toSolid.append middle hb.toSolid, ha.uncut.append (hm.append hb.uncut)⟩

theorem intact_of_plain (hne : text ≠ []) (h : text.all isPlain = true) : Intact text :=
  ⟨solid_of_plain hne h, uncut_of_plain h⟩

theorem intact_name {mark : Char} (hmark : isPlain mark = true) (h : text.all isNameChar = true) :
    Intact (mark :: text) := by
  refine intact_of_plain (List.cons_ne_nil mark text) ?_
  rw [List.all_cons, hmark, Bool.true_and]
  exact all_isPlain (fun _ => isAttributeNameChar_of_isNameChar) h

theorem intact_bracketed (h : Uncut 1 inside) : Intact ('[' :: (inside ++ [']'])) :=
  ⟨⟨⟨'[', _, rfl, by decide⟩, ⟨'[' :: inside, ']', rfl, by decide⟩⟩, h.bracketed⟩

theorem uncut_sign (t : AttributeTest) : Uncut depth t.sign := by
  apply uncut_of_not_mem
  cases t <;> simp [AttributeTest.sign, marks]

theorem intact_filter {f : AttributeFilter} (hf : f.Writable) (h : f.WrittenAs text) :
    Intact text := by
  have hname : Uncut 1 f.name.toList := uncut_of_plain (all_isPlain (fun _ hc => hc) hf.name.all)
  rw [AttributeFilter.WrittenAs] at h
  split at h
  · rw [h]
    exact intact_bracketed hname
  · next v hv =>
    obtain ⟨q, hq, hnot, rfl⟩ := h
    have hinside : f.name.toList ++ (f.test.sign ++ q :: (v.toList ++ [q, ']'])) =
        f.name.toList ++ (f.test.sign ++ q :: (v.toList ++ [q])) ++ [']'] := by simp
    rw [hinside]
    exact intact_bracketed (hname.append ((uncut_sign f.test).append (uncut_quoted hq hnot)))

theorem intact_part {c : Compound} (h : c.Writable) {filters : List (List Char)}
    (hw : List.Forall₂ AttributeFilter.WrittenAs c.attributes filters) :
    ∀ part ∈ c.names ++ filters, Intact part := by
  intro part hpart
  simp only [Compound.names, List.mem_append, Option.mem_toList,
    Option.map_eq_some_iff, List.mem_map] at hpart
  rcases hpart with ((⟨t, ht, rfl⟩ | ⟨i, hi, rfl⟩) | ⟨name, hname, rfl⟩) | hfilter
  · have htag : IsTag t := h.tag t ht
    have hplain := all_isPlain (fun _ => isAttributeNameChar_of_isNameChar)
      (all_isNameChar htag.all)
    obtain ⟨d, ds, htext, -⟩ := htag
    exact intact_of_plain (by simp [htext]) hplain
  · exact intact_name (by decide) (h.id i hi).all
  · exact intact_name (by decide) (h.classes name hname).all
  · exact forall_mem_right hw (fun f hf _ => intact_filter (h.attributes f hf)) part hfilter

theorem intact_ofParts {parts : List (List Char)} (h : ∀ part ∈ parts, Intact part) :
    Intact (Compound.ofParts parts) := by
  cases parts with
  | nil =>
    change Intact ['*']
    exact intact_name (by decide) rfl
  | cons part parts =>
    induction parts generalizing part with
    | nil =>
      have hpart := h part List.mem_cons_self
      rwa [← List.append_nil part] at hpart
    | cons next parts ih =>
      have hrest := ih next fun p hp => h p (List.mem_cons_of_mem _ hp)
      have hnothing : Uncut 0 [] := fun _ => rfl
      change Intact (part ++ ([] ++ Compound.ofParts (next :: parts)))
      exact (h part List.mem_cons_self).append hnothing hrest

theorem intact_compound {c : Compound} (h : c.Writable) (hw : c.WrittenAs text) : Intact text := by
  obtain ⟨filters, hfilters, rfl⟩ := hw
  exact intact_ofParts (intact_part h hfilters)

theorem intact_chain {chain : Chain} (h : chain.Writable) (hw : chain.WrittenAs text) :
    Intact text := by
  induction chain generalizing text with
  | one c => exact intact_compound h hw
  | step before op c ih =>
    obtain ⟨a, b, ha, hb, rfl⟩ := hw
    have hop : Uncut 0 op.text := by
      apply uncut_of_not_mem
      cases op <;> simp [Combinator.text, marks]
    exact (ih h.1 ha).append hop (intact_compound h.2 hb)

end Selector

def Combinator.steps : Combinator → Nat
  | .descendant => 0
  | .child => 1

def Chain.steps : Chain → Nat
  | .one _ => 1
  | .step before op _ => before.steps + op.steps + 1

namespace Selector

variable {text : List Char}

theorem chain_blank (fuel : Nat) (read : Option Chain) (op : Combinator) (cs : List Char) :
    chain fuel read op (' ' :: cs) = chain fuel read op cs := by
  cases fuel with
  | zero => rfl
  | succ fuel => rfl

theorem chain_op (fuel : Nat) (before : Chain) (op : Combinator) (cs : List Char) :
    chain (fuel + op.steps) (some before) .descendant (op.text ++ cs) =
      chain fuel (some before) op cs := by
  cases op with
  | descendant => exact chain_blank fuel (some before) .descendant cs
  | child =>
    have hchild : chain (fuel + 1) (some before) .descendant ('>' :: ' ' :: cs) =
        chain fuel (some before) .child (' ' :: cs) := rfl
    exact (chain_blank _ _ _ _).trans (hchild.trans (chain_blank fuel (some before) .child cs))

theorem chain_compound {c : Compound} (h : c.Writable) (hw : c.WrittenAs text) {rest : List Char}
    (hrest : Ends rest) (fuel : Nat) (read : Option Chain) (op : Combinator) :
    chain (fuel + 1) read op (text ++ rest) =
      chain fuel (some (match read with
        | none => .one c
        | some before => .step before op c)) .descendant rest := by
  have hread := compound_written h hw hrest
  obtain ⟨d, ds, rfl, hblank, hchild⟩ := (intact_compound h hw).first
  rw [List.cons_append] at hread ⊢
  simp only [chain, Text.trimStart_cons hblank, if_neg hchild, hread]
  rfl

theorem ends_op (op : Combinator) (cs : List Char) : Ends (op.text ++ cs) := by
  cases op <;> (intro c hc; obtain rfl := Option.some.inj hc; rfl)

theorem chain_written {read : Chain} (h : read.Writable) (hw : read.WrittenAs text)
    {rest : List Char} (hrest : Ends rest) (fuel : Nat) :
    chain (fuel + read.steps) none .descendant (text ++ rest) =
      chain fuel (some read) .descendant rest := by
  induction read generalizing text rest fuel with
  | one c => exact chain_compound h hw hrest fuel none .descendant
  | step before op c ih =>
    obtain ⟨a, b, ha, hb, rfl⟩ := hw
    have hsteps : fuel + (Chain.step before op c).steps = fuel + 1 + op.steps + before.steps := by
      rw [Chain.steps]
      omega
    -- what joins the last compound ends the chain before it, whatever follows
    rw [hsteps, List.append_assoc, List.append_assoc, ih h.1 ha (ends_op op _), chain_op]
    exact chain_compound h.2 hb hrest fuel (some before) op

theorem steps_le_length {read : Chain} (h : read.Writable) (hw : read.WrittenAs text) :
    read.steps ≤ text.length := by
  induction read generalizing text with
  | one c =>
    obtain ⟨d, ds, rfl, -⟩ := (intact_compound h hw).first
    exact Nat.le_add_left 1 ds.length
  | step before op c ih =>
    obtain ⟨a, b, ha, hb, rfl⟩ := hw
    have hbefore := ih h.1 ha
    have hop : op.steps ≤ op.text.length := by cases op <;> decide
    obtain ⟨d, ds, rfl, -⟩ := (intact_compound h.2 hb).first
    simp only [Chain.steps, List.length_append, List.length_cons]
    omega

theorem alternative_written {read : Chain} (h : read.Writable) (hw : read.WrittenAs text) :
    alternative text = .ok read := by
  have hend (fuel : Nat) : chain fuel (some read) .descendant [] = .ok (some read) := by
    cases fuel <;> rfl
  have hsteps := steps_le_length h hw
  have hfuel : text.length + 1 = text.length + 1 - read.steps + read.steps := by omega
  have hends : Ends [] := by simp [Ends]
  have hread := chain_written h hw hends (text.length + 1 - read.steps)
  rw [List.append_nil, ← hfuel, hend] at hread
  rw [alternative, hread]

variable {w : List Char} {ws : List (List Char)}

theorem splitAlternatives_joinWith (h : ∀ v ∈ w :: ws, Intact v) :
    splitAlternatives 0 none (Text.joinWith [',', ' '] (w :: ws)) =
      w :: ws.map fun v => ' ' :: v := by
  induction ws generalizing w with
  | nil =>
    have hw := (h w List.mem_cons_self).uncut []
    rw [List.append_nil] at hw
    rw [Text.joinWith, hw, splitAlternatives, foldr_consHead, List.append_nil]
    rfl
  | cons v ws ih =>
    have hrest := ih fun u hu => h u (List.mem_cons_of_mem w hu)
    have hcut (cs : List Char) : splitAlternatives 0 none (',' :: ' ' :: cs) =
        [] :: splitAlternatives.consHead ' ' (splitAlternatives 0 none cs) := rfl
    rw [Text.joinWith_cons _ _ (List.cons_ne_nil v ws), List.append_assoc,
      (h w List.mem_cons_self).uncut]
    change w.foldr _ (splitAlternatives 0 none (',' :: ' ' :: Text.joinWith _ (v :: ws))) = _
    rw [hcut, hrest, foldr_consHead, List.append_nil]
    rfl

theorem solid_joinWith (sep : List Char) (h : ∀ v ∈ w :: ws, Solid v) :
    Solid (Text.joinWith sep (w :: ws)) := by
  induction ws generalizing w with
  | nil => exact h w List.mem_cons_self
  | cons v ws ih =>
    rw [Text.joinWith_cons _ _ (List.cons_ne_nil v ws), List.append_assoc]
    exact (h w List.mem_cons_self).append sep (ih fun u hu => h u (List.mem_cons_of_mem w hu))

theorem alternatives_of_forall₂ {chains : List Chain} {pieces : List (List Char)}
    (h : List.Forall₂ (fun read piece => alternative (Text.trim piece) = .ok read) chains pieces) :
    alternatives pieces = .ok chains := by
  induction h with
  | nil => rfl
  | cons hpiece _ ih =>
    rw [alternatives, hpiece, ih]
    rfl

/-- Every list of alternatives can be written, and each of its texts is read as that list. -/
theorem parse_written {chains : List Chain} (hne : chains ≠ [])
    (h : ∀ read ∈ chains, read.Writable) :
    (∃ text, WrittenAs chains text) ∧
      ∀ text, WrittenAs chains text → parse (String.ofList text) = .ok (.css chains) := by
  refine ⟨exists_text h, ?_⟩
  rintro text ⟨parts, hparts, rfl⟩
  have hintact : ∀ part ∈ parts, Intact part :=
    forall_mem_right hparts fun read hread _ => intact_chain (h read hread)
  have hread : List.Forall₂ (fun read part => alternative (Text.trim part) = .ok read)
      chains parts := by
    refine ((List.forall₂_and_left chains parts).mpr ⟨h, hparts⟩).imp ?_
    rintro read part ⟨hwritable, hwritten⟩
    rw [(intact_chain hwritable hwritten).trim]
    exact alternative_written hwritable hwritten
  cases hread with
  | nil => exact absurd rfl hne
  | @cons read part chains parts hfirst hothers =>
    have hsolid := solid_joinWith [',', ' '] fun v hv => (hintact v hv).toSolid
    have hpieces : alternatives (part :: parts.map fun v => ' ' :: v) = .ok (read :: chains) := by
      refine alternatives_of_forall₂ (.cons hfirst (List.forall₂_map_right_iff.mpr ?_))
      simpa only [Text.trim_cons_blank (show Text.isBlank ' ' = true by decide)] using hothers
    obtain ⟨c, cs, htext, -⟩ := hsolid.first
    have hempty : (Text.joinWith [',', ' '] (part :: parts)).isEmpty = false := by rw [htext]; rfl
    simp only [parse, String.toList_ofList, hsolid.trim, hempty, Bool.false_eq_true, if_false,
      splitAlternatives_joinWith hintact, hpieces]

theorem parse_written_mixed :
    parse "DIV#m-1.x > [data:k*='a, b] > \"c'][lang] *, [title^=\"it's, [so]\"]" = .ok (.css
      [.step (.step (.one { tag := some "DIV", id := some "m-1", classes := ["x"] }) .child
          { attributes := [⟨"data:k", .contains "a, b] > \"c"⟩, ⟨"lang", .present⟩] })
          .descendant {},
        .one { attributes := [⟨"title", .beginsWith "it's, [so]"⟩] }]) := by
  have hdiv : Compound.Writable { tag := some "DIV", id := some "m-1", classes := ["x"] } := by
    refine ⟨?_, ?_, ?_, by simp⟩
    · intro t ht
      obtain rfl := Option.some.inj ht
      exact ⟨'D', ['I', 'V'], rfl, by decide, by decide⟩
    · intro i hi
      obtain rfl := Option.some.inj hi
      exact ⟨by decide, by decide⟩
    · exact List.forall_mem_singleton.mpr ⟨by decide, by decide⟩
  have hdata : AttributeFilter.Writable ⟨"data:k", .contains "a, b] > \"c"⟩ := by
    refine ⟨⟨by decide, by decide⟩, ?_⟩
    intro v hv
    obtain rfl := Option.some.inj hv
    exact .inr (by decide)
  have hlang : AttributeFilter.Writable ⟨"lang", .present⟩ :=
    ⟨⟨by decide, by decide⟩, nofun⟩
  have htitle : AttributeFilter.Writable ⟨"title", .beginsWith "it's, [so]"⟩ := by
    refine ⟨⟨by decide, by decide⟩, ?_⟩
    intro v hv
    obtain rfl := Option.some.inj hv
    exact .inl (by decide)
  have hstar : Compound.Writable {} := ⟨nofun, nofun, nofun, nofun⟩
  refine (parse_written (by decide) ?_).2
    "DIV#m-1.x > [data:k*='a, b] > \"c'][lang] *, [title^=\"it's, [so]\"]".toList ?_
  · refine List.forall_mem_cons.mpr ⟨⟨⟨hdiv, nofun, nofun, nofun, ?_⟩, hstar⟩,
      List.forall_mem_singleton.mpr ⟨nofun, nofun, nofun, ?_⟩⟩
    · exact List.forall_mem_cons.mpr ⟨hdata, List.forall_mem_singleton.mpr hlang⟩
    · exact List.forall_mem_singleton.mpr htitle
  · refine ⟨["DIV#m-1.x > [data:k*='a, b] > \"c'][lang] *".toList,
      "[title^=\"it's, [so]\"]".toList], .cons ?_ (.cons ?_ .nil), by decide⟩
    · have hfilters : List.Forall₂ AttributeFilter.WrittenAs
          [⟨"data:k", .contains "a, b] > \"c"⟩, ⟨"lang", .present⟩]
          ["[data:k*='a, b] > \"c']".toList, "[lang]".toList] :=
        .cons ⟨'\'', .inr rfl, by decide, by decide⟩ (.cons rfl .nil)
      exact ⟨"DIV#m-1.x > [data:k*='a, b] > \"c'][lang]".toList, ['*'],
        ⟨"DIV#m-1.x".toList, "[data:k*='a, b] > \"c'][lang]".toList, ⟨[], .nil, by decide⟩,
          ⟨_, hfilters, by decide⟩, by decide⟩,
        ⟨[], .nil, by decide⟩, by decide⟩
    · exact ⟨["[title^=\"it's, [so]\"]".toList],
        .cons ⟨'"', .inl rfl, by decide, by decide⟩ .nil, by decide⟩

end Selector
end PageOverlay
