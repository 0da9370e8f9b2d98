import PageOverlay.Proofs.Sheet.Filling
import PageOverlay.Proofs.Sheet.LongestName
import PageOverlay.Proofs.Sheet.Printing

/-!
# The placeholders of a text

A text falls into placeholders and other characters in one way, whatever the names in it stand for.
Filling it in replaces each placeholder by itself: what is put in is not looked at again, and what
stands for nothing is put back as it was.
-/

set_option autoImplicit false

namespace PageOverlay

inductive Placeholder
  | braced (name : List Char)
  | bare (word : List Char)

namespace Placeholder

def body : Placeholder → List Char
  | braced name => '\x7b' :: name ++ ['\x7d']
  | bare word => word

def text (p : Placeholder) : List Char := '$' :: p.body

/-- The placeholder ends where the given text goes on: at the first brace that closes, or after the
last character of the word. -/
def EndsBefore (after : List Char) : Placeholder → Prop
  | braced name => '\x7d' ∉ name
  | bare word => Sheet.Spells Text.isWord word ∧ ∀ c ∈ after.head?, Text.isWord c = false

def Begins (p : Placeholder) (cs : List Char) : Prop :=
  ∃ after, p.EndsBefore after ∧ p.text ++ after = cs

/-- A name in braces has to have a value as a whole but for blanks around it, a bare word has to
begin with a name that has one. -/
def HasValue (s : Scopes) (scope : String) : Placeholder → Prop
  | braced name => ∃ value, s.lookup (String.ofList (Text.trim name)) scope = some value
  | bare word => ∃ n value, n <+: word ∧ n ≠ [] ∧ s.lookup (String.ofList n) scope = some value

end Placeholder

inductive Piece
  | plain (c : Char)
  | placeholder (p : Placeholder)

def Piece.text : Piece → List Char
  | .plain c => [c]
  | .placeholder p => p.text

/-- A text and its pieces. A character is by itself only where no placeholder begins. -/
inductive FallsInto : List Char → List Piece → Prop
  | nil : FallsInto [] []
  | placeholder {p : Placeholder} {after : List Char} {ps : List Piece} (ends : p.EndsBefore after)
      (onward : FallsInto after ps) : FallsInto (p.text ++ after) (.placeholder p :: ps)
  | plain {c : Char} {cs : List Char} {ps : List Piece}
      (none : ∀ p : Placeholder, ¬ p.Begins (c :: cs))
      (onward : FallsInto cs ps) : FallsInto (c :: cs) (.plain c :: ps)

variable {cs after : List Char} {p : Placeholder} {ps : List Piece} {s : Scopes} {scope : String}

theorem FallsInto.text_eq (h : FallsInto cs ps) : ps.flatMap Piece.text = cs := by
  induction h with
  | nil => rfl
  | placeholder _ _ ih => rw [List.flatMap_cons, ih, Piece.text]
  | plain _ _ ih => rw [List.flatMap_cons, ih, Piece.text, List.singleton_append]

theorem exists_fallsInto (cs : List Char) : ∃ ps, FallsInto cs ps := by
  induction hlen : cs.length using Nat.strongRecOn generalizing cs with
  | ind n ih =>
  by_cases hbegins : ∃ p : Placeholder, p.Begins cs
  · obtain ⟨p, after, hends, rfl⟩ := hbegins
    obtain ⟨ps, hps⟩ := ih after.length (by
      rw [List.length_append, Placeholder.text, List.length_cons] at hlen
      omega) after rfl
    exact ⟨_, .placeholder hends hps⟩
  · cases cs with
    | nil => exact ⟨_, .nil⟩
    | cons c cs =>
      obtain ⟨ps, hps⟩ := ih cs.length (by rw [List.length_cons] at hlen; omega) cs rfl
      exact ⟨_, .plain (fun p hp => hbegins ⟨p, hp⟩) hps⟩

namespace Scopes

def standIn? (s : Scopes) (scope : String) : Placeholder → Option (List Char)
  | .braced name => (s.lookup (String.ofList (Text.trim name)) scope).map String.toList
  | .bare word => (s.lookupPrefix word scope).map fun r => r.2.1.toList ++ r.2.2

def filled (s : Scopes) (scope : String) : Piece → List Char
  | .plain c => [c]
  | .placeholder p => (s.standIn? scope p).getD p.text

theorem standIn?_eq_none_iff : s.standIn? scope p = none ↔ ¬ p.HasValue s scope := by
  cases p with
  | braced name =>
    rw [standIn?, Option.map_eq_none_iff, Placeholder.HasValue, Option.eq_none_iff_forall_ne_some]
    exact not_exists.symm
  | bare word =>
    rw [standIn?, Option.map_eq_none_iff, lookupPrefix_eq_none_iff, Placeholder.HasValue]
    simp only [Option.eq_none_iff_forall_ne_some, not_exists, not_and]
    exact ⟨fun h n value hn hne => h n hn hne value, fun h n hn hne value => h n value hn hne⟩

theorem placeholder?_of_endsBefore (h : p.EndsBefore after) :
    s.placeholder? scope (p.body ++ after) =
      some (s.filled scope (.placeholder p), after) := by
  cases p with
  | braced name =>
    have hbody : (Placeholder.braced name).body ++ after = '\x7b' :: (name ++ '\x7d' :: after) := by
      simp [Placeholder.body]
    rw [hbody, placeholder?, if_pos rfl, Text.cutAtFirst?_of_first h, filled, standIn?]
    dsimp only
    cases s.lookup (String.ofList (Text.trim name)) scope <;> rfl
  | bare word =>
    obtain ⟨⟨c, ds, rfl, hc, hds⟩, hafter⟩ := h
    have hbrace : c ≠ '\x7b' := by
      rintro rfl
      exact absurd hc (by decide)
    obtain ⟨htake, hdrop⟩ := Text.takeWhile_append (a := ds) hafter
    have hall := List.all_eq_true.mp hds
    rw [List.takeWhile_eq_self_iff.mpr hall] at htake
    rw [List.dropWhile_eq_nil_iff.mpr hall, List.nil_append] at hdrop
    rw [Placeholder.body, List.cons_append, placeholder?, if_neg hbrace, if_pos hc, htake, hdrop,
      filled, standIn?]
    dsimp only
    cases s.lookupPrefix (c :: ds) scope <;> rfl

theorem exists_of_placeholder? {text : List Char}
    (h : s.placeholder? scope cs = some (text, after)) :
    ∃ p : Placeholder, p.EndsBefore after ∧ p.body ++ after = cs := by
  cases cs with
  | nil => cases h
  | cons c rest =>
    rw [placeholder?] at h
    split at h
    · next hbrace =>
      split at h
      · cases h
      · next name after' hcut =>
        obtain ⟨hname, hrest⟩ := Text.cutAtFirst?_eq_some_iff.mp hcut
        obtain rfl : after' = after := by split at h <;> cases h <;> rfl
        exact ⟨.braced name, hname, by simp [Placeholder.body, hbrace, hrest]⟩
    · split at h
      · next hstart =>
        have hafter : rest.dropWhile Text.isWord = after := by
          dsimp only at h
          split at h <;> cases h <;> rfl
        have hspelled : Sheet.Spells Text.isWord (c :: rest.takeWhile Text.isWord) :=
          ⟨c, _, rfl, hstart, List.all_takeWhile⟩
        refine ⟨.bare (c :: rest.takeWhile Text.isWord), ⟨hspelled, fun d hd => ?_⟩, ?_⟩
        · have hstop := List.head?_dropWhile_not Text.isWord rest
          rwa [hafter, Option.mem_def.mp hd] at hstop
        · rw [Placeholder.body, ← hafter, List.cons_append, List.takeWhile_append_dropWhile]
      · cases h

theorem fill_placeholder (h : p.EndsBefore after) :
    s.fill scope (p.text ++ after) = s.filled scope (.placeholder p) ++ s.fill scope after := by
  rw [Placeholder.text, List.cons_append, fill_dollar, placeholder?_of_endsBefore h]

theorem fill_of_fallsInto (h : FallsInto cs ps) :
    s.fill scope cs = ps.flatMap (s.filled scope) := by
  induction h with
  | nil => rfl
  | placeholder ends _ ih => rw [fill_placeholder ends, ih, List.flatMap_cons]
  | @plain c cs ps none _ ih =>
    rw [List.flatMap_cons, ← ih, filled, List.singleton_append]
    by_cases hc : c = '$'
    · rw [hc, fill_dollar]
      cases hp : s.placeholder? scope cs with
      | none => rfl
      | some r =>
        obtain ⟨p, hends, hbody⟩ := exists_of_placeholder? hp
        refine absurd ⟨r.2, hends, ?_⟩ (none p)
        rw [Placeholder.text, List.cons_append, hbody, hc]
    · exact fill_cons hc cs

end Scopes

theorem Placeholder.EndsBefore.unique {q : Placeholder} {after' : List Char}
    (h : p.EndsBefore after) (h' : q.EndsBefore after')
    (htext : p.text ++ after = q.text ++ after') : p = q ∧ after = after' := by
  -- the pass itself finds the same rest for both
  have hbody : p.body ++ after = q.body ++ after' := (List.cons.inj htext).2
  have hrest : ({} : Scopes).placeholder? "" (p.body ++ after) = _ :=
    Scopes.placeholder?_of_endsBefore h
  rw [hbody, Scopes.placeholder?_of_endsBefore h'] at hrest
  obtain rfl : after' = after := congrArg Prod.snd (Option.some.inj hrest)
  have hsame : p.body = q.body := List.append_cancel_right hbody
  have hbrace {word name : List Char} (hword : Sheet.Spells Text.isWord word)
      (heq : word = (Placeholder.braced name).body) : False := by
    obtain ⟨c, ds, rfl, hc, -⟩ := hword
    rw [(List.cons.inj heq).1] at hc
    exact absurd hc (by decide)
  refine ⟨?_, rfl⟩
  cases p with
  | braced name =>
    cases q with
    | braced name' => rw [List.append_cancel_right (List.cons.inj hsame).2]
    | bare word => exact (hbrace h'.1 hsame.symm).elim
  | bare word =>
    cases q with
    | braced name => exact (hbrace h.1 hsame).elim
    | bare word' => exact congrArg _ hsame

theorem FallsInto.unique {qs : List Piece} (h : FallsInto cs ps) (h' : FallsInto cs qs) :
    ps = qs := by
  induction h generalizing qs with
  | nil =>
    cases h' with
    | nil => rfl
  | @placeholder p after ps ends onward ih =>
    generalize htext : p.text ++ after = cs at h'
    cases h' with
    | nil => cases htext
    | placeholder ends' onward' =>
      obtain ⟨rfl, rfl⟩ := ends.unique ends' htext
      rw [ih onward']
    | plain none _ => exact absurd ⟨after, ends, htext⟩ (none p)
  | @plain c cs ps none onward ih =>
    generalize htext : c :: cs = cs' at h'
    cases h' with
    | nil => cases htext
    | placeholder ends' _ => exact absurd ⟨_, ends', htext.symm⟩ (none _)
    | plain _ onward' =>
      obtain ⟨rfl, rfl⟩ := List.cons.inj htext
      rw [ih onward']

theorem existsUnique_fallsInto (cs : List Char) : ∃! ps, FallsInto cs ps := by
  obtain ⟨ps, hps⟩ := exists_fallsInto cs
  exact ⟨ps, hps, fun _ hqs => hqs.unique hps⟩

namespace Scopes

theorem toList_substitute (s : Scopes) (scope text : String) :
    (s.substitute scope text).toList = s.fill scope text.toList := by
  rw [substitute, String.toList_ofList, fill]

theorem fill_of_no_value (h : FallsInto cs ps)
    (hps : ∀ p, .placeholder p ∈ ps → ¬ p.HasValue s scope) :
    s.fill scope cs = cs := by
  have hsame : ∀ q ∈ ps, s.filled scope q = q.text := by
    intro q hq
    cases q with
    | plain c => rfl
    | placeholder p =>
      rw [filled, standIn?_eq_none_iff.mpr (hps p hq), Option.getD_none, Piece.text]
  rw [fill_of_fallsInto h, List.flatMap_congr hsame, h.text_eq]

theorem fill_before {before : List Char} (h : IsClosed before) (p : Placeholder) (cs : List Char) :
    s.fill scope (before ++ (p.text ++ cs)) =
      s.fill scope before ++ s.fill scope (p.text ++ cs) := by
  refine fill_append (fun c hc => ?_) (.inl h)
  obtain rfl : '$' = c := by simpa [Placeholder.text] using hc
  decide

/-- A word that is a name with a value stands for that value as a whole. -/
theorem standIn?_bare {name : List Char} {value : String} (hne : name ≠ [])
    (h : s.lookup (String.ofList name) scope = some value) :
    s.standIn? scope (.bare name) = some value.toList := by
  have hlongest : s.LongestName scope name name value [] :=
    ⟨List.append_nil name, hne, h, fun m hm hlt => absurd hm.length_le (Nat.not_le_of_lt hlt)⟩
  rw [standIn?, lookupPrefix_eq_some_iff.mpr hlongest, Option.map_some, List.append_nil]

theorem isWord_of_spells {name : List Char} (h : Sheet.Spells Text.isWord name) :
    ∀ c ∈ name, Text.isWord c = true := by
  obtain ⟨c, ds, rfl, hc, hds⟩ := h
  exact List.forall_mem_cons.mpr ⟨Text.isWord_of_isNameStart c hc, List.all_eq_true.mp hds⟩

theorem trim_of_spells {name : List Char} (h : Sheet.Spells Text.isWord name) :
    Text.trim name = name := by
  have hblank : ∀ c ∈ name, Text.isBlank c = false := fun c hc =>
    Text.not_blank_of_isWord (isWord_of_spells h c hc)
  obtain ⟨c, ds, rfl, -, -⟩ := h
  obtain ⟨hc, hds⟩ := List.forall_mem_cons.mp hblank
  exact Text.trim_cons hc (Text.trimEnd_of_not_blank hds)

def inBraces (name : String) : String := "$\x7b" ++ name ++ "\x7d"

theorem toList_inBraces (name : String) :
    (inBraces name).toList = (Placeholder.braced name.toList).text := by
  simp [inBraces, Placeholder.text, Placeholder.body]

theorem substitute_inBraces {before name after : String} (hbefore : IsClosed before.toList)
    (hname : '\x7d' ∉ name.toList) :
    s.substitute scope (before ++ inBraces name ++ after) =
      s.substitute scope before ++
        (s.lookup (Text.strip name) scope).getD (inBraces name) ++ s.substitute scope after := by
  have hends : (Placeholder.braced name.toList).EndsBefore after.toList := hname
  have hfilled : s.filled scope (.placeholder (.braced name.toList)) =
      ((s.lookup (Text.strip name) scope).getD (inBraces name)).toList := by
    rw [filled, standIn?, ← toList_inBraces, Text.strip]
    cases s.lookup (String.ofList (Text.trim name.toList)) scope <;> rfl
  rw [← String.toList_inj]
  simp only [toList_substitute, String.toList_append, toList_inBraces, List.append_assoc]
  rw [fill_before hbefore, fill_placeholder hends, hfilled]

theorem substitute_bare {name after value : String} (hname : Sheet.Spells Text.isWord name.toList)
    (hvalue : s.lookup name scope = some value)
    (hafter : ∀ c ∈ after.toList.head?, Text.isWord c = false) :
    s.substitute scope ("$" ++ name ++ after) = value ++ s.substitute scope after := by
  have hends : (Placeholder.bare name.toList).EndsBefore after.toList := ⟨hname, hafter⟩
  have hne : name.toList ≠ [] := by
    obtain ⟨c, ds, hcs, -⟩ := hname
    simp [hcs]
  have htext : ("$" ++ name ++ after).toList =
      (Placeholder.bare name.toList).text ++ after.toList := by
    simp [Placeholder.text, Placeholder.body]
  rw [← String.toList_inj, toList_substitute, htext, fill_placeholder hends, filled,
    standIn?_bare hne (by rwa [String.ofList_toList]), Option.getD_some, String.toList_append,
    toList_substitute]

theorem substitute_append {a b : String} (ha : IsClosed a.toList)
    (hb : ∀ c ∈ b.toList.head?, Text.isWord c = false ∧ c ≠ '\x7b') :
    s.substitute scope (a ++ b) = s.substitute scope a ++ s.substitute scope b := by
  rw [← String.toList_inj]
  simp only [toList_substitute, String.toList_append]
  exact fill_append hb (.inl ha)

theorem substitute_bare_eq {name after value : String}
    (hname : Sheet.Spells Text.isWord name.toList) (hvalue : s.lookup name scope = some value)
    (hafter : ∀ c ∈ after.toList.head?, Text.isWord c = false) :
    s.substitute scope ("$" ++ name ++ after) = s.substitute scope (inBraces name ++ after) := by
  have hclosed : IsClosed "".toList := fun rest h => absurd h.length_le (by simp)
  have hbrace : '\x7d' ∉ name.toList := fun hmem =>
    absurd (isWord_of_spells hname _ hmem) (by decide)
  have hnone : s.substitute scope "" = "" := rfl
  have hbraces : s.substitute scope ("" ++ inBraces name ++ after) = _ :=
    substitute_inBraces hclosed hbrace
  rw [Text.strip, trim_of_spells hname, String.ofList_toList, hvalue, Option.getD_some, hnone,
    String.empty_append, String.empty_append] at hbraces
  rw [substitute_bare hname hvalue hafter, hbraces]

/-- Filling in goes over a text once, and each placeholder counts for itself. A text can be cut in
two where no placeholder goes on; a name in braces gives way to its value, whatever that looks like,
and stays if it has none; a bare name does as it would in braces; and a text without a placeholder
that has a value is left as it is. -/
theorem substitute_piecewise (s : Scopes) (scope : String) :
    (∀ a b : String, IsClosed a.toList →
      (∀ c ∈ b.toList.head?, Text.isWord c = false ∧ c ≠ '\x7b') →
      s.substitute scope (a ++ b) = s.substitute scope a ++ s.substitute scope b) ∧
    (∀ before name after : String, IsClosed before.toList → '\x7d' ∉ name.toList →
      (∀ value, s.lookup (Text.strip name) scope = some value →
        s.substitute scope (before ++ inBraces name ++ after) =
          s.substitute scope before ++ value ++ s.substitute scope after) ∧
      (s.lookup (Text.strip name) scope = none →
        s.substitute scope (before ++ inBraces name ++ after) =
          s.substitute scope before ++ inBraces name ++ s.substitute scope after)) ∧
    (∀ name after value : String, Sheet.Spells Text.isWord name.toList →
      s.lookup name scope = some value → (∀ c ∈ after.toList.head?, Text.isWord c = false) →
      s.substitute scope ("$" ++ name ++ after) = s.substitute scope (inBraces name ++ after)) ∧
    ∀ text : String, (∃! ps, FallsInto text.toList ps) ∧ ∀ ps, FallsInto text.toList ps →
      (s.substitute scope text).toList = ps.flatMap (s.filled scope) ∧
      ((∀ p, .placeholder p ∈ ps → ¬ p.HasValue s scope) → s.substitute scope text = text) := by
  refine ⟨fun a b ha hb => substitute_append ha hb, fun before name after hbefore hname => ?_,
    fun name after value hname hvalue hafter => substitute_bare_eq hname hvalue hafter,
    fun text => ⟨existsUnique_fallsInto _, fun ps hps => ⟨?_, fun hnone => ?_⟩⟩⟩
  · rw [substitute_inBraces hbefore hname]
    exact ⟨fun value hvalue => by rw [hvalue, Option.getD_some],
      fun hnone => by rw [hnone, Option.getD_none]⟩
  · rw [toList_substitute, fill_of_fallsInto hps]
  · rw [← String.toList_inj, toList_substitute, fill_of_no_value hps hnone]

theorem substitute_piecewise_chained :
    let s : Scopes := { values := [("a", "$b $\x7bb\x7d"), ("b", "2")] }
    s.substitute "" ("$\x7ba\x7d$" ++ "-$b") =
        s.substitute "" "$\x7ba\x7d$" ++ s.substitute "" "-$b" ∧
      s.substitute "" ("$b" ++ inBraces " a " ++ "$b") =
        s.substitute "" "$b" ++ "$b $\x7bb\x7d" ++ s.substitute "" "$b" ∧
      s.substitute "" ("$b" ++ inBraces "ab" ++ "$b") =
        s.substitute "" "$b" ++ inBraces "ab" ++ s.substitute "" "$b" ∧
      s.substitute "" ("$" ++ "a" ++ "$b") = s.substitute "" (inBraces "a" ++ "$b") ∧
      s.substitute "" "$\x7b$a\x7d$c" = "$\x7b$a\x7d$c" := by
  intro s
  obtain ⟨happend, hbraces, hbare, htext⟩ := substitute_piecewise s ""
  have hclosed : IsClosed "$\x7ba\x7d$".toList := by
    rintro rest h
    have hrest : rest = ['a', '\x7d', '$'] := by
      simpa [List.suffix_cons_iff] using h
    simp [hrest]
  have hbefore : IsClosed "$b".toList := by
    rintro rest h
    simp [List.suffix_cons_iff] at h
  have hpieces : FallsInto "$\x7b$a\x7d$c".toList
      [.placeholder (.braced "$a".toList), .placeholder (.bare "c".toList)] := by
    have hword : (Placeholder.bare "c".toList).EndsBefore [] :=
      ⟨⟨'c', [], rfl, by decide, rfl⟩, by simp⟩
    have hname : (Placeholder.braced "$a".toList).EndsBefore "$c".toList := by
      simp [Placeholder.EndsBefore]
    exact .placeholder hname (.placeholder hword .nil)
  refine ⟨happend _ _ hclosed (by simp; decide),
    (hbraces _ _ _ hbefore (by simp)).1 _ (by decide +kernel),
    (hbraces _ _ _ hbefore (by simp)).2 (by decide +kernel),
    hbare _ _ "$b $\x7bb\x7d" ⟨'a', [], rfl, by decide, rfl⟩ (by decide +kernel)
      (by simp; decide),
    ((htext _).2 _ hpieces).2 fun p hp => ?_⟩
  simp only [List.mem_cons, Piece.placeholder.injEq, List.not_mem_nil, or_false] at hp
  rcases hp with rfl | rfl
  · exact standIn?_eq_none_iff.mp (by decide +kernel)
  · exact standIn?_eq_none_iff.mp (by decide +kernel)

end Scopes
end PageOverlay
