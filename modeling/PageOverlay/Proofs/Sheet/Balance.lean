import PageOverlay.Proofs.Text.Trimming
import PageOverlay.Sheet.Assignment
import PageOverlay.Sheet.Basic
import PageOverlay.Sheet.Parameters

/-!
# Balanced texts

A key and the list of parameters in it are read by two scanners. Both keep count of quotes and
parentheses in the same way, and one parenthesis further inside they count the same. So a text whose
quotes and parentheses are closed is passed over as it is by either of them, however deep it is
nested.
-/

set_option autoImplicit false

namespace PageOverlay.Sheet

def Place.next? : Place → Char → Option Place
  | .top, c =>
    if isQuote c then some (.quote c)
    else if c = '(' then some (.nested 0 none)
    else if c = ')' then none
    else some .top
  | .quote q, c => some (if c = q then .top else .quote q)
  | .nested d q, c => some (nestedStep d q c)

/-- A text leads from one place to another. Backslashes take the character after them along. -/
inductive Leads : Place → List Char → Place → Prop
  | done (p : Place) : Leads p [] p
  | escape {p q : Place} {cs : List Char} (c : Char) (h : Leads p cs q) :
    Leads p ('\\' :: c :: cs) q
  | char {p next q : Place} {c : Char} {cs : List Char} (hc : c ≠ '\\')
      (hnext : p.next? c = some next) (h : Leads next cs q) : Leads p (c :: cs) q

/-- All quotes and parentheses of the text are closed in it. -/
def Balanced (cs : List Char) : Prop := Leads .top cs .top

def Place.inner : Place → Place
  | .top => .nested 0 none
  | .quote q => .nested 0 (some q)
  | .nested d q => .nested (d + 1) q

def Place.depth : Place → Nat
  | .nested d _ => d + 2
  | _ => 1

def Place.openQuote : Place → Option Char
  | .top => none
  | .quote q => some q
  | .nested _ q => q

variable {p q next : Place} {a cs : List Char}

theorem next?_inner {c : Char} (h : p.next? c = some next) : p.inner.next? c = some next.inner := by
  cases p with
  | top => grind [Place.next?, Place.inner, nestedStep]
  | quote o => grind [Place.next?, Place.inner, nestedStep]
  | nested d o =>
    cases o with
    | some o => grind [Place.next?, Place.inner, nestedStep]
    | none => cases d <;> grind [Place.next?, Place.inner, nestedStep]

theorem exists_nested (p : Place) : ∃ d o, p.inner = .nested d o := by
  cases p <;> exact ⟨_, _, rfl⟩

theorem isQuote_iff {c : Char} : isQuote c ↔ c = '"' ∨ c = '\'' := by simp [isQuote]

theorem scanKey_next {c : Char} (hc : c ≠ '\\') (h : p.next? c = some next) (cs : List Char) :
    scanKey true p.depth p.openQuote (c :: cs) =
      (c :: (scanKey true next.depth next.openQuote cs).1,
        (scanKey true next.depth next.openQuote cs).2) := by
  have hone : c = '\\' → cs = [] → False := fun hb => absurd hb hc
  have hmore : ∀ d ds, c = '\\' → cs = d :: ds → False := fun _ _ hb => absurd hb hc
  cases p with
  | top =>
    rw [Place.openQuote, scanKey.eq_5 _ _ _ _ hone hmore]
    grind [Place.next?, Place.depth, Place.openQuote, isQuote_iff]
  | quote o =>
    rw [Place.openQuote, scanKey.eq_4 _ _ _ _ _ hone hmore]
    grind [Place.next?, Place.depth, Place.openQuote]
  | nested d o =>
    obtain rfl := Option.some.inj h
    cases o with
    | some o =>
      rw [Place.openQuote, scanKey.eq_4 _ _ _ _ _ hone hmore]
      grind [nestedStep, Place.depth, Place.openQuote]
    | none =>
      rw [Place.openQuote, scanKey.eq_5 _ _ _ _ hone hmore]
      cases d <;> grind [nestedStep, Place.depth, Place.openQuote, isQuote_iff]

theorem scanParameters_escape (p : Place) (part : Part) (c : Char) :
    ∃ part', ∀ cs, scanParameters p part ('\\' :: c :: cs) = scanParameters p part' cs := by
  cases p with
  | top => exact ⟨part.push c, fun cs => by rw [scanParameters]⟩
  | quote o => exact ⟨part.push c, fun cs => by rw [scanParameters]⟩
  | nested d o => exact ⟨(part.push '\\').push c, fun cs => by rw [scanParameters]⟩

theorem scanParameters_next {c : Char} (hc : c ≠ '\\') (h : p.next? c = some next) (part : Part) :
    (∃ part', ∀ cs, scanParameters p part (c :: cs) = scanParameters next part' cs) ∨
      next = .top ∧ ∀ cs, scanParameters p part (c :: cs) =
        (scanParameters .top {} cs).map (part.finish :: ·) := by
  have hone : ∀ cs, c = '\\' → cs = ([] : List Char) → False := fun _ hb => absurd hb hc
  have hmore : ∀ (cs : List Char) d ds, c = '\\' → cs = d :: ds → False :=
    fun _ _ _ hb => absurd hb hc
  cases p with
  | top =>
    have hstep := fun cs => scanParameters.eq_13 part c cs (hmore cs) (hone cs)
    rw [Place.next?] at h
    by_cases hquote : isQuote c
    · rw [if_pos hquote] at h
      obtain rfl := Option.some.inj h
      exact .inl ⟨_, fun cs => by rw [hstep, if_pos hquote]⟩
    · rw [if_neg hquote] at h
      by_cases hopen : c = '('
      · rw [if_pos hopen] at h
        obtain rfl := Option.some.inj h
        exact .inl ⟨_, fun cs => by
          rw [hstep, if_neg hquote, if_neg (by simp [hopen]), if_pos hopen]⟩
      · rw [if_neg hopen] at h
        by_cases hclose : c = ')'
        · rw [if_pos hclose] at h
          cases h
        · rw [if_neg hclose] at h
          obtain rfl := Option.some.inj h
          simp only [hstep, if_neg hquote, if_neg hopen, if_neg hclose]
          by_cases hcomma : c = ','
          · exact .inr ⟨trivial, fun cs => by rw [if_pos hcomma]⟩
          · simp only [if_neg hcomma]
            by_cases hblank : (Text.isBlank c && part.isBlank) = true
            · exact .inl ⟨part, fun cs => by rw [if_pos hblank]⟩
            · exact .inl ⟨part.push c, fun cs => by rw [if_neg hblank]⟩
  | quote o =>
    obtain rfl := Option.some.inj h
    have hstep := fun cs => scanParameters.eq_10 part o c cs (hmore cs) (hone cs)
    by_cases ho : c = o
    · exact .inl ⟨part.closeQuote, fun cs => by rw [hstep, if_pos ho, if_pos ho]⟩
    · exact .inl ⟨part.push c, fun cs => by rw [hstep, if_neg ho, if_neg ho]⟩
  | nested d o =>
    obtain rfl := Option.some.inj h
    refine .inl ⟨part.push c, fun cs => ?_⟩
    rw [scanParameters]
    · exact hmore cs
    · exact hone cs

namespace Leads

theorem append {r : Place} {b : List Char} (h : Leads p a q) (hb : Leads q b r) :
    Leads p (a ++ b) r := by
  induction h with
  | done => exact hb
  | escape c _ ih => exact .escape c (ih hb)
  | char hc hnext _ ih => exact .char hc hnext (ih hb)

theorem inner (h : Leads p a q) : Leads p.inner a q.inner := by
  induction h with
  | done => exact .done _
  | escape c _ ih => exact .escape c ih
  | char hc hnext _ ih => exact .char hc (next?_inner hnext) ih

theorem scanParameters (h : Leads p a q) (part : Part) (b : List Char) :
    scanParameters p.inner part (a ++ b) =
      scanParameters q.inner { part with tail := part.tail ++ a } b := by
  induction h generalizing part with
  | done => simp
  | @escape p q cs c _ ih =>
    obtain ⟨d, o, hp⟩ := exists_nested p
    rw [hp] at ih ⊢
    rw [List.cons_append, List.cons_append, Sheet.scanParameters, ih]
    simp [Part.push]
  | @char p next q c cs hc hnext _ ih =>
    have hinner := next?_inner hnext
    obtain ⟨d, o, hp⟩ := exists_nested p
    rw [hp] at hinner ⊢
    rw [List.cons_append, Sheet.scanParameters, Option.some.inj hinner, ih]
    · simp [Part.push]
    · exact fun _ _ hb => absurd hb hc
    · exact fun hb => absurd hb hc

theorem scanKey (h : Leads p a q) (b : List Char) :
    scanKey true p.depth p.openQuote (a ++ b) =
      (a ++ (scanKey true q.depth q.openQuote b).1, (scanKey true q.depth q.openQuote b).2) := by
  induction h with
  | done => rfl
  | @escape p q cs c _ ih =>
    have hdepth : p.depth ≠ 0 := by cases p <;> simp [Place.depth]
    rw [List.cons_append, List.cons_append, Sheet.scanKey, ih]
    simp [hdepth]
  | @char p next q c cs hc hnext _ ih =>
    rw [List.cons_append, scanKey_next hc hnext, ih]
    rfl

theorem scanParameters_comma (h : Leads p a .top) {part : Part} {ps : List (List Char)}
    (hps : Sheet.scanParameters p part a = .ok ps) (b : List Char) :
    Sheet.scanParameters p part (a ++ ',' :: b) =
      (Sheet.scanParameters .top {} b).map (ps ++ ·) := by
  generalize hq : Place.top = q at h
  induction h generalizing part ps with
  | done =>
    subst hq
    obtain rfl := Except.ok.inj hps
    rfl
  | @escape p q cs c _ ih =>
    obtain ⟨part', hstep⟩ := scanParameters_escape p part c
    rw [hstep] at hps
    rw [List.cons_append, List.cons_append, hstep, ih hps hq]
  | @char p next q c cs hc hnext h ih =>
    rw [List.cons_append]
    rcases scanParameters_next hc hnext part with ⟨part', hstep⟩ | ⟨rfl, hstep⟩
    · rw [hstep] at hps ⊢
      exact ih hps hq
    · rw [hstep] at hps ⊢
      cases hrest : Sheet.scanParameters .top {} cs with
      | error e =>
        rw [hrest] at hps
        cases hps
      | ok qs =>
        rw [hrest] at hps
        obtain rfl := Except.ok.inj hps
        rw [ih hrest hq]
        cases Sheet.scanParameters q {} b <;> rfl

end Leads

/-- Every backslash has a character behind it that it takes along. -/
def pairsBackslashes : List Char → Bool
  | [] => true
  | ['\\'] => false
  | '\\' :: _ :: cs => pairsBackslashes cs
  | _ :: cs => pairsBackslashes cs

theorem Leads.pairsBackslashes {p q : Place} {cs : List Char} (h : Leads p cs q) :
    pairsBackslashes cs = true := by
  induction h with
  | done => rfl
  | escape c _ ih => rwa [Sheet.pairsBackslashes]
  | char hc _ _ ih =>
    rw [Sheet.pairsBackslashes]
    · exact ih
    · exact fun hb => absurd hb hc
    · exact fun _ _ hb => absurd hb hc

theorem eq_close_of_next? {p : Place} {c : Char} (h : p.next? c = none) : p = .top ∧ c = ')' := by
  cases p with
  | top => grind [Place.next?]
  | quote q => cases h
  | nested d q => cases h

/-- A list of parameters is read only if all that it opens is closed. -/
theorem leads_of_scanParameters {p : Place} {part : Part} {cs : List Char} {ps : List (List Char)}
    (h : scanParameters p part cs = .ok ps) (hpairs : pairsBackslashes cs = true) :
    Leads p cs .top := by
  fun_induction pairsBackslashes cs generalizing p part ps with
  | case1 =>
    match p, h with
    | .top, _ => exact .done _
    | .nested _ (some _), h => cases h
  | case2 => cases hpairs
  | case3 c cs ih =>
    obtain ⟨part', hstep⟩ := scanParameters_escape p part c
    rw [hstep] at h
    exact .escape c (ih h hpairs)
  | case4 c cs hone hmore ih =>
    have hc : c ≠ '\\' := by
      rintro rfl
      cases cs with
      | nil => exact hone rfl rfl
      | cons d ds => exact hmore d ds rfl rfl
    cases hnext : p.next? c with
    | none =>
      obtain ⟨rfl, rfl⟩ := eq_close_of_next? hnext
      simp [scanParameters, isQuote] at h
    | some next =>
      refine .char hc hnext ?_
      rcases scanParameters_next hc hnext part with ⟨part', hstep⟩ | ⟨rfl, hstep⟩
      · rw [hstep] at h
        exact ih h hpairs
      · rw [hstep] at h
        cases hrest : scanParameters .top {} cs with
        | error e =>
          rw [hrest] at h
          cases h
        | ok qs => exact ih hrest hpairs

theorem balanced_of_allBlank {cs : List Char} (h : Text.allBlank cs = true) : Balanced cs := by
  induction cs with
  | nil => exact .done _
  | cons c cs ih =>
    obtain ⟨hc, hcs⟩ := Bool.and_eq_true_iff.mp h
    have hne : ∀ d ∈ ['\\', '"', '\'', '(', ')'], c ≠ d := by
      rintro d hd rfl
      have hall : ['\\', '"', '\'', '(', ')'].all fun d => !Text.isBlank d := by decide
      simpa [hc] using List.all_eq_true.mp hall c hd
    refine .char (hne _ (by simp)) ?_ (ih hcs)
    simp [Place.next?, isQuote, hne]

theorem balanced_of_splitParameters {cs : List Char} {ps : List (List Char)}
    (h : splitParameters cs = .ok ps) (hpairs : pairsBackslashes cs = true) : Balanced cs := by
  rw [splitParameters] at h
  split at h
  · next hblank => exact balanced_of_allBlank hblank
  · exact leads_of_scanParameters h hpairs

def marks : List Char := ['\\', '"', '\'', '(', ')', ',', '=', '/', '$', '\n']

def callText (name inside : List Char) : List Char := '!' :: (name ++ '(' :: (inside ++ [')']))

theorem of_not_mem_marks {c : Char} (h : c ∉ marks) :
    c ≠ '\\' ∧ isQuote c = false ∧ c ≠ '(' ∧ c ≠ ')' ∧ c ≠ ',' ∧ c ≠ '=' := by
  simp only [marks, List.mem_cons, List.not_mem_nil, or_false, not_or] at h
  obtain ⟨hescape, hdouble, hsingle, hopen, hclose, hcomma, hequals, -⟩ := h
  exact ⟨hescape, by simp [isQuote, hdouble, hsingle], hopen, hclose, hcomma, hequals⟩

theorem not_mem_marks_of_name {c : Char} (h : isNameTail c ∨ c = '.') : c ∉ marks := by
  have hmarks : marks.all fun m => !(isNameTail m || m == '.') := by decide
  intro hm
  have hc := List.all_eq_true.mp hmarks c hm
  rcases h with h | h <;> simp [h] at hc

theorem not_mem_marks_of_all {cs : List Char} (h : cs.all fun c => !marks.contains c) :
    ∀ c ∈ cs, c ∉ marks := by simpa using h

theorem leads_of_plain {cs : List Char} (h : ∀ c ∈ cs, c ∉ marks) : Balanced cs := by
  induction cs with
  | nil => exact .done _
  | cons c cs ih =>
    obtain ⟨hescape, hquote, hopen, hclose, -⟩ := of_not_mem_marks (h c List.mem_cons_self)
    refine .char hescape ?_ (ih fun d hd => h d (List.mem_cons_of_mem c hd))
    simp [Place.next?, hquote, hopen, hclose]

theorem leads_parentheses {inside : List Char} (h : Balanced inside) :
    Leads .top ('(' :: (inside ++ [')'])) .top := by
  have hclose : Leads (.nested 0 none) [')'] .top := .char (by decide) rfl (.done _)
  exact .char (by decide) rfl (h.inner.append hclose)

theorem Balanced.comma {a b : List Char} (ha : Balanced a) (hb : Balanced b) :
    Balanced (a ++ ',' :: ' ' :: b) :=
  ha.append (.char (by decide) rfl (.char (by decide) rfl hb))

theorem not_mem_marks_of_mem_cons {name : List Char} (hname : ∀ c ∈ name, c ∉ marks) :
    ∀ c ∈ '!' :: name, c ∉ marks := by
  intro c hc
  rcases List.mem_cons.mp hc with rfl | hc
  · decide
  · exact hname c hc

theorem balanced_callText {name inside : List Char} (hname : ∀ c ∈ name, c ∉ marks)
    (h : Balanced inside) : Balanced (callText name inside) :=
  (leads_of_plain (not_mem_marks_of_mem_cons hname)).append (leads_parentheses h)

theorem scanParameters_char {c : Char} (hc : c ∉ marks) {part : Part}
    (hkeep : (Text.isBlank c && part.isBlank) = false) (b : List Char) :
    scanParameters .top part (c :: b) = scanParameters .top (part.push c) b := by
  obtain ⟨hescape, hquote, hopen, hclose, hcomma, -⟩ := of_not_mem_marks hc
  rw [scanParameters.eq_13 _ _ _ (fun _ _ hb => absurd hb hescape) (fun hb => absurd hb hescape)]
  simp [hquote, hopen, hclose, hcomma, hkeep]

theorem scanParameters_plain {cs : List Char} (h : ∀ c ∈ cs, c ∉ marks) {part : Part}
    (hpart : part.isBlank = false) (b : List Char) :
    scanParameters .top part (cs ++ b) =
      scanParameters .top { part with tail := part.tail ++ cs } b := by
  induction cs generalizing part with
  | nil => simp
  | cons c cs ih =>
    have hpush : (part.push c).isBlank = false := by simp [Part.isBlank, Part.push]
    rw [List.cons_append, scanParameters_char (h c List.mem_cons_self) (by simp [hpart]),
      ih (fun d hd => h d (List.mem_cons_of_mem c hd)) hpush]
    simp [Part.push]

theorem trimEnd_callText (name inside : List Char) :
    Text.trimEnd (callText name inside) = callText name inside := by
  have h := Text.trimEnd_append_cons (c := ')') (by decide) ('!' :: (name ++ '(' :: inside)) []
  simpa [callText, Text.trimEnd] using h

theorem trimStart_callText (name inside rest : List Char) :
    Text.trimStart (callText name inside ++ rest) = callText name inside ++ rest :=
  Text.trimStart_cons (by decide) _

theorem trim_callText (name inside : List Char) :
    Text.trim (callText name inside) = callText name inside := by
  have hstart := trimStart_callText name inside []
  rw [List.append_nil] at hstart
  rw [Text.trim, hstart, trimEnd_callText]

theorem scanParameters_callText {name inside : List Char} (hname : ∀ c ∈ name, c ∉ marks)
    (h : Balanced inside) :
    scanParameters .top {} (' ' :: callText name inside) = .ok [callText name inside] := by
  have hblank : scanParameters .top {} (' ' :: callText name inside) =
      scanParameters .top {} (callText name inside) := rfl
  have hopen (part : Part) (b : List Char) : scanParameters .top part ('(' :: b) =
      scanParameters (.nested 0 none) (part.push '(') b := rfl
  have hclose (part : Part) : scanParameters (.nested 0 none) part [')'] =
      .ok [(part.push ')').finish] := rfl
  have hinside (part : Part) (b : List Char) : scanParameters (.nested 0 none) part (inside ++ b) =
      scanParameters (.nested 0 none) { part with tail := part.tail ++ inside } b :=
    h.scanParameters part b
  rw [hblank, callText, scanParameters_char (by decide) (by decide), scanParameters_plain hname rfl,
    hopen, hinside, hclose]
  have hend := trimEnd_callText name inside
  simpa [Part.finish, Part.push, callText] using hend

theorem splitParameters_call {a name inside : List Char} {ps : List (List Char)} (ha : Balanced a)
    (hps : scanParameters .top {} a = .ok ps) (hname : ∀ c ∈ name, c ∉ marks)
    (h : Balanced inside) :
    splitParameters (a ++ ',' :: ' ' :: callText name inside) =
      .ok (ps ++ [callText name inside]) := by
  have hblank : Text.allBlank (a ++ ',' :: ' ' :: callText name inside) = false := by
    rw [Text.allBlank, List.all_append]
    simp [callText, Text.isBlank]
  rw [splitParameters, hblank, ha.scanParameters_comma hps, scanParameters_callText hname h]
  rfl

theorem scanKey_plain {cs : List Char} (h : ∀ c ∈ cs, c ∉ marks) (b : List Char) :
    scanKey true 0 none (cs ++ b) =
      (cs ++ (scanKey true 0 none b).1, (scanKey true 0 none b).2) := by
  induction cs with
  | nil => rfl
  | cons c cs ih =>
    obtain ⟨hescape, -, hopen, hclose, -, hequals⟩ := of_not_mem_marks (h c List.mem_cons_self)
    rw [List.cons_append, scanKey.eq_5 _ _ _ _ (fun hb => absurd hb hescape)
      (fun _ _ hb => absurd hb hescape), ih fun d hd => h d (List.mem_cons_of_mem c hd)]
    simp [hopen, hclose, hequals]

/-- The key of an assignment goes on behind a call with a balanced inside. -/
theorem scanKey_callText {name inside : List Char} (hname : ∀ c ∈ name, c ∉ marks)
    (h : Balanced inside) (b : List Char) :
    scanKey true 0 none (callText name inside ++ b) =
      (callText name inside ++ (scanKey true 0 none b).1, (scanKey true 0 none b).2) := by
  have hopen (cs : List Char) : scanKey true 0 none ('(' :: cs) =
      ('(' :: (scanKey true 1 none cs).1, (scanKey true 1 none cs).2) := by
    rw [scanKey.eq_5 _ _ _ _ (by simp) (by simp)]
    simp
  have hclose (cs : List Char) : scanKey true 1 none (')' :: cs) =
      (')' :: (scanKey true 0 none cs).1, (scanKey true 0 none cs).2) := by
    rw [scanKey.eq_5 _ _ _ _ (by simp) (by simp)]
    simp
  have hinside (cs : List Char) : scanKey true 1 none (inside ++ cs) =
      (inside ++ (scanKey true 1 none cs).1, (scanKey true 1 none cs).2) := h.scanKey cs
  have htext : callText name inside ++ b = ('!' :: name) ++ '(' :: (inside ++ ')' :: b) := by
    simp [callText]
  rw [htext, scanKey_plain (not_mem_marks_of_mem_cons hname), hopen, hinside, hclose]
  simp [callText]

end PageOverlay.Sheet
