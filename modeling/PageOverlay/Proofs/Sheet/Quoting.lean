import PageOverlay.Proofs.Sheet.Balance
import PageOverlay.Text.Pieces

/-!
# Quoted parameters

A text in double quotes is one parameter of a list, whatever stands in it: nothing in it parts the
list, opens a parenthesis or is trimmed away. Blanks around the quotes count for nothing. So a list
of quoted texts is read back as these texts.
-/

set_option autoImplicit false

namespace PageOverlay.Sheet

def escaped (c : Char) : List Char := if c = '\\' ∨ c = '"' then ['\\', c] else [c]

def quoted (cs : List Char) : List Char := '"' :: (cs.flatMap escaped ++ ['"'])

theorem leads_escaped (c : Char) : Leads (.quote '"') (escaped c) (.quote '"') := by
  rw [escaped]
  split
  · exact .escape c (.done _)
  · next h =>
    obtain ⟨hescape, hquote⟩ := not_or.mp h
    exact .char hescape (congrArg some (if_neg hquote)) (.done _)

theorem balanced_quoted (cs : List Char) : Balanced (quoted cs) := by
  have hinside : Leads (.quote '"') (cs.flatMap escaped) (.quote '"') := by
    induction cs with
    | nil => exact .done _
    | cons c cs ih => exact (leads_escaped c).append ih
  have hclose : Leads (.quote '"') ['"'] .top := .char (by decide) rfl (.done _)
  exact .char (by decide) rfl (hinside.append hclose)

theorem scanParameters_escaped (c : Char) (part : Part) (b : List Char) :
    scanParameters (.quote '"') part (escaped c ++ b) =
      scanParameters (.quote '"') (part.push c) b := by
  rw [escaped]
  split
  · rfl
  · next h =>
    obtain ⟨hescape, hquote⟩ := not_or.mp h
    rw [List.singleton_append, scanParameters.eq_10 _ _ _ _ (fun _ _ hb => absurd hb hescape)
      (fun hb => absurd hb hescape), if_neg hquote]

/-- After a quoted text the parameter that is open holds this text, and no trimming reaches it. -/
theorem scanParameters_quoted_append (cs b : List Char) :
    scanParameters .top {} (quoted cs ++ b) =
      scanParameters .top { kept := cs, quoted := true } b := by
  have hinside (part : Part) (b : List Char) :
      scanParameters (.quote '"') part (cs.flatMap escaped ++ b) =
        scanParameters (.quote '"') { part with tail := part.tail ++ cs } b := by
    induction cs generalizing part with
    | nil => simp
    | cons c cs ih =>
      rw [List.flatMap_cons, List.append_assoc, scanParameters_escaped, ih]
      simp [Part.push]
  have hopen (b : List Char) : scanParameters .top {} ('"' :: b) =
      scanParameters (.quote '"') { quoted := true } b := rfl
  have hclose (part : Part) (b : List Char) : scanParameters (.quote '"') part ('"' :: b) =
      scanParameters .top part.closeQuote b := rfl
  rw [quoted, List.cons_append, List.append_assoc, hopen, hinside, List.singleton_append, hclose]
  simp [Part.closeQuote]

theorem scanParameters_quoted (cs : List Char) : scanParameters .top {} (quoted cs) = .ok [cs] := by
  have h := scanParameters_quoted_append cs []
  rw [List.append_nil] at h
  rw [h]
  simp [scanParameters, Part.finish, Text.trimEnd]

theorem newline_not_mem_quoted {cs : List Char} (h : '\n' ∉ cs) : '\n' ∉ quoted cs := by
  have hescaped : ∀ c ∈ cs, '\n' ∉ escaped c := by
    intro c hc
    have hne : '\n' ≠ c := fun he => h (he ▸ hc)
    rw [escaped]
    split <;> simp [hne]
  simpa [quoted] using hescaped

theorem scanParameters_blank {c : Char} (h : Text.isBlank c = true) (part : Part) (b : List Char) :
    scanParameters .top part (c :: b) =
      scanParameters .top (if part.isBlank then part else part.push c) b := by
  have hne : ∀ d ∈ ['\\', '"', '\'', ',', '(', ')'], c ≠ d := by
    rintro d hd rfl
    have hall : ['\\', '"', '\'', ',', '(', ')'].all fun d => !Text.isBlank d := by decide
    simpa [h] using List.all_eq_true.mp hall c hd
  have hescape : c ≠ '\\' := hne _ (by simp)
  rw [scanParameters.eq_13 _ _ _ (fun _ _ hb => absurd hb hescape) (fun hb => absurd hb hescape)]
  cases hp : part.isBlank <;> simp [isQuote, hne, h]

theorem scanParameters_before {cs : List Char} (h : Text.allBlank cs = true) (b : List Char) :
    scanParameters .top {} (cs ++ b) = scanParameters .top {} b := by
  induction cs with
  | nil => rfl
  | cons c cs ih =>
    obtain ⟨hc, hcs⟩ := Bool.and_eq_true_iff.mp h
    have hskip : scanParameters .top {} (c :: (cs ++ b)) = scanParameters .top {} (cs ++ b) :=
      scanParameters_blank hc {} _
    rw [List.cons_append, hskip, ih hcs]

theorem scanParameters_after {cs : List Char} (h : Text.allBlank cs = true) {part : Part}
    (hpart : part.quoted = true) :
    scanParameters .top part cs = .ok [part.kept ++ Text.trimEnd (part.tail ++ cs)] := by
  induction cs generalizing part with
  | nil => simp [scanParameters, Part.finish]
  | cons c cs ih =>
    obtain ⟨hc, hcs⟩ := Bool.and_eq_true_iff.mp h
    have hblank : part.isBlank = false := by simp [Part.isBlank, hpart]
    have hpush : (part.push c).quoted = true := hpart
    rw [scanParameters_blank hc, hblank, if_neg Bool.false_ne_true, ih hcs hpush]
    simp [Part.push]

structure QuotedParameter where
  text : List Char
  before : List Char := []
  after : List Char := []
  before_blank : Text.allBlank before = true := by decide
  after_blank : Text.allBlank after = true := by decide

namespace QuotedParameter

def write (x : QuotedParameter) : List Char := x.before ++ (quoted x.text ++ x.after)

variable (x : QuotedParameter)

theorem balanced_write : Balanced x.write :=
  (balanced_of_allBlank x.before_blank).append
    ((balanced_quoted x.text).append (balanced_of_allBlank x.after_blank))

theorem scanParameters_write : scanParameters .top {} x.write = .ok [x.text] := by
  rw [write, scanParameters_before x.before_blank, scanParameters_quoted_append,
    scanParameters_after x.after_blank rfl, List.nil_append,
    Text.trimEnd_of_allBlank x.after_blank, List.append_nil]

theorem not_allBlank_write_append (b : List Char) : Text.allBlank (x.write ++ b) = false := by
  rw [write, quoted, Text.allBlank, List.all_append, List.all_append]
  simp [Text.isBlank]

def writeAll (xs : List QuotedParameter) : List Char := Text.joinWith [','] (xs.map write)

theorem scanParameters_writeAll (xs : List QuotedParameter) :
    scanParameters .top {} (writeAll (x :: xs)) = .ok (x.text :: xs.map text) := by
  induction xs generalizing x with
  | nil => exact x.scanParameters_write
  | cons y ys ih =>
    have hall : writeAll (x :: y :: ys) = x.write ++ ',' :: writeAll (y :: ys) := by
      simp [writeAll, Text.joinWith]
    rw [hall, x.balanced_write.scanParameters_comma x.scanParameters_write, ih y]
    rfl

/-- Quoted texts between commas are read back one by one, whatever they hold and whatever blanks
stand around the commas. -/
theorem splitParameters_writeAll (xs : List QuotedParameter) :
    splitParameters (writeAll xs) = .ok (xs.map text) := by
  cases xs with
  | nil => rfl
  | cons x xs =>
    have hblank : Text.allBlank (writeAll (x :: xs)) = false := by
      cases xs with
      | nil => simpa [writeAll, Text.joinWith] using x.not_allBlank_write_append []
      | cons y ys =>
        rw [writeAll, List.map_cons, Text.joinWith_cons _ _ (by simp), List.append_assoc]
        exact x.not_allBlank_write_append _
    rw [splitParameters, if_neg (by simp [hblank]), scanParameters_writeAll]
    rfl

example : splitParameters " \"\" ,\" a,b \\\"(\"\t,  \"\\\\)'\"".toList =
    .ok ["".toList, " a,b \"(".toList, "\\)'".toList] := by
  decide

end QuotedParameter
end PageOverlay.Sheet
