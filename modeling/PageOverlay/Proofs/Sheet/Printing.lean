import Mathlib.Data.List.TakeWhile
import PageOverlay.Proofs.Sheet.CallLines
import PageOverlay.Proofs.Sheet.PlainLines
import PageOverlay.Proofs.Text.WordCharacters

/-!
# Printed lines

Every kind of line that declares something has a printed form. What its parts may hold is said here
without a word about how lines are read, and a printed line is read as what it was printed for. The
one exception is a plus sign without a name.
-/

set_option autoImplicit false

namespace PageOverlay.Sheet

inductive Item
  | header (segments : List (List Char))
  | option (key value : List Char)
  | flag (key : List Char)
  | declare (name value description : List Char)
  | importing (name : List Char)
  | assign (search replacement : List Char)
  | call (name inside value : List Char)
  deriving DecidableEq, Repr

def described (value description : List Char) : List Char :=
  if description = [] then value else value ++ ' ' :: '/' :: '/' :: ' ' :: description

def Spells (p : Char → Bool) (cs : List Char) : Prop :=
  ∃ c ds, cs = c :: ds ∧ Text.isNameStart c = true ∧ ds.all p = true

namespace Item

def print : Item → List Char
  | header segments => '[' :: (Text.joinWith ['.'] segments ++ [']'])
  | option key value => assigned ('@' :: key) (some value)
  | flag key => assigned ('@' :: key) none
  | declare name value description =>
    assigned ('$' :: name) (some (described value description))
  | importing name => '+' :: name
  | assign search replacement => plainLine search replacement
  | call name inside value => assigned (callText name inside) (some value)

def Fits : Item → Prop
  | header segments =>
    ∀ s ∈ segments, s ≠ [] ∧ Text.trim s = s ∧ ∀ c ∈ s, c ≠ '.' ∧ c ≠ '[' ∧ c ≠ ']'
  | option key value => Spells isNameTail key ∧ value ≠ [] ∧ Text.trim value = value
  | flag key => Spells isNameTail key
  | declare name value description =>
    Spells Text.isWord name ∧ Text.trim value = value ∧ Text.trim description = description ∧
      ∀ before after, value = before ++ '/' :: '/' :: after → before.getLast? = some ':'
  | importing name => Text.trim name = name ∧ name.head? ≠ some '+'
  | assign search replacement =>
    search ≠ [] ∧ Text.trim search = search ∧ '\\' ∉ search ∧
      (∀ c ∈ search.head?, c ∉ leadingMarks ∧ c ≠ '$') ∧ Text.trim replacement = replacement
  | call name inside value =>
    (∀ c ∈ name, c ∉ marks) ∧ (∃ parameters, splitParameters inside = .ok parameters) ∧
      pairsBackslashes inside = true ∧ Text.trim value = value

@[simp] def outcome : Item → Except LineFault Entry
  | header segments => .ok (.scope (String.ofList (Text.joinWith ['.'] segments)))
  | option key value => .ok (.option (String.ofList key) (some (String.ofList value)))
  | flag key => .ok (.option (String.ofList key) none)
  | declare name value description =>
    .ok (.declare (String.ofList name) (String.ofList value) (String.ofList description))
  | importing name =>
    if name = [] then .error .noImportName else .ok (.importing (String.ofList name))
  | assign search replacement =>
    .ok (.command (String.ofList search) (String.ofList replacement))
  | call name inside value =>
    .ok (.command (String.ofList (callText name inside)) (String.ofList value))

end Item

/-- An item whose parts fit and hold no line break. -/
structure Item.IsWellFormed (item : Item) : Prop where
  fits : item.Fits
  unbroken : IsUnbroken item.print

theorem piecesBy_of_none {p : Char → Bool} {cs : List Char} (h : ∀ c ∈ cs, p c = false) :
    Text.piecesBy p cs = [cs] := by
  induction cs with
  | nil => rfl
  | cons c cs ih =>
    rw [Text.piecesBy, ih fun d hd => h d (List.mem_cons_of_mem c hd)]
    simp [h c List.mem_cons_self]

theorem piecesBy_append {p : Char → Bool} {cs : List Char} (h : ∀ c ∈ cs, p c = false) {sep : Char}
    (hsep : p sep = true) (rest : List Char) :
    Text.piecesBy p (cs ++ sep :: rest) = cs :: Text.piecesBy p rest := by
  induction cs with
  | nil => rw [List.nil_append, Text.piecesBy, if_pos hsep]
  | cons c cs ih =>
    rw [List.cons_append, Text.piecesBy, ih fun d hd => h d (List.mem_cons_of_mem c hd)]
    simp [h c List.mem_cons_self]

theorem pieces_joinWith {sep : Char} {ws : List (List Char)} (hne : ws ≠ [])
    (h : ∀ w ∈ ws, sep ∉ w) : Text.pieces sep (Text.joinWith [sep] ws) = ws := by
  have hp : ∀ w ∈ ws, ∀ c ∈ w, (c == sep) = false := by
    intro w hw c hc
    exact beq_eq_false_iff_ne.mpr fun he => h w hw (he ▸ hc)
  induction ws with
  | nil => exact absurd rfl hne
  | cons w ws ih =>
    cases ws with
    | nil => exact piecesBy_of_none (hp w List.mem_cons_self)
    | cons v vs =>
      have hrest := ih (List.cons_ne_nil v vs) (fun u hu => h u (List.mem_cons_of_mem w hu))
        fun u hu => hp u (List.mem_cons_of_mem w hu)
      rw [Text.joinWith_cons _ _ (List.cons_ne_nil v vs), List.append_assoc, List.singleton_append,
        Text.pieces, piecesBy_append (hp w List.mem_cons_self) (beq_self_eq_true sep)]
      exact congrArg (w :: ·) hrest

theorem mem_joinWith {c : Char} {sep : List Char} {ws : List (List Char)}
    (h : c ∈ Text.joinWith sep ws) : c ∈ sep ∨ ∃ w ∈ ws, c ∈ w := by
  induction ws with
  | nil => cases h
  | cons w ws ih =>
    cases ws with
    | nil => exact .inr ⟨w, List.mem_cons_self, h⟩
    | cons v vs =>
      rw [Text.joinWith_cons _ _ (List.cons_ne_nil v vs), List.append_assoc, List.mem_append,
        List.mem_append] at h
      rcases h with h | h | h
      · exact .inr ⟨w, List.mem_cons_self, h⟩
      · exact .inl h
      · rcases ih h with h | ⟨u, hu, hc⟩
        · exact .inl h
        · exact .inr ⟨u, List.mem_cons_of_mem w hu, hc⟩

theorem trim_joinWith {ws : List (List Char)} (h : ∀ w ∈ ws, w ≠ [] ∧ Text.trim w = w) :
    Text.trim (Text.joinWith ['.'] ws) = Text.joinWith ['.'] ws := by
  have hend : Text.trimEnd (Text.joinWith ['.'] ws) = Text.joinWith ['.'] ws := by
    induction ws with
    | nil => rfl
    | cons w ws ih =>
      cases ws with
      | nil => exact Text.trimEnd_eq_self_of_trim (h w List.mem_cons_self).2
      | cons v vs =>
        rw [Text.joinWith_cons _ _ (List.cons_ne_nil v vs), List.append_assoc,
          List.singleton_append, Text.trimEnd_append_cons (by decide),
          ih fun u hu => h u (List.mem_cons_of_mem w hu)]
  have hstart : Text.trimStart (Text.joinWith ['.'] ws) = Text.joinWith ['.'] ws := by
    cases ws with
    | nil => rfl
    | cons w ws =>
      obtain ⟨hne, htrim⟩ := h w List.mem_cons_self
      obtain ⟨c, cs, rfl⟩ := List.exists_cons_of_ne_nil hne
      cases ws with
      | nil => exact Text.trimStart_eq_self_of_trim htrim
      | cons v vs =>
        rw [Text.joinWith_cons _ _ (List.cons_ne_nil v vs), List.append_assoc, List.cons_append,
          Text.trimStart_cons (Text.not_blank_of_trim htrim)]
  rw [Text.trim, hstart, hend]

theorem closesOnce_append {cs : List Char} (h : ']' ∉ cs) : closesOnce (cs ++ [']']) = true := by
  induction cs with
  | nil => rfl
  | cons c cs ih =>
    obtain ⟨hc, hcs⟩ : ']' ≠ c ∧ ']' ∉ cs := by simpa using h
    rw [List.cons_append, closesOnce, if_neg (Ne.symm hc), ih hcs]

theorem dropWhile_eq_of_not_mem {c : Char} {cs : List Char} (h : c ∉ cs) :
    cs.dropWhile (· = c) = cs := by
  cases cs with
  | nil => rfl
  | cons d ds =>
    have hd : d ≠ c := fun hd => h (by simp [hd])
    simp [hd]

theorem readLine_bracketed {name : List Char} (hclose : ']' ∉ name) (n : Nat) :
    readLine (lineAt n ('[' :: (name ++ [']']))) = readSection ('[' :: (name ++ [']'])) := by
  have hend := Text.trimEnd_append_cons (c := ']') (by decide) name []
  have htext : Text.trim ('[' :: (name ++ [']'])) = '[' :: (name ++ [']']) :=
    Text.trim_cons (by decide) hend
  have hkind : kindOf ('[' :: (name ++ [']'])) = .header := by
    simp [kindOf, closesOnce_append hclose]
  rw [readLine, lineAt, htext, hkind]

/-- The brackets around a name without brackets are taken away. -/
theorem readSection_bracketed {name : List Char} (hopen : '[' ∉ name) (hclose : ']' ∉ name)
    (htrim : Text.trim name = name) :
    readSection ('[' :: (name ++ [']'])) =
      if !name.isEmpty && (Text.pieces '.' name).any Text.allBlank then
        .error (.sectionName (String.ofList name))
      else .ok (.scope (String.ofList
        (Text.joinWith ['.'] ((Text.pieces '.' name).map Text.trim)))) := by
  have hdrop : ('[' :: (name ++ [']'])).dropWhile (· = '[') = name ++ [']'] := by
    have hrest : '[' ∉ name ++ [']'] := by simpa using hopen
    rw [List.dropWhile_cons_of_pos (by simp), dropWhile_eq_of_not_mem hrest]
  have hreverse : ((name ++ [']']).reverse.dropWhile (· = ']')).reverse = name := by
    have hrest : ']' ∉ name.reverse := by simpa using hclose
    rw [List.reverse_append, List.reverse_singleton, List.singleton_append,
      List.dropWhile_cons_of_pos (by simp), dropWhile_eq_of_not_mem hrest, List.reverse_reverse]
  rw [readSection, hdrop, hreverse, htrim]

theorem readLine_header {segments : List (List Char)} (h : (Item.header segments).Fits) (n : Nat) :
    readLine (lineAt n (Item.header segments).print) = (Item.header segments).outcome := by
  have hmem : ∀ c ∈ Text.joinWith ['.'] segments, c ≠ '[' ∧ c ≠ ']' := by
    intro c hc
    rcases mem_joinWith hc with hc | ⟨s, hs, hc⟩
    · obtain rfl := List.mem_singleton.mp hc
      decide
    · exact ((h s hs).2.2 c hc).2
  have hopen : '[' ∉ Text.joinWith ['.'] segments := fun hc => (hmem _ hc).1 rfl
  have hclose : ']' ∉ Text.joinWith ['.'] segments := fun hc => (hmem _ hc).2 rfl
  have htrim := trim_joinWith fun s hs => ⟨(h s hs).1, (h s hs).2.1⟩
  rw [Item.print, readLine_bracketed hclose, readSection_bracketed hopen hclose htrim, Item.outcome]
  by_cases hsegments : segments = []
  · subst hsegments
    rfl
  · have hpieces : Text.pieces '.' (Text.joinWith ['.'] segments) = segments :=
      pieces_joinWith hsegments fun s hs hdot => ((h s hs).2.2 _ hdot).1 rfl
    have hblank : segments.any Text.allBlank = false := by
      simp only [List.any_eq_false, Bool.not_eq_true]
      exact fun s hs => Text.not_allBlank_of_trim (h s hs).1 (h s hs).2.1
    have hmap : segments.map Text.trim = segments :=
      (List.map_congr_left fun s hs => (h s hs).2.1).trans (List.map_id _)
    simp [hpieces, hblank, hmap]

variable {p : Char → Bool} {mark : Char} {key value description name : List Char}

theorem isNameTail_of_isWord {c : Char} (h : Text.isWord c = true) : isNameTail c = true := by
  simp [isNameTail, h]

theorem not_blank_of_isNameTail {c : Char} (h : isNameTail c = true) : Text.isBlank c = false := by
  rcases Bool.or_eq_true_iff.mp h with h | h
  · exact Text.not_blank_of_isWord h
  · rw [eq_of_beq h]
    decide

namespace Spells

theorem isNameTail (h : Spells p key) (hp : ∀ c, p c = true → isNameTail c = true) :
    ∀ c ∈ key, isNameTail c = true := by
  obtain ⟨c, ds, rfl, hc, hds⟩ := h
  intro d hd
  rcases List.mem_cons.mp hd with rfl | hd
  · exact isNameTail_of_isWord (Text.isWord_of_isNameStart d hc)
  · exact hp d (List.all_eq_true.mp hds d hd)

theorem not_mem_marks (h : Spells p key) (hp : ∀ c, p c = true → Sheet.isNameTail c = true) :
    ∀ c ∈ key, c ∉ marks :=
  fun c hc => not_mem_marks_of_name (.inl (h.isNameTail hp c hc))

theorem trim_cons (h : Spells p key) (hp : ∀ c, p c = true → Sheet.isNameTail c = true)
    (hmark : Text.isBlank mark = false) : Text.trim (mark :: key) = mark :: key :=
  Text.trim_cons hmark
    (Text.trimEnd_of_not_blank fun c hc => not_blank_of_isNameTail (h.isNameTail hp c hc))

theorem isKey (h : Spells p key) (hp : ∀ c, p c = true → Sheet.isNameTail c = true)
    (hmark : Text.isBlank mark = false ∧ mark ≠ '\\' ∧ mark ≠ '!') : IsKey (mark :: key) where
  nonempty := List.cons_ne_nil _ _
  trimmed := h.trim_cons hp hmark.1
  unescaped := by
    intro hm
    rcases List.mem_cons.mp hm with hm | hm
    · exact hmark.2.1 hm.symm
    · exact h.not_mem_marks hp _ hm (by decide)
  first := by simpa using hmark.2.2

theorem not_mem_equals (h : Spells p key) (hp : ∀ c, p c = true → Sheet.isNameTail c = true)
    (hmark : mark ≠ '=') : '=' ∉ mark :: key := by
  intro hm
  rcases List.mem_cons.mp hm with hm | hm
  · exact hmark hm.symm
  · exact h.not_mem_marks hp _ hm (by decide)

theorem assigned_eq (h : Spells p key) (hp : ∀ c, p c = true → Sheet.isNameTail c = true)
    (hmark : mark ≠ '=') (value : List Char) :
    assigned (mark :: key) (some value) = plainLine (mark :: key) value := by
  rw [plainLine, escapeEquals_of_not_mem (h.not_mem_equals hp hmark), assigned]

end Spells

theorem optionName?_of_spells (h : Spells isNameTail key) :
    optionName? ('@' :: key) = some key := by
  obtain ⟨c, ds, rfl, hc, hds⟩ := h
  have htail : ds.takeWhile isNameTail = ds :=
    List.takeWhile_eq_self_iff.mpr (List.all_eq_true.mp hds)
  simp [optionName?, htail, hc]

theorem variableName?_of_spells (h : Spells Text.isWord name) :
    variableName? ('$' :: name) = some name := by
  obtain ⟨c, ds, rfl, hc, hds⟩ := h
  simp [variableName?, hc, hds]

theorem kindOf_option (cs : List Char) : kindOf ('@' :: cs) = .option := by simp [kindOf]

theorem kindOf_declaration (cs : List Char) : kindOf ('$' :: cs) = .declaration := by simp [kindOf]

theorem kindOf_importing (cs : List Char) : kindOf ('+' :: cs) = .importing := by simp [kindOf]

theorem IsKey.exists_trim_line (h : IsKey (mark :: key)) (hmark : mark ≠ '=') (value : List Char) :
    ∃ cs, Text.trim (plainLine (mark :: key) value) = mark :: cs := by
  rw [h.trim_line, escapeEquals, if_neg hmark]
  exact ⟨_, rfl⟩

theorem readLine_option (h : (Item.option key value).Fits) (n : Nat) :
    readLine (lineAt n (Item.option key value).print) = (Item.option key value).outcome := by
  obtain ⟨hkey, hne, htrim⟩ := h
  have hisKey : IsKey ('@' :: key) := hkey.isKey (fun _ hc => hc) (by decide)
  have hsplit := hisKey.splitAssignment value
  obtain ⟨cs, hcs⟩ := hisKey.exists_trim_line (by decide) value
  have hempty : value.isEmpty = false := by simpa using hne
  rw [Item.print, hkey.assigned_eq (fun _ hc => hc) (by decide), readLine, lineAt, hcs,
    kindOf_option, readOption, ← hcs, hsplit, htrim]
  simp [optionName?_of_spells hkey, hempty, Item.outcome, Option.filter]

theorem readLine_flag (h : (Item.flag key).Fits) (n : Nat) :
    readLine (lineAt n (Item.flag key).print) = (Item.flag key).outcome := by
  have hkey : Spells isNameTail key := h
  have hisKey : IsKey ('@' :: key) := hkey.isKey (fun _ hc => hc) (by decide)
  have hsplit := hisKey.splitAssignment_alone (hkey.not_mem_equals (fun _ hc => hc) (by decide))
  rw [Item.print, assigned, readLine, lineAt, hisKey.trimmed, kindOf_option, readOption, hsplit]
  simp [optionName?_of_spells hkey, Item.outcome]

/-- Two slashes after a colon are passed over; `before` is what stands before the value, last
character first. -/
theorem splitDescription_append {before value : List Char}
    (h : ∀ a b, value = a ++ '/' :: '/' :: b → (a.reverse ++ before).head? = some ':')
    (rest : List Char) (hrest : rest.head? ≠ some '/') :
    splitDescription before (value ++ rest) =
      splitDescription (value.reverse ++ before) rest := by
  fun_induction splitDescription before value with
  | case1 before => rfl
  | case2 before cs hcolon ih =>
    have hnext := ih fun a b hab => by simpa using h ('/' :: '/' :: a) b (by simp [hab])
    rw [List.cons_append, List.cons_append, splitDescription, if_pos hcolon, hnext]
    simp
  | case3 before cs hcolon => exact absurd (h [] cs rfl) hcolon
  | case4 before c cs hpair ih =>
    have hnext := ih fun a b hab => by simpa using h (c :: a) b (by simp [hab])
    have hsingle : ∀ ds, c = '/' → cs ++ rest = '/' :: ds → False := by
      rintro ds rfl hds
      cases cs with
      | nil => exact hrest (by simp [show rest = '/' :: ds from hds])
      | cons d cs => exact hpair cs rfl (by rw [(List.cons.inj hds).1])
    rw [List.cons_append, splitDescription, hnext]
    · simp
    · exact hsingle

theorem trim_described (hvalue : Text.trim value = value)
    (hdescription : Text.trim description = description) (hne : description ≠ []) :
    Text.trim (described value description) =
      (if value = [] then [] else value ++ [' ']) ++ '/' :: '/' :: ' ' :: description := by
  have hend : Text.trimEnd ('/' :: ' ' :: description) = '/' :: ' ' :: description := by
    rw [Text.trimEnd_cons_of_not_blank (by decide), Text.trimEnd_cons_of_blank (by decide)
      (Text.trimEnd_eq_self_of_trim hdescription), if_neg hne]
  rw [described, if_neg hne]
  cases value with
  | nil =>
    rw [if_pos rfl, List.nil_append, List.nil_append, Text.trim_cons_blank (by decide)]
    exact Text.trim_cons (by decide) hend
  | cons c cs =>
    have hslash := Text.trimEnd_append_cons (c := '/') (by decide) (c :: cs ++ [' '])
      ('/' :: ' ' :: description)
    rw [hend, List.append_assoc, List.singleton_append] at hslash
    rw [if_neg (List.cons_ne_nil c cs), List.append_assoc, List.singleton_append, Text.trim,
      List.cons_append, Text.trimStart_cons (Text.not_blank_of_trim hvalue), ← List.cons_append,
      hslash]

theorem splitDescription_described (hvalue : Text.trim value = value)
    (hdescription : Text.trim description = description)
    (hslashes : ∀ before after,
      value = before ++ '/' :: '/' :: after → before.getLast? = some ':') :
    splitDescription [] (Text.trim (described value description)) = (value, description) := by
  have hkept : ∀ a b, value = a ++ '/' :: '/' :: b → (a.reverse ++ []).head? = some ':' := by
    intro a b hab
    rw [List.append_nil, List.head?_reverse]
    exact hslashes a b hab
  have hbehind : Text.trim (' ' :: description) = description := by
    rw [Text.trim_cons_blank (by decide), hdescription]
  by_cases hne : description = []
  · have h := splitDescription_append hkept [] (by simp)
    rw [List.append_nil, List.append_nil, splitDescription, List.reverse_reverse, hvalue] at h
    rw [described, if_pos hne, hvalue, h, hne]
  · rw [trim_described hvalue hdescription hne]
    by_cases hempty : value = []
    · rw [if_pos hempty, List.nil_append, splitDescription, hbehind, hempty]
      simp [Text.trim, Text.trimStart, Text.trimEnd]
    · have h := splitDescription_append hkept (' ' :: '/' :: '/' :: ' ' :: description) (by simp)
      have hback := Text.trim_append_blank (c := ' ') hvalue (by decide)
      rw [if_neg hempty, List.append_assoc, List.singleton_append, h, splitDescription,
        splitDescription]
      · simp [hbehind, hback]
      · simp

theorem readLine_declare (h : (Item.declare name value description).Fits) (n : Nat) :
    readLine (lineAt n (Item.declare name value description).print) =
      (Item.declare name value description).outcome := by
  obtain ⟨hname, hvalue, hdescription, hslashes⟩ := h
  have hisKey : IsKey ('$' :: name) := hname.isKey (fun _ => isNameTail_of_isWord) (by decide)
  have hsplit := hisKey.splitAssignment (described value description)
  obtain ⟨cs, hcs⟩ := hisKey.exists_trim_line (by decide) (described value description)
  have hdescribed := splitDescription_described hvalue hdescription hslashes
  rw [Item.print, hname.assigned_eq (fun _ => isNameTail_of_isWord) (by decide), readLine, lineAt,
    hcs, kindOf_declaration, readVariable, ← hcs, hsplit]
  simp [variableName?_of_spells hname, hdescribed, Item.outcome]

theorem readLine_importing (h : (Item.importing name).Fits) (n : Nat) :
    readLine (lineAt n (Item.importing name).print) = (Item.importing name).outcome := by
  obtain ⟨htrim, hfirst⟩ := h
  have htext : Text.trim ('+' :: name) = '+' :: name :=
    Text.trim_cons (by decide) (Text.trimEnd_eq_self_of_trim htrim)
  have hdrop : ('+' :: name).dropWhile (· = '+') = name := by
    rw [List.dropWhile_cons_of_pos (by simp)]
    cases name with
    | nil => rfl
    | cons c cs => exact List.dropWhile_cons_of_neg (by simpa using hfirst)
  rw [Item.print, readLine, lineAt, htext, kindOf_importing, readImport, hdrop, htrim, Item.outcome]
  simp

theorem Item.Fits.isKey {search replacement : List Char}
    (h : (Item.assign search replacement).Fits) : IsKey search where
  nonempty := h.1
  trimmed := h.2.1
  unescaped := h.2.2.1
  first := fun hfirst => (h.2.2.2.1 _ hfirst).1 (by simp [leadingMarks])

theorem readLine_print {item : Item} (h : item.Fits) (n : Nat) :
    readLine (lineAt n item.print) = item.outcome := by
  cases item with
  | header segments => exact readLine_header h n
  | option key value => exact readLine_option h n
  | flag key => exact readLine_flag h n
  | declare name value description => exact readLine_declare h n
  | importing name => exact readLine_importing h n
  | assign search replacement =>
    have hread := h.isKey.readLine h.2.2.2.1 replacement n
    rw [h.2.2.2.2] at hread
    exact hread
  | call name inside value =>
    obtain ⟨hname, ⟨parameters, hsplit⟩, hpairs, htrim⟩ := h
    rw [Item.print, readLine_callText hname (balanced_of_splitParameters hsplit hpairs),
      Option.getD_some, htrim, Item.outcome]

end PageOverlay.Sheet
