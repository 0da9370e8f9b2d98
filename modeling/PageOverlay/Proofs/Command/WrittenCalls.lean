import PageOverlay.Proofs.Command.Building
import PageOverlay.Proofs.Sheet.CallLines

/-!
# Calls as they are written

A call is read three times: the line is cut behind its key, the name and the inside of the
parentheses are read from the key, and the inside is split into parameters. All three agree on where
the parameters end, so whatever the parameters hold reaches the command as it was split.
-/

set_option autoImplicit false

namespace PageOverlay

open Sheet (Balanced callText marks splitAssignment splitParameters)

theorem IsName.not_mem_marks {name : List Char} (h : IsName name) : ∀ c ∈ name, c ∉ marks := by
  obtain ⟨first, later⟩ := h
  intro d hd
  rcases List.mem_cons.mp hd with rfl | hd
  · have hmarks : marks.all fun m => !Text.isNameStart m := by decide
    intro hm
    simpa [first] using List.all_eq_true.mp hmarks d hm
  · exact Sheet.not_mem_marks_of_name (.inl (List.all_eq_true.mp later d hd))

namespace Call

def words (call : Call) : List Char :=
  match call.space with
  | none => call.name
  | some space => space ++ '.' :: call.name

def text (call : Call) : List Char := callText call.words call.inside

theorem read?_of_space {space name inside : List Char} (hspace : IsName space) (hname : IsName name)
    (hinside : '\n' ∉ inside) :
    read? (space ++ '.' :: (name ++ '(' :: (inside ++ [')']))) =
      some ⟨some space, name, inside⟩ := by
  have htrim : Text.trimStart (space ++ '.' :: (name ++ '(' :: (inside ++ [')']))) =
      space ++ '.' :: (name ++ '(' :: (inside ++ [')'])) := by
    obtain ⟨first, -⟩ := hspace
    exact Text.trimStart_cons (not_blank_of_isNameStart first) _
  rw [read?, htrim, takeName?_append hspace (by decide)]
  simp only [takeName?_append hname (by decide : ¬ Sheet.isNameTail '('),
    readInside?_append hinside, Option.map_some]

end Call

/-- A call in one line with a list of parameters that can be read. -/
structure WrittenCall extends Call where
  parameters : List (List Char)
  space_isName : ∀ s ∈ space, IsName s
  name_isName : IsName name
  accepted : splitParameters inside = .ok parameters
  paired : Sheet.pairsBackslashes inside = true
  oneLine : '\n' ∉ inside

namespace WrittenCall

variable (x : WrittenCall)

theorem balanced : Balanced x.inside := Sheet.balanced_of_splitParameters x.accepted x.paired

theorem words_not_mem_marks : ∀ c ∈ x.words, c ∉ marks := by
  have hname := x.name_isName.not_mem_marks
  intro c hc
  rw [Call.words] at hc
  split at hc
  · exact hname c hc
  · next s hs =>
    rcases List.mem_append.mp hc with hc | hc
    · exact (x.space_isName s hs).not_mem_marks c hc
    · rcases List.mem_cons.mp hc with rfl | hc
      · decide
      · exact hname c hc

theorem newline_not_mem_text : '\n' ∉ x.text := by
  have hwords : '\n' ∉ x.words := fun h => x.words_not_mem_marks _ h (by decide)
  simp [Call.text, callText, hwords, x.oneLine]

theorem head?_words : ∃ c, x.words.head? = some c ∧ Text.isNameStart c := by
  have hhead {name : List Char} (h : IsName name) (rest : List Char) :
      ∃ c, (name ++ rest).head? = some c ∧ Text.isNameStart c := by
    obtain ⟨first, -⟩ := h
    exact ⟨_, rfl, first⟩
  rw [Call.words]
  split
  · simpa using hhead x.name_isName []
  · next s hs => exact hhead (x.space_isName s hs) _

theorem read?_text : Call.read? x.text.tail = some x.toCall := by
  obtain ⟨⟨space, name, inside⟩, parameters, hspace, hname, -, -, hline⟩ := x
  cases space with
  | none => exact Call.read?_of_isName hname hline
  | some s =>
    have htext : Call.text ⟨some s, name, inside⟩ =
        '!' :: (s ++ '.' :: (name ++ '(' :: (inside ++ [')']))) := by
      simp [Call.text, Call.words, callText]
    rw [htext]
    exact Call.read?_of_space (hspace s rfl) hname hline

theorem tryBuild_text (b : Builder) (value : String) :
    b.tryBuild value x.text =
      (b.resolve x.toCall).bind fun e => b.construct e ⟨e.name, x.parameters, value⟩ := by
  have hnoSlash : x.text.tail.head? ≠ some '/' := by
    obtain ⟨c, hhead, hc⟩ := x.head?_words
    rw [Call.text, callText, List.tail_cons, List.head?_append, hhead]
    rintro ⟨rfl⟩
    cases hc
  exact Builder.tryBuild_of_read (Sheet.trim_callText _ _) hnoSlash x.read?_text x.accepted value

theorem splitAssignment_text (v : List Char) :
    splitAssignment (x.text ++ ' ' :: '=' :: ' ' :: v) = (x.text, some (Text.trim v)) := by
  rw [Call.text, Sheet.splitAssignment_callText_equals x.words_not_mem_marks x.balanced,
    Text.trim_cons_blank (by decide)]

/-- Where the list of parameters ends is the same for the line, the key and the list: the key of the
line is the call as it is written, and the entry gets exactly the parameters of the list. -/
theorem readings_agree (v : List Char) (b : Builder) (value : String) :
    splitAssignment (x.text ++ " = ".toList ++ v) = (x.text, some (Text.trim v)) ∧
      Call.read? x.text.tail = some x.toCall ∧
      b.tryBuild value x.text =
        (b.resolve x.toCall).bind fun e => b.construct e ⟨e.name, x.parameters, value⟩ := by
  refine ⟨?_, x.read?_text, x.tryBuild_text b value⟩
  rw [List.append_assoc]
  exact x.splitAssignment_text v

def tangled : WrittenCall where
  space := some "segment".toList
  name := "analyticsTrack".toList
  inside := "\"b = , (\", d(e = ')', \"f\"), \\)=".toList
  parameters := ["b = , (".toList, "d(e = ')', \"f\")".toList, ")=".toList]
  space_isName := fun _ hs => Option.mem_some.mp hs ▸ .intro (by decide) (by decide)
  name_isName := .intro (by decide) (by decide)
  accepted := rfl
  paired := by decide
  oneLine := by decide

theorem readings_agree_tangled :
    let key := "!segment.analyticsTrack(\"b = , (\", d(e = ')', \"f\"), \\)=)".toList
    splitAssignment (key ++ " =  = v ".toList) = (key, some "= v".toList) ∧
      ∃ e, ({} : Builder).resolve tangled.toCall = .ok e ∧ e.name = "analyticsTrack" ∧
        ({} : Builder).tryBuild "v" key = ({} : Builder).construct e
          ⟨"analyticsTrack", ["b = , (".toList, "d(e = ')', \"f\")".toList, ")=".toList], "v"⟩ := by
  intro key
  have hkey : tangled.text = key := by decide
  obtain ⟨hcut, -, hbuild⟩ := tangled.readings_agree " = v ".toList {} "v"
  rw [hkey] at hcut hbuild
  exact ⟨hcut, _, rfl, rfl, hbuild⟩

end WrittenCall
end PageOverlay
