import PageOverlay.Command.Apply
import PageOverlay.Proofs.Change.Outcome
import PageOverlay.Proofs.Command.WrittenCalls
import PageOverlay.Proofs.Sheet.Quoting

/-!
# Calls inside of conditions

A condition is written around a call, and that text is a call again, so conditions may be written
around each other. What is inside passes through every one of them as it is: the conditions fail as
the innermost call does, and otherwise they make its command with a check for each of them.
-/

set_option autoImplicit false

namespace PageOverlay

open Sheet (Balanced callText marks quoted)

structure LineText where
  text : List Char
  oneLine : '\n' ∉ text

structure SelectorText extends LineText where
  selector : Selector
  valid : Selector.parse (String.ofList text) = .ok selector

/-- A condition on the location, on the element, or on both. -/
inductive Wrapper
  | location (rule : LineText)
  | selector (within : SelectorText)
  | both (rule : LineText) (within : SelectorText)

namespace Wrapper

variable (w : Wrapper)

def word : Wrapper → List Char
  | .location _ => "ifLocation".toList
  | .selector _ => "ifSelector".toList
  | .both _ _ => "if".toList

def parameters : Wrapper → List (List Char)
  | .location rule => [rule.text]
  | .selector within => [within.text]
  | .both rule within => [rule.text, within.text]

def guards : Wrapper → List Char
  | .location rule => quoted rule.text
  | .selector within => quoted within.text
  | .both rule within => quoted rule.text ++ ',' :: ' ' :: quoted within.text

def write (call : List Char) : List Char := callText w.word (w.guards ++ ',' :: ' ' :: call)

def around (inner : Command) : Wrapper → Command
  | .location rule => .conditional (String.ofList rule.text) none inner
  | .selector within => .conditional "" (some within.selector) inner
  | .both rule within => .conditional (String.ofList rule.text) (some within.selector) inner

def holds (p : Page) (t : Target) : Wrapper → Bool
  | .location rule => locationAllows (String.ofList rule.text) p
  | .selector within => Command.holdsAt (some within.selector) p t
  | .both rule within =>
    locationAllows (String.ofList rule.text) p && Command.holdsAt (some within.selector) p t

theorem isName_word : IsName w.word := by
  cases w <;> exact .intro (by decide) (by decide)

theorem balanced_guards : Balanced w.guards := by
  cases w with
  | location rule => exact Sheet.balanced_quoted _
  | selector within => exact Sheet.balanced_quoted _
  | both rule within => exact (Sheet.balanced_quoted _).comma (Sheet.balanced_quoted _)

theorem scanParameters_guards : Sheet.scanParameters .top {} w.guards = .ok w.parameters := by
  cases w with
  | location rule => exact Sheet.scanParameters_quoted _
  | selector within => exact Sheet.scanParameters_quoted _
  | both rule within =>
    have hblank : Sheet.scanParameters .top {} (' ' :: quoted within.text) =
        Sheet.scanParameters .top {} (quoted within.text) := rfl
    have hrule := Sheet.scanParameters_quoted rule.text
    rw [guards, (Sheet.balanced_quoted rule.text).scanParameters_comma hrule, hblank,
      Sheet.scanParameters_quoted]
    rfl

theorem newline_not_mem_guards : '\n' ∉ w.guards := by
  cases w with
  | location rule => exact Sheet.newline_not_mem_quoted rule.oneLine
  | selector within => exact Sheet.newline_not_mem_quoted within.oneLine
  | both rule within =>
    simp [guards, Sheet.newline_not_mem_quoted rule.oneLine,
      Sheet.newline_not_mem_quoted within.oneLine]

end Wrapper

def WrittenCall.under (x : WrittenCall) (w : Wrapper) : WrittenCall where
  space := none
  name := w.word
  inside := w.guards ++ ',' :: ' ' :: x.text
  parameters := w.parameters ++ [x.text]
  space_isName := by simp
  name_isName := w.isName_word
  accepted := Sheet.splitParameters_call w.balanced_guards w.scanParameters_guards
    x.words_not_mem_marks x.balanced
  paired := (w.balanced_guards.comma
    (Sheet.balanced_callText x.words_not_mem_marks x.balanced)).pairsBackslashes
  oneLine := by simp [w.newline_not_mem_guards, x.newline_not_mem_text]

def WrittenCall.underAll (x : WrittenCall) (ws : List Wrapper) : WrittenCall :=
  ws.foldr (fun w y => y.under w) x

namespace Wrapper

variable (w : Wrapper)

theorem text_under (x : WrittenCall) : (x.under w).text = w.write x.text := rfl

theorem text_underAll (x : WrittenCall) (ws : List Wrapper) :
    (x.underAll ws).text = ws.foldr write x.text := by
  induction ws with
  | nil => rfl
  | cons w ws ih =>
    rw [List.foldr_cons, ← ih]
    rfl

theorem selector_of_valid {i : Invocation} {k : Nat} {s : SelectorText}
    (h : i.parameter k = s.text) : i.selector k = .ok (some s.selector) := by
  have hparse := s.valid
  rw [Invocation.selector, h]
  split
  · next ht => simp [Selector.parse, ht] at hparse
  · have htrim : Selector.parse (String.ofList (Text.trim s.text)) = .ok s.selector := by
      rw [← hparse, Selector.parse, Selector.parse, String.toList_ofList, String.toList_ofList,
        Text.trim_trim]
    rw [Invocation.readSelector, htrim]
    rfl

def verb : Wrapper → Verb
  | .location _ => .whenLocation
  | .selector _ => .whenSelector
  | .both _ _ => .whenBoth

theorem wrapsFrom_verb : w.verb.wrapsFrom = some w.parameters.length := by cases w <;> rfl

theorem resolve_under (b : Builder) (x : WrittenCall) :
    ∃ e, b.resolve (x.under w).toCall = .ok e ∧ e.verb = w.verb := by
  cases w <;> exact ⟨_, rfl, rfl⟩

theorem wrap_verb (name : String) (call : List Char) (value : String) (inner : Command) :
    w.verb.wrap ⟨name, w.parameters ++ [call], value⟩ inner = .ok (w.around inner) := by
  cases w with
  | location rule => rfl
  | selector within =>
    have hselector : Invocation.selector ⟨name, [within.text, call], value⟩ 0 =
        .ok (some within.selector) := selector_of_valid rfl
    rw [verb, parameters, List.singleton_append, Verb.wrap, hselector]
    rfl
  | both rule within =>
    have hselector : Invocation.selector ⟨name, [rule.text, within.text, call], value⟩ 1 =
        .ok (some within.selector) := selector_of_valid rfl
    rw [verb, parameters, List.cons_append, List.singleton_append, Verb.wrap, hselector]
    rfl

theorem tryBuild_under (b : Builder) (value : String) (x : WrittenCall) :
    b.tryBuild value (x.under w).text = (b.tryBuild value x.text).map w.around := by
  obtain ⟨e, hresolve, hverb⟩ := w.resolve_under b x
  have hrest : Text.joinWith [','] ((w.parameters ++ [x.text]).drop w.parameters.length) =
      x.text := by
    rw [List.drop_left]
    rfl
  have hconstruct : b.construct e ⟨e.name, w.parameters ++ [x.text], value⟩ =
      (b.tryBuild value x.text).map w.around := by
    rw [Builder.construct, hverb, wrapsFrom_verb]
    simp only [hrest, wrap_verb]
    cases b.tryBuild value x.text <;> rfl
  rw [(x.under w).tryBuild_text, hresolve, ← hconstruct]
  rfl

theorem appliesTo_around (g : TargetGroup) (inner : Command) :
    (w.around inner).appliesTo g = inner.appliesTo g := by
  cases w <;> rfl

theorem run_around (inner : Command) (t : Target) (world : World) :
    ((w.around inner).apply t).run world =
      if w.holds world.page t then (inner.apply t).run world else (.ok none, world) := by
  have hrun (rule : String) (within : Option Selector) :
      ((Command.conditional rule within inner).apply t).run world =
        if locationAllows rule world.page && Command.holdsAt within world.page t then
          (inner.apply t).run world
        else (.ok none, world) := by
    rw [Command.apply, Change.run_page_bind]
    split <;> rfl
  have hnowhere : locationAllows "" world.page = true := rfl
  have hany : Command.holdsAt none world.page t = true := by cases t <;> rfl
  cases w with
  | location rule => rw [around, hrun, hany, Bool.and_true, holds]
  | selector within => rw [around, hrun, hnowhere, Bool.true_and, holds]
  | both rule within => rw [around, hrun, holds]

/-- A call under conditions fails as it does without them, and otherwise makes a command for the
same groups that does what the call's command does where all conditions hold, and nothing where one
of them does not. -/
theorem tryBuild_wrapped (b : Builder) (value : String) (x : WrittenCall) (ws : List Wrapper) :
    (∀ e, b.tryBuild value x.text = .error e →
      b.tryBuild value (ws.foldr write x.text) = .error e) ∧
    ∀ inner, b.tryBuild value x.text = .ok inner →
      ∃ outer, b.tryBuild value (ws.foldr write x.text) = .ok outer ∧
        (∀ g, outer.appliesTo g = inner.appliesTo g) ∧
        ∀ t world, (outer.apply t).run world =
          if ws.all (·.holds world.page t) then (inner.apply t).run world
          else (.ok none, world) := by
  -- by the conditions from the innermost one on: under each of them stands a call again
  induction ws with
  | nil => exact ⟨fun e he => he, fun inner hinner => ⟨inner, hinner, fun _ => rfl, fun _ _ => rfl⟩⟩
  | cons w ws ih =>
    obtain ⟨hfails, hbuilds⟩ := ih
    have hstep := w.tryBuild_under b value (x.underAll ws)
    rw [text_under, text_underAll] at hstep
    rw [List.foldr_cons, hstep]
    refine ⟨fun e he => by rw [hfails e he]; rfl, fun inner hinner => ?_⟩
    obtain ⟨middle, hmiddle, hgroups, hrun⟩ := hbuilds inner hinner
    refine ⟨w.around middle, by rw [hmiddle]; rfl, fun g => ?_, fun t world => ?_⟩
    · rw [appliesTo_around, hgroups]
    · rw [run_around, hrun, List.all_cons]
      cases w.holds world.page t <;> rfl

def titled : SelectorText where
  text := "p[title=\"a, b)\"]".toList
  oneLine := by decide
  selector := .css [.one { tag := some "P", attributes := [⟨"title", .equals "a, b)"⟩] }]
  valid := by decide +kernel

def slashed : LineText := ⟨"a\"\\b".toList, by decide⟩

def replacing : WrittenCall where
  space := none
  name := "replace".toList
  inside := "\"a, (\", ')'".toList
  parameters := ["a, (".toList, ")".toList]
  space_isName := by simp
  name_isName := .intro (by decide) (by decide)
  accepted := rfl
  paired := by decide
  oneLine := by decide

theorem tryBuild_wrapped_twice :
    let key := "!if(\"a\\\"\\\\b\", \"p[title=\\\"a, b)\\\"]\", ".toList ++
      "!ifSelector(\"p[title=\\\"a, b)\\\"]\", !replace(\"a, (\", ')')))".toList
    let inner := Command.action (.replace (.literal "a, (".toList) "v" ")" none none)
    ∃ outer, ({} : Builder).tryBuild "v" key = .ok outer ∧
      (∀ g, outer.appliesTo g = inner.appliesTo g) ∧
      ∀ t world, (outer.apply t).run world =
        if [both slashed titled, selector titled].all (·.holds world.page t) then
          (inner.apply t).run world
        else (.ok none, world) := by
  intro key inner
  have hkey : [both slashed titled, selector titled].foldr write replacing.text = key := by decide
  have hbuilt : ({} : Builder).tryBuild "v" replacing.text = .ok inner := by
    rw [replacing.tryBuild_text]
    rfl
  obtain ⟨outer, houter⟩ :=
    (tryBuild_wrapped {} "v" replacing [both slashed titled, selector titled]).2 inner hbuilt
  rw [hkey] at houter
  exact ⟨outer, houter⟩

end Wrapper
end PageOverlay
