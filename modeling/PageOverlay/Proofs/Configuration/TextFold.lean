import PageOverlay.Proofs.Command.Building
import PageOverlay.Proofs.Configuration.LeftLines
import PageOverlay.Proofs.Configuration.PlainReplacement

/-!
# A text goes through the commands

A text that stands in no page is handed from one command to the next. What a command makes of it
depends on the location alone, and a command that asks for an element hands it on as it is.
-/

set_option autoImplicit false

namespace PageOverlay

/-- The action changes an element or something near it, or asks for an element that a selector
accepts. -/
def Action.needsElement : Action → Bool
  | .replace _ _ _ within attr => within.isSome || attr.isSome
  | .protect _ _ within => within.isSome
  | .replaceNeighbor .. | .hide .. | .style .. | .insert .. | .querySelector .. => true
  | .overwrite _ selector _ => selector.isSome
  | _ => false

theorem Action.onText_of_needsElement {a : Action} (h : a.needsElement) (location : String)
    (text : List Char) : a.onText location text = text := by
  cases a with
  | replace search replacement rule within attr =>
    cases within with
    | some s => rfl
    | none =>
      cases attr with
      | some name => rfl
      | none => cases h
  | protect word rule within =>
    cases within with
    | some s => rfl
    | none => cases h
  | _ => rfl

namespace Command

mutual

def needsElement : Command → Bool
  | .action a => a.needsElement
  | .conditional _ within inner => within.isSome || needsElement inner
  | .group commands => allNeedElement commands
  | .faulty _ => false

def allNeedElement : List Command → Bool
  | [] => true
  | c :: cs => needsElement c && allNeedElement cs

end

mutual

theorem onText_of_needsElement (location : String) (text : List Char) :
    ∀ c : Command, c.needsElement → c.onText location text = text
  | .action a, h => by
    rw [needsElement] at h
    rw [onText, Action.onText_of_needsElement h]
  | .conditional rule within inner, h => by
    rw [needsElement, Bool.or_eq_true] at h
    rw [onText]
    rcases h with hwithin | hinner
    · simp [Option.isNone_eq_false_iff.mpr hwithin]
    · rw [onText_of_needsElement location text inner hinner, ite_self]
  | .group commands, h => by
    rw [needsElement] at h
    rw [onText, onTextAll_of_needElement location text commands h, ite_self]
  | .faulty reason, _ => by rw [onText]

theorem onTextAll_of_needElement (location : String) (text : List Char) :
    ∀ cs : List Command, allNeedElement cs → onTextAll location text cs = text
  | [], _ => by rw [onTextAll]
  | c :: cs, h => by
    rw [allNeedElement, Bool.and_eq_true] at h
    rw [onTextAll, onText_of_needsElement location text c h.1,
      onTextAll_of_needElement location text cs h.2]

end

theorem onTextAll_eq_foldl (location : String) (text : List Char) (cs : List Command) :
    onTextAll location text cs = cs.foldl (onText location) text := by
  induction cs generalizing text with
  | nil => rfl
  | cons c cs ih => exact ih _

end Command

namespace Configuration

/-- Transforming a text comes to its end whatever the commands are. The text goes through all of
them, each time by a function of the command and the location, and one that needs an element leaves
it alone. -/
theorem transformText_foldl (c : Configuration) (location text : String) :
    (∀ repo, c.transformText repo location text =
      .ok (String.ofList ((c.commands repo).foldl (Command.onText location) text.toList))) ∧
    (∀ commands, c.transformWith commands location text =
      .ok (String.ofList (commands.foldl (Command.onText location) text.toList))) ∧
    ∀ command : Command, command.needsElement → ∀ t, command.onText location t = t := by
  have hfold (commands : List Command) : c.transformWith commands location text =
      .ok (String.ofList (commands.foldl (Command.onText location) text.toList)) := by
    rw [transformWith_eq, Command.onTextAll_eq_foldl]
  exact ⟨fun repo => hfold (c.commands repo), hfold,
    fun command h t => command.onText_of_needsElement location t h⟩

def elementwise : Configuration :=
  ofText "!style(a, color) = red\na = b\n!ifSelector(p, !replace(b)) = c"

def redStyle : Command := .action (.style (.literal ['a']) "color" 1 "red")

def inParagraphs : Command :=
  .conditional "" (some (.css [.one { tag := some "P" }])) (literalReplacement ['b'] ['c'])

theorem tryBuild_redStyle (b : Builder) :
    b.tryBuild "red" "!style(a, color)".toList = .ok redStyle := by
  let entry : Entry := { name := "style", signature := ⟨[1, 2, 3], some 4⟩, verb := .style }
  have hname : IsName "style".toList := .intro (by decide) (by decide)
  have hfeed : '\n' ∉ "a, color".toList := by decide
  have hcalls : b.Calls "!style(a, color)".toList entry [['a'], "color".toList] :=
    Builder.calls_of_isName hname hfeed rfl rfl
  rw [Builder.tryBuild_of_calls hcalls]
  rfl

theorem tryBuild_inParagraphs (b : Builder) :
    b.tryBuild "c" "!ifSelector(p, !replace(b))".toList = .ok inParagraphs := by
  let inner : Entry := {
    name := "replace", signature := ⟨[1, 2, 3, 4], some 5⟩, verb := .replace }
  let outer : Entry := {
    name := "ifSelector", aliases := ["ifQuery", "ifCss"]
    signature := ⟨[1, 2], some 3⟩, verb := .whenSelector }
  have hreplace : IsName "replace".toList := .intro (by decide) (by decide)
  have hcondition : IsName "ifSelector".toList := .intro (by decide) (by decide)
  have hfeed : '\n' ∉ ['b'] := by decide
  have hfeed' : '\n' ∉ "p, !replace(b)".toList := by decide
  have hinner : b.Calls "!replace(b)".toList inner [['b']] :=
    Builder.calls_of_isName hreplace hfeed rfl rfl
  have houter : b.Calls "!ifSelector(p, !replace(b))".toList outer
      [['p'], "!replace(b)".toList] :=
    Builder.calls_of_isName hcondition hfeed' rfl rfl
  have hrest : b.tryBuild "c" "!replace(b)".toList = .ok (literalReplacement ['b'] ['c']) := by
    rw [Builder.tryBuild_of_calls hinner]
    rfl
  rw [Builder.tryBuild_of_calls houter]
  simp only [Builder.construct, outer, Verb.wrapsFrom, List.drop_succ_cons, List.drop_zero,
    Text.joinWith, hrest]
  rfl

theorem transformText_foldl_elementwise :
    elementwise.commands [] = [redStyle, literalReplacement ['a'] ['b'], inParagraphs] ∧
      redStyle.needsElement ∧ inParagraphs.needsElement ∧
      elementwise.transformText [] "http://example.com" "a" = .ok "b" := by
  have hcommands : elementwise.commands [] =
      [redStyle, literalReplacement ['a'] ['b'], inParagraphs] := by
    have hplain : Sheet.IsPlain ['a'] ['b'] :=
      ⟨by decide, by decide, by simp, by simp [Sheet.leadingMarks], by decide, by simp⟩
    have hlines : elementwise.lineCommands [] =
        [redStyle, literalReplacement ['a'] ['b'], inParagraphs] := by
      have hplaced : elementwise.placedLines [] =
          [⟨true, 1, "", .invocation "!style(a, color)" "red"⟩, ⟨true, 2, "", .invocation "a" "b"⟩,
            ⟨true, 3, "", .invocation "!ifSelector(p, !replace(b))" "c"⟩] := rfl
      rw [lineCommands, hplaced, List.map_cons, List.map_cons, List.map_cons,
        lineCommand_of_no_dollar rfl (by decide) (by decide) (tryBuild_redStyle _),
        lineCommand_of_no_dollar rfl (by decide) (by decide) (tryBuild_plain _ hplain),
        lineCommand_of_no_dollar rfl (by decide) (by decide) (tryBuild_inParagraphs _)]
      rfl
    rw [commands_eq_withReleases hlines]
    rfl
  obtain ⟨hfold, -, hidle⟩ := transformText_foldl elementwise "http://example.com" "a"
  have hred : redStyle.needsElement := by decide
  have hparagraphs : inParagraphs.needsElement := by decide
  refine ⟨hcommands, hred, hparagraphs, ?_⟩
  rw [hfold, hcommands, List.foldl_cons, List.foldl_cons, List.foldl_cons, hidle _ hred,
    onText_literalReplacement, hidle _ hparagraphs]
  simp [replaceText, Pattern.replaceAll, Text.replaceAll]

end Configuration
end PageOverlay
