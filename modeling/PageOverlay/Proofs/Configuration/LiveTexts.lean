import PageOverlay.Proofs.Configuration.Conditions
import PageOverlay.Proofs.Page.ProperNodes

/-!
# Texts on a page

Replacements and protections that name no selector and no attribute make of a text on a page what
they make of one that stands in no page. They set the property that holds the text and leave all
else on the page alone, and they never fail.
-/

set_option autoImplicit false

namespace PageOverlay

namespace Command

/-- Replacements and protections without selector and attribute, perhaps under conditions on the
location. -/
inductive IsTextual : Command → Prop
  | replace (search : Pattern) (replacement rule : String) :
      IsTextual (.action (.replace search replacement rule none none))
  | protect (word rule : String) : IsTextual (.action (.protect word rule none))
  | under {inner : Command} (rule : String) (h : IsTextual inner) : IsTextual (inner.under rule)

theorem IsTextual.turns_apply {command : Command} (hc : command.IsTextual) {w : World} {n : NodeId}
    {path : String} {text : List Char} (h : TextAt w.page n path text) :
    Turns (command.apply (.node n path)) w n path (command.onText w.page.location text) := by
  have hany : ∀ p : Page, standsWithin none p n = true := fun _ => rfl
  induction hc with
  | replace search replacement rule =>
    rw [Command.apply, onText]
    refine .page ?_
    simp only [hany, Bool.and_true, Action.onText]
    exact .when h (.applyReplace h search replacement)
  | protect word rule =>
    rw [Command.apply, onText]
    refine .page ?_
    simp only [hany, Bool.and_true, Action.onText]
    have hguard := Turns.applyReplace h (.literal word.toList) (String.ofList (guarded word.toList))
    rw [String.toList_ofList] at hguard
    exact .when h hguard
  | under rule _ ih =>
    rw [Command.under, Command.apply, onText]
    refine .page ?_
    have hholds : holdsAt none w.page (.node n path) = true := rfl
    simp only [hholds, Bool.and_true, Option.isNone_none]
    exact .when h ih

theorem isTextual_release {command release : Command} (h : command.release? = some release) :
    release.IsTextual := by
  cases command with
  | action a =>
    cases a with
    | protect word rule within =>
      cases h
      exact .replace _ _ _
    | _ => cases h
  | _ => cases h

end Command

namespace Configuration

def IsTextual (repo : Repository) (c : Configuration) : Prop :=
  ∀ command ∈ c.lineCommands repo, command.appliesTo .text → command.IsTextual

theorem IsTextual.commands {repo : Repository} {c : Configuration} (h : c.IsTextual repo) :
    ∀ command ∈ c.commands repo, command.appliesTo .text → command.IsTextual := by
  intro command hc happlies
  rcases List.mem_append.mp hc with hc | hc
  · exact h command hc happlies
  · obtain ⟨made, -, hrelease⟩ := List.mem_filterMap.mp hc
    exact Command.isTextual_release hrelease

/-- Applied to a property, the configuration makes of its value what it makes of a text that stands
in no page, and sets nothing else. -/
def TransformsAt (repo : Repository) (c : Configuration) (w : World) (g : TargetGroup) (n : NodeId)
    (path value : String) : Prop :=
  ∃ us q new, (c.apply repo g (.node n path)).run w = (.ok us, { w with page := q }) ∧
    c.transformText repo w.page.location value = .ok new ∧
    q.property? n path = some new ∧ w.page.Sets q n path new

theorem transformsAt {repo : Repository} {c : Configuration} (hc : c.IsTextual repo) {w : World}
    {n : NodeId} (hblocks : c.blocks w.page n = false) {g : TargetGroup} (hg : g.isText)
    {path value : String} (hkeeps : w.page.Keeps n path)
    (hvalue : w.page.property? n path = some value) : c.TransformsAt repo w g n path value := by
  have h : TextAt w.page n path value.toList :=
    ⟨hkeeps, by rw [← hkeeps.property?, hvalue, String.ofList_toList]⟩
  have hrun : Turns (c.apply repo g (.node n path)) w n path
      (Command.onTextAll w.page.location value.toList (c.commands repo)) := by
    refine .page ?_
    have htouch : c.mayTouch w.page (.node n path) = true := by rw [mayTouch, hblocks]; rfl
    rw [if_pos htouch]
    exact turns_runCommands hg h fun command hcommand happlies v old _ hv =>
      (hc.commands command hcommand happlies).turns_apply hv
  obtain ⟨us, q, hus, hq⟩ := hrun
  refine ⟨us, q, _, hus, ?_, (h.of_sets hq).property?, hq⟩
  rw [transformText, transformWith_eq]

/-- A configuration whose commands for texts ask for nothing on the page changes the text of a node,
or a property of an element, just as it changes the text by itself. -/
theorem apply_transforms {repo : Repository} {c : Configuration} (hc : c.IsTextual repo) {w : World}
    (hw : w.page.Reachable) {n : NodeId} (hblocks : c.blocks w.page n = false) :
    (w.page.isText n → ∃ data, w.page.property? n Page.dataPath = some data ∧
      c.TransformsAt repo w .text n Page.dataPath data) ∧
    (w.page.isElement n → ∀ path value, path ≠ "" → path ≠ Page.contentPath →
      w.page.property? n path = some value → c.TransformsAt repo w .input n path value) := by
  refine ⟨fun htext => ?_, fun helement path value hne hcontent hvalue => ?_⟩
  · obtain ⟨node, hn, hk⟩ := Page.isText_iff.mp htext
    have hproper := hw.proper n node (Page.live?_eq_some.mp hn).1
    rw [Node.IsProper, hk] at hproper
    obtain ⟨data, hdata⟩ := hproper
    have hread : w.page.property? n Page.dataPath = some data := by
      rw [(Page.keeps_data htext).property?, Page.stored?_of_live hn, hdata]
    exact ⟨data, hread, transformsAt hc hblocks rfl (Page.keeps_data htext) hread⟩
  · exact transformsAt hc hblocks rfl (Page.keeps_of_element helement hne hcontent) hvalue

def protectedPart : Configuration :=
  ofText "!protect(abc)\n!ifLocation(example, !replace(bc)) = x"

def titledPage : Page :=
  .ofSnapshot {
    location := "http://example.com"
    root := .node (some "html") none [] [
      .node (some "p") none [("title", "bc")] [.node none (some "abc bc") [] []]] }

theorem tryBuild_replace_under (b : Builder) :
    b.tryBuild "x" "!ifLocation(example, !replace(bc))".toList =
      .ok ((literalReplacement "bc".toList ['x']).under "example") := by
  have hfilter : Sheet.Balanced "example".toList :=
    Sheet.leads_of_plain (Sheet.not_mem_marks_of_all (by decide))
  have hword : Sheet.Balanced "bc".toList :=
    Sheet.leads_of_plain (Sheet.not_mem_marks_of_all (by decide))
  have hname : IsName "replace".toList := .intro (by decide) (by decide)
  have hplain : ∀ c ∈ "replace".toList, c ∉ Sheet.marks := Sheet.not_mem_marks_of_all (by decide)
  have hsingle : Sheet.scanParameters .top {} "example".toList = .ok ["example".toList] := rfl
  let entry : Entry := {
    name := "replace", signature := ⟨[1, 2, 3, 4], some 5⟩, verb := .replace }
  have hfeed : '\n' ∉ "bc".toList := by decide
  have hcalls : b.Calls "!replace(bc)".toList entry ["bc".toList] :=
    Builder.calls_of_isName hname hfeed rfl rfl
  have hreplace : b.tryBuild "x" (Sheet.callText "replace".toList "bc".toList) =
      .ok (literalReplacement "bc".toList ['x']) := by
    change b.tryBuild "x" "!replace(bc)".toList = _
    rw [Builder.tryBuild_of_calls hcalls]
    rfl
  have hbuild := b.tryBuild_condition "x" hplain hfilter hsingle hword (by decide)
  rw [hreplace] at hbuild
  exact hbuild

theorem lineCommands_protectedPart :
    protectedPart.lineCommands [] =
      [protecting "abc".toList, (literalReplacement "bc".toList ['x']).under "example"] :=
  congrArg₂ (fun first second => [first, second])
    (lineCommand_protect _ _ ⟨by decide, by decide, by decide, rfl⟩ rfl)
    (lineCommand_of_no_dollar rfl (by decide) (by decide) (tryBuild_replace_under _))

theorem isTextual_protectedPart : protectedPart.IsTextual [] := by
  intro command hc _
  rw [lineCommands_protectedPart, List.mem_cons, List.mem_singleton] at hc
  rcases hc with rfl | rfl
  · exact .protect _ _
  · exact .under _ (.replace _ _ _)

theorem transformText_protectedPart :
    protectedPart.transformText [] "http://example.com" "abc bc" = .ok "abc x" ∧
      protectedPart.transformText [] "http://example.com" "bc" = .ok "x" := by
  have hexample : locationMatches "example".toList "http://example.com".toList := by decide
  have hfold : ∀ text, protectedPart.transformText [] "http://example.com" text =
      .ok (String.ofList (Command.onTextAll "http://example.com" text.toList
        [protecting "abc".toList, (literalReplacement "bc".toList ['x']).under "example",
          literalReplacement (guarded "abc".toList) "abc".toList])) := by
    intro text
    rw [transformText, commands_eq_withReleases lineCommands_protectedPart, transformWith_eq]
    rfl
  constructor <;>
    simp [hfold, Command.onTextAll, Command.onText_under hexample, onText_literalReplacement,
      onText_protecting, replaceText, Pattern.replaceAll, Text.replaceAll, guarded, joiner]

theorem apply_transforms_protected :
    let w : World := { page := titledPage }
    protectedPart.IsTextual [] ∧ w.page.Reachable ∧ w.page.isText 2 ∧ w.page.isElement 1 ∧
      protectedPart.blocks w.page 2 = false ∧ protectedPart.blocks w.page 1 = false ∧
      (∃ us q, (protectedPart.apply [] .text (.node 2 Page.dataPath)).run w =
          (.ok us, { w with page := q }) ∧ q.property? 2 Page.dataPath = some "abc x") ∧
      ∃ us q, (protectedPart.apply [] .input (.node 1 "title")).run w =
          (.ok us, { w with page := q }) ∧ q.property? 1 "title" = some "x" := by
  intro w
  have hw : w.page.Reachable := .ofSnapshot _
  have htext : w.page.isText 2 := by decide +kernel
  have helement : w.page.isElement 1 := by decide +kernel
  have hfree : protectedPart.blocks w.page 2 = false := by decide +kernel
  have hfree' : protectedPart.blocks w.page 1 = false := by decide +kernel
  have hlocation : w.page.location = "http://example.com" := rfl
  have hdata : w.page.property? 2 Page.dataPath = some "abc bc" := by decide +kernel
  have htitle : w.page.property? 1 "title" = some "bc" := by decide +kernel
  refine ⟨isTextual_protectedPart, hw, htext, helement, hfree, hfree', ?_, ?_⟩
  · obtain ⟨data, hread, us, q, new, hrun, hnew, hq, -⟩ :=
      (apply_transforms isTextual_protectedPart hw hfree).1 htext
    obtain rfl := Option.some.inj (hdata.symm.trans hread)
    rw [hlocation, transformText_protectedPart.1] at hnew
    cases hnew
    exact ⟨us, q, hrun, hq⟩
  · obtain ⟨us, q, new, hrun, hnew, hq, -⟩ :=
      (apply_transforms isTextual_protectedPart hw hfree').2 helement "title" "bc" (by decide)
        (by decide) htitle
    rw [hlocation, transformText_protectedPart.2] at hnew
    cases hnew
    exact ⟨us, q, hrun, hq⟩

end Configuration
end PageOverlay
