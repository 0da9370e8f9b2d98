import PageOverlay.Proofs.Configuration.LeftLines
import PageOverlay.Proofs.Configuration.Protecting
import PageOverlay.Proofs.Sheet.CallLines
import PageOverlay.Proofs.Sheet.Filling

/-!
# Lines under a condition

A line is put under a condition by wrapping its call. What it makes is the command that it made
before, inside of the condition, and all other lines make what they made. Where the condition holds,
the command does what it did, and where it does not, the line might as well be missing. Both are
only said of what a command does at its turn. A protected word is released at the end, and that is
lost inside of a condition, while a protection that does not apply where the text stands is released
all the same.
-/

set_option autoImplicit false

namespace PageOverlay

open Sheet (Balanced CommandLine assigned callText marks scopeBehind splitLines)

def Action.rule? : Action → Option String
  | .replace _ _ rule _ _ => some rule
  | .protect _ rule _ => some rule
  | .replaceNeighbor _ _ _ _ rule _ => some rule
  | .hide _ _ _ rule _ => some rule
  | .stage rule _ _ => some rule
  | .overwrite rule _ _ => some rule
  | _ => none

namespace Command

def rule? : Command → Option String
  | .action a => a.rule?
  | .conditional rule _ _ => some rule
  | _ => none

variable {location : String} {text : List Char} {own? : Option Command}

theorem onText_of_not_admitted {command : Command} {rule : String} (h : command.rule? = some rule)
    (hrule : locationMatches rule.toList location.toList = false) :
    command.onText location text = text := by
  cases command with
  | action a =>
    rw [rule?] at h
    rw [onText]
    cases a with
    | replace search replacement own within attr =>
      obtain rfl := Option.some.inj h
      cases within <;> cases attr <;> simp [Action.onText, hrule]
    | protect word own within =>
      obtain rfl := Option.some.inj h
      cases within <;> simp [Action.onText, hrule]
    | _ => rfl
  | conditional own within inner =>
    obtain rfl := Option.some.inj h
    rw [onText, hrule]
    rfl
  | group => cases h
  | faulty => cases h

def under (rule : String) (command : Command) : Command := .conditional rule none command

theorem onText_under {rule : String} (h : locationMatches rule.toList location.toList)
    (command : Command) :
    (command.under rule).onText location text = command.onText location text := by
  rw [under, onText, h]
  rfl

theorem onTextAll_without (h : ∀ command ∈ own?, ∀ text, command.onText location text = text)
    (first later releases : List Command) :
    onTextAll location text (first ++ own?.toList ++ later ++ releases) =
      onTextAll location text (first ++ later ++ releases) := by
  cases own? with
  | none => simp
  | some command => simp only [onTextAll_append, Option.toList, onTextAll, h command rfl]

theorem onTextAll_under {rule : String} (h : locationMatches rule.toList location.toList)
    (first later releases : List Command) :
    onTextAll location text (first ++ (own?.map (under rule)).toList ++ later ++ releases) =
      onTextAll location text (first ++ own?.toList ++ later ++ releases) := by
  cases own? with
  | none => rfl
  | some command =>
    simp only [onTextAll_append, Option.map_some, Option.toList, onTextAll, onText_under h]

theorem release?_under (rule : String) (own? : Option Command) :
    (own?.map (under rule)).bind release? = none := by
  cases own? <;> rfl

theorem releases_without (h : own?.bind release? = none) (first later : List Command) :
    (first ++ own?.toList ++ later).filterMap release? = (first ++ later).filterMap release? := by
  cases own? with
  | none => simp
  | some command =>
    have hrelease : release? command = none := h
    simp [hrelease]

end Command

namespace Builder

variable {name filter parameters rule : List Char}

def conditionName : List Char := "ifLocation".toList

def conditionInside (filter call : List Char) : List Char := filter ++ ',' :: ' ' :: call

theorem tryBuild_condition (b : Builder) (value : String) (hname : ∀ c ∈ name, c ∉ marks)
    (hfilter : Balanced filter) (hrule : Sheet.scanParameters .top {} filter = .ok [rule])
    (hparameters : Balanced parameters) (hlines : '\n' ∉ filter ∧ '\n' ∉ parameters) :
    b.tryBuild value (callText conditionName
        (conditionInside filter (callText name parameters))) =
      (b.tryBuild value (callText name parameters)).map (.under (String.ofList rule)) := by
  let entry : Entry :=
    { name := "ifLocation", signature := ⟨[1, 2], some 3⟩, verb := .whenLocation }
  have hfeed : '\n' ∉ name := fun hm => hname _ hm (by decide)
  have hcall : '\n' ∉ conditionInside filter (callText name parameters) := by
    simp [conditionInside, callText, hlines, hfeed]
  have hcalls : b.Calls
      (callText conditionName (conditionInside filter (callText name parameters))) entry
      [rule, callText name parameters] :=
    calls_of_isName (.intro (by decide) (by decide)) hcall
      (Sheet.splitParameters_call hfilter hrule hname hparameters) rfl
  rw [tryBuild_of_calls hcalls]
  simp only [construct, entry, Verb.wrapsFrom, List.drop_succ_cons, List.drop_zero, Text.joinWith]
  cases b.tryBuild value (callText name parameters) <;> rfl

end Builder

namespace Configuration

variable {c d : Configuration} {repo : Repository}

/-- The configurations may have other command lines, but nothing else that counts is different. -/
structure Alike (c d : Configuration) : Prop where
  options : d.sheet.options = c.sheet.options
  imports : d.sheet.imports = c.sheet.imports
  declarations : d.sheet.declarations = c.sheet.declarations
  values : d.values = c.values
  globals : d.globals = c.globals

namespace Alike

theorem trees (h : Alike c d) : d.imports repo = c.imports repo := by
  rw [Configuration.imports, Configuration.imports, unfold, unfold, h.imports]

theorem builder (h : Alike c d) : d.builder repo = c.builder repo := by
  have hrules : d.rules repo = c.rules repo := by
    funext key
    rw [rules, rules, h.trees, optionValues, optionValues, h.options]
  simp only [Configuration.builder, namespaces, hrules]

theorem scopes (h : Alike c d) : d.scopes repo = c.scopes repo := by
  rw [Configuration.scopes, Configuration.scopes, h.values, h.declarations, h.globals,
    importedVariables, importedVariables, h.trees]

theorem made (h : Alike c d) :
    d.made repo = (c.placedOwn repo d.sheet.commands).filterMap (c.madeBy? repo) := by
  have hmade : d.madeBy? repo = c.madeBy? repo := by
    funext l
    rw [Configuration.madeBy?, Configuration.madeBy?, h.builder, h.scopes]
  rw [Configuration.made, hmade, placedLines_eq, placedOwn, placedOwn, h.trees]

end Alike

theorem transformText_made (repo : Repository) (c : Configuration) (location text : String) :
    c.transformText repo location text =
      .ok (String.ofList
        (Command.onTextAll location text.toList (withReleases (c.made repo)))) := by
  have hrun : c.transformText repo location text =
      c.transformWith (withReleases (c.made repo)) location text := by
    simp only [transformText, transformWith, applyCommands, runCommands_commands]
  rw [hrun, transformWith_eq]

theorem filter_other_lines {first later : List CommandLine} {l : CommandLine}
    (h : (first ++ l :: later).Pairwise fun a b => a.line < b.line) :
    (first ++ l :: later).filter (fun m => !([l.line].contains m.line)) = first ++ later := by
  rw [List.pairwise_append, List.pairwise_cons] at h
  obtain ⟨-, ⟨hlater, -⟩, hfirst⟩ := h
  have hkept : first.filter (fun m => !([l.line].contains m.line)) = first :=
    List.filter_eq_self.mpr fun m hm => by
      simpa using Nat.ne_of_lt (hfirst m hm l List.mem_cons_self)
  have hkept' : later.filter (fun m => !([l.line].contains m.line)) = later :=
    List.filter_eq_self.mpr fun m hm => by simpa using Nat.ne_of_gt (hlater m hm)
  rw [List.filter_append, List.filter_cons_of_neg (by simp), hkept, hkept']

/-- Commands that are made with one line in between, with another one in its place, and without
it. -/
theorem exists_made (repo : Repository) {first later : List CommandLine} {k l : CommandLine}
    {f : Nat → Nat} {rest : Configuration} (hd : Alike c d)
    (hrest : Left c rest (fun n => [l.line].contains n) f)
    (hc : c.sheet.commands = first ++ l :: later)
    (hk : d.sheet.commands = first ++ k :: later) (hline : k.line = l.line) :
    ∃ before after,
      c.made repo = before ++ (c.madeBy? repo (ownLine l)).toList ++ after ∧
      d.made repo = before ++ (c.madeBy? repo (ownLine k)).toList ++ after ∧
      rest.made repo = before ++ after := by
  have hascending := hrest.ascending
  rw [hc] at hascending
  have hlater : ∀ m ∈ later, l.line ≤ m.line := fun m hm =>
    Nat.le_of_lt (List.rel_of_pairwise_cons (List.pairwise_append.mp hascending).2.1 hm)
  obtain ⟨before, after, hwithout, hwith⟩ := exists_placedOwn repo c first hlater
  have hplaced : ∀ m : CommandLine, m.line = l.line →
      (c.placedOwn repo (first ++ m :: later)).filterMap (c.madeBy? repo) =
        before.filterMap (c.madeBy? repo) ++ (c.madeBy? repo (ownLine m)).toList ++
          after.filterMap (c.madeBy? repo) := by
    intro m hm
    rw [hwith m hm, List.filterMap_append, List.filterMap_cons, List.append_assoc]
    cases c.madeBy? repo (ownLine m) <;> rfl
  refine ⟨before.filterMap (c.madeBy? repo), after.filterMap (c.madeBy? repo), ?_, ?_, ?_⟩
  · rw [Configuration.made, placedLines_eq, hc, hplaced l rfl]
  · rw [hd.made, hk, hplaced k hline]
  · rw [hrest.made, hc, filter_other_lines hascending, hwithout, List.filterMap_append]

section

variable {before after : List Command} {own? : Option Command} {location : String}

theorem transformText_idle {rest : Configuration}
    (hmade : c.made repo = before ++ own?.toList ++ after)
    (hrest : rest.made repo = before ++ after)
    (h : ∀ command ∈ own?, ∀ text, command.onText location text = text) (text : String) :
    c.transformText repo location text =
        c.transformWith (before ++ after ++
          (before ++ own?.toList ++ after).filterMap Command.release?) location text ∧
      (own?.bind Command.release? = none →
        c.transformText repo location text = rest.transformText repo location text) := by
  have hc := transformText_made repo c location text
  rw [hmade, withReleases, Command.onTextAll_without h] at hc
  refine ⟨hc.trans (transformWith_eq c _ location text).symm, fun hrelease => ?_⟩
  rw [hc, transformText_made, hrest, withReleases, Command.releases_without hrelease]

/-- Under a condition that holds, a command does what it did, but its release is lost. -/
theorem transformText_under {rule : String} (hmade : c.made repo = before ++ own?.toList ++ after)
    (hunder : d.made repo = before ++ (own?.map (Command.under rule)).toList ++ after)
    (hrule : locationMatches rule.toList location.toList) (text : String) :
    d.transformText repo location text =
        c.transformWith (before ++ own?.toList ++ after ++
          (before ++ after).filterMap Command.release?) location text ∧
      (own?.bind Command.release? = none →
        d.transformText repo location text = c.transformText repo location text) := by
  have hd := transformText_made repo d location text
  rw [hunder, withReleases, Command.releases_without (Command.release?_under rule own?),
    Command.onTextAll_under hrule] at hd
  refine ⟨hd.trans (transformWith_eq c _ location text).symm, fun hrelease => ?_⟩
  rw [hd, transformText_made, hmade, withReleases, Command.releases_without hrelease]

end

end Configuration

structure ConditionedLine where
  before : List (List Char)
  after : List (List Char)
  name : List Char
  parameters : List Char
  filter : List Char
  value : Option (List Char)
  named : name.all fun c => Sheet.isNameTail c || c == '.'
  parameters_balanced : Balanced parameters
  filter_balanced : Balanced filter
  filter_closed : IsClosed filter

namespace ConditionedLine

variable (w : ConditionedLine)

def number : Nat := w.before.length + 1

def call : List Char := callText w.name w.parameters

def condition : List Char :=
  callText Builder.conditionName (Builder.conditionInside w.filter w.call)

/-- All lines, with the given key in this one. -/
def lines (key : List Char) : List (List Char) := w.before ++ assigned key w.value :: w.after

/-- With its variables filled in, the filter is still one parameter, and the parameters are still
those of the call. -/
structure Fills (w : ConditionedLine) (fill : List Char → List Char) (rule : List Char) : Prop where
  parameters : Balanced (fill w.parameters)
  filter : Balanced (fill w.filter)
  oneLine : '\n' ∉ fill w.filter ∧ '\n' ∉ fill w.parameters
  single : Sheet.scanParameters .top {} (fill w.filter) = .ok [rule]

theorem fills_of_no_dollar {w : ConditionedLine} {rule : List Char} (s : Scopes) (scope : String)
    (hdollar : '$' ∉ w.filter ∧ '$' ∉ w.parameters) (hlines : '\n' ∉ w.filter ∧ '\n' ∉ w.parameters)
    (hsingle : Sheet.scanParameters .top {} w.filter = .ok [rule]) :
    w.Fills (s.fill scope) rule := by
  have hfilter : s.fill scope w.filter = w.filter := s.fillIn_of_no_dollar scope _ hdollar.1
  have hparameters : s.fill scope w.parameters = w.parameters :=
    s.fillIn_of_no_dollar scope _ hdollar.2
  constructor
  case parameters => rw [hparameters]; exact w.parameters_balanced
  case filter => rw [hfilter]; exact w.filter_balanced
  case oneLine => rw [hfilter, hparameters]; exact hlines
  case single => rw [hfilter]; exact hsingle

variable {w} {repo : Repository} {c : Configuration} {rule : List Char}

theorem name_not_mem_marks : ∀ c ∈ w.name, c ∉ marks := by
  intro c hc
  have hname := List.all_eq_true.mp w.named c hc
  exact Sheet.not_mem_marks_of_name (by simpa using hname)

theorem dollar_not_mem_name : '$' ∉ w.name := fun h => w.name_not_mem_marks _ h (by decide)

theorem fill_call (s : Scopes) (scope : String) :
    s.fill scope w.call = callText w.name (s.fill scope w.parameters) :=
  Scopes.fill_callText dollar_not_mem_name w.parameters

theorem fill_condition (s : Scopes) (scope : String) :
    s.fill scope w.condition = callText Builder.conditionName
      (Builder.conditionInside (s.fill scope w.filter)
        (callText w.name (s.fill scope w.parameters))) := by
  rw [condition, Scopes.fill_callText (by decide), Builder.conditionInside,
    Scopes.fill_append_comma w.filter_closed, fill_call, Builder.conditionInside]

def commandLine (w : ConditionedLine) (key : List Char) (value : String) : CommandLine :=
  { line := w.number, scope := scopeBehind w.before, body := .invocation (String.ofList key) value }

theorem madeBy?_commandLine (key : List Char) (value : String) :
    c.madeBy? repo (Configuration.ownLine (w.commandLine key value)) =
      ((c.builder repo).tryBuild ((c.scopes repo).substitute (scopeBehind w.before) value)
        ((c.scopes repo).fill (scopeBehind w.before) key)).toOption := by
  rw [Configuration.madeBy?, Configuration.tryLine, Configuration.fillIn, commandLine,
    Configuration.ownLine]
  simp only [if_true, Scopes.substitute_ofList, String.toList_ofList]

theorem madeBy?_condition (h : w.Fills ((c.scopes repo).fill (scopeBehind w.before)) rule)
    (value : String) :
    c.madeBy? repo (Configuration.ownLine (w.commandLine w.condition value)) =
      (c.madeBy? repo (Configuration.ownLine (w.commandLine w.call value))).map
        (Command.under (String.ofList rule)) := by
  rw [madeBy?_commandLine, madeBy?_commandLine, fill_condition, fill_call,
    Builder.tryBuild_condition _ _ w.name_not_mem_marks h.filter h.single h.parameters h.oneLine]
  cases (c.builder repo).tryBuild _ (callText w.name _) <;> rfl

end ConditionedLine

namespace Configuration

variable {repo : Repository}

theorem exists_made_condition (w : ConditionedLine) {source wrapped : String}
    (hsource : splitLines source.toList = w.lines w.call)
    (hwrapped : splitLines wrapped.toList = w.lines w.condition) {c d rest : Configuration}
    (hc : c.sheet = Sheet.read source) (hd : d.sheet = Sheet.read wrapped)
    (hrest : rest.sheet = Sheet.read (Sheet.without [w.number] source))
    (hvalues : d.values = c.values ∧ rest.values = c.values)
    (hglobals : d.globals = c.globals ∧ rest.globals = c.globals) {rule : List Char}
    (h : w.Fills ((c.scopes repo).fill (scopeBehind w.before)) rule) :
    ∃ before after value,
      let own? := c.madeBy? repo (ownLine (w.commandLine w.call value))
      c.made repo = before ++ own?.toList ++ after ∧
      d.made repo = before ++ (own?.map (Command.under (String.ofList rule))).toList ++ after ∧
      rest.made repo = before ++ after := by
  have hcondition : ∀ ch ∈ Builder.conditionName, ch ∉ marks :=
    Sheet.not_mem_marks_of_all (by decide)
  have hinside : Balanced (Builder.conditionInside w.filter w.call) :=
    w.filter_balanced.comma
      (Sheet.balanced_callText w.name_not_mem_marks w.parameters_balanced)
  obtain ⟨value, hbody⟩ := Sheet.body?_callText w.value
  obtain ⟨s, first, later, hread⟩ := Sheet.read_replaced w.before w.after
  have hplain := hread source _ _ hsource
    (hbody w.number w.name w.parameters w.name_not_mem_marks w.parameters_balanced)
  have hunder := hread wrapped _ _ hwrapped
    (hbody w.number Builder.conditionName _ hcondition hinside)
  rw [← hc] at hplain
  rw [← hd] at hunder
  have hcommands : c.sheet.commands = first ++ w.commandLine w.call value :: later := by
    rw [hplain]
    rfl
  have hnumber : ∀ n ∈ [w.number], ∃ a ∈ c.sheet.commands, a.line = n := by
    intro n hn
    refine ⟨w.commandLine w.call value, ?_, (List.mem_singleton.mp hn).symm⟩
    rw [hcommands]
    exact List.mem_append_right _ List.mem_cons_self
  obtain ⟨f, hleft⟩ := exists_left hc hrest hnumber hvalues.2 hglobals.2
  have halike : Alike c d := by
    constructor
    case values => exact hvalues.1
    case globals => exact hglobals.1
    all_goals rw [hplain, hunder]; rfl
  obtain ⟨before, after, hmade, hmade', hmissing⟩ := exists_made repo halike hleft hcommands
    (k := w.commandLine w.condition value) (by rw [hunder]; rfl) rfl
  rw [ConditionedLine.madeBy?_condition h] at hmade'
  exact ⟨before, after, value, hmade, hmade', hmissing⟩

/-- A line under a condition is as good as missing where the condition fails. Where it holds, the
line does what it did, and only the release of its command is lost. A command that does not apply
where the text stands is as good as missing as well, up to its release. -/
theorem transformText_condition (w : ConditionedLine) {source wrapped : String}
    (hsource : splitLines source.toList = w.lines w.call)
    (hwrapped : splitLines wrapped.toList = w.lines w.condition) (repo : Repository)
    (enabled : Bool) (values : List (String × String)) (globals : List Variable)
    (rule : List Char) :
    let given (text : String) : Configuration := { ofText text with enabled, values, globals }
    let c := given source
    let conditional := given wrapped
    let rest := given (Sheet.without [w.number] source)
    w.Fills ((c.scopes repo).fill (scopeBehind w.before)) rule →
    ∃ before after value,
      let own? := c.madeBy? repo (ownLine (w.commandLine w.call value))
      let lines := before ++ own?.toList ++ after
      let others := before ++ after
      c.made repo = lines ∧ rest.made repo = others ∧
      ∀ location text : String,
        (locationMatches rule location.toList →
          conditional.transformText repo location text =
              c.transformWith (lines ++ others.filterMap Command.release?) location text ∧
            (own?.bind Command.release? = none →
              conditional.transformText repo location text =
                c.transformText repo location text)) ∧
        (locationMatches rule location.toList = false →
          conditional.transformText repo location text = rest.transformText repo location text) ∧
        ∀ ownRule ∈ own?.bind Command.rule?,
          locationMatches ownRule.toList location.toList = false →
            c.transformText repo location text =
                c.transformWith (others ++ lines.filterMap Command.release?) location text ∧
              (own?.bind Command.release? = none →
                c.transformText repo location text = rest.transformText repo location text) := by
  intro given c conditional rest hfills
  have hsheet : ∀ text, (ofText text).sheet = Sheet.read text := fun _ => rfl
  have hc : c.sheet = Sheet.read source := by simp only [c, given, hsheet]
  have hconditional : conditional.sheet = Sheet.read wrapped := by
    simp only [conditional, given, hsheet]
  have hrest : rest.sheet = Sheet.read (Sheet.without [w.number] source) := by
    simp only [rest, given, hsheet]
  obtain ⟨before, after, value, hmade, hunder, hothers⟩ := exists_made_condition w hsource hwrapped
    hc hconditional hrest ⟨rfl, rfl⟩ ⟨rfl, rfl⟩ hfills
  refine ⟨before, after, value, hmade, hothers, fun location text =>
    ⟨fun hrule => ?_, fun hrule => ?_, fun ownRule hown hrule => ?_⟩⟩
  · exact transformText_under hmade hunder (by rwa [String.toList_ofList]) text
  · refine (transformText_idle hunder hothers (fun command hcommand t => ?_) text).2
      (Command.release?_under _ _)
    obtain ⟨own, -, rfl⟩ := Option.map_eq_some_iff.mp hcommand
    exact Command.onText_of_not_admitted rfl (by rwa [String.toList_ofList])
  · refine transformText_idle hmade hothers (fun command hcommand t => ?_) text
    obtain ⟨own, hown', hownRule⟩ := Option.bind_eq_some_iff.mp hown
    obtain rfl := Option.some.inj (hcommand.symm.trans hown')
    exact Command.onText_of_not_admitted hownRule hrule

def conditionedReplacement : ConditionedLine where
  before := ["b = a".toList]
  after := ["a = c".toList]
  name := "replace".toList
  parameters := "a, www".toList
  filter := "example".toList
  value := some "b".toList
  named := by decide
  parameters_balanced :=
    (Sheet.leads_of_plain (Sheet.not_mem_marks_of_all (by decide)) : Balanced ['a']).comma
    (Sheet.leads_of_plain (Sheet.not_mem_marks_of_all (by decide)) : Balanced "www".toList)
  filter_balanced := Sheet.leads_of_plain (Sheet.not_mem_marks_of_all (by decide))
  filter_closed := fun rest h => absurd (h.subset List.mem_cons_self) (by decide)

theorem madeBy?_conditionedReplacement (c : Configuration) (value : String) :
    let w := conditionedReplacement
    c.madeBy? [] (ownLine (w.commandLine w.call value)) =
      some (.action (.replace (.literal ['a'])
        ((c.scopes []).substitute (scopeBehind w.before) value) "www" none none)) := by
  intro w
  let entry : Entry := {
    name := "replace", signature := ⟨[1, 2, 3, 4], some 5⟩, verb := .replace }
  have hcalls : (c.builder []).Calls w.call entry [['a'], "www".toList] :=
    Builder.calls_of_isName (.intro (by decide) (by decide)) (by decide) rfl rfl
  have hfill : (c.scopes []).fill (scopeBehind w.before) w.call = w.call :=
    (c.scopes []).fillIn_of_no_dollar _ _ (by decide)
  rw [ConditionedLine.madeBy?_commandLine, hfill, Builder.tryBuild_of_calls hcalls]
  rfl

theorem transformText_condition_replacement :
    let plain := ofText "b = a\n!replace(a, www) = b\na = c"
    let conditional := ofText "b = a\n!ifLocation(example, !replace(a, www)) = b\na = c"
    let rest := ofText "b = a\na = c"
    conditional.transformText [] "http://www.example.com" "b" =
        plain.transformText [] "http://www.example.com" "b" ∧
      conditional.transformText [] "http://www.else.com" "b" =
        rest.transformText [] "http://www.else.com" "b" ∧
      plain.transformText [] "http://example.com" "b" =
        rest.transformText [] "http://example.com" "b" := by
  intro plain conditional rest
  let w := conditionedReplacement
  have hfills : w.Fills ((plain.scopes []).fill (scopeBehind w.before)) "example".toList :=
    ConditionedLine.fills_of_no_dollar _ _ (by decide) (by decide) rfl
  have hplain : splitLines "b = a\n!replace(a, www) = b\na = c".toList = w.lines w.call := by decide
  have hconditional : splitLines "b = a\n!ifLocation(example, !replace(a, www)) = b\na = c".toList =
      w.lines w.condition := by decide
  obtain ⟨before, after, value, -, -, h⟩ :=
    transformText_condition w hplain hconditional [] true [] []
    "example".toList hfills
  rw [madeBy?_conditionedReplacement] at h
  have hrest : Sheet.without [w.number] "b = a\n!replace(a, www) = b\na = c" = "b = a\na = c" := by
    decide +kernel
  rw [hrest] at h
  refine ⟨?_, ?_, ?_⟩
  · exact ((h "http://www.example.com" "b").1 (by decide)).2 rfl
  · exact (h "http://www.else.com" "b").2.1 (by decide)
  · exact ((h "http://example.com" "b").2.2 "www" rfl (by decide)).2 rfl

theorem isVerbatim_ab : IsVerbatim "ab".toList := ⟨by decide, by decide, by decide, rfl⟩

theorem tryBuild_protect_under (b : Builder) :
    b.tryBuild "" "!ifLocation(example, !protect(ab))".toList =
      .ok ((protecting "ab".toList).under "example") := by
  have hfilter : Balanced "example".toList :=
    Sheet.leads_of_plain (Sheet.not_mem_marks_of_all (by decide))
  have hword : Balanced "ab".toList := Sheet.leads_of_plain (Sheet.not_mem_marks_of_all (by decide))
  have hname : ∀ c ∈ "protect".toList, c ∉ marks := Sheet.not_mem_marks_of_all (by decide)
  have hsingle : Sheet.scanParameters .top {} "example".toList = .ok ["example".toList] := rfl
  have hprotect : b.tryBuild "" (callText "protect".toList "ab".toList) =
      .ok (protecting "ab".toList) := tryBuild_protectKey b isVerbatim_ab ""
  have hbuild := b.tryBuild_condition "" hname hfilter hsingle hword (by decide)
  rw [hprotect] at hbuild
  exact hbuild

theorem tryBuild_protect_nowhere (b : Builder) :
    b.tryBuild "" "!protect(ab, nowhere)".toList =
      .ok (.action (.protect "ab" "nowhere" none)) := by
  let entry : Entry := { name := "protect", signature := ⟨[1, 2, 3], none⟩, verb := .protect }
  have hname : IsName "protect".toList := .intro (by decide) (by decide)
  have hfeed : '\n' ∉ "ab, nowhere".toList := by decide
  have hcalls : b.Calls "!protect(ab, nowhere)".toList entry ["ab".toList, "nowhere".toList] :=
    Builder.calls_of_isName hname hfeed rfl rfl
  rw [Builder.tryBuild_of_calls hcalls]
  rfl

/-- A protection under a condition that holds is not taken back. A protection for another location
is, also from what others protect. -/
theorem transformText_lost_release :
    (locationMatches "example".toList "http://example.com".toList ∧
      (ofText "!ifLocation(example, !protect(ab))").transformText [] "http://example.com" "ab" =
        .ok "a\u2060b" ∧
      (ofText "!protect(ab)").transformText [] "http://example.com" "ab" = .ok "ab") ∧
    locationMatches "nowhere".toList "http://example.com".toList = false ∧
      (ofText "!protect(ab, nowhere)\n!protect(abc)").transformText [] "http://example.com" "abc" =
        .ok "ab\u2060c" ∧
      (ofText "!protect(abc)").transformText [] "http://example.com" "abc" = .ok "abc" := by
  have habc : IsVerbatim "abc".toList := ⟨by decide, by decide, by decide, rfl⟩
  have hunder : (ofText "!ifLocation(example, !protect(ab))").lineCommands [] =
      [(protecting "ab".toList).under "example"] :=
    congrArg (fun command => [command])
      (lineCommand_of_no_value rfl (by decide) (tryBuild_protect_under _))
  have hplain : (ofText "!protect(ab)").lineCommands [] = [protecting "ab".toList] :=
    congrArg (fun command => [command]) (lineCommand_protect _ _ isVerbatim_ab rfl)
  have hother : (ofText "!protect(abc)").lineCommands [] = [protecting "abc".toList] :=
    congrArg (fun command => [command]) (lineCommand_protect _ _ habc rfl)
  have hboth : (ofText "!protect(ab, nowhere)\n!protect(abc)").lineCommands [] =
      [.action (.protect "ab" "nowhere" none), protecting "abc".toList] :=
    congrArg₂ (fun first second => [first, second])
      (lineCommand_of_no_value rfl (by decide) (tryBuild_protect_nowhere _))
      (lineCommand_protect _ _ habc rfl)
  have hexample : locationMatches "example".toList "http://example.com".toList := by decide
  have hnowhere : locationMatches "nowhere".toList "http://example.com".toList = false := by decide
  refine ⟨⟨hexample, ?_, ?_⟩, hnowhere, ?_, ?_⟩
  · have hlost : withReleases [(protecting "ab".toList).under "example"] =
        [(protecting "ab".toList).under "example"] := rfl
    rw [transformText, commands_eq_withReleases hunder, transformWith_eq, hlost, Command.onTextAll,
      Command.onText_under hexample, onText_protecting, Command.onTextAll]
    simp [replaceText, Pattern.replaceAll, Text.replaceAll, guarded, joiner]
  · rw [transformText, commands_eq_withReleases hplain, transformWith_eq]
    simp [withReleases, release?_protecting, Command.onTextAll, onText_literalReplacement,
      onText_protecting, replaceText, Pattern.replaceAll, Text.replaceAll, guarded, joiner]
  · have hreleases :
        withReleases [.action (.protect "ab" "nowhere" none), protecting "abc".toList] =
        [.action (.protect "ab" "nowhere" none), protecting "abc".toList,
          literalReplacement (guarded "ab".toList) "ab".toList,
          literalReplacement (guarded "abc".toList) "abc".toList] := rfl
    rw [transformText, commands_eq_withReleases hboth, transformWith_eq, hreleases,
      Command.onTextAll, Command.onText_of_not_admitted rfl hnowhere]
    simp [Command.onTextAll, onText_literalReplacement, onText_protecting, replaceText,
      Pattern.replaceAll, Text.replaceAll, guarded, joiner]
  · rw [transformText, commands_eq_withReleases hother, transformWith_eq]
    simp [withReleases, release?_protecting, Command.onTextAll, onText_literalReplacement,
      onText_protecting, replaceText, Pattern.replaceAll, Text.replaceAll, guarded, joiner]

end Configuration
end PageOverlay
