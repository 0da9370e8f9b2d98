import PageOverlay.Configuration.Commands
import PageOverlay.Proofs.Change.TextTurns

/-!
# Texts that stand in no page

A text is transformed on a page of its own, where its node belongs to no element. Each command makes
another text of it that depends on the location alone, and never fails. The commands act one after
the other, each on what the one before it left.
-/

set_option autoImplicit false

namespace PageOverlay

def Pattern.replaced (search : Pattern) (text new : List Char) : List Char :=
  if search.isMatch text then search.replaceAll text new else text

/-- What an action makes of a text that stands in no page. Whatever asks for an element finds none
and leaves the text alone. -/
def Action.onText (location : String) (text : List Char) : Action → List Char
  | .replace search replacement rule none none =>
    if locationMatches rule.toList location.toList then search.replaced text replacement.toList
    else text
  | .protect word rule none =>
    if locationMatches rule.toList location.toList then
      (Pattern.literal word.toList).replaced text (guarded word.toList)
    else text
  | _ => text

namespace Command

mutual

def onText (location : String) (text : List Char) : Command → List Char
  | .action a => a.onText location text
  | .conditional rule within inner =>
    if locationMatches rule.toList location.toList && within.isNone then onText location text inner
    else text
  | .group commands =>
    if allApplyTo .text commands then onTextAll location text commands else text
  | .faulty _ => text

def onTextAll (location : String) (text : List Char) : List Command → List Char
  | [] => text
  | c :: cs => onTextAll location (onText location text c) cs

end

theorem onTextAll_append (location : String) (text : List Char) (cs ds : List Command) :
    onTextAll location text (cs ++ ds) = onTextAll location (onTextAll location text cs) ds := by
  induction cs generalizing text with
  | nil => rfl
  | cons c cs ih => exact ih _

theorem onText_of_not_appliesTo (location : String) (text : List Char) :
    ∀ c : Command, c.appliesTo .text = false → c.onText location text = text
  | .action a, h => by
    rw [onText]
    cases a with
    | replace => cases h
    | protect => cases h
    | _ => rfl
  | .conditional rule within inner, h => by
    rw [appliesTo] at h
    rw [onText, onText_of_not_appliesTo location text inner h, ite_self]
  | .group commands, h => by
    rw [appliesTo] at h
    rw [onText, h]
    rfl
  | .faulty reason, _ => by rw [onText]

mutual

theorem appliesTo_of_isText {g : TargetGroup} (hg : g.isText) :
    ∀ c : Command, c.appliesTo g = c.appliesTo .text
  | .action a => by
    rw [appliesTo, appliesTo]
    cases g <;> cases hg <;> cases a <;> rfl
  | .conditional rule within inner => by
    rw [appliesTo, appliesTo, appliesTo_of_isText hg inner]
  | .group commands => by rw [appliesTo, appliesTo, allApplyTo_of_isText hg commands]
  | .faulty reason => by rw [appliesTo, appliesTo]

theorem allApplyTo_of_isText {g : TargetGroup} (hg : g.isText) :
    ∀ cs : List Command, allApplyTo g cs = allApplyTo .text cs
  | [] => by rw [allApplyTo, allApplyTo]
  | c :: cs => by
    rw [allApplyTo, allApplyTo, appliesTo_of_isText hg c, allApplyTo_of_isText hg cs]

end

end Command

theorem standsWithin_of_apart {p : Page} {n : NodeId} (h : p.elementOf n = none)
    (within : Option Selector) : standsWithin within p n = within.isNone := by
  cases within with
  | none => rfl
  | some s => simp [standsWithin, h]

namespace Turns

variable {w : World} {n : NodeId} {path : String} {text : List Char}

theorem applyReplace (h : TextAt w.page n path text) (search : Pattern) (replacement : String) :
    Turns (Action.applyReplace search replacement none n path) w n path
      (search.replaced text replacement.toList) := by
  refine .page ?_
  simp only [h.property?, String.toList_ofList]
  exact .when h (.bind h (.record h _) fun u v hv _ => .pure hv _)

theorem idle (h : TextAt w.page n path text) (b : Bool) :
    Turns (if b then (Pure.pure none : Change Applied) else Pure.pure none) w n path text := by
  cases b <;> exact .pure h none

variable (hapart : w.page.elementOf n = none)

include hapart

theorem applyReplace_attribute (h : TextAt w.page n path text) (search : Pattern)
    (replacement name : String) :
    Turns (Action.applyReplace search replacement (some name) n path) w n path text := by
  refine .page ?_
  rw [hapart]
  exact .pure h none

theorem applyNode (h : TextAt w.page n path text) {a : Action} (ha : a.appliesTo .text) :
    Turns (a.applyNode n path) w n path (a.onText w.page.location text) := by
  refine .page ?_
  cases a with
  | replace search replacement rule within attr =>
    simp only [locationAllows, standsWithin_of_apart hapart]
    cases attr with
    | none =>
      cases within with
      | none => simpa [Action.onText] using Turns.when h (.applyReplace h search replacement)
      | some s => simpa [Action.onText] using Turns.pure h none
    | some name =>
      have htext : (Action.replace search replacement rule within (some name)).onText
          w.page.location text = text := by cases within <;> rfl
      have hidle := applyReplace_attribute hapart h search replacement name
      have hsame := hidle.when h
        (b := locationMatches rule.toList w.page.location.toList && within.isNone)
      rw [ite_self] at hsame
      rwa [htext]
  | protect word rule within =>
    simp only [locationAllows, standsWithin_of_apart hapart]
    cases within with
    | none =>
      simpa [Action.onText] using Turns.when h (.applyReplace h (.literal word.toList)
        (String.ofList (guarded word.toList)))
    | some s => simpa [Action.onText] using Turns.pure h none
  | replaceNeighbor search replacement level neighbor rule within =>
    rw [hapart]
    exact .idle h _
  | hide search level upTo rule hash =>
    rw [hapart]
    exact .idle h _
  | style search property level value =>
    rw [hapart]
    exact .idle h _
  | insert place search html level within =>
    rw [hapart]
    exact .idle h _
  | _ => cases ha

end Turns

namespace Command

variable {n : NodeId} {path : String}

mutual

theorem turns_apply_apart {w : World} (hapart : w.page.elementOf n = none) {text : List Char}
    (h : TextAt w.page n path text) : ∀ c : Command, c.appliesTo .text →
      Turns (c.apply (.node n path)) w n path (c.onText w.page.location text)
  | .action a, ha => by
    rw [appliesTo] at ha
    rw [apply, onText]
    exact .applyNode hapart h ha
  | .conditional rule within inner, hc => by
    rw [appliesTo] at hc
    rw [apply, onText]
    refine .page ?_
    have hholds : holdsAt within w.page (.node n path) = within.isNone :=
      standsWithin_of_apart hapart within
    rw [hholds, locationAllows]
    exact .when h (turns_apply_apart hapart h inner hc)
  | .group commands, hc => by
    rw [appliesTo] at hc
    rw [apply, onText, if_pos hc]
    exact turns_applyAll_apart hapart h commands hc
  | .faulty reason, _ => by
    rw [apply, onText]
    exact .pure h none

theorem turns_applyAll_apart {w : World} (hapart : w.page.elementOf n = none) {text : List Char}
    (h : TextAt w.page n path text) : ∀ cs : List Command, allApplyTo .text cs →
      Turns (applyAll (.node n path) cs) w n path
        (onTextAll w.page.location text cs)
  | [], _ => by
    rw [applyAll, onTextAll]
    exact .pure h none
  | c :: cs, hcs => by
    rw [allApplyTo, Bool.and_eq_true] at hcs
    rw [applyAll, onTextAll]
    refine .bind h (turns_apply_apart hapart h c hcs.1) fun first v hv hsets => ?_
    have hothers := turns_applyAll_apart ((hsets.elementOf n).trans hapart) hv cs hcs.2
    rw [hsets.location] at hothers
    refine .bind hv hothers fun others v hv _ => ?_
    cases first with
    | none => exact .pure hv others
    | some us =>
      cases others with
      | none => exact .pure hv (some us)
      | some vs => exact .pure hv (some (us ++ vs))

end

end Command

namespace Configuration

variable {n : NodeId} {path : String}

theorem turns_runCommands {g : TargetGroup} (hg : g.isText) {commands : List Command} {w : World}
    {text : List Char} (h : TextAt w.page n path text)
    (hcommands : ∀ c ∈ commands, c.appliesTo .text → ∀ (v : World) (old : List Char),
      v.page.shape? n = w.page.shape? n → TextAt v.page n path old →
        Turns (c.apply (.node n path)) v n path (c.onText v.page.location old)) :
    Turns (runCommands g (.node n path) commands) w n path
      (Command.onTextAll w.page.location text commands) := by
  -- each command finds another world, but the node keeps its shape and the page its location
  induction commands generalizing w text with
  | nil => exact .pure h []
  | cons c cs ih =>
    have hrest := fun d hd => hcommands d (List.mem_cons_of_mem c hd)
    rw [runCommands, Command.onTextAll, c.appliesTo_of_isText hg]
    split
    · next happlies =>
      have hfirst := hcommands c List.mem_cons_self happlies w text rfl h
      refine .bind h hfirst fun us v hv hsets => ?_
      have hothers := ih hv fun d hd ha u old hu =>
        hrest d hd ha u old (hu.trans (hsets.shape n))
      rw [hsets.location] at hothers
      exact .bind hv hothers fun others v hv _ => .pure hv _
    · next happlies =>
      rw [Command.onText_of_not_appliesTo _ _ _ (by simpa using happlies)]
      exact ih h hrest

theorem textAt_scratch (location : String) (text : List Char) :
    TextAt (.scratch location (String.ofList text)) Page.root Page.scratchPath text :=
  ⟨⟨_, rfl, trivial⟩, rfl⟩

/-- Transforming a text that stands in no page never fails. The commands change it one after the
other. -/
theorem transformWith_eq (c : Configuration) (commands : List Command) (location text : String) :
    c.transformWith commands location text =
      .ok (String.ofList (Command.onTextAll location text.toList commands)) := by
  have h := textAt_scratch location text.toList
  rw [String.ofList_toList] at h
  have hturns : Turns (c.applyCommands commands .text (.node Page.root Page.scratchPath))
      { page := .scratch location text } Page.root Page.scratchPath
      (Command.onTextAll location text.toList commands) :=
    .page (turns_runCommands rfl h fun command _ happlies v old hshape hv =>
      Command.turns_apply_apart (Page.elementOf_congr hshape) hv command happlies)
  obtain ⟨us, q, hrun, hq⟩ := hturns
  have hread := (h.of_sets hq).property?
  rw [transformWith]
  simp only [hrun, hread, Option.getD_some]

theorem transformWith_ok (c : Configuration) (commands : List Command) (location text : String) :
    ∃ new, c.transformWith commands location text = .ok new :=
  ⟨_, c.transformWith_eq commands location text⟩

end Configuration
end PageOverlay
