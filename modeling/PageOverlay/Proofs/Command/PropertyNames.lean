import PageOverlay.Proofs.Command.ActionTurns

/-!
# Built commands name what they set

A page refuses to set a property of an element that has no name. No command that is built from a
sheet asks for that: where a call leaves the name out, the command does not come about or falls back
on the text of the element. What remains are the clashes of setting texts.
-/

set_option autoImplicit false

namespace PageOverlay

namespace Action

/-- The properties that the action names itself have names. -/
def IsNamed : Action → Prop
  | .replace _ _ _ _ attr => attr ≠ some ""
  | .querySelector _ property _ => property ≠ ""
  | _ => True

variable {a : Action} {p : Page} {n : NodeId} {path : String}

theorem IsNamed.not_refused (h : a.IsNamed) (hp : path ≠ "") : ¬ a.Refused p n path := by
  have hcell : ∀ {search replacement cell}, RefusesReplace p search replacement cell →
      ∃ m, cell = some (m, "") := by
    rintro search replacement cell ⟨m, path, current, hcell, -, -, -, rfl, -⟩
    exact ⟨m, hcell⟩
  cases a with
  | replace search replacement location within attr =>
    rintro ⟨-, hr⟩
    obtain ⟨m, hm⟩ := hcell hr
    cases attr with
    | none =>
      cases hm
      exact hp rfl
    | some name =>
      obtain ⟨e, -, he⟩ := Option.map_eq_some_iff.mp hm
      cases he
      exact h rfl
  | protect word location within =>
    rintro ⟨-, hr⟩
    obtain ⟨m, hm⟩ := hcell hr
    cases hm
    exact hp rfl
  | replaceImage searches replacement =>
    rintro ⟨-, -, rfl, -⟩
    exact hp rfl
  | querySelector selector property value =>
    rintro ⟨m, -, -, rfl, -⟩
    exact h rfl
  | _ => exact id

theorem Clashes.group {g : TargetGroup} (h : a.Clashes p) (hg : a.appliesTo g) :
    g = .document := by
  cases a with
  | querySelector selector property value => simpa [appliesTo] using hg
  | _ => exact h.elim

end Action

namespace Command

mutual

def Each (P : Action → Prop) : Command → Prop
  | .action a => P a
  | .conditional _ _ inner => Each P inner
  | .group commands => EachOf P commands
  | .faulty _ => True

def EachOf (P : Action → Prop) : List Command → Prop
  | [] => True
  | c :: cs => Each P c ∧ EachOf P cs

end

variable {P : Action → Prop} {g : TargetGroup} {t : Target}

mutual

theorem each_of_appliesTo : ∀ c : Command, c.appliesTo g → c.Each (·.appliesTo g)
  | .action _, h => by
    rw [Each]
    rwa [appliesTo] at h
  | .conditional _ _ inner, h => by
    rw [Each]
    rw [appliesTo] at h
    exact each_of_appliesTo inner h
  | .group commands, h => by
    rw [Each]
    rw [appliesTo] at h
    exact eachOf_of_allApplyTo commands h
  | .faulty _, _ => by
    rw [Each]
    trivial

theorem eachOf_of_allApplyTo : ∀ cs : List Command, allApplyTo g cs →
    EachOf (fun a => a.appliesTo g) cs
  | [], _ => by
    rw [EachOf]
    trivial
  | c :: cs, h => by
    rw [allApplyTo, Bool.and_eq_true] at h
    rw [EachOf]
    exact ⟨each_of_appliesTo c h.1, eachOf_of_allApplyTo cs h.2⟩

end

mutual

theorem Turn.each : ∀ {c : Command} {w v : World} {a : Action} {us : List Undo},
    Turn t c w a us v → c.Each P → P a
  | _, _, _, _, _, .action _ _, h => by rwa [Each] at h
  | _, _, _, _, _, .conditional _ turn, h => by
    rw [Each] at h
    exact turn.each h
  | _, _, _, _, _, .group turn, h => by
    rw [Each] at h
    exact turn.each h

theorem TurnIn.each : ∀ {cs : List Command} {w v : World} {a : Action} {us : List Undo},
    TurnIn t cs w a us v → EachOf P cs → P a
  | _, _, _, _, _, .first turn, h => by
    rw [EachOf] at h
    exact turn.each h.1
  | _, _, _, _, _, .later _ turn, h => by
    rw [EachOf] at h
    exact turn.each h.2

end

end Command

namespace Configuration

variable {P : Action → Prop} {g : TargetGroup} {t : Target} {w v : World} {a : Action}
  {us : List Undo}

theorem Turn.each {cs : List Command} (h : Turn g t cs w a us v) (hcs : ∀ c ∈ cs, c.Each P) :
    P a ∧ a.appliesTo g := by
  induction h with
  | first hg turn =>
    exact ⟨turn.each (hcs _ (by simp)), turn.each (P := fun a => a.appliesTo g)
      (Command.each_of_appliesTo _ hg)⟩
  | later _ _ _ ih => exact ih fun c hc => hcs c (by simp [hc])
  | skip _ _ ih => exact ih fun c hc => hcs c (by simp [hc])

end Configuration

def Yields {ε α : Type} (P : α → Prop) (x : Except ε α) : Prop := ∀ a, x = .ok a → P a

namespace Yields

variable {ε α β : Type} {P : β → Prop}

theorem ok {b : β} (h : P b) : Yields P (.ok b : Except ε β) := by
  rintro _ ⟨⟩
  exact h

theorem error (e : ε) : Yields P (.error e) := by
  rintro _ ⟨⟩

theorem bind {x : Except ε α} {f : α → Except ε β} {Q : α → Prop} (hx : Yields Q x)
    (hf : ∀ a, Q a → Yields P (f a)) : Yields P (x >>= f) := by
  cases x with
  | error e => exact error e
  | ok a => exact hf a (hx a rfl)

theorem andThen {x : Except ε α} {f : α → Except ε β} (hf : ∀ a, Yields P (f a)) :
    Yields P (x >>= f) := by
  cases x with
  | error e => exact error e
  | ok a => exact hf a

theorem map {x : Except ε α} {f : α → β} (hx : Yields (fun a => P (f a)) x) :
    Yields P (x.map f) := by
  cases x with
  | error e => exact error e
  | ok a => exact ok (hx a rfl)

end Yields

theorem ofList_ne_empty {cs : List Char} (h : cs ≠ []) : String.ofList cs ≠ "" := by
  intro hempty
  have hlist := congrArg String.toList hempty
  rw [String.toList_ofList] at hlist
  exact h hlist

namespace Verb

theorem yields_required (i : Invocation) (k : Nat) (what : String) :
    Yields (· ≠ []) (i.required k what) := by
  rw [Invocation.required]
  split
  · exact .error _
  · next hne => exact .ok fun h => hne h

theorem propertyName_ne_empty (cs : List Char) : propertyName cs ≠ "" := by
  rw [propertyName]
  split
  · decide
  · next hne => exact ofList_ne_empty fun h => hne h

theorem yields_action (v : Verb) (includeRules excludeRules : List String) (i : Invocation) :
    Yields Action.IsNamed (v.action includeRules excludeRules i) := by
  cases v with
  | addScript => exact .ok trivial
  | replaceResponse => exact .andThen fun _ => .ok trivial
  | patchResponse => exact .andThen fun _ => .ok trivial
  | replace =>
    refine .andThen fun search => .andThen fun within => .ok ?_
    rw [Action.IsNamed, Invocation.notEmpty]
    split
    · simp
    · next hne => simpa using hne
  | replaceAttribute =>
    refine .andThen fun search => .bind (yields_required i 1 "attribute") fun name hname => ?_
    refine .andThen fun within => .ok ?_
    simpa [Action.IsNamed] using ofList_ne_empty hname
  | protect => exact .andThen fun _ => .andThen fun _ => .ok trivial
  | replaceNeighbor =>
    exact .andThen fun _ => .andThen fun _ => .andThen fun _ => .andThen fun _ => .andThen fun _ =>
      .ok trivial
  | insert place => exact .andThen fun _ => .andThen fun _ => .andThen fun _ => .ok trivial
  | style => exact .andThen fun _ => .andThen fun _ => .andThen fun _ => .ok trivial
  | querySelector =>
    exact .andThen fun _ => .andThen fun _ => .ok (propertyName_ne_empty (i.parameter 1))
  | hide => exact .andThen fun _ => .andThen fun _ => .andThen fun _ => .ok trivial
  | replaceImage => exact .andThen fun _ => .andThen fun _ => .ok trivial
  | recolorImage => exact .andThen fun _ => .ok trivial
  | replaceLink =>
    refine .andThen fun _ => .andThen fun _ => .ok ?_
    change "href" ≠ ""
    decide
  | request action => exact .andThen fun _ => .ok trivial
  | stage => exact .ok trivial
  | overwriteMarkup => exact .andThen fun _ => .ok trivial
  | overwritePage => exact .ok trivial
  | hideListItem => exact .andThen fun _ => .andThen fun _ => .ok trivial
  | analyticsIdentify => exact .andThen fun _ => .ok trivial
  | analyticsTrack => exact .andThen fun _ => .ok trivial
  | analyticsLoad => exact .error _
  | whenBoth => exact .error _
  | whenLocation => exact .error _
  | whenSelector => exact .error _

theorem yields_command (v : Verb) (includeRules excludeRules : List String) (i : Invocation) :
    Yields (Command.Each Action.IsNamed) (v.command includeRules excludeRules i) := by
  have haction : ∀ a : Action, a.IsNamed → (Command.action a).Each Action.IsNamed := by
    intro a ha
    rwa [Command.Each]
  have hsingle : Yields (Command.Each Action.IsNamed)
      ((v.action includeRules excludeRules i).map .action) :=
    .map fun a h => haction a (yields_action v includeRules excludeRules i a h)
  cases v with
  | analyticsLoad =>
    have hload : ∀ load, (Command.group
        [.action (.addScript none analyticsLoader), .action (.addScript none load)]).Each
          Action.IsNamed := by
      intro load
      rw [Command.Each, Command.EachOf, Command.EachOf, Command.EachOf]
      exact ⟨haction _ trivial, haction _ trivial, trivial⟩
    rw [command]
    split
    · exact .andThen fun key => .ok (hload _)
    · exact .andThen fun key => .ok (hload _)
  | _ => exact hsingle

theorem yields_wrap (v : Verb) (i : Invocation) {P : Action → Prop} {inner : Command}
    (h : inner.Each P) : Yields (Command.Each P) (v.wrap i inner) := by
  have hinner : ∀ location within, (Command.conditional location within inner).Each P := by
    intro location within
    rwa [Command.Each]
  cases v with
  | whenBoth => exact .andThen fun within => .ok (hinner _ _)
  | whenSelector => exact .andThen fun within => .ok (hinner _ _)
  | _ => exact .ok (hinner _ _)

end Verb

namespace Builder

theorem yields_tryBuild (b : Builder) (value : String) (key : List Char) :
    Yields (Command.Each Action.IsNamed) (b.tryBuild value key) := by
  have hreplace : ∀ search,
      (Command.action (.replace search value "" none none)).Each Action.IsNamed := by
    intro search
    rw [Command.Each, Action.IsNamed]
    decide
  fun_induction b.tryBuild value key with
  | case1 => exact .ok (hreplace _)
  | case2 => exact .ok (hreplace _)
  | case3 => exact .ok (hreplace _)
  | case9 => exact Verb.yields_command _ _ _ _
  | case10 key first body hk hcall hslash call hread parameters hsplit entry hentry i k hk' inner
      hinner ih =>
    exact Verb.yields_wrap _ _ (ih inner hinner)
  | _ => exact .error _

end Builder

namespace Configuration

theorem each_lineCommand (b : Builder) (s : Scopes) (l : PlacedLine) :
    (lineCommand b s l).Each Action.IsNamed := by
  rw [lineCommand, tryLine]
  split
  · next command h =>
    split at h
    · next key value _ => exact b.yields_tryBuild value key.toList command h
    · cases h
  · rw [Command.Each]
    trivial

/-- All commands of a configuration name what they set. -/
theorem each_commands (c : Configuration) (repo : Repository) :
    ∀ command ∈ c.commands repo, command.Each Action.IsNamed := by
  intro command h
  have hbuilt : ∀ command ∈ c.lineCommands repo, command.Each Action.IsNamed := by
    intro command h
    obtain ⟨l, -, rfl⟩ := List.mem_map.mp h
    exact each_lineCommand _ _ l
  rcases List.mem_append.mp h with h | h
  · exact hbuilt command h
  · -- what is released at the end are replacements that name no property
    obtain ⟨source, -, hrelease⟩ := List.mem_filterMap.mp h
    cases source with
    | action a =>
      obtain ⟨b, hb, rfl⟩ := Option.map_eq_some_iff.mp hrelease
      cases a with
      | protect word location within =>
        cases hb
        rw [Command.Each, Action.IsNamed]
        decide
      | _ => cases hb
    | conditional location within inner => cases hrelease
    | group commands => cases hrelease
    | faulty reason => cases hrelease

end Configuration
end PageOverlay
