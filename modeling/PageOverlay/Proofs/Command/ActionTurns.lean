import PageOverlay.Proofs.Command.Failing

/-!
# The turn of an action

Commands hold actions under conditions and in groups. An action has its turn in a world if all that
comes before it in order succeeds and leaves that world, and its conditions hold when they are
asked. A list of commands fails just if some action fails at its turn, and it leaves the world which
that action leaves, in which all is told that was done before the turn.
-/

set_option autoImplicit false

namespace PageOverlay

variable {t : Target} {w w' v u : World} {a : Action} {us : List Undo} {e : MutationError}

namespace Command

mutual

/-- The action of the command is applied to `v`, after the changes that `us` tells. -/
inductive Turn (t : Target) : Command → World → Action → List Undo → World → Prop
  | action (a : Action) (w : World) : Turn t (.action a) w a [] w
  | conditional {location : String} {within : Option Selector} {inner : Command} {w v : World}
      {a : Action} {us : List Undo}
      (hc : locationAllows location w.page && holdsAt within w.page t)
      (h : Turn t inner w a us v) : Turn t (.conditional location within inner) w a us v
  | group {commands : List Command} {w v : World} {a : Action} {us : List Undo}
      (h : TurnIn t commands w a us v) : Turn t (.group commands) w a us v

inductive TurnIn (t : Target) : List Command → World → Action → List Undo → World → Prop
  | first {c : Command} {cs : List Command} {w v : World} {a : Action} {us : List Undo}
      (h : Turn t c w a us v) : TurnIn t (c :: cs) w a us v
  | later {c : Command} {cs : List Command} {w u v : World} {a : Action} {r : Applied}
      {us : List Undo} (hrun : (apply t c).run w = (.ok r, u)) (h : TurnIn t cs u a us v) :
      TurnIn t (c :: cs) w a (undosOf r ++ us) v

end

theorem run_applyAll_cons {c : Command} {cs : List Command} :
    (applyAll t (c :: cs)).run w = (.error e, w') ↔
      (apply t c).run w = (.error e, w') ∨
        ∃ r u, (apply t c).run w = (.ok r, u) ∧ (applyAll t cs).run u = (.error e, w') := by
  rw [applyAll, Change.run_bind_eq_error]
  refine or_congr .rfl (exists_congr fun r => exists_congr fun u => and_congr_right fun _ => ?_)
  rw [Change.run_bind_eq_error]
  constructor
  · rintro (h | ⟨others, v, -, h⟩)
    · exact h
    · cases r with
      | none => cases h
      | some us =>
        cases others with
        | none => cases h
        | some vs => cases h
  · exact .inl

mutual

theorem run_apply_error : ∀ (c : Command) (w : World),
    (apply t c).run w = (.error e, w') ↔
      ∃ a us v, Turn t c w a us v ∧ (a.apply t).run v = (.error e, w')
  | .action a, w => by
    rw [apply]
    constructor
    · exact fun h => ⟨a, [], w, .action a w, h⟩
    · rintro ⟨_, _, _, ⟨⟩, h⟩
      exact h
  | .conditional location within inner, w => by
    rw [apply, Change.run_page_bind]
    by_cases hc : locationAllows location w.page && holdsAt within w.page t
    · rw [if_pos hc, run_apply_error inner w]
      constructor
      · rintro ⟨a, us, v, h, hrun⟩
        exact ⟨a, us, v, .conditional hc h, hrun⟩
      · rintro ⟨a, us, v, h, hrun⟩
        cases h with
        | conditional _ h => exact ⟨a, us, v, h, hrun⟩
    · rw [if_neg hc]
      constructor
      · intro h
        cases h
      · rintro ⟨a, us, v, h, -⟩
        cases h with
        | conditional h _ => exact absurd h hc
  | .group commands, w => by
    rw [apply, run_applyAll_error commands w]
    constructor
    · rintro ⟨a, us, v, h, hrun⟩
      exact ⟨a, us, v, .group h, hrun⟩
    · rintro ⟨a, us, v, h, hrun⟩
      cases h with
      | group h => exact ⟨a, us, v, h, hrun⟩
  | .faulty reason, w => by
    rw [apply]
    constructor
    · intro h
      cases h
    · rintro ⟨_, _, _, ⟨⟩, -⟩

theorem run_applyAll_error : ∀ (cs : List Command) (w : World),
    (applyAll t cs).run w = (.error e, w') ↔
      ∃ a us v, TurnIn t cs w a us v ∧ (a.apply t).run v = (.error e, w')
  | [], w => by
    rw [applyAll]
    constructor
    · intro h
      cases h
    · rintro ⟨_, _, _, ⟨⟩, -⟩
  | c :: cs, w => by
    rw [run_applyAll_cons, run_apply_error c w]
    constructor
    · rintro (⟨a, us, v, h, hrun⟩ | ⟨r, u, hc, h⟩)
      · exact ⟨a, us, v, .first h, hrun⟩
      · obtain ⟨a, us, v, h, hrun⟩ := (run_applyAll_error cs u).mp h
        exact ⟨a, undosOf r ++ us, v, .later hc h, hrun⟩
    · rintro ⟨a, us, v, h, hrun⟩
      cases h with
      | first h => exact .inl ⟨a, us, v, h, hrun⟩
      | later hc h => exact .inr ⟨_, _, hc, (run_applyAll_error cs _).mpr ⟨a, _, v, h, hrun⟩⟩

end

mutual

theorem Turn.edits : ∀ {c : Command} {w v : World} {a : Action} {us : List Undo},
    Turn t c w a us v → Edits w us v
  | _, _, _, _, _, .action _ w => .nil w
  | _, _, _, _, _, .conditional _ h => h.edits
  | _, _, _, _, _, .group h => h.edits

theorem TurnIn.edits : ∀ {cs : List Command} {w v : World} {a : Action} {us : List Undo},
    TurnIn t cs w a us v → Edits w us v
  | _, _, _, _, _, .first h => h.edits
  | _, _, _, _, _, .later hrun h => ((tells_apply t _).edits hrun).append h.edits

end

end Command

namespace Configuration

/-- The action has its turn when the commands are run for a group of targets. -/
inductive Turn (g : TargetGroup) (t : Target) :
    List Command → World → Action → List Undo → World → Prop
  | first {c : Command} {cs : List Command} {w v : World} {a : Action} {us : List Undo}
      (hg : c.appliesTo g) (h : c.Turn t w a us v) : Turn g t (c :: cs) w a us v
  | later {c : Command} {cs : List Command} {w u v : World} {a : Action} {r : Applied}
      {us : List Undo} (hg : c.appliesTo g) (hrun : (c.apply t).run w = (.ok r, u))
      (h : Turn g t cs u a us v) : Turn g t (c :: cs) w a (undosOf r ++ us) v
  | skip {c : Command} {cs : List Command} {w v : World} {a : Action} {us : List Undo}
      (hg : ¬ c.appliesTo g) (h : Turn g t cs w a us v) : Turn g t (c :: cs) w a us v

variable {g : TargetGroup}

theorem Turn.edits {cs : List Command} (h : Turn g t cs w a us v) : Edits w us v := by
  induction h with
  | first _ h => exact h.edits
  | later _ hrun _ ih => exact ((Command.tells_apply t _).edits hrun).append ih
  | skip _ _ ih => exact ih

theorem run_runCommands_error (cs : List Command) :
    (runCommands g t cs).run w = (.error e, w') ↔
      ∃ a us v, Turn g t cs w a us v ∧ (a.apply t).run v = (.error e, w') := by
  induction cs generalizing w with
  | nil =>
    constructor
    · intro h
      cases h
    · rintro ⟨_, _, _, ⟨⟩, -⟩
  | cons c cs ih =>
    rw [runCommands]
    by_cases hg : c.appliesTo g
    · rw [if_pos hg, Change.run_bind_eq_error, Command.run_apply_error]
      constructor
      · rintro (⟨a, us, v, h, hrun⟩ | ⟨r, u, hc, h⟩)
        · exact ⟨a, us, v, .first hg h, hrun⟩
        · rcases Change.run_bind_eq_error.mp h with h | ⟨_, _, -, h⟩
          · obtain ⟨a, us, v, h, hrun⟩ := ih.mp h
            exact ⟨a, undosOf r ++ us, v, .later hg hc h, hrun⟩
          · cases h
      · rintro ⟨a, us, v, h, hrun⟩
        cases h with
        | first _ h => exact .inl ⟨a, us, v, h, hrun⟩
        | later _ hc h =>
          exact .inr ⟨_, _, hc, Change.run_bind_eq_error.mpr (.inl (ih.mpr ⟨a, _, v, h, hrun⟩))⟩
        | skip h => exact absurd hg h
    · rw [if_neg hg, ih]
      constructor
      · rintro ⟨a, us, v, h, hrun⟩
        exact ⟨a, us, v, .skip hg h, hrun⟩
      · rintro ⟨a, us, v, h, hrun⟩
        cases h with
        | first h => exact absurd h hg
        | later h => exact absurd h hg
        | skip _ h => exact ⟨a, us, v, h, hrun⟩

theorem run_applyCommands_error (c : Configuration) (commands : List Command) :
    (c.applyCommands commands g t).run w = (.error e, w') ↔
      c.mayTouch w.page t ∧
        ∃ a us v, Turn g t commands w a us v ∧ (a.apply t).run v = (.error e, w') := by
  rw [applyCommands, Change.run_page_bind]
  by_cases hm : c.mayTouch w.page t
  · rw [if_pos hm, run_runCommands_error]
    simp [hm]
  · rw [if_neg hm]
    constructor
    · intro h
      cases h
    · rintro ⟨h, -⟩
      exact absurd h hm

end Configuration
end PageOverlay
