import PageOverlay.Proofs.Run.Timetable

/-!
# What holds of every move

Whatever is done with a runner before it stops is made of few steps: changes that are recorded, the
events at the end of a tick, new schedules and edits of the page. What holds of these steps, and of
two things done one after the other if it holds of both, holds of all runs.
-/

set_option autoImplicit false

namespace PageOverlay.Runner

def roster (r : Runner) : List (String × Configuration × List Command) :=
  r.managed.toList.map fun m => (m.name, m.configuration, m.commands)

theorem getElem?_roster (r : Runner) (place : Nat) :
    r.roster[place]? =
      (r.managed[place]?).map fun m => (m.name, m.configuration, m.commands) := by
  rw [roster, List.getElem?_map, Array.getElem?_toList]

theorem roster_begin (place : Nat) (r : Runner) : (r.begin place).roster = r.roster := by
  refine List.ext_getElem? fun i => ?_
  rw [getElem?_roster, getElem?_roster, begin, Array.getElem?_modify]
  split
  · cases r.managed[i]? <;> rfl
  · rfl

theorem roster_schedule (place : Nat) (r : Runner) : (r.schedule place).roster = r.roster := by
  refine List.ext_getElem? fun i => ?_
  have hmanaged : (r.schedule place).managed =
      r.managed.modify place fun m => { m with state := .scheduled } := rfl
  rw [getElem?_roster, getElem?_roster, hmanaged, Array.getElem?_modify]
  split
  · cases r.managed[i]? <;> rfl
  · rfl

theorem roster_stop (r : Runner) : r.stop.roster = r.roster := by
  refine List.ext_getElem? fun i => ?_
  have hmanaged : r.stop.managed =
      r.managed.map fun m => if m.isActive then { m with state := .stopped } else m := rfl
  rw [getElem?_roster, getElem?_roster, hmanaged, Array.getElem?_map, Option.map_map]
  refine Option.map_congr fun m _ => ?_
  rw [Function.comp_apply]
  split <;> rfl

/-- A relation between runners and what becomes of them, with all that moves are made of. -/
structure MoveRule (R : Runner → Runner → Prop) : Prop where
  refl (r : Runner) : R r r
  trans {r r' r'' : Runner} (h : R r r') (g : R r' r'') : R r r''
  world (w : World) (r : Runner) : R r { r with world := w }
  addUndo (us : List Undo) (r : Runner) : R r (Runner.addUndo us r)
  report (counts : Counts) (r : Runner) : R r ((Runner.report counts).run r).2
  failed (name message : String) (r : Runner) : R r (r.notify (.failed name message))
  schedule {r s : Runner} (h : s.roster = r.roster) : R r (r.onScheduleOf s)

namespace MoveRule

variable {R : Runner → Runner → Prop} {α β : Type}

theorem bind (h : MoveRule R) {x : Tick α} {f : α → Tick β} (hx : ∀ r, R r (x.run r).2)
    (hf : ∀ a r, R r ((f a).run r).2) (r : Runner) : R r ((x >>= f).run r).2 := by
  have hr := hx r
  rw [Change.run_bind]
  rcases hrun : x.run r with ⟨e | a, r'⟩
  all_goals rw [hrun] at hr
  · exact hr
  · exact h.trans hr (hf a r')

theorem recorded (h : MoveRule R) (x : Change (List Undo)) (r : Runner) :
    R r ((Runner.recorded x).run r).2 := by
  rw [run_recorded]
  rcases x.run r.world with ⟨e | us, w⟩
  · exact h.world w r
  · exact h.trans (h.world w r) (h.addUndo us _)

theorem visits (h : MoveRule R) (c : Configuration) (commands : List Command) :
    VisitRule (fun _ x => ∀ r, R r (x.run r).2) c commands where
  pure _ := h.refl
  bind := h.bind
  page hf r := hf r.world.page r
  visit _ _ _ := h.recorded _

theorem applyTick (h : MoveRule R) (c : Configuration) (commands : List Command) :
    ∀ r, R r ((Runner.applyTick c commands).run r).2 := by
  rw [applyTick_eq]
  have htidy : ∀ r, R r ((tidy c commands).run r).2 := by
    have hrest : ∀ s r : Runner, R r ((if s.labels then
        Runner.recorded (Labels.normalize { configuration := c, commands })
        else Pure.pure () : Tick Unit).run r).2 := by
      intro s
      split
      · exact h.recorded _
      · exact h.refl
    exact fun r => hrest r r
  refine h.bind htidy fun _ => h.bind (h.visits c commands).visitGroups fun counts => ?_
  exact h.bind (h.recorded _) fun _ => h.report counts

theorem applyRules (h : MoveRule R) (c : Configuration) (commands : List Command) :
    ∀ r, R r ((Runner.applyRules c commands).run r).2 :=
  h.bind (h.recorded _) fun _ => h.recorded _

theorem runJob (h : MoveRule R) (job : Job) (r : Runner) : R r (Runner.runJob job r) := by
  cases hm : r.managed[job.place]? with
  | none =>
    rw [runJob_of_none hm]
    exact h.refl r
  | some m =>
    have hwork : ∀ r, R r ((work m job).run r).2 := by
      cases job with
      | rules place => exact h.applyRules _ _
      | tick place => exact h.bind (h.applyTick _ _) fun _ => h.refl
    have hbegin : R r (r.begin job.place) := h.schedule (s := r.begin job.place) (roster_begin _ r)
    have hdone := h.trans hbegin (hwork _)
    rw [runJob_of_some hm]
    rcases hr : (work m job).run (r.begin job.place) with ⟨e | a, r'⟩
    all_goals rw [hr] at hdone
    · exact h.trans hdone (h.failed m.name e.message r')
    · exact hdone

theorem advanceBy (h : MoveRule R) (span : Nat) (r : Runner) : R r (r.advanceBy span).2 := by
  have hjobs : ∀ (jobs : List Job) (r : Runner), R r (r.runJobs jobs) := by
    intro jobs
    induction jobs with
    | nil => exact h.refl
    | cons job jobs ih => exact fun r => h.trans (h.runJob job r) (ih _)
  have hclock : ∀ (clock : Clock Job) (r : Runner), R r (r.withClock clock) :=
    fun clock r => h.schedule (s := r.withClock clock) rfl
  rw [advanceBy_eq]
  exact h.trans (hjobs ((r.clock.runTo (r.clock.now + span)).1.map (·.job)) r) (hclock _ _)

theorem start (h : MoveRule R) (r : Runner) : R r r.start.2 := by
  have hall : ∀ (places : List Nat) (r : Runner),
      R r (places.foldl (fun r place => r.schedule place) r) := by
    intro places
    induction places with
    | nil => exact h.refl
    | cons place places ih =>
      have hschedule : ∀ r : Runner, R r (r.schedule place) :=
        fun r => h.schedule (s := r.schedule place) (roster_schedule place r)
      exact fun r => h.trans (hschedule r) (ih _)
  rw [Runner.start]
  split
  · exact h.refl r
  · exact hall _ r

theorem make (h : MoveRule R) {move : Move} (hm : move ≠ .stop) (r : Runner) :
    R r (move.make r) := by
  cases move with
  | start => exact h.start r
  | stop => exact absurd rfl hm
  | advance span => exact h.advanceBy span r
  | apply c commands => exact h.applyTick c commands r
  | applyOnce c commands => exact h.applyRules c commands r
  | edit f => exact h.world _ r

theorem play (h : MoveRule R) {moves : List Move} (hm : .stop ∉ moves) (r : Runner) :
    R r (r.play moves) := by
  induction moves generalizing r with
  | nil => exact h.refl r
  | cons move moves ih =>
    rw [List.mem_cons, not_or] at hm
    exact h.trans (h.make (Ne.symm hm.1) r) (ih hm.2 _)

end MoveRule

structure SameSetup (r s : Runner) : Prop where
  labels : r.labels = s.labels
  period : r.period = s.period
  repository : r.repository = s.repository
  roster : r.roster = s.roster

/-- The second runner is set up as the first one, which it was before. -/
structure Stays (r r' : Runner) : Prop extends SameSetup r r' where
  limit : r.undoLimit = r'.undoLimit

theorem Stays.trans {r r' r'' : Runner} (h : Stays r r') (g : Stays r' r'') : Stays r r'' :=
  ⟨⟨h.labels.trans g.labels, h.period.trans g.period, h.repository.trans g.repository,
    h.roster.trans g.roster⟩, h.limit.trans g.limit⟩

theorem moveRule_stays : MoveRule Stays where
  refl _ := ⟨⟨rfl, rfl, rfl, rfl⟩, rfl⟩
  trans := Stays.trans
  world _ _ := ⟨⟨rfl, rfl, rfl, rfl⟩, rfl⟩
  addUndo us r := by
    by_cases hus : us = []
    · rw [hus, addUndo_nil]
      exact ⟨⟨rfl, rfl, rfl, rfl⟩, rfl⟩
    · rw [addUndo_of_ne hus]
      exact ⟨⟨rfl, rfl, rfl, rfl⟩, rfl⟩
  report _ _ := ⟨⟨rfl, rfl, rfl, rfl⟩, rfl⟩
  failed _ _ _ := ⟨⟨rfl, rfl, rfl, rfl⟩, rfl⟩
  schedule h := ⟨⟨rfl, rfl, rfl, h.symm⟩, rfl⟩

theorem stays_play (r : Runner) (moves : List Move) : Stays r (r.play moves) := by
  induction moves generalizing r with
  | nil => exact moveRule_stays.refl r
  | cons move moves ih =>
    refine Stays.trans ?_ (ih (move.make r))
    by_cases hm : move = .stop
    · rw [hm]
      exact ⟨⟨rfl, rfl, rfl, (roster_stop r).symm⟩, rfl⟩
    · exact moveRule_stays.make hm r

end PageOverlay.Runner
