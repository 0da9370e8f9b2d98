import PageOverlay.Proofs.Run.MoveRule
import PageOverlay.Proofs.Run.ShiftedClock

/-!
# Runs side by side

Two runners that are alike stay alike: what they make of their worlds depends on nothing that tells
them apart. In which way worlds and records are alike is left open here, as long as the commands
of a configuration respect it.
-/

set_option autoImplicit false

namespace PageOverlay

namespace Runner

/-- A way for two runners to be alike. -/
structure Likeness where
  world : World → World → Prop
  seen : Undo → Undo
  records : Bool
  page_eq {w v : World} (h : world w v) : w.page = v.page
  edit {w v : World} (h : world w v) (page : Page) : world { w with page } { v with page }

namespace Likeness

variable (L : Likeness)

def shown : Event → Event
  | .changed us => .changed (us.map L.seen)
  | .applied stats => .applied (if L.records then stats else { stats with undoLength := 0 })
  | .failed name message => .failed name message

def Respects (x : Change (List Undo)) : Prop := Change.Matches L.world (List.map L.seen) x x

structure Lawful : Prop where
  commands (c : Configuration) (commands : List Command) (g : TargetGroup) (t : Target) :
    L.Respects (c.applyCommands commands g t)
  labels (t : Labels.Transformer) : L.Respects (Labels.normalize t)

end Likeness

/-- Two runners that were alike when they were `r₀` and `s₀` still are, and so is what they told
since then. -/
structure Alike (L : Likeness) (r₀ s₀ r s : Runner) : Prop extends SameSetup r s where
  world : L.world r.world s.world
  records : L.records → r.tracking = s.tracking ∧ r.undoLimit = s.undoLimit ∧
    r.undo.toList.map L.seen = s.undo.toList.map L.seen
  events : ∃ told told' : List Event, r.events.toList = r₀.events.toList ++ told ∧
    s.events.toList = s₀.events.toList ++ told' ∧ told.map L.shown = told'.map L.shown

def Agrees {α : Type} (L : Likeness) (r₀ s₀ : Runner) (x : Tick α) : Prop :=
  ∀ r s, Alike L r₀ s₀ r s → (x.run r).1 = (x.run s).1 ∧ Alike L r₀ s₀ (x.run r).2 (x.run s).2

section

variable {L : Likeness} {r₀ s₀ r s : Runner} {α β : Type}

theorem Alike.notify (h : Alike L r₀ s₀ r s) {e e' : Event} (he : L.shown e = L.shown e') :
    Alike L r₀ s₀ (r.notify e) (s.notify e') := by
  obtain ⟨told, told', hr, hs, htold⟩ := h.events
  refine ⟨⟨h.labels, h.period, h.repository, h.roster⟩, h.world, h.records, told ++ [e],
    told' ++ [e'], ?_, ?_, ?_⟩
  · simp [Runner.notify, hr]
  · simp [Runner.notify, hs]
  · simp [htold, he]

theorem Alike.setWorld (h : Alike L r₀ s₀ r s) {w v : World} (hw : L.world w v) :
    Alike L r₀ s₀ { r with world := w } { s with world := v } :=
  ⟨⟨h.labels, h.period, h.repository, h.roster⟩, hw, h.records, h.events⟩

theorem Alike.setRecord (h : Alike L r₀ s₀ r s) {b b' : Bool} {us vs : Array Undo}
    (hu : L.records → b = b' ∧ us.toList.map L.seen = vs.toList.map L.seen) :
    Alike L r₀ s₀ { r with tracking := b, undo := us } { s with tracking := b', undo := vs } :=
  ⟨⟨h.labels, h.period, h.repository, h.roster⟩, h.world,
    fun hrec => ⟨(hu hrec).1, (h.records hrec).2.1, (hu hrec).2⟩, h.events⟩

theorem Alike.addUndo (h : Alike L r₀ s₀ r s) {us vs : List Undo}
    (hu : us.map L.seen = vs.map L.seen) :
    Alike L r₀ s₀ (Runner.addUndo us r) (Runner.addUndo vs s) := by
  by_cases hus : us = []
  · subst hus
    rw [List.map_nil, eq_comm, List.map_eq_nil_iff] at hu
    rwa [hu, addUndo_nil, addUndo_nil]
  · have hvs : vs ≠ [] := by
      rintro rfl
      exact hus (List.map_eq_nil_iff.mp hu)
    rw [addUndo_of_ne hus, addUndo_of_ne hvs]
    have hshown : L.shown (.changed us) = L.shown (.changed vs) := congrArg Event.changed hu
    refine (h.setRecord fun hrec => ?_).notify hshown
    obtain ⟨ht, hl, hundo⟩ := h.records hrec
    have hsize : r.undo.size = s.undo.size := by simpa using congrArg List.length hundo
    rw [ht, hl, hsize]
    refine ⟨rfl, ?_⟩
    split
    · simp [hundo, hu]
    · exact hundo

theorem Agrees.pure (a : α) : Agrees L r₀ s₀ (Pure.pure a : Tick α) := fun _ _ h => ⟨rfl, h⟩

theorem Agrees.bind {x : Tick α} {f : α → Tick β} (hx : Agrees L r₀ s₀ x)
    (hf : ∀ a, Agrees L r₀ s₀ (f a)) : Agrees L r₀ s₀ (x >>= f) := by
  intro r s h
  have hends := hx r s h
  rw [Change.run_bind, Change.run_bind]
  rcases hr : x.run r with ⟨o, r'⟩
  rcases hs : x.run s with ⟨o', s'⟩
  rw [hr, hs] at hends
  obtain ⟨rfl, h'⟩ := hends
  cases o with
  | error e => exact ⟨rfl, h'⟩
  | ok a => exact hf a r' s' h'

theorem Agrees.page {f : Page → Tick β} (hf : ∀ p, Agrees L r₀ s₀ (f p)) :
    Agrees L r₀ s₀ (MonadState.get >>= fun r => f r.world.page) := by
  intro r s h
  change ((f r.world.page).run r).1 = ((f s.world.page).run s).1 ∧
    Alike L r₀ s₀ ((f r.world.page).run r).2 ((f s.world.page).run s).2
  rw [← L.page_eq h.world]
  exact hf r.world.page r s h

theorem Agrees.recorded {x : Change (List Undo)} (hx : L.Respects x) :
    Agrees L r₀ s₀ (Runner.recorded x) := by
  intro r s h
  have hend := hx r.world s.world h.world
  rw [run_recorded, run_recorded]
  revert hend
  generalize x.run r.world = o, x.run s.world = o'
  intro hend
  cases hend with
  | ok hu hw => exact ⟨rfl, (h.setWorld hw).addUndo hu⟩
  | error e hw => exact ⟨rfl, h.setWorld hw⟩

end

section

variable {L : Likeness} {r₀ s₀ r s : Runner}

theorem agrees_visits (hL : L.Lawful) (r₀ s₀ : Runner) (c : Configuration)
    (commands : List Command) : VisitRule (fun _ x => Agrees L r₀ s₀ x) c commands where
  pure := Agrees.pure
  bind := Agrees.bind
  page := Agrees.page
  visit _ _ _ := .recorded (hL.commands _ _ _ _)

theorem agrees_tidy (hL : L.Lawful) (r₀ s₀ : Runner) (c : Configuration)
    (commands : List Command) : Agrees L r₀ s₀ (tidy c commands) := by
  intro r s h
  let rest (labels : Bool) : Tick Unit :=
    if labels then recorded (Labels.normalize { configuration := c, commands }) else Pure.pure ()
  have hrest : ∀ labels, Agrees L r₀ s₀ (rest labels) := by
    intro labels
    cases labels with
    | true => exact .recorded (hL.labels _)
    | false => exact .pure ()
  change ((rest r.labels).run r).1 = ((rest s.labels).run s).1 ∧
    Alike L r₀ s₀ ((rest r.labels).run r).2 ((rest s.labels).run s).2
  rw [h.labels]
  exact hrest s.labels r s h

theorem agrees_report (r₀ s₀ : Runner) (counts : Counts) :
    Agrees L r₀ s₀ (do let _ ← report counts) := by
  intro r s h
  refine ⟨rfl, h.notify ?_⟩
  have hinterval : r.interval = s.interval := by rw [interval, interval, h.period]
  simp only [Likeness.shown, hinterval]
  split
  · next hrec =>
    obtain ⟨-, -, hundo⟩ := h.records hrec
    have hsize : r.undo.size = s.undo.size := by simpa using congrArg List.length hundo
    rw [hsize]
  · rfl

theorem agrees_applyTick (hL : L.Lawful) (r₀ s₀ : Runner) (c : Configuration)
    (commands : List Command) : Agrees L r₀ s₀ (do let _ ← applyTick c commands) := by
  simp only [applyTick_eq, bind_assoc]
  refine .bind (agrees_tidy hL r₀ s₀ c commands) fun _ => ?_
  refine .bind (agrees_visits hL r₀ s₀ c commands).visitGroups fun counts => ?_
  exact .bind (.recorded (hL.commands _ _ _ _)) fun _ => agrees_report r₀ s₀ counts

theorem agrees_applyRules (hL : L.Lawful) (r₀ s₀ : Runner) (c : Configuration)
    (commands : List Command) : Agrees L r₀ s₀ (applyRules c commands) :=
  .bind (.recorded (hL.commands _ _ _ _)) fun _ => .recorded (hL.commands _ _ _ _)

theorem Alike.applyTick (h : Alike L r₀ s₀ r s) (hL : L.Lawful) (c : Configuration)
    (commands : List Command) :
    Alike L r₀ s₀ ((Runner.applyTick c commands).run r).2
      ((Runner.applyTick c commands).run s).2 := by
  have hlast : ∀ r, ((do let _ ← Runner.applyTick c commands : Tick Unit).run r).2 =
      ((Runner.applyTick c commands).run r).2 := by
    intro r
    rw [Change.run_bind]
    rcases (Runner.applyTick c commands).run r with ⟨e | stats, r'⟩ <;> rfl
  rw [← hlast, ← hlast]
  exact (agrees_applyTick hL r₀ s₀ c commands r s h).2

theorem agrees_work (hL : L.Lawful) (r₀ s₀ : Runner) (m : Managed) (job : Job) :
    Agrees L r₀ s₀ (work m job) := by
  cases job with
  | rules place => exact agrees_applyRules hL r₀ s₀ _ _
  | tick place => exact agrees_applyTick hL r₀ s₀ _ _

theorem Alike.begin (h : Alike L r₀ s₀ r s) (place : Nat) :
    Alike L r₀ s₀ (r.begin place) (s.begin place) := by
  refine ⟨⟨h.labels, h.period, h.repository, ?_⟩, h.world, h.records, h.events⟩
  rw [roster_begin, roster_begin, h.roster]

theorem Alike.runJob (h : Alike L r₀ s₀ r s) (hL : L.Lawful) (job : Job) :
    Alike L r₀ s₀ (Runner.runJob job r) (Runner.runJob job s) := by
  have hplace : (r.managed[job.place]?).map (fun m => (m.name, m.configuration, m.commands)) =
      (s.managed[job.place]?).map fun m => (m.name, m.configuration, m.commands) := by
    rw [← getElem?_roster, ← getElem?_roster, h.roster]
  cases hm : r.managed[job.place]? with
  | none =>
    have hm' : s.managed[job.place]? = none := by simpa [hm, eq_comm] using hplace
    rwa [runJob_of_none hm, runJob_of_none hm']
  | some m =>
    obtain ⟨m', hm', hname, hconfiguration, hcommands⟩ : ∃ m', s.managed[job.place]? = some m' ∧
        m.name = m'.name ∧ m.configuration = m'.configuration ∧ m.commands = m'.commands := by
      cases hm' : s.managed[job.place]? with
      | none => simp [hm, hm'] at hplace
      | some m' => simpa [hm, hm'] using hplace
    have hwork : work m job = work m' job := by
      cases job <;> simp only [work, hconfiguration, hcommands]
    rw [runJob_of_some hm, runJob_of_some hm', hwork, hname]
    have hends := agrees_work hL r₀ s₀ m' job _ _ (h.begin job.place)
    revert hends
    generalize (work m' job).run (r.begin job.place) = o,
      (work m' job).run (s.begin job.place) = o'
    obtain ⟨result, r'⟩ := o
    obtain ⟨result', s'⟩ := o'
    rintro ⟨hresult, hends⟩
    obtain rfl : result = result' := hresult
    cases result with
    | ok _ => exact hends
    | error e => exact hends.notify rfl

theorem Alike.runJobs (h : Alike L r₀ s₀ r s) (hL : L.Lawful) (jobs : List Job) :
    Alike L r₀ s₀ (r.runJobs jobs) (s.runJobs jobs) := by
  induction jobs generalizing r s with
  | nil => exact h
  | cons job jobs ih => exact ih (h.runJob hL job)

end

/-- Two runners that are alike and whose schedules are the same but for a shift of the clock. -/
structure Abreast (L : Likeness) (r₀ s₀ r s : Runner) : Prop extends Alike L r₀ s₀ r s where
  schedule : ∃ time ids, r.clock = s.clock.shift time ids ∧ r.jobs = s.jobs.map (· + ids)

theorem jobs_runJobs (r : Runner) (jobs : List Job) : (r.runJobs jobs).jobs = r.jobs := by
  induction jobs generalizing r with
  | nil => rfl
  | cons job jobs ih =>
    have hjob : (Runner.runJob job r).jobs = r.jobs := by
      rw [← runJob_schedule job r]
      rfl
    exact (ih _).trans hjob

theorem Alike.duePlaces_eq {L : Likeness} {r₀ s₀ r s : Runner} (h : Alike L r₀ s₀ r s) :
    r.duePlaces = s.duePlaces := by
  have hplaces : ∀ r : Runner, r.duePlaces = (List.range r.roster.length).filter fun place =>
      match r.roster[place]? with
      | some (_, c, _) => c.enabled && c.isEnabledFor r.repository r.world.page.location
      | none => false := by
    intro r
    have hsize : r.roster.length = r.managed.size := by simp [roster]
    rw [duePlaces, hsize]
    refine List.filter_congr fun place _ => ?_
    rw [getElem?_roster]
    cases r.managed[place]? <;> rfl
  rw [hplaces, hplaces, h.roster, h.repository, L.page_eq h.world]

namespace Abreast

variable {L : Likeness} {r₀ s₀ r s : Runner}

theorem onScheduleOf (h : Abreast L r₀ s₀ r s) {r' s' : Runner} (hends : Alike L r₀ s₀ r' s')
    (hr : r' = r'.onScheduleOf r) (hs : s' = s'.onScheduleOf s) : Abreast L r₀ s₀ r' s' := by
  refine ⟨hends, ?_⟩
  rw [hr, hs]
  exact h.schedule

theorem advanceBy (h : Abreast L r₀ s₀ r s) (hL : L.Lawful) (span : Nat) :
    Abreast L r₀ s₀ (r.advanceBy span).2 (s.advanceBy span).2 := by
  obtain ⟨time, ids, hclock, hjobs⟩ := h.schedule
  have hlimit : r.clock.now + span = s.clock.now + span + time := by
    rw [hclock]
    exact Nat.add_right_comm _ _ _
  have hrun := Clock.runTo_shift time ids s.clock (s.clock.now + span)
  rw [← hclock, ← hlimit] at hrun
  have hsame : (r.clock.runTo (r.clock.now + span)).1.map (·.job) =
      (s.clock.runTo (s.clock.now + span)).1.map (·.job) := by
    rw [hrun, List.map_map]
    rfl
  have hends := h.toAlike.runJobs hL ((s.clock.runTo (s.clock.now + span)).1.map (·.job))
  rw [advanceBy_eq, advanceBy_eq]
  dsimp only
  rw [hsame]
  refine ⟨⟨⟨hends.labels, hends.period, hends.repository, hends.roster⟩, hends.world,
    hends.records, hends.events⟩, time, ids, congrArg Prod.snd hrun, ?_⟩
  change (r.runJobs _).jobs = (s.runJobs _).jobs.map _
  rw [jobs_runJobs, jobs_runJobs, hjobs]

theorem scheduling (h : Abreast L r₀ s₀ r s) (place : Nat) :
    Abreast L r₀ s₀ (r.schedule place) (s.schedule place) := by
  obtain ⟨time, ids, hclock, hjobs⟩ := h.schedule
  refine ⟨⟨⟨h.labels, h.period, h.repository, ?_⟩, h.world, h.records, h.events⟩, time, ids,
    ?_, ?_⟩
  · rw [roster_schedule, roster_schedule, h.roster]
  · simp only [Runner.schedule, Clock.once, Clock.repeating, hclock, h.period, Clock.add_shift]
  · simp only [Runner.schedule, Clock.once, Clock.repeating, hclock, h.period, Clock.add_shift]
    simp [hjobs]

theorem start (h : Abreast L r₀ s₀ r s) : Abreast L r₀ s₀ r.start.2 s.start.2 := by
  have hall : ∀ (places : List Nat) (r s : Runner), Abreast L r₀ s₀ r s →
      Abreast L r₀ s₀ (places.foldl (fun r place => r.schedule place) r)
        (places.foldl (fun s place => s.schedule place) s) := by
    intro places
    induction places with
    | nil => exact fun _ _ h => h
    | cons place places ih => exact fun r s h => ih _ _ (h.scheduling place)
  have hrunning : r.isRunning = s.isRunning := by
    obtain ⟨_, _, -, hjobs⟩ := h.schedule
    rw [isRunning, isRunning, hjobs, List.isEmpty_map]
  rw [Runner.start, Runner.start, hrunning, h.toAlike.duePlaces_eq]
  split
  · exact h
  · exact hall s.duePlaces r s h

/-- Nothing but a stop looks at the numbers of the jobs and at what was kept. -/
theorem make (h : Abreast L r₀ s₀ r s) (hL : L.Lawful) {move : Move} (hm : move ≠ .stop) :
    Abreast L r₀ s₀ (move.make r) (move.make s) := by
  cases move with
  | start => exact h.start
  | stop => exact absurd rfl hm
  | advance span => exact h.advanceBy hL span
  | apply c commands =>
    have hx := (reports_applyTick c commands).schedule
    exact h.onScheduleOf (h.toAlike.applyTick hL c commands) (hx.run_self r) (hx.run_self s)
  | applyOnce c commands =>
    have hx := (works_applyRules c commands).schedule
    exact h.onScheduleOf (agrees_applyRules hL r₀ s₀ c commands r s h.toAlike).2
      (hx.run_self r) (hx.run_self s)
  | edit f =>
    refine ⟨h.setWorld ?_, h.schedule⟩
    rw [L.page_eq h.world]
    exact L.edit h.world _

theorem play (h : Abreast L r₀ s₀ r s) (hL : L.Lawful) {moves : List Move}
    (hm : .stop ∉ moves) : Abreast L r₀ s₀ (r.play moves) (s.play moves) := by
  induction moves generalizing r s with
  | nil => exact h
  | cons move moves ih =>
    rw [List.mem_cons, not_or] at hm
    exact ih (h.make hL (Ne.symm hm.1)) hm.2

end Abreast

end Runner
end PageOverlay
