import PageOverlay.Proofs.Run.TickVisits

/-!
# What jobs leave alone

The work of a job neither reads nor changes the clock, the jobs that are scheduled and the states
of the configurations, so nothing that it does or fails to do moves another job. A tick tells of
its changes, and last of all either that it was applied or that it failed.
-/

set_option autoImplicit false

namespace PageOverlay

def Event.isChange : Event → Bool
  | .changed _ => true
  | _ => false

def Event.isVerdict : Event → Bool
  | .changed _ => false
  | _ => true

def Job.place : Job → Nat
  | .rules place => place
  | .tick place => place

namespace Runner

def onScheduleOf (r s : Runner) : Runner :=
  { r with clock := s.clock, jobs := s.jobs, managed := s.managed }

def withClock (r : Runner) (clock : Clock Job) : Runner := { r with clock }

/-- The second runner comes from the first one by changes that were told of. -/
structure Tellings (r r' : Runner) : Prop where
  period : r'.period = r.period
  events : ∃ told : List Event, r'.events = r.events ++ told.toArray ∧ ∀ e ∈ told, e.isChange

theorem Tellings.refl (r : Runner) : Tellings r r := ⟨rfl, [], by simp, by simp⟩

theorem Tellings.trans {r r' r'' : Runner} (h : Tellings r r') (g : Tellings r' r'') :
    Tellings r r'' := by
  obtain ⟨hi, told, he, ht⟩ := h
  obtain ⟨gi, more, ge, gt⟩ := g
  refine ⟨gi.trans hi, told ++ more, by simp [ge, he], fun e hm => ?_⟩
  rcases List.mem_append.mp hm with hm | hm
  · exact ht e hm
  · exact gt e hm

theorem tellings_addUndo (us : List Undo) (r : Runner) : Tellings r (addUndo us r) := by
  by_cases hus : us = []
  · rw [hus, addUndo_nil]
    exact .refl r
  · rw [addUndo_of_ne hus]
    exact ⟨rfl, [.changed us], by simp [notify], by simp [Event.isChange]⟩

theorem addUndo_onScheduleOf (us : List Undo) (r s : Runner) :
    addUndo us (r.onScheduleOf s) = (addUndo us r).onScheduleOf s := by
  by_cases hus : us = []
  · rw [hus, addUndo_nil, addUndo_nil]
  · rw [addUndo_of_ne hus, addUndo_of_ne hus]
    rfl

/-- A computation that does the same on any schedule and keeps the schedule. -/
def KeepsSchedule {α : Type} (x : Tick α) : Prop :=
  ∀ r s, x.run (r.onScheduleOf s) = ((x.run r).1, (x.run r).2.onScheduleOf s)

/-- A computation that minds the page and the rule books only. -/
structure Works {α : Type} (x : Tick α) : Prop where
  schedule : KeepsSchedule x
  tellings : ∀ r, Tellings r (x.run r).2

/-- A computation that works and tells at its end what it visited, unless it fails. -/
structure Reports (x : Tick TickStats) : Prop where
  schedule : KeepsSchedule x
  tellings : ∀ r, ∃ r', Tellings r r' ∧
    (x.run r).2 = match (x.run r).1 with
      | .ok stats => r'.notify (.applied stats)
      | .error _ => r'

section

variable {α β : Type} {x : Tick α} {f : α → Tick β}

theorem KeepsSchedule.bind (hx : KeepsSchedule x) (hf : ∀ a, KeepsSchedule (f a)) :
    KeepsSchedule (x >>= f) := by
  intro r s
  rw [Change.run_bind, Change.run_bind, hx r s]
  rcases x.run r with ⟨e | a, r'⟩
  · rfl
  · exact hf a r' s

theorem KeepsSchedule.run_self (hx : KeepsSchedule x) (r : Runner) :
    (x.run r).2 = (x.run r).2.onScheduleOf r := congrArg Prod.snd (hx r r)

theorem KeepsSchedule.run_withClock (hx : KeepsSchedule x) (r : Runner) (clock : Clock Job) :
    x.run (r.withClock clock) = ((x.run r).1, (x.run r).2.withClock clock) := by
  calc x.run (r.withClock clock) = x.run (r.onScheduleOf (r.withClock clock)) := rfl
    _ = ((x.run r).1, (x.run r).2.onScheduleOf (r.withClock clock)) := hx r (r.withClock clock)
    _ = ((x.run r).1, (x.run r).2.withClock clock) := by rw [hx.run_self r]; rfl

theorem Works.pure (a : α) : Works (Pure.pure a) := ⟨fun _ _ => rfl, fun r => .refl r⟩

theorem Works.bind (hx : Works x) (hf : ∀ a, Works (f a)) : Works (x >>= f) where
  schedule := hx.schedule.bind fun a => (hf a).schedule
  tellings r := by
    have h := hx.tellings r
    rw [Change.run_bind]
    rcases hr : x.run r with ⟨e | a, r'⟩
    · rwa [hr] at h
    · rw [hr] at h
      exact h.trans ((hf a).tellings r')

theorem Works.get {f : Runner → Tick β} (hs : ∀ r s, f (r.onScheduleOf s) = f r)
    (hf : ∀ r, Works (f r)) : Works (MonadState.get >>= f) where
  schedule r s := by
    change (f (r.onScheduleOf s)).run (r.onScheduleOf s) = _
    rw [hs]
    exact (hf r).schedule r s
  tellings r := (hf r).tellings r

theorem Works.recorded (x : Change (List Undo)) : Works (Runner.recorded x) where
  schedule r s := by
    have hworld : (r.onScheduleOf s).world = r.world := rfl
    rw [run_recorded, run_recorded, hworld]
    rcases x.run r.world with ⟨e | us, w⟩
    · rfl
    · exact congrArg (Prod.mk (Except.ok ())) (addUndo_onScheduleOf us { r with world := w } s)
  tellings r := by
    rw [run_recorded]
    rcases x.run r.world with ⟨e | us, w⟩
    · exact ⟨rfl, [], by simp, by simp⟩
    · obtain ⟨hi, told, he, ht⟩ := tellings_addUndo us { r with world := w }
      exact ⟨hi, told, he, ht⟩

theorem Reports.bind {f : α → Tick TickStats} (hx : Works x) (hf : ∀ a, Reports (f a)) :
    Reports (x >>= f) where
  schedule := hx.schedule.bind fun a => (hf a).schedule
  tellings r := by
    have h := hx.tellings r
    rw [Change.run_bind]
    rcases hr : x.run r with ⟨e | a, r'⟩
    · rw [hr] at h
      exact ⟨r', h, rfl⟩
    · rw [hr] at h
      obtain ⟨r'', g, hrun⟩ := (hf a).tellings r'
      exact ⟨r'', h.trans g, hrun⟩

theorem Reports.get {f : Runner → Tick TickStats} (hs : ∀ r s, f (r.onScheduleOf s) = f r)
    (hf : ∀ r, Reports (f r)) : Reports (MonadState.get >>= f) where
  schedule r s := by
    change (f (r.onScheduleOf s)).run (r.onScheduleOf s) = _
    rw [hs]
    exact (hf r).schedule r s
  tellings r := (hf r).tellings r

end

theorem works_applyRules (c : Configuration) (commands : List Command) :
    Works (applyRules c commands) := .bind (.recorded _) fun _ => .recorded _

theorem works_visits (c : Configuration) (commands : List Command) :
    VisitRule (fun _ x => Works x) c commands where
  pure := Works.pure
  bind := Works.bind
  page hf := .get (fun _ _ => rfl) fun r => hf r.world.page
  visit _ _ _ := .recorded _

theorem works_tidy (c : Configuration) (commands : List Command) : Works (tidy c commands) := by
  refine .get (fun _ _ => rfl) fun r => ?_
  split
  · exact .recorded _
  · exact .pure ()

theorem reports_report (counts : Counts) : Reports (report counts) :=
  .get (fun _ _ => rfl) fun _ => ⟨fun _ _ => rfl, fun r => ⟨r, .refl r, rfl⟩⟩

theorem reports_applyTick (c : Configuration) (commands : List Command) :
    Reports (applyTick c commands) := by
  rw [applyTick_eq]
  refine .bind (works_tidy c commands) fun _ => ?_
  refine .bind (works_visits c commands).visitGroups fun counts => ?_
  exact .bind (.recorded _) fun _ => reports_report counts

def begin (place : Nat) (r : Runner) : Runner :=
  { r with managed := r.managed.modify place fun m => { m with state := .running } }

def conclude (name : String) : Except MutationError Unit × Runner → Runner
  | (.ok _, r) => r
  | (.error e, r) => r.notify (.failed name e.message)

def work (m : Managed) : Job → Tick Unit
  | .rules _ => applyRules m.configuration m.commands
  | .tick _ => do
    let _ ← applyTick m.configuration m.commands

theorem runJob_of_none {job : Job} {r : Runner} (h : r.managed[job.place]? = none) :
    runJob job r = r := by
  cases job <;> simp_all [runJob, Job.place]

theorem runJob_of_some {job : Job} {r : Runner} {m : Managed}
    (h : r.managed[job.place]? = some m) :
    runJob job r = conclude m.name ((work m job).run (r.begin job.place)) := by
  cases job <;> simp only [Job.place] at h <;> simp only [runJob, h, Job.place] <;> rfl

theorem keepsSchedule_work (m : Managed) (job : Job) : KeepsSchedule (work m job) := by
  cases job with
  | rules place => exact (works_applyRules _ _).schedule
  | tick place => exact (reports_applyTick _ _).schedule.bind fun _ _ _ => rfl

theorem begin_of_none {place : Nat} {r : Runner} (h : r.managed[place]? = none) :
    r.begin place = r := by
  have hsame : (r.managed.modify place fun m => { m with state := .running }) = r.managed := by
    refine Array.ext_getElem? fun i => ?_
    rw [Array.getElem?_modify]
    split
    · next hi => rw [← hi, h]; rfl
    · rfl
  rw [begin, hsame]

theorem conclude_schedule (name : String) (o : Except MutationError Unit × Runner) :
    (conclude name o).onScheduleOf o.2 = conclude name o := by
  rcases o with ⟨e | a, r⟩ <;> rfl

theorem runJob_schedule (job : Job) (r : Runner) :
    (runJob job r).onScheduleOf (r.begin job.place) = runJob job r := by
  cases h : r.managed[job.place]? with
  | none =>
    rw [runJob_of_none h, begin_of_none h]
    rfl
  | some m =>
    have hrun := (keepsSchedule_work m job).run_self (r.begin job.place)
    have hconclude := conclude_schedule m.name ((work m job).run (r.begin job.place))
    rw [runJob_of_some h, ← hconclude, hrun]
    rfl

theorem runJob_withClock (job : Job) (r : Runner) (clock : Clock Job) :
    runJob job (r.withClock clock) = (runJob job r).withClock clock := by
  cases h : r.managed[job.place]? with
  | none => rw [runJob_of_none h, runJob_of_none (r := r.withClock clock) h]
  | some m =>
    have hbegin : (r.withClock clock).begin job.place = (r.begin job.place).withClock clock := rfl
    rw [runJob_of_some h, runJob_of_some (r := r.withClock clock) h, hbegin,
      (keepsSchedule_work m job).run_withClock]
    rcases (work m job).run (r.begin job.place) with ⟨e | a, r'⟩ <;> rfl

theorem tellings_begin (place : Nat) (r : Runner) : Tellings r (r.begin place) :=
  ⟨rfl, [], by simp [begin], by simp⟩

theorem runJob_tick {place : Nat} {r : Runner} (h : place < r.managed.size) :
    ∃ r' e, Tellings r r' ∧ e.isVerdict ∧ runJob (.tick place) r = r'.notify e := by
  have hm : r.managed[(Job.tick place).place]? = some r.managed[place] :=
    Array.getElem?_eq_getElem h
  generalize r.managed[place] = m at hm
  obtain ⟨r', htold, hend⟩ :=
    (reports_applyTick m.configuration m.commands).tellings (r.begin place)
  have htold' := (tellings_begin place r).trans htold
  rw [runJob_of_some hm, work, Change.run_bind, Job.place]
  rcases hr : (applyTick m.configuration m.commands).run (r.begin place) with ⟨e | stats, r''⟩
  · rw [hr] at hend
    exact ⟨r', .failed m.name e.message, htold', rfl, congrArg (notify · _) hend⟩
  · rw [hr] at hend
    exact ⟨r', .applied stats, htold', rfl, hend⟩

theorem runJob_rules (place : Nat) (r : Runner) :
    ∃ r', Tellings r r' ∧
      (runJob (.rules place) r = r' ∨ ∃ e, runJob (.rules place) r = r'.notify e) := by
  cases hm : r.managed[(Job.rules place).place]? with
  | none => exact ⟨r, .refl r, .inl (runJob_of_none hm)⟩
  | some m =>
    have htold := (tellings_begin place r).trans
      ((works_applyRules m.configuration m.commands).tellings (r.begin place))
    refine ⟨_, htold, ?_⟩
    rw [runJob_of_some hm, work, Job.place]
    rcases (applyRules m.configuration m.commands).run (r.begin place) with ⟨e | a, r'⟩
    · exact .inr ⟨.failed m.name e.message, rfl⟩
    · exact .inl rfl

theorem period_runJob (job : Job) (r : Runner) : (runJob job r).period = r.period := by
  cases job with
  | rules place =>
    obtain ⟨r', h, hr | ⟨e, hr⟩⟩ := runJob_rules place r
    · rw [hr, h.period]
    · rw [hr, ← h.period]
      rfl
  | tick place =>
    by_cases hp : place < r.managed.size
    · obtain ⟨r', e, h, -, hr⟩ := runJob_tick hp
      rw [hr, ← h.period]
      rfl
    · have hnone : r.managed[(Job.tick place).place]? = none :=
        Array.getElem?_eq_none (Nat.le_of_not_lt hp)
      rw [runJob_of_none hnone]

end Runner
end PageOverlay
