import PageOverlay.Proofs.Run.Draining
import PageOverlay.Proofs.Run.JobSchedule
import PageOverlay.Proofs.Run.Moves

/-!
# The life of a run

What a runner notes of its configurations, the list of its jobs and the timers of its clock are
changed apart from each other, and agree whenever its owner looks at them: a configuration that is
scheduled waits for its rules and its ticks, one that runs for its ticks, and any other for nothing.
-/

set_option autoImplicit false

namespace PageOverlay

def RunState.isActive : RunState → Bool
  | .scheduled | .running => true
  | .idle | .stopped => false

def Clock.pendingAt (c : Clock Job) (place : Nat) : List (Timer Job) :=
  c.timers.filter (·.job.place == place)

/-- The timers that a configuration in a given state waits for. Its rules come once and its ticks
again and again, both for the first time at the same moment, and the numbers follow each other. -/
inductive Awaits (period place id : Nat) : RunState → List (Timer Job) → Prop
  | idle : Awaits period place id .idle []
  | stopped : Awaits period place id .stopped []
  | scheduled (due : Nat) : Awaits period place id .scheduled
      [{ id, due, every := none, job := .rules place },
        { id := id + 1, due, every := some period, job := .tick place }]
  | running (due : Nat) : Awaits period place id .running
      [{ id := id + 1, due, every := some period, job := .tick place }]

theorem Awaits.active {period place id : Nat} {s : RunState} {ts : List (Timer Job)}
    {t : Timer Job} (h : Awaits period place id s ts) (ht : t ∈ ts) : s.isActive := by
  cases h with
  | idle => cases ht
  | stopped => cases ht
  | scheduled due => rfl
  | running due => rfl

theorem Awaits.eq_nil {period place id : Nat} {s : RunState} {ts : List (Timer Job)}
    (h : Awaits period place id s ts) (hs : s.isActive = false) : ts = [] := by
  cases h with
  | idle => rfl
  | stopped => rfl
  | scheduled due => cases hs
  | running due => cases hs

theorem Awaits.nil {s : RunState} (hs : s.isActive = false) (period place id : Nat) :
    Awaits period place id s [] := by
  cases s with
  | idle => exact .idle
  | stopped => exact .stopped
  | scheduled => cases hs
  | running => cases hs

theorem Awaits.ticks {period place id : Nat} {ts : List (Timer Job)}
    (h : Awaits period place id .running ts) :
    ∃ due, ts = [{ id := id + 1, due, every := some period, job := .tick place }] := by
  cases h with
  | running due => exact ⟨due, rfl⟩

/-- The numbers of the timers are those of the place's two jobs. -/
theorem Awaits.id_mem {period place id : Nat} {s : RunState} {ts : List (Timer Job)}
    {t : Timer Job} (h : Awaits period place id s ts) (ht : t ∈ ts) : t.id ∈ [id, id + 1] := by
  cases h <;> grind

theorem Awaits.after {period place id : Nat} {s : RunState} {ts : List (Timer Job)}
    {t : Timer Job} (h : Awaits period place id s ts) (ht : t ∈ ts)
    (hmin : ∀ u ∈ ts, u.due ≤ t.due → ¬ u.isBefore t) :
    Awaits period place id .running
      (ts.filterMap fun u => if u.id = t.id then u.next? else some u) := by
  cases h with
  | idle => cases ht
  | stopped => cases ht
  | scheduled due =>
    simp only [List.mem_cons, List.not_mem_nil, or_false] at ht
    rcases ht with rfl | rfl
    · simpa [Timer.next?] using Awaits.running due
    · -- the rules come first, for their number is the smaller one
      have hrules := hmin _ List.mem_cons_self (Nat.le_refl _)
      exact absurd (by simp [Timer.isBefore_iff]) hrules
  | running due =>
    obtain rfl := List.mem_singleton.mp ht
    simpa [Timer.next?] using Awaits.running (due + period)

namespace Clock

variable {c d : Clock Job} {t u : Timer Job} {limit place : Nat}

theorem mem_pendingAt : t ∈ c.pendingAt place ↔ t ∈ c.timers ∧ t.job.place = place := by
  simp [pendingAt]

theorem pendingAt_after (c : Clock Job) (t : Timer Job) (place : Nat) :
    (c.after t).pendingAt place =
      (c.pendingAt place).filterMap fun u => if u.id = t.id then u.next? else some u := by
  have hplace : ∀ u v : Timer Job, (if u.id = t.id then u.next? else some u) = some v →
      v.job = u.job := by
    intro u v h
    split at h
    · exact Timer.job_next? h
    · cases h
      rfl
  rw [pendingAt, pendingAt, after, List.filter_filterMap, List.filterMap_filter]
  refine List.filterMap_congr fun u _ => ?_
  cases h : if u.id = t.id then u.next? else some u with
  | none => simp
  | some v => simp [hplace u v h, Option.filter]

theorem Sound.pendingAt_after_of_ne (h : c.Sound) (ht : t ∈ c.timers) (hp : t.job.place ≠ place) :
    (c.after t).pendingAt place = c.pendingAt place := by
  have hsame : ∀ u ∈ c.pendingAt place,
      (if u.id = t.id then u.next? else some u) = some u := by
    intro u hu
    obtain ⟨hu, hup⟩ := mem_pendingAt.mp hu
    refine if_neg fun hid => hp ?_
    rw [← hup, List.inj_on_of_nodup_map h.ids hu ht hid]
  rw [pendingAt_after, List.filterMap_congr hsame, List.filterMap_some]

end Clock

namespace Runner

def stateAt (r : Runner) (place : Nat) : RunState :=
  ((r.managed[place]?).map (·.state)).getD .idle

def activePlaces (r : Runner) : List Nat :=
  (List.range r.managed.size).filter fun place => (r.stateAt place).isActive

/-- The states, the jobs and the clock of a runner agree; `ids` are the numbers of the jobs that
were scheduled first for the places. -/
structure InStep (r : Runner) (ids : Nat → Nat) : Prop where
  clock : r.clock.Sound
  period : Clock.shortest ≤ r.period
  waits : ∀ place, Awaits r.period place (ids place) (r.stateAt place) (r.clock.pendingAt place)
  jobs : r.jobs.Perm (r.activePlaces.flatMap fun place => [ids place, ids place + 1])
  distinct : r.jobs.Nodup
  known : ∀ id ∈ r.jobs, id < r.clock.nextId

variable {r r' : Runner} {ids : Nat → Nat}

theorem InStep.congr (h : InStep r ids) (hclock : r'.clock = r.clock) (hjobs : r'.jobs = r.jobs)
    (hmanaged : r'.managed = r.managed) (hperiod : r'.period = r.period) :
    InStep r' ids := by
  have hstate : ∀ place, r'.stateAt place = r.stateAt place := by
    intro place
    rw [stateAt, stateAt, hmanaged]
  have hactive : r'.activePlaces = r.activePlaces := by
    simp only [activePlaces, hmanaged, hstate]
  constructor
  · rw [hclock]
    exact h.clock
  · rw [hperiod]
    exact h.period
  · intro place
    rw [hperiod, hstate, hclock]
    exact h.waits place
  · rw [hjobs, hactive]
    exact h.jobs
  · rw [hjobs]
    exact h.distinct
  · rw [hjobs, hclock]
    exact h.known

theorem lt_size_of_active {place : Nat} (h : (r.stateAt place).isActive) :
    place < r.managed.size := by
  rw [stateAt] at h
  by_contra hlt
  rw [Array.getElem?_eq_none (Nat.le_of_not_lt hlt)] at h
  cases h

theorem mem_activePlaces {place : Nat} :
    place ∈ r.activePlaces ↔ (r.stateAt place).isActive := by
  rw [activePlaces, List.mem_filter, List.mem_range]
  exact ⟨fun h => h.2, fun h => ⟨lt_size_of_active h, h⟩⟩

theorem not_mem_activePlaces {place : Nat} (hs : (r.stateAt place).isActive = false) :
    place ∉ r.activePlaces := by
  rw [mem_activePlaces, hs]
  exact Bool.false_ne_true

theorem InStep.active_of_pending (h : InStep r ids) {t : Timer Job} (ht : t ∈ r.clock.timers) :
    (r.stateAt t.job.place).isActive :=
  (h.waits t.job.place).active (Clock.mem_pendingAt.mpr ⟨ht, rfl⟩)

theorem stateAt_begin {place : Nat} (h : place < r.managed.size) (q : Nat) :
    (r.begin place).stateAt q = if q = place then .running else r.stateAt q := by
  rw [stateAt, begin, Array.getElem?_modify]
  by_cases hq : q = place
  · rw [if_pos hq, if_pos hq.symm, hq, Array.getElem?_eq_getElem h]
    rfl
  · rw [if_neg hq, if_neg (Ne.symm hq), stateAt]

theorem size_begin (place : Nat) (r : Runner) : (r.begin place).managed.size = r.managed.size := by
  simp [begin]

theorem InStep.runJob (h : InStep r ids) {limit : Nat} {t : Timer Job} {clock : Clock Job}
    (hp : r.clock.pop? limit = some (t, clock)) :
    InStep (Runner.runJob t.job (r.withClock clock)) ids := by
  obtain ⟨ht, hdue, hmin, rfl⟩ := Clock.pop?_spec hp
  have hplace := lt_size_of_active (h.active_of_pending ht)
  have hstate : ∀ q, (r.begin t.job.place).stateAt q =
      if q = t.job.place then .running else r.stateAt q := stateAt_begin hplace
  -- the timer goes off and the configuration runs; what the job does then moves none of the three
  have hbegun : InStep ((r.begin t.job.place).withClock (r.clock.after t)) ids := by
    have hactive : (r.begin t.job.place).activePlaces = r.activePlaces := by
      rw [activePlaces, activePlaces, size_begin]
      refine List.filter_congr fun q _ => ?_
      rw [hstate]
      split
      · next hq => rw [hq, h.active_of_pending ht]; rfl
      · rfl
    refine ⟨h.clock.after ht, h.period, fun q => ?_, ?_, h.distinct, h.known⟩
    · change Awaits r.period q (ids q) ((r.begin t.job.place).stateAt q)
        ((r.clock.after t).pendingAt q)
      rw [hstate]
      split
      · next hq =>
        subst hq
        rw [Clock.pendingAt_after]
        refine (h.waits _).after (Clock.mem_pendingAt.mpr ⟨ht, rfl⟩) fun u hu hle => ?_
        exact hmin u (Clock.mem_pendingAt.mp hu).1 (Nat.le_trans hle hdue)
      · next hq =>
        rw [h.clock.pendingAt_after_of_ne ht (Ne.symm hq)]
        exact h.waits q
    · change r.jobs.Perm ((r.begin t.job.place).activePlaces.flatMap _)
      rw [hactive]
      exact h.jobs
  have hrun := runJob_schedule t.job (r.withClock (r.clock.after t))
  rw [← hrun]
  exact hbegun.congr rfl rfl rfl (period_runJob _ _)

theorem InStep.runDue (h : InStep r ids) (limit n : Nat) :
    InStep (Runner.runDue limit n r).2 ids := by
  induction n generalizing r with
  | zero => exact h
  | succ n ih =>
    rw [Runner.runDue]
    split
    · exact h
    · next timer clock hp => exact ih (h.runJob hp)

theorem InStep.advanceTo (h : InStep r ids) (limit : Nat) :
    InStep (r.withClock (r.clock.advanceTo limit)) ids :=
  ⟨h.clock.advanceTo limit, h.period, h.waits, h.jobs, h.distinct, h.known⟩

theorem InStep.advanceBy (h : InStep r ids) (span : Nat) : InStep (r.advanceBy span).2 ids :=
  (h.runDue _ _).advanceTo _

theorem InStep.outside (h : InStep r ids) {α : Type} {x : Tick α} (hx : KeepsSchedule x)
    (hp : (x.run r).2.period = r.period) : InStep (x.run r).2 ids := by
  rw [hx.run_self r]
  exact h.congr rfl rfl rfl hp

theorem InStep.applyTick (h : InStep r ids) (c : Configuration) (commands : List Command) :
    InStep ((Runner.applyTick c commands).run r).2 ids := by
  have hx := reports_applyTick c commands
  refine h.outside hx.schedule ?_
  obtain ⟨r', htold, hend⟩ := hx.tellings r
  rw [hend]
  split
  · exact htold.period
  · exact htold.period

theorem InStep.applyRules (h : InStep r ids) (c : Configuration) (commands : List Command) :
    InStep ((Runner.applyRules c commands).run r).2 ids := by
  have hx := works_applyRules c commands
  exact h.outside hx.schedule (hx.tellings r).period

theorem InStep.inactive (h : InStep r ids) (hj : r.jobs = []) (place : Nat) :
    (r.stateAt place).isActive = false := by
  have hnone : r.activePlaces.flatMap (fun place => [ids place, ids place + 1]) = [] := by
    have := h.jobs
    rw [hj] at this
    exact this.nil_eq.symm
  by_contra hactive
  have hmem : ids place ∈ r.activePlaces.flatMap fun place => [ids place, ids place + 1] :=
    List.mem_flatMap.mpr ⟨place, mem_activePlaces.mpr (by simpa using hactive), by simp⟩
  rw [hnone] at hmem
  cases hmem

theorem InStep.no_timers (h : InStep r ids) (hj : r.jobs = []) : r.clock.timers = [] := by
  refine List.eq_nil_iff_forall_not_mem.mpr fun t ht => ?_
  have hactive := h.active_of_pending ht
  rw [h.inactive hj] at hactive
  cases hactive

theorem schedule_eq (h : Clock.shortest ≤ r.period) (place : Nat) :
    r.schedule place = { r with
      clock := { r.clock with
        nextId := r.clock.nextId + 2
        timers := r.clock.timers ++
          [{ id := r.clock.nextId, due := r.clock.now + r.period, job := .rules place },
            { id := r.clock.nextId + 1, due := r.clock.now + r.period, every := some r.period,
              job := .tick place }] }
      jobs := r.jobs ++ [r.clock.nextId, r.clock.nextId + 1]
      managed := r.managed.modify place fun m => { m with state := .scheduled } } := by
  have hmax : max r.period Clock.shortest = r.period := Nat.max_eq_left h
  simp [schedule, Clock.once, Clock.repeating, Clock.add, hmax]

theorem stateAt_schedule {place : Nat} (h : place < r.managed.size) (q : Nat) :
    (r.schedule place).stateAt q = if q = place then .scheduled else r.stateAt q := by
  have hmanaged : (r.schedule place).managed =
      r.managed.modify place fun m => { m with state := .scheduled } := rfl
  rw [stateAt, hmanaged, Array.getElem?_modify]
  by_cases hq : q = place
  · rw [if_pos hq, if_pos hq.symm, hq, Array.getElem?_eq_getElem h]
    rfl
  · rw [if_neg hq, if_neg (Ne.symm hq), stateAt]

theorem nodup_activePlaces (r : Runner) : r.activePlaces.Nodup :=
  List.nodup_range.filter _

theorem activePlaces_schedule {place : Nat} (hlt : place < r.managed.size)
    (hs : (r.stateAt place).isActive = false) :
    (r.schedule place).activePlaces.Perm (r.activePlaces ++ [place]) := by
  have hnew := not_mem_activePlaces hs
  have hnodup : (r.activePlaces ++ [place]).Nodup := by
    simpa [List.nodup_append, nodup_activePlaces] using fun q hq => ne_of_mem_of_not_mem hq hnew
  refine (List.perm_ext_iff_of_nodup (nodup_activePlaces _) hnodup).mpr fun q => ?_
  rw [mem_activePlaces, stateAt_schedule hlt, List.mem_append, List.mem_singleton,
    mem_activePlaces]
  by_cases hq : q = place
  · simp [hq, RunState.isActive]
  · simp [hq]

theorem pendingAt_schedule (h : Clock.shortest ≤ r.period) (place q : Nat) :
    (r.schedule place).clock.pendingAt q = r.clock.pendingAt q ++
      if q = place then
        [{ id := r.clock.nextId, due := r.clock.now + r.period, job := .rules place },
          { id := r.clock.nextId + 1, due := r.clock.now + r.period, every := some r.period,
            job := .tick place }]
      else [] := by
  rw [schedule_eq h, Clock.pendingAt, List.filter_append]
  by_cases hq : q = place
  · simp [hq, Clock.pendingAt, Job.place]
  · simp [hq, Ne.symm hq, Clock.pendingAt, Job.place]

theorem sound_schedule (h : r.clock.Sound) (place : Nat) :
    (r.schedule place).clock.Sound := by
  have hpause : 0 < max r.period Clock.shortest :=
    Nat.lt_of_lt_of_le (by decide) (Nat.le_max_right _ _)
  exact (h.add (by simp) _).add (by simpa using hpause) _

theorem jobs_update (ids : Nat → Nat) {place : Nat} {places : List Nat} (h : place ∉ places)
    (n : Nat) :
    (places.flatMap fun q =>
        [Function.update ids place n q, Function.update ids place n q + 1]) =
      places.flatMap fun q => [ids q, ids q + 1] := by
  refine List.flatMap_congr fun q hq => ?_
  rw [Function.update_of_ne (ne_of_mem_of_not_mem hq h)]

theorem InStep.schedule (h : InStep r ids) {place : Nat} (hlt : place < r.managed.size)
    (hs : (r.stateAt place).isActive = false) :
    InStep (r.schedule place) (Function.update ids place r.clock.nextId) := by
  have hjobs : (r.schedule place).jobs = r.jobs ++ [r.clock.nextId, r.clock.nextId + 1] := by
    rw [schedule_eq h.period]
  have hbelow : ∀ id ∈ r.jobs, id < r.clock.nextId := h.known
  constructor
  · exact sound_schedule h.clock place
  · exact h.period
  · intro q
    rw [stateAt_schedule hlt, pendingAt_schedule h.period]
    by_cases hq : q = place
    · subst hq
      rw [if_pos rfl, if_pos rfl, (h.waits q).eq_nil hs, Function.update_self]
      exact .scheduled _
    · rw [if_neg hq, if_neg hq, Function.update_of_ne hq, List.append_nil]
      exact h.waits q
  · rw [hjobs]
    refine (List.Perm.append_right _ h.jobs).trans ?_
    refine List.Perm.trans ?_ ((activePlaces_schedule hlt hs).symm.flatMap_right _)
    simp [jobs_update ids (not_mem_activePlaces hs)]
  · rw [hjobs, List.nodup_append]
    refine ⟨h.distinct, by simp, fun id hid id' hid' => ?_⟩
    have := hbelow id hid
    simp only [List.mem_cons, List.not_mem_nil, or_false] at hid'
    omega
  · intro id hid
    rw [hjobs, List.mem_append] at hid
    rw [schedule_eq h.period]
    rcases hid with hid | hid
    · exact Nat.lt_of_lt_of_le (hbelow id hid) (Nat.le_add_right _ _)
    · simp only [List.mem_cons, List.not_mem_nil, or_false] at hid
      dsimp only
      omega

theorem InStep.scheduleAll (h : InStep r ids) {places : List Nat} (hp : places.Nodup)
    (hs : ∀ place ∈ places, place < r.managed.size ∧ (r.stateAt place).isActive = false) :
    ∃ ids', InStep (places.foldl (fun r place => r.schedule place) r) ids' := by
  induction places generalizing r ids with
  | nil => exact ⟨ids, h⟩
  | cons place places ih =>
    obtain ⟨hnew, hp⟩ := List.nodup_cons.mp hp
    obtain ⟨hlt, hstate⟩ := hs place (by simp)
    refine ih (h.schedule hlt hstate) hp fun q hq => ?_
    obtain ⟨hqlt, hqs⟩ := hs q (by simp [hq])
    have hne : q ≠ place := ne_of_mem_of_not_mem hq hnew
    rw [stateAt_schedule hlt, if_neg hne]
    exact ⟨by simpa [Runner.schedule] using hqlt, hqs⟩

theorem InStep.start (h : InStep r ids) : ∃ ids', InStep r.start.2 ids' := by
  rw [Runner.start]
  by_cases hrun : r.isRunning
  · rw [if_pos hrun]
    exact ⟨ids, h⟩
  · rw [if_neg hrun]
    have hj : r.jobs = [] := by simpa [isRunning] using hrun
    refine h.scheduleAll (List.nodup_range.filter _) fun place hplace => ?_
    exact ⟨List.mem_range.mp (List.mem_filter.mp hplace).1, h.inactive hj place⟩

theorem timers_cancelled (ids : List Nat) (c : Clock Job) :
    (ids.foldl (fun c id => c.cancel id) c).timers = c.timers.filter fun t => t.id ∉ ids := by
  induction ids generalizing c with
  | nil => simp
  | cons id ids ih =>
    rw [List.foldl_cons, ih, Clock.cancel, List.filter_filter]
    refine List.filter_congr fun t _ => ?_
    simp [Bool.and_comm]

theorem InStep.timers_stop (h : InStep r ids) : r.stop.clock.timers = [] := by
  have hstop : r.stop.clock.timers = r.clock.timers.filter fun t => t.id ∉ r.jobs :=
    timers_cancelled r.jobs r.clock
  rw [hstop, List.filter_eq_nil_iff]
  intro t ht
  have hid := (h.waits t.job.place).id_mem (Clock.mem_pendingAt.mpr ⟨ht, rfl⟩)
  have hjob : t.id ∈ r.jobs := h.jobs.mem_iff.mpr (List.mem_flatMap.mpr
    ⟨t.job.place, mem_activePlaces.mpr (h.active_of_pending ht), hid⟩)
  simpa using hjob

theorem inStep_of_rest (hc : r.clock.timers = []) (hj : r.jobs = [])
    (hs : ∀ place, (r.stateAt place).isActive = false) (hp : Clock.shortest ≤ r.period) :
    InStep r ids where
  clock := ⟨by simp [hc], by simp [hc], by simp [hc]⟩
  period := hp
  waits place := by
    rw [Clock.pendingAt, hc]
    exact .nil (hs place) _ _ _
  jobs := by
    have hnone : r.activePlaces = [] := by simp [activePlaces, hs]
    rw [hj, hnone]
    exact .refl _
  distinct := by simp [hj]
  known := by simp [hj]

theorem InStep.stop (h : InStep r ids) : InStep r.stop ids := by
  refine inStep_of_rest h.timers_stop rfl (fun place => ?_) h.period
  have hmanaged : r.stop.managed =
      r.managed.map fun m => if m.isActive then { m with state := .stopped } else m := rfl
  rw [stateAt, hmanaged, Array.getElem?_map]
  cases r.managed[place]? with
  | none => rfl
  | some m =>
    rw [Option.map_some, Option.map_some, Option.getD_some, Managed.isActive]
    cases hm : m.state <;> simp [hm, RunState.isActive]

theorem inStep_create (page : Page) (configurations : List (String × Configuration))
    (options : RunOptions) (labels : Bool) (ids : Nat → Nat) :
    InStep (create page configurations options labels) ids := by
  refine inStep_of_rest rfl rfl (fun place => ?_) ?_
  · have hidle : (create page configurations options labels).stateAt place = .idle := by
      simp only [stateAt, create, List.getElem?_toArray, List.getElem?_map, Option.map_map]
      cases configurations[place]? <;> rfl
    rw [hidle]
    rfl
  · have hshort : shortestInterval ≤ (create page configurations options labels).period :=
      Nat.le_max_right _ _
    exact Nat.le_trans (by decide) hshort

theorem InStep.make (h : InStep r ids) (move : Move) : ∃ ids', InStep (move.make r) ids' := by
  cases move with
  | start => exact h.start
  | stop => exact ⟨ids, h.stop⟩
  | advance span => exact ⟨ids, h.advanceBy span⟩
  | apply c commands => exact ⟨ids, h.applyTick c commands⟩
  | applyOnce c commands => exact ⟨ids, h.applyRules c commands⟩
  | edit f => exact ⟨ids, h.congr rfl rfl rfl rfl⟩

theorem InStep.play (h : InStep r ids) (moves : List Move) :
    ∃ ids', InStep (r.play moves) ids' := by
  induction moves generalizing r ids with
  | nil => exact ⟨ids, h⟩
  | cons move moves ih =>
    obtain ⟨ids', h'⟩ := h.make move
    exact ih h'

theorem inStep_play (page : Page) (configurations : List (String × Configuration))
    (options : RunOptions) (labels : Bool) (moves : List Move) :
    ∃ ids, InStep ((create page configurations options labels).play moves) ids :=
  (inStep_create page configurations options labels fun _ => 0).play moves

theorem length_filter_range {α : Type} (p : α → Bool) (xs : List α) :
    ((List.range xs.length).filter fun i => (xs[i]?.map p).getD false).length =
      (xs.filter p).length := by
  induction xs with
  | nil => rfl
  | cons x xs ih =>
    rw [List.length_cons, List.range_succ_eq_map, List.filter_cons, List.filter_cons,
      List.filter_map, Function.comp_def]
    simp only [List.getElem?_cons_zero, List.getElem?_cons_succ, Option.map_some,
      Option.getD_some]
    split <;> simp [ih]

theorem length_activePlaces (r : Runner) : r.activePlaces.length = r.activeCount := by
  have hstate : ∀ i, (r.stateAt i).isActive =
      ((r.managed.toList[i]?).map Managed.isActive).getD false := by
    intro i
    rw [stateAt, Array.getElem?_toList]
    cases r.managed[i]? with
    | none => rfl
    | some m =>
      rw [Option.map_some, Option.map_some, Option.getD_some, Option.getD_some, Managed.isActive]
      cases m.state <;> rfl
  simp only [activePlaces, hstate, activeCount]
  exact length_filter_range Managed.isActive r.managed.toList

theorem InStep.length_jobs (h : InStep r ids) : r.jobs.length = 2 * r.activeCount := by
  rw [h.jobs.length_eq, List.length_flatMap, ← length_activePlaces]
  simp [Nat.mul_comm]

theorem InStep.isRunning_iff (h : InStep r ids) : r.isRunning ↔ 0 < r.activeCount := by
  have := h.length_jobs
  rw [isRunning, Bool.not_eq_true', List.isEmpty_eq_false_iff, ← List.length_pos_iff]
  omega

theorem advanceBy_of_no_timers (h : r.clock.timers = []) (span : Nat) :
    r.advanceBy span = (0, r.withClock (r.clock.advanceTo (r.clock.now + span))) := by
  have hcount : r.clock.dueCount (r.clock.now + span) = 0 := by simp [Clock.dueCount, h]
  rw [Runner.advanceBy, hcount]
  rfl

theorem timers_play {moves : List Move} (hm : .start ∉ moves) (h : r.clock.timers = []) :
    (r.play moves).clock.timers = [] := by
  induction moves generalizing r with
  | nil => exact h
  | cons move moves ih =>
    rw [List.mem_cons, not_or] at hm
    obtain ⟨hne, hm⟩ := hm
    refine ih hm ?_
    cases move with
    | start => exact absurd rfl hne
    | stop =>
      have hstop : r.stop.clock.timers = r.clock.timers.filter fun t => t.id ∉ r.jobs :=
        timers_cancelled r.jobs r.clock
      rw [Move.make, hstop, h, List.filter_nil]
    | advance span =>
      rw [Move.make, advanceBy_of_no_timers h]
      exact h
    | apply c commands =>
      rw [Move.make, (reports_applyTick c commands).schedule.run_self r]
      exact h
    | applyOnce c commands =>
      rw [Move.make, (works_applyRules c commands).schedule.run_self r]
      exact h
    | edit f => exact h

/-- Whatever was done with a runner, its states, its jobs and its clock agree: each configuration
waits for what its state says, with two jobs for every one that is active; starting a runner that
runs changes nothing; stopping leaves no timer, and nothing falls due until the next start. -/
theorem lifecycle (page : Page) (configurations : List (String × Configuration))
    (options : RunOptions) (labels : Bool) (moves : List Move) :
    let r := (create page configurations options labels).play moves
    (∃ ids : Nat → Nat,
      (∀ place,
        Awaits r.period place (ids place) (r.stateAt place) (r.clock.pendingAt place)) ∧
      r.jobs.Perm (r.activePlaces.flatMap fun place => [ids place, ids place + 1])) ∧
    r.jobs.Nodup ∧
    r.jobs.length = 2 * r.activeCount ∧
    (r.isRunning ↔ 0 < r.activeCount) ∧
    (r.isRunning → r.start = (r.activeCount, r)) ∧
    r.stop.clock.timers = [] ∧
    ∀ later : List Move, .start ∉ later →
      ∀ span, ((r.stop.play later).advanceBy span).1 = 0 := by
  intro r
  obtain ⟨ids, h⟩ := inStep_play page configurations options labels moves
  refine ⟨⟨ids, h.waits, h.jobs⟩, h.distinct, h.length_jobs, h.isRunning_iff, fun hrun => ?_,
    h.timers_stop, fun later hlater span => ?_⟩
  · rw [Runner.start, if_pos hrun]
  · rw [advanceBy_of_no_timers (timers_play hlater h.timers_stop)]

def halfInForce : List (String × Configuration) :=
  [("here", .ofText "@include = x\na = b"), ("elsewhere", .ofText "@include = y\na = c")]

def disturbed : List Move :=
  [.advance (milliseconds 100), .edit fun _ => .blank "z", .apply (.ofText "") [],
    .advance (milliseconds 100)]

theorem lifecycle_disturbed :
    let r := (create (.blank "x") halfInForce {} true).play (.start :: disturbed)
    r.isRunning ∧ r.start = (1, r) ∧
      (∃ id due, r.clock.pendingAt 0 =
        [{ id, due, every := some (milliseconds 100), job := .tick 0 }]) ∧
      r.clock.pendingAt 1 = [] ∧ .start ∉ disturbed ∧
      ((r.stop.play disturbed).advanceBy (milliseconds 1000)).1 = 0 := by
  intro r
  obtain ⟨⟨ids, hwaits, -⟩, -, -, hactive, hstart, -, hlater⟩ :=
    lifecycle (.blank "x") halfInForce {} true (.start :: disturbed)
  obtain ⟨hcount, hfirst, hsecond, hperiod⟩ : r.activeCount = 1 ∧ r.stateAt 0 = .running ∧
      r.stateAt 1 = .idle ∧ r.period = milliseconds 100 := by decide +kernel
  have hrun : r.isRunning := hactive.mpr (by rw [hcount]; decide)
  have hrest : Move.start ∉ disturbed := by simp [disturbed]
  refine ⟨hrun, by rw [← hcount]; exact hstart hrun, ?_, ?_, hrest, hlater _ hrest _⟩
  · have h := hwaits 0
    rw [hfirst] at h
    obtain ⟨due, hdue⟩ := h.ticks
    exact ⟨ids 0 + 1, due, by rw [hdue, hperiod]⟩
  · have h := hwaits 1
    rw [hsecond] at h
    exact h.eq_nil rfl

end Runner
end PageOverlay
