import Mathlib.Algebra.Order.Ring.Nat
import PageOverlay.Proofs.Run.Lifecycle

/-!
# The timetable of a run

After a start the jobs depend on the time that passes and on nothing else: not on how it is cut
into spans, and not on what the jobs do or whether they fail. Each configuration that was started
has its turn once in every period, in the order of their places, and before its first tick it has
its rules applied.
-/

set_option autoImplicit false

namespace PageOverlay

def turn (round place : Nat) : List Job :=
  if round = 0 then [.rules place, .tick place] else [.tick place]

/-- The jobs that fall due within a time after a start, and when they do. -/
def timetable (start period total : Nat) (places : List Nat) : List (Nat × Job) :=
  (List.range (total / period)).flatMap fun round =>
    (places.flatMap (turn round)).map fun job => (start + (round + 1) * period, job)

theorem length_flatMap_turn (round : Nat) (places : List Nat) :
    (places.flatMap (turn round)).length =
      if round = 0 then 2 * places.length else places.length := by
  cases round with
  | zero => simp [turn, List.length_flatMap, Nat.mul_comm]
  | succ round => simp [turn, List.length_flatMap]

theorem timetable_of_lt {start period total : Nat} (h : total < period) (places : List Nat) :
    timetable start period total places = [] := by
  rw [timetable, Nat.div_eq_of_lt h]
  rfl

theorem timetable_of_le {start period total : Nat} (hp : 0 < period) (h : period ≤ total)
    (places : List Nat) :
    timetable start period total places =
      (places.flatMap (turn 0)).map (fun job => (start + period, job)) ++
        (List.range ((total - period) / period)).flatMap fun round =>
          (places.flatMap (turn 1)).map fun job =>
            (start + period + (round + 1) * period, job) := by
  have hshift : ∀ round, start + period + (round + 1) * period =
      start + (round + 1 + 1) * period := by
    intro round
    rw [Nat.add_mul (round + 1) 1]
    omega
  rw [timetable, Clock.flatMap_rounds _ hp h]
  simp only [hshift, Nat.zero_add, Nat.one_mul]
  rfl

/-- Every configuration has one turn in each period, and its rules besides. -/
theorem length_timetable (start total : Nat) (places : List Nat) {period : Nat}
    (hp : 0 < period) :
    (timetable start period total places).length =
      places.length * (total / period) + if period ≤ total then places.length else 0 := by
  by_cases h : period ≤ total
  · have hfirst := length_flatMap_turn 0 places
    have hlater := length_flatMap_turn 1 places
    rw [if_pos rfl] at hfirst
    rw [if_neg (by decide)] at hlater
    rw [timetable_of_le hp h, if_pos h, Nat.div_eq_sub_div hp h, List.length_append,
      List.length_map, hfirst, List.length_flatMap, Nat.mul_add]
    simp only [List.length_map, hlater, List.map_const', List.length_range,
      List.sum_replicate_nat]
    rw [Nat.mul_comm ((total - period) / period)]
    omega
  · rw [timetable_of_lt (Nat.lt_of_not_le h), if_neg h, Nat.div_eq_of_lt (Nat.lt_of_not_le h)]
    rfl

def opening (due period : Nat) : Nat → List Nat → List (Timer Job)
  | _, [] => []
  | id, place :: places =>
    { id, due, every := none, job := .rules place } ::
      { id := id + 1, due, every := some period, job := .tick place } ::
        opening due period (id + 2) places

section

variable {due period id : Nat} {places : List Nat} {t : Timer Job}

theorem due_of_mem_opening (h : t ∈ opening due period id places) : t.due = due := by
  induction places generalizing id with
  | nil => cases h
  | cons place places ih =>
    simp only [opening, List.mem_cons] at h
    rcases h with rfl | rfl | h
    · rfl
    · rfl
    · exact ih h

theorem le_of_mem_opening (h : t ∈ opening due period id places) : id ≤ t.id := by
  induction places generalizing id with
  | nil => cases h
  | cons place places ih =>
    simp only [opening, List.mem_cons] at h
    rcases h with rfl | rfl | h
    · exact Nat.le_refl _
    · exact Nat.le_succ _
    · exact Nat.le_trans (Nat.le_add_right _ _) (ih h)

theorem opening_pairwise (due period id : Nat) (places : List Nat) :
    (opening due period id places).Pairwise fun t u => t.id < u.id := by
  induction places generalizing id with
  | nil => exact .nil
  | cons place places ih =>
    have hlater : ∀ u ∈ opening due period (id + 2) places, id + 2 ≤ u.id :=
      fun u hu => le_of_mem_opening hu
    simp only [opening, List.pairwise_cons, List.mem_cons]
    refine ⟨?_, fun u hu => ?_, ih _⟩
    · rintro u (rfl | hu)
      · exact Nat.lt_succ_self _
      · have := hlater u hu
        omega
    · exact Nat.lt_of_lt_of_le (Nat.lt_succ_self _) (hlater u hu)

theorem jobs_opening (due period id : Nat) (places : List Nat) :
    (opening due period id places).map (·.job) = places.flatMap (turn 0) := by
  induction places generalizing id with
  | nil => rfl
  | cons place places ih => simp [opening, ih, turn]

theorem next_opening (due period id : Nat) (places : List Nat) :
    let later := (opening due period id places).filterMap Timer.next?
    (∀ t ∈ later, t.due = due + period ∧ t.every = some period) ∧
      later.map (·.job) = places.flatMap (turn 1) := by
  induction places generalizing id with
  | nil => exact ⟨by simp [opening], rfl⟩
  | cons place places ih =>
    obtain ⟨hdue, hjobs⟩ := ih (id + 2)
    simp only [opening, List.filterMap_cons, Timer.next?, Option.map_none, Option.map_some] at *
    constructor
    · intro t ht
      rcases List.mem_cons.mp ht with rfl | ht
      · exact ⟨rfl, rfl⟩
      · exact hdue t ht
    · rw [List.map_cons, hjobs]
      rfl

end

theorem Clock.Sound.drain_opening {c : Clock Job} (h : c.Sound) {period id : Nat}
    {places : List Nat} (hts : c.timers = opening (c.now + period) period id places)
    (hp : 0 < period) (total : Nat) :
    (c.drain (c.now + total)).1.map (fun t => (t.due, t.job)) =
      timetable c.now period total places := by
  by_cases hlt : total < period
  · have hdue : ∀ t ∈ c.timers, t.due = c.now + period := fun t ht =>
      due_of_mem_opening (hts ▸ ht)
    rw [drain_before hdue (by omega), timetable_of_lt hlt]
    rfl
  · -- the first round has the rules and gets rid of them, and the later rounds are all alike
    have hle : period ≤ total := Nat.le_of_not_lt hlt
    have hids := opening_pairwise (c.now + period) period id places
    have hdue : ∀ t ∈ opening (c.now + period) period id places, t.due = c.now + period :=
      fun t ht => due_of_mem_opening ht
    obtain ⟨hlater, hjobs⟩ := next_opening (c.now + period) period id places
    have hfirst := jobs_opening (c.now + period) period id places
    cases hopen : opening (c.now + period) period id places with
    | nil =>
      -- nobody was started
      rw [hopen] at hts hfirst hjobs
      have hturns : places.flatMap (turn 0) = [] ∧ places.flatMap (turn 1) = [] :=
        ⟨hfirst.symm, hjobs.symm⟩
      rw [drain_of_none (pop?_eq_none.mpr (by simp [hts])), timetable_of_le hp hle, hturns.1,
        hturns.2]
      simp
    | cons t todo =>
      rw [hopen] at hids hdue hlater hjobs hfirst hts
      obtain ⟨hsound, hdrain⟩ := h.drain_round (by rw [hts]; rfl : c.timers = [] ++ t :: todo)
        hdue hids (by simp) (Nat.le_add_right _ _) (Nat.add_le_add_left hle c.now)
      rw [List.nil_append] at hsound hdrain
      have hrounds := hsound.drain_rounds hlater (next_pairwise hids) (Nat.le_add_right _ _)
        (total - period)
      have hlimit : c.now + period + (total - period) = c.now + total := by omega
      have hmap : ∀ (time : Nat) (ts : List (Timer Job)),
          ts.map (fun u => (time, u.job)) = (ts.map (·.job)).map fun job => (time, job) := by
        intro time ts
        simp
      have hstart : (t :: todo).map (fun u => (u.due, u.job)) =
          (t :: todo).map fun u => (c.now + period, u.job) :=
        List.map_congr_left fun u hu => by rw [hdue u hu]
      rw [hlimit] at hrounds
      simp only [hmap, hjobs] at hrounds
      rw [timetable_of_le hp hle, hdrain, List.map_append, hrounds, hstart, hmap, hfirst]

namespace Runner

/-- Advances by several spans, one after the other, and gives the counts of jobs that were run. -/
def advanceEach (r : Runner) : List Nat → List Nat × Runner
  | [] => ([], r)
  | span :: spans =>
    let (count, r) := r.advanceBy span
    let (counts, r) := r.advanceEach spans
    (count :: counts, r)

def jobsDue (limit : Nat) : Nat → Runner → List (Nat × Job)
  | 0, _ => []
  | n + 1, r =>
    match r.clock.pop? limit with
    | none => []
    | some (timer, clock) =>
      (clock.now, timer.job) :: jobsDue limit n (runJob timer.job (r.withClock clock))

def jobsRun (r : Runner) : List Nat → List (Nat × Job)
  | [] => []
  | span :: spans =>
    let limit := r.clock.now + span
    jobsDue limit (r.clock.dueCount limit) r ++ (r.advanceBy span).2.jobsRun spans

def runJobs (r : Runner) (jobs : List Job) : Runner := jobs.foldl (fun r job => runJob job r) r

theorem runJobs_withClock (r : Runner) (clock : Clock Job) (jobs : List Job) :
    (r.withClock clock).runJobs jobs = (r.runJobs jobs).withClock clock := by
  induction jobs generalizing r with
  | nil => rfl
  | cons job jobs ih =>
    rw [runJobs, List.foldl_cons, runJob_withClock]
    exact ih _

theorem runJobs_append (r : Runner) (jobs jobs' : List Job) :
    r.runJobs (jobs ++ jobs') = (r.runJobs jobs).runJobs jobs' := List.foldl_append

theorem clock_runJob (job : Job) (r : Runner) : (runJob job r).clock = r.clock := by
  rw [← runJob_schedule job r]
  rfl

/-- The jobs that are run are those that are drained from the clock, whatever they do. -/
theorem runDue_eq (limit n : Nat) (r : Runner) :
    runDue limit n r =
      ((r.clock.popUpTo limit n).1.length,
        (r.runJobs ((r.clock.popUpTo limit n).1.map (·.job))).withClock
          (r.clock.popUpTo limit n).2) := by
  induction n generalizing r with
  | zero => rfl
  | succ n ih =>
    rw [runDue, Clock.popUpTo]
    cases r.clock.pop? limit with
    | none => rfl
    | some p =>
      obtain ⟨timer, clock⟩ := p
      have hrun : runJob timer.job { r with clock } = (runJob timer.job r).withClock clock :=
        runJob_withClock timer.job r clock
      have hclock : ((runJob timer.job r).withClock clock).clock = clock := rfl
      simp only [hrun, ih, hclock, runJobs_withClock]
      rfl

end Runner

namespace Clock

variable {c d : Clock Job} {t : Timer Job} {limit : Nat}

/-- No timer is late. -/
def IsPunctual (c : Clock Job) : Prop := ∀ t ∈ c.timers, c.now ≤ t.due

/-- Every timer is still to come. -/
def IsAhead (c : Clock Job) : Prop := ∀ t ∈ c.timers, c.now < t.due

theorem IsPunctual.pop? (hp : c.IsPunctual) (h : c.Sound) (hpop : c.pop? limit = some (t, d)) :
    d.now = t.due ∧ d.IsPunctual := by
  obtain ⟨ht, hdue, hmin, rfl⟩ := pop?_spec hpop
  have hnow : (c.after t).now = t.due := Nat.max_eq_right (hp t ht)
  refine ⟨hnow, fun u hu => ?_⟩
  rw [hnow]
  rcases (mem_after h ht).mp hu with ⟨hu, -⟩ | hu
  · by_cases hle : u.due ≤ limit
    · have := hmin u hu hle
      rw [Timer.not_isBefore_iff] at this
      omega
    · omega
  · obtain ⟨e, -, rfl⟩ := Option.map_eq_some_iff.mp hu
    exact Nat.le_add_right _ _

theorem Sound.isAhead_runTo (h : c.Sound) (hle : c.now ≤ limit) : (c.runTo limit).2.IsAhead := by
  intro t ht
  rw [h.now_runTo hle]
  exact pop?_eq_none.mp (h.pop?_drain limit) t ht

theorem IsAhead.runTo_now (h : c.IsAhead) : c.runTo c.now = ([], c) := by
  rw [runTo, drain_of_none (pop?_eq_none.mpr h), advanceTo, Nat.max_self]

end Clock

namespace Runner

theorem jobsDue_eq (limit n : Nat) (r : Runner) (h : r.clock.Sound) (hp : r.clock.IsPunctual) :
    jobsDue limit n r = (r.clock.popUpTo limit n).1.map fun t => (t.due, t.job) := by
  induction n generalizing r with
  | zero => rfl
  | succ n ih =>
    rw [jobsDue, Clock.popUpTo]
    cases hpop : r.clock.pop? limit with
    | none => rfl
    | some p =>
      obtain ⟨timer, clock⟩ := p
      obtain ⟨hnow, hlater⟩ := hp.pop? h hpop
      have hclock : (runJob timer.job (r.withClock clock)).clock = clock := clock_runJob _ _
      have hrest := ih (runJob timer.job (r.withClock clock))
        (by rw [hclock]; exact h.of_pop? hpop) (by rwa [hclock])
      rw [hclock] at hrest
      simp only [hrest, hnow]
      rfl

theorem advanceBy_eq (span : Nat) (r : Runner) :
    r.advanceBy span =
      let run := r.clock.runTo (r.clock.now + span)
      (run.1.length, (r.runJobs (run.1.map (·.job))).withClock run.2) := by
  rw [advanceBy]
  simp only [runDue_eq]
  rfl

/-- However time is cut into spans, the same jobs are run at the same times. -/
theorem advanceEach_eq (r : Runner) (h : r.clock.Sound) (ha : r.clock.IsAhead)
    (spans : List Nat) :
    let run := r.clock.runTo (r.clock.now + spans.sum)
    (r.advanceEach spans).1.sum = run.1.length ∧
      (r.advanceEach spans).2 = (r.runJobs (run.1.map (·.job))).withClock run.2 ∧
      r.jobsRun spans = run.1.map fun t => (t.due, t.job) := by
  induction spans generalizing r with
  | nil =>
    simp only [List.sum_nil, Nat.add_zero, ha.runTo_now]
    exact ⟨rfl, rfl, rfl⟩
  | cons span spans ih =>
    have hle : r.clock.now ≤ r.clock.now + span := Nat.le_add_right _ _
    have hnow := h.now_runTo hle
    have hsplit := h.runTo_runTo
      (Nat.add_le_add_left (Nat.le_add_right span spans.sum) r.clock.now)
    have hpunctual : r.clock.IsPunctual := fun t ht => Nat.le_of_lt (ha t ht)
    have hfirst := advanceBy_eq span r
    have hdue := jobsDue_eq (r.clock.now + span) (r.clock.dueCount (r.clock.now + span)) r h
      hpunctual
    let first := r.clock.runTo (r.clock.now + span)
    let r' := (r.runJobs (first.1.map (·.job))).withClock first.2
    obtain ⟨hcount, hlast, hjobs⟩ := ih r' (h.runTo _) (h.isAhead_runTo hle)
    have hnow' : r'.clock.now + spans.sum = r.clock.now + (span + spans.sum) := by
      rw [← Nat.add_assoc, ← hnow]
      rfl
    rw [hnow'] at hcount hlast hjobs
    have hadvance : r.advanceBy span = (first.1.length, r') := hfirst
    simp only [List.sum_cons, hsplit, advanceEach, jobsRun, hadvance]
    refine ⟨?_, ?_, ?_⟩
    · rw [hcount, List.length_append]
      rfl
    · rw [hlast, runJobs_withClock, List.map_append, runJobs_append]
      rfl
    · rw [hjobs, hdue, List.map_append]
      rfl

theorem clock_scheduleAll {r : Runner} (h : Clock.shortest ≤ r.period) (places : List Nat) :
    ((places.foldl (fun r place => r.schedule place) r).clock.now = r.clock.now) ∧
      (places.foldl (fun r place => r.schedule place) r).clock.timers = r.clock.timers ++
        opening (r.clock.now + r.period) r.period r.clock.nextId places := by
  induction places generalizing r with
  | nil => simp [opening]
  | cons place places ih =>
    obtain ⟨hnow, htimers⟩ := ih (r := r.schedule place) h
    rw [List.foldl_cons, hnow, htimers]
    have hperiod : (r.schedule place).period = r.period := rfl
    rw [hperiod, schedule_eq h]
    exact ⟨rfl, by simp [opening]⟩

theorem size_scheduleAll (r : Runner) (places : List Nat) :
    (places.foldl (fun r place => r.schedule place) r).managed.size = r.managed.size := by
  induction places generalizing r with
  | nil => rfl
  | cons place places ih =>
    rw [List.foldl_cons, ih]
    exact Array.size_modify

def EndsInVerdict (r r' : Runner) : Prop :=
  ∃ (told : List Event) (verdict : Event),
    r'.events = r.events ++ told.toArray ++ #[verdict] ∧ (∀ e ∈ told, e.isChange) ∧
      verdict.isVerdict

theorem endsInVerdict_tick {r : Runner} {place : Nat} (h : place < r.managed.size) :
    EndsInVerdict r (runJob (.tick place) r) := by
  obtain ⟨r', verdict, ⟨-, told, he, htold⟩, hv, hrun⟩ := runJob_tick h
  exact ⟨told, verdict, by rw [hrun, notify, he]; simp, htold, hv⟩

theorem size_runJob (job : Job) (r : Runner) : (runJob job r).managed.size = r.managed.size := by
  rw [← runJob_schedule job r]
  exact size_begin job.place r

theorem size_runJobs (r : Runner) (jobs : List Job) :
    (r.runJobs jobs).managed.size = r.managed.size := by
  induction jobs generalizing r with
  | nil => rfl
  | cons job jobs ih => exact (ih (runJob job r)).trans (size_runJob job r)

theorem place_of_mem_turn {round place : Nat} {job : Job} (h : job ∈ turn round place) :
    job.place = place := by
  cases round with
  | zero =>
    simp only [turn, if_pos, List.mem_cons, List.not_mem_nil, or_false] at h
    rcases h with rfl | rfl <;> rfl
  | succ round =>
    rw [List.mem_singleton.mp h]
    rfl

theorem place_of_mem_timetable {start period total : Nat} {places : List Nat}
    {entry : Nat × Job} (h : entry ∈ timetable start period total places) :
    entry.2.place ∈ places := by
  obtain ⟨round, -, hround⟩ := List.mem_flatMap.mp h
  obtain ⟨job, hjob, rfl⟩ := List.mem_map.mp hround
  obtain ⟨place, hplace, hturn⟩ := List.mem_flatMap.mp hjob
  rwa [place_of_mem_turn hturn]

variable {r : Runner} {ids : Nat → Nat}

theorem start_of_rest (hj : r.jobs = []) :
    r.start = (r.duePlaces.length, r.duePlaces.foldl (fun r place => r.schedule place) r) := by
  have hrest : ¬ r.isRunning := by simp [isRunning, hj]
  rw [start, if_neg hrest]

theorem InStep.opening_start (h : InStep r ids) (hj : r.jobs = []) :
    r.start.2.clock.now = r.clock.now ∧ r.start.2.clock.timers =
      opening (r.clock.now + r.period) r.period r.clock.nextId r.duePlaces := by
  obtain ⟨hnow, htimers⟩ := clock_scheduleAll h.period r.duePlaces
  rw [start_of_rest hj, hnow, htimers, h.no_timers hj]
  exact ⟨rfl, rfl⟩

theorem InStep.isAhead_start (h : InStep r ids) (hj : r.jobs = []) : r.start.2.clock.IsAhead := by
  have hpos : 0 < r.period := Nat.lt_of_lt_of_le (by decide) h.period
  obtain ⟨hnow, htimers⟩ := h.opening_start hj
  intro t ht
  rw [htimers] at ht
  rw [due_of_mem_opening ht, hnow]
  exact Nat.lt_add_of_pos_right hpos

theorem InStep.runTo_start (h : InStep r ids) (hj : r.jobs = []) (total : Nat) :
    ((r.start.2.clock.runTo (r.start.2.clock.now + total)).1.map fun t => (t.due, t.job)) =
      timetable r.clock.now r.period total r.duePlaces := by
  have hpos : 0 < r.period := Nat.lt_of_lt_of_le (by decide) h.period
  obtain ⟨hnow, htimers⟩ := h.opening_start hj
  obtain ⟨ids', h'⟩ := h.start
  rw [← hnow] at htimers ⊢
  exact h'.clock.drain_opening htimers hpos total

/-- A runner that is at rest is started and advances by some spans. The jobs that are run, and when
they are run, follow the timetable of the whole time; every tick ends in one verdict; and the runner
at the end is the one that any other spans of the same length in all would have led to. -/
theorem advanceEach_timetable (page : Page) (configurations : List (String × Configuration))
    (options : RunOptions) (labels : Bool) (moves : List Move)
    (hrest : ((create page configurations options labels).play moves).isRunning = false)
    (spans : List Nat) :
    let r := (create page configurations options labels).play moves
    let started := r.start.2
    let places := r.duePlaces
    let table := timetable r.clock.now r.period spans.sum places
    r.start.1 = places.length ∧
    started.jobsRun spans = table ∧
    (started.advanceEach spans).1.sum = places.length * (spans.sum / r.period) +
      (if r.period ≤ spans.sum then places.length else 0) ∧
    (∃ clock,
      (started.advanceEach spans).2 = (started.runJobs (table.map (·.2))).withClock clock) ∧
    (∀ before time place after, table = before ++ (time, .tick place) :: after →
      let reached := started.runJobs (before.map (·.2))
      EndsInVerdict reached (runJob (.tick place) reached)) ∧
    ∀ spans' : List Nat, spans'.sum = spans.sum →
      (started.advanceEach spans').2 = (started.advanceEach spans).2 := by
  intro r started places table
  obtain ⟨ids, h⟩ : ∃ ids, InStep r ids := inStep_play page configurations options labels moves
  have hj : r.jobs = [] := by simpa [isRunning] using hrest
  have hpos : 0 < r.period := Nat.lt_of_lt_of_le (by decide) h.period
  obtain ⟨ids', h'⟩ : ∃ ids', InStep started ids' := h.start
  have heach := advanceEach_eq started h'.clock (h.isAhead_start hj)
  obtain ⟨hcount, hlast, hjobs⟩ := heach spans
  have htable : ((started.clock.runTo (started.clock.now + spans.sum)).1.map
      fun t => (t.due, t.job)) = table := h.runTo_start hj spans.sum
  have hplaces : ∀ entry ∈ table, entry.2.place < started.managed.size := by
    intro entry hentry
    rw [show started = _ from congrArg Prod.snd (start_of_rest hj), size_scheduleAll]
    exact List.mem_range.mp (List.mem_filter.mp (place_of_mem_timetable hentry)).1
  refine ⟨congrArg Prod.fst (start_of_rest hj), hjobs.trans htable, ?_,
    ⟨(started.clock.runTo (started.clock.now + spans.sum)).2, ?_⟩, ?_, ?_⟩
  · rw [hcount, ← length_timetable r.clock.now spans.sum places hpos, ← List.length_map]
    exact congrArg List.length htable
  · rw [hlast, ← htable, List.map_map]
    rfl
  · intro before time place after hsplit reached
    refine endsInVerdict_tick ?_
    rw [size_runJobs]
    exact hplaces (time, .tick place) (by simp [hsplit])
  · intro spans' hsum
    obtain ⟨-, hlast', -⟩ := heach spans'
    rw [hlast, hlast', hsum]

def bothInForce : List (String × Configuration) :=
  [("first", .ofText "@include = /.*/\na = b"), ("second", .ofText "@include = /.*/\nb = c")]

def unevenSpans : List Nat := [milliseconds 25 + 1, milliseconds 75 - 1, milliseconds 100]

theorem advanceEach_timetable_restarted :
    let r := (create (.blank "x") bothInForce {} true).play
      [.start, .advance (milliseconds 100), .stop]
    r.isRunning = false ∧
      r.start.2.jobsRun unevenSpans = [(milliseconds 200, .rules 0), (milliseconds 200, .tick 0),
        (milliseconds 200, .rules 1), (milliseconds 200, .tick 1), (milliseconds 300, .tick 0),
        (milliseconds 300, .tick 1)] ∧
      (r.start.2.advanceEach unevenSpans).1.sum = 6 ∧
      (r.start.2.advanceEach [milliseconds 200]).2 = (r.start.2.advanceEach unevenSpans).2 := by
  intro r
  obtain ⟨hrest, hplaces, hnow, hperiod⟩ : r.isRunning = false ∧ r.duePlaces = [0, 1] ∧
      r.clock.now = milliseconds 100 ∧ r.period = milliseconds 100 := by decide +kernel
  obtain ⟨-, hjobs, hcount, -, -, hsplit⟩ := advanceEach_timetable (.blank "x") bothInForce {} true
    [.start, .advance (milliseconds 100), .stop] hrest unevenSpans
  refine ⟨hrest, hjobs.trans ?_, hcount.trans ?_, hsplit [milliseconds 200] rfl⟩
  · change timetable r.clock.now r.period (milliseconds 200) r.duePlaces = _
    rw [hplaces, hnow, hperiod]
    rfl
  · change r.duePlaces.length * (milliseconds 200 / r.period) + _ = _
    rw [hplaces, hperiod]
    rfl

end Runner
end PageOverlay
