import PageOverlay.Proofs.Change.Reverting
import PageOverlay.Proofs.Command.ChangeRecords
import PageOverlay.Proofs.Run.JobSchedule
import PageOverlay.Proofs.Run.Moves

/-!
# What a run records

While recording is not given up and no job fails, the record of a runner names every change that
was made to its world, in the order in which they were made. Writes from outside come in between
and are not recorded.
-/

set_option autoImplicit false

namespace PageOverlay

def Event.isFailed : Event → Bool
  | .failed .. => true
  | _ => false

namespace Runner

def failures (r : Runner) : Nat := r.events.toList.countP Event.isFailed

/-- The steps that led from one runner to the other: its recorded changes in their order, and the
given writes from outside in theirs. -/
structure History (P : Page → Step → Prop) (r r' : Runner)
    (writes : List (NodeId × String × String)) (steps : List Step) : Prop where
  course : Course P r.world steps r'.world
  undos : r'.undo = r.undo ++ (steps.filterMap Step.undo?).toArray
  writes : steps.filterMap Step.write? = writes

namespace History

variable {P : Page → Step → Prop} {r r' r'' : Runner} {ws xs : List (NodeId × String × String)}
  {ss ts : List Step}

theorem append (h : History P r r' ws ss) (g : History P r' r'' xs ts) :
    History P r r'' (ws ++ xs) (ss ++ ts) where
  course := h.course.append g.course
  undos := by simp [g.undos, h.undos]
  writes := by rw [List.filterMap_append, h.writes, g.writes]

theorem of_same (hu : r'.undo = r.undo) (hw : r'.world = r.world) : History P r r' [] [] where
  course := by
    rw [hw]
    exact .nil r.world
  undos := by simp [hu]
  writes := rfl

theorem of_edits {us : List Undo} (h : Edits r.world us r'.world)
    (hu : r'.undo = r.undo ++ us.toArray) :
    History (fun _ _ => True) r r' [] (us.map .made) where
  course := h.course
  undos := by
    have hundos : (us.map Step.made).filterMap Step.undo? = us := by
      simp [List.filterMap_map, Function.comp_def, Step.undo?]
    rw [hundos, hu]
  writes := by simp [List.filterMap_map, Function.comp_def, Step.write?]

end History

/-- The second runner comes from the first one by such steps, unless a job failed or recording was
given up. -/
structure Told (r r' : Runner) (writes : List (NodeId × String × String)) : Prop where
  failures_le : r.failures ≤ r'.failures
  history : r'.failures = r.failures → r'.tracking →
    r.tracking ∧ ∃ steps, History (fun _ _ => True) r r' writes steps

namespace Told

variable {r r' r'' : Runner} {ws xs : List (NodeId × String × String)}

theorem of_same (he : r'.events = r.events) (ht : r'.tracking = r.tracking)
    (hu : r'.undo = r.undo) (hw : r'.world = r.world) : Told r r' [] where
  failures_le := Nat.le_of_eq (by rw [failures, failures, he])
  history _ h := ⟨ht ▸ h, [], .of_same hu hw⟩

theorem refl (r : Runner) : Told r r [] := of_same rfl rfl rfl rfl

theorem trans (h : Told r r' ws) (g : Told r' r'' xs) : Told r r'' (ws ++ xs) where
  failures_le := Nat.le_trans h.failures_le g.failures_le
  history hf ht := by
    have hle := h.failures_le
    have hle' := g.failures_le
    obtain ⟨ht', ts, hts⟩ := g.history (by omega) ht
    obtain ⟨ht, ss, hss⟩ := h.history (by omega) ht'
    exact ⟨ht, ss ++ ts, hss.append hts⟩

end Told

theorem failures_notify (r : Runner) (e : Event) :
    (r.notify e).failures = r.failures + if e.isFailed then 1 else 0 := by
  simp [notify, failures, List.countP_append, List.countP_singleton]

theorem told_notify (r : Runner) (e : Event) : Told r (r.notify e) [] where
  failures_le := by simp [failures_notify]
  history _ ht := ⟨ht, [], .of_same rfl rfl⟩

theorem failures_addUndo (us : List Undo) (r : Runner) : (addUndo us r).failures = r.failures := by
  by_cases hus : us = []
  · rw [hus, addUndo_nil]
  · rw [addUndo_of_ne hus, failures_notify]
    rfl

theorem world_addUndo (us : List Undo) (r : Runner) : (addUndo us r).world = r.world := by
  by_cases hus : us = []
  · rw [hus, addUndo_nil]
  · rw [addUndo_of_ne hus]
    rfl

/-- As long as recording goes on, all that was told is in the record. -/
theorem undo_addUndo {us : List Undo} {r : Runner} (h : (addUndo us r).tracking) :
    r.tracking ∧ (addUndo us r).undo = r.undo ++ us.toArray := by
  by_cases hus : us = []
  · subst hus
    exact ⟨h, by simp [addUndo_nil]⟩
  · rw [addUndo_of_ne hus] at h ⊢
    have hboth : (r.tracking && decide (r.undo.size ≤ r.undoLimit)) = true := h
    exact ⟨(Bool.and_eq_true_iff.mp hboth).1, by simp [notify, hboth]⟩

theorem told_addUndo {us : List Undo} {r : Runner} {w : World} (h : Edits r.world us w) :
    Told r (addUndo us { r with world := w }) [] where
  failures_le := Nat.le_of_eq (failures_addUndo us { r with world := w }).symm
  history _ ht := by
    obtain ⟨ht', hu⟩ := undo_addUndo ht
    exact ⟨ht', us.map .made, .of_edits (by rwa [world_addUndo]) hu⟩

/-- A computation of the runner that changes the world by recorded changes only. One that ends in
an error says nothing of a failed job by itself. -/
def Keeps {α : Type} (x : Tick α) : Prop :=
  ∀ r, match x.run r with
    | (.ok _, r') => Told r r' [] ∧ r'.failures = r.failures
    | (.error _, r') => r'.failures = r.failures

namespace Keeps

variable {α β : Type}

theorem pure (a : α) : Keeps (Pure.pure a) := fun r => ⟨.refl r, rfl⟩

theorem bind {x : Tick α} {f : α → Tick β} (hx : Keeps x) (hf : ∀ a, Keeps (f a)) :
    Keeps (x >>= f) := by
  intro r
  have h := hx r
  rw [Change.run_bind]
  rcases hr : x.run r with ⟨e | a, r'⟩
  · rw [hr] at h
    exact h
  · rw [hr] at h
    have g := hf a r'
    rw [Change.continueWith_ok]
    rcases hr' : (f a).run r' with ⟨e | b, r''⟩
    · rw [hr'] at g
      exact g.trans h.2
    · rw [hr'] at g
      exact ⟨h.1.trans g.1, g.2.trans h.2⟩

theorem get {f : Runner → Tick β} (hf : ∀ r, Keeps (f r)) : Keeps (MonadState.get >>= f) :=
  fun r => hf r r

theorem update {f : Runner → Runner} (hf : ∀ r, Told r (f r) [] ∧ (f r).failures = r.failures) :
    Keeps (modify f) := fun r => hf r

theorem recorded {x : Change (List Undo)} (hx : Tells [] x id) : Keeps (Runner.recorded x) := by
  intro r
  have h := hx r.world r.world (.nil r.world)
  rw [run_recorded]
  rcases hr : x.run r.world with ⟨e | us, w⟩
  · rfl
  · rw [hr] at h
    exact ⟨told_addUndo h, failures_addUndo us _⟩

end Keeps

theorem keeps_applyRules (c : Configuration) (commands : List Command) :
    Keeps (applyRules c commands) :=
  .bind (.recorded (c.tells_applyCommands _ _ _)) fun _ =>
    .recorded (c.tells_applyCommands _ _ _)

theorem keeps_visits (c : Configuration) (commands : List Command) :
    VisitRule (fun _ x => Keeps x) c commands where
  pure := Keeps.pure
  bind := Keeps.bind
  page hf := .get fun r => hf r.world.page
  visit _ _ _ := .recorded (c.tells_applyCommands _ _ _)

theorem keeps_tidy (c : Configuration) (commands : List Command) : Keeps (tidy c commands) := by
  refine .get fun r => ?_
  split
  · exact .recorded (Labels.tells_normalize _)
  · exact .pure ()

theorem keeps_report (counts : Counts) : Keeps (report counts) :=
  .get fun _ => .bind (.update fun r => ⟨told_notify r _, failures_notify r _⟩) fun _ => .pure _

theorem keeps_applyTick (c : Configuration) (commands : List Command) :
    Keeps (applyTick c commands) := by
  rw [applyTick_eq]
  refine .bind (keeps_tidy c commands) fun _ => ?_
  refine .bind (keeps_visits c commands).visitGroups fun counts => ?_
  exact .bind (.recorded (c.tells_applyCommands _ _ _)) fun _ => keeps_report counts

theorem keeps_work (m : Managed) (job : Job) : Keeps (work m job) := by
  cases job with
  | rules place => exact keeps_applyRules _ _
  | tick place => exact .bind (keeps_applyTick _ _) fun _ => .pure ()

/-- A job that fails shows in the events, and nothing is said of what it changed. -/
theorem told_conclude {x : Tick Unit} (hx : Keeps x) (name : String) (r : Runner) :
    Told r (conclude name (x.run r)) [] := by
  have h := hx r
  rcases hr : x.run r with ⟨e | u, r'⟩
  · rw [hr] at h
    have hfailed : (r'.notify (.failed name e.message)).failures = r'.failures + 1 :=
      failures_notify r' _
    change Told r (r'.notify (.failed name e.message)) []
    exact ⟨by omega, fun hf => by omega⟩
  · rw [hr] at h
    exact h.1

theorem told_runJob (job : Job) (r : Runner) : Told r (runJob job r) [] := by
  cases h : r.managed[job.place]? with
  | none =>
    rw [runJob_of_none h]
    exact .refl r
  | some m =>
    have hbegun : Told r (r.begin job.place) [] := .of_same rfl rfl rfl rfl
    rw [runJob_of_some h]
    exact hbegun.trans (told_conclude (keeps_work m job) m.name _)

theorem told_runDue (limit n : Nat) (r : Runner) : Told r (runDue limit n r).2 [] := by
  induction n generalizing r with
  | zero => exact .refl r
  | succ n ih =>
    rw [runDue]
    split
    · exact .refl r
    · next timer clock _ =>
      have hclock : Told r { r with clock } [] := .of_same rfl rfl rfl rfl
      exact hclock.trans ((told_runJob timer.job { r with clock }).trans (ih _))

theorem told_advanceBy (span : Nat) (r : Runner) : Told r (r.advanceBy span).2 [] :=
  (told_runDue _ _ r).trans (.of_same rfl rfl rfl rfl)

theorem start_same (r : Runner) :
    r.start.2.events = r.events ∧ r.start.2.tracking = r.tracking ∧ r.start.2.undo = r.undo ∧
      r.start.2.world = r.world := by
  have hall : ∀ (places : List Nat) (r : Runner),
      let r' := places.foldl (fun r place => r.schedule place) r
      r'.events = r.events ∧ r'.tracking = r.tracking ∧ r'.undo = r.undo ∧ r'.world = r.world := by
    intro places
    induction places with
    | nil => exact fun r => ⟨rfl, rfl, rfl, rfl⟩
    | cons place places ih => exact fun r => ih (r.schedule place)
  rw [start]
  split
  · exact ⟨rfl, rfl, rfl, rfl⟩
  · exact hall _ r

def Act.written? (r : Runner) : Act → Option (NodeId × String × String)
  | .advance _ => none
  | .write n path value =>
    match r.world.page.setProperty n path value with
    | .ok _ => some (n, path, value)
    | .error _ => none

def written (r : Runner) : List Act → List (NodeId × String × String)
  | [] => []
  | act :: acts => (act.written? r).toList ++ written (act.move.make r) acts

theorem told_act (act : Act) (r : Runner) : Told r (act.move.make r) (act.written? r).toList := by
  cases act with
  | advance span => exact told_advanceBy span r
  | write n path value =>
    rw [Act.move, Move.make, Act.written?]
    cases hset : r.world.page.setProperty n path value with
    | ok p =>
      refine ⟨Nat.le_refl _, fun _ ht => ⟨ht, [.written n path value], ?_, ?_, rfl⟩⟩
      · exact .written hset trivial (.nil _)
      · simp [Step.undo?]
    | error e => exact .refl r

theorem told_runActs (acts : List Act) (r : Runner) :
    Told r (r.runActs acts) (r.written acts) := by
  induction acts generalizing r with
  | nil => exact .refl r
  | cons act acts ih => exact (told_act act r).trans (ih (act.move.make r))

end Runner
end PageOverlay
