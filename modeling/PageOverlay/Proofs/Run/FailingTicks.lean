import PageOverlay.Proofs.Command.PropertyNames
import PageOverlay.Proofs.Run.History
import PageOverlay.Proofs.Run.LosingRecords

/-!
# Ticks that fail

Every visit to a node of a group comes through, also to a node that an earlier visit has removed.
So a tick can fail at its beginning and at its end only: when shortened labels clash, or when a
command for the whole document clashes with itself. Then it fails, and what it was still to do is
left out.
-/

set_option autoImplicit false

namespace PageOverlay

namespace Configuration

variable {c : Configuration} {repo : Repository} {g : TargetGroup} {t : Target} {n : NodeId}
  {path : String} {w v : World} {a : Action} {done : List Undo}

theorem HasTurn.isNamed (h : c.HasTurn repo g t w a done v) : a.IsNamed :=
  (h.2.each (c.each_commands repo)).1

theorem HasTurn.appliesTo (h : c.HasTurn repo g t w a done v) : a.appliesTo g :=
  (h.2.each (c.each_commands repo)).2

/-- Commands of a sheet are not refused, so they fail by clashes only. -/
theorem apply_fails_iff (hw : w.page.Reachable) (hp : path ≠ "") :
    Change.Fails (c.apply repo g (.node n path)) w ↔
      ∃ a done v, c.HasTurn repo g (.node n path) w a done v ∧ a.Clashes v.page := by
  constructor
  · rintro ⟨e, w', hrun⟩
    obtain ⟨a, done, v, hturn, -, hends⟩ := apply_error hw hrun
    rcases hends with ⟨hr, -⟩ | ⟨hc, -⟩
    · exact absurd hr (hturn.isNamed.not_refused hp)
    · exact ⟨a, done, v, hturn, hc⟩
  · rintro ⟨a, done, v, hturn, hc⟩
    exact apply_fails hw hturn (.inr hc)

theorem apply_succeeds (hw : w.page.Reachable) (hg : g ≠ .document) (hp : path ≠ "") :
    Change.Succeeds (c.apply repo g (.node n path)) w := by
  rcases hrun : (c.apply repo g (.node n path)).run w with ⟨e | us, w'⟩
  · obtain ⟨a, done, v, hturn, hc⟩ := (apply_fails_iff hw hp).mp ⟨e, w', hrun⟩
    exact absurd (hc.group hturn.appliesTo) hg
  · exact ⟨us, w', hrun⟩

end Configuration

namespace Runner

def FailsAt {α : Type} (x : Tick α) (r : Runner) : Prop := ∃ e r', x.run r = (.error e, r')

/-- The computation leaves a page that can come up, also when it fails. -/
def KeepsReachable {α : Type} (x : Tick α) : Prop :=
  ∀ r, r.world.page.Reachable → (x.run r).2.world.page.Reachable

structure ComesThrough {α : Type} (x : Tick α) : Prop where
  reachable : KeepsReachable x
  result : ∀ r, r.world.page.Reachable → ∃ a r', x.run r = (.ok a, r')

section

variable {α β : Type} {x : Tick α} {f : α → Tick β} {r : Runner}

theorem failsAt_bind :
    FailsAt (x >>= f) r ↔ FailsAt x r ∨ ∃ a r', x.run r = (.ok a, r') ∧ FailsAt (f a) r' := by
  rw [FailsAt, FailsAt, Change.run_bind]
  rcases x.run r with ⟨e | a, r'⟩
  · constructor
    · exact fun _ => .inl ⟨e, r', rfl⟩
    · exact fun _ => ⟨e, r', rfl⟩
  · constructor
    · exact fun h => .inr ⟨a, r', rfl, h⟩
    · rintro (⟨_, _, h⟩ | ⟨_, _, h, hf⟩)
      · cases h
      · cases h
        exact hf

theorem failsAt_of_fst {e : MutationError} (h : (x.run r).1 = .error e) : FailsAt x r :=
  ⟨e, (x.run r).2, Prod.ext h rfl⟩

theorem not_failsAt_of_ok {a : α} {r' : Runner} (h : x.run r = (.ok a, r')) : ¬ FailsAt x r := by
  rintro ⟨e, r'', he⟩
  rw [h] at he
  cases he

theorem KeepsReachable.bind (hx : KeepsReachable x) (hf : ∀ a, KeepsReachable (f a)) :
    KeepsReachable (x >>= f) := by
  intro r hr
  have h := hx r hr
  rw [Change.run_bind]
  rcases hrun : x.run r with ⟨e | a, r'⟩
  all_goals rw [hrun] at h
  · exact h
  · exact hf a r' h

theorem ComesThrough.pure (a : α) : ComesThrough (Pure.pure a) :=
  ⟨fun _ hr => hr, fun r _ => ⟨a, r, rfl⟩⟩

theorem ComesThrough.bind (hx : ComesThrough x) (hf : ∀ a, ComesThrough (f a)) :
    ComesThrough (x >>= f) where
  reachable := hx.reachable.bind fun a => (hf a).reachable
  result r hr := by
    have h := hx.reachable r hr
    obtain ⟨a, r', hrun⟩ := hx.result r hr
    rw [hrun] at h
    rw [Change.run_bind, hrun, Change.continueWith_ok]
    exact (hf a).result r' h

theorem ComesThrough.get {f : Runner → Tick β} (hf : ∀ r, ComesThrough (f r)) :
    ComesThrough (MonadState.get >>= f) :=
  ⟨fun r => (hf r).reachable r, fun r => (hf r).result r⟩

end

section

variable {x : Change (List Undo)} {r : Runner}

theorem failsAt_recorded : FailsAt (recorded x) r ↔ Change.Fails x r.world := by
  rw [FailsAt, Change.Fails, run_recorded]
  rcases x.run r.world with ⟨e | us, w⟩
  · exact ⟨fun _ => ⟨e, w, rfl⟩, fun _ => ⟨e, _, rfl⟩⟩
  · constructor
    · rintro ⟨_, _, ⟨⟩⟩
    · rintro ⟨_, _, ⟨⟩⟩

theorem keepsReachable_recorded (hx : Tells [] x id) : KeepsReachable (recorded x) := by
  intro r hr
  rw [run_recorded]
  rcases hrun : x.run r.world with ⟨e | us, w⟩
  · obtain ⟨us, hus⟩ := hx.edits_error hrun
    exact hus.reachable hr
  · change (addUndo us { r with world := w }).world.page.Reachable
    rw [world_addUndo]
    exact (hx.edits hrun).reachable hr

theorem comesThrough_recorded (hx : Tells [] x id)
    (hs : ∀ w : World, w.page.Reachable → Change.Succeeds x w) : ComesThrough (recorded x) where
  reachable := keepsReachable_recorded hx
  result r hr := by
    obtain ⟨us, w, hrun⟩ := hs r.world hr
    rw [run_recorded, hrun]
    exact ⟨(), _, rfl⟩

end

variable {c : Configuration} {commands : List Command} {repo : Repository} {r r' : Runner}

theorem comesThrough_visits (c : Configuration) (repo : Repository) :
    VisitRule (fun _ x => ComesThrough x) c (c.commands repo) where
  pure := ComesThrough.pure
  bind := ComesThrough.bind
  page hf := .get fun r => hf r.world.page
  visit _ hg hp := comesThrough_recorded (c.tells_applyCommands _ _ _) fun _ hw =>
    Configuration.apply_succeeds hw hg hp

theorem keepsReachable_tidy (c : Configuration) (commands : List Command) :
    KeepsReachable (tidy c commands) := by
  have hrest : ∀ s : Runner, KeepsReachable (if s.labels then
      recorded (Labels.normalize { configuration := c, commands }) else pure () : Tick Unit) := by
    intro s
    split
    · exact keepsReachable_recorded (Labels.tells_normalize _)
    · exact fun _ hr => hr
  exact fun r => hrest r r

theorem failsAt_tidy (hr : r.world.page.Reachable) :
    FailsAt (tidy c commands) r ↔
      r.labels ∧ Labels.Clashes { configuration := c, commands } r.world := by
  change FailsAt (if r.labels then
      recorded (Labels.normalize { configuration := c, commands }) else pure () : Tick Unit) r ↔ _
  by_cases hl : r.labels
  · rw [if_pos hl, failsAt_recorded]
    constructor
    · rintro ⟨e, w, hrun⟩
      exact ⟨hl, (Labels.run_normalize_error hr hrun).1⟩
    · exact fun h => Labels.fails_normalize hr h.2
  · rw [if_neg hl]
    constructor
    · rintro ⟨_, _, ⟨⟩⟩
    · exact fun h => absurd h.1 hl

/-- The tick has come to the document as a whole, and the runner is the second one then. -/
def ComesToDocument (c : Configuration) (commands : List Command) (r r' : Runner) : Prop :=
  ∃ s counts, (tidy c commands).run r = (.ok (), s) ∧
    (visitGroups c commands).run s = (.ok counts, r')

theorem ComesToDocument.reachable (h : ComesToDocument c (c.commands repo) r r')
    (hr : r.world.page.Reachable) : r'.world.page.Reachable := by
  obtain ⟨s, counts, htidy, hgroups⟩ := h
  have hs := keepsReachable_tidy c (c.commands repo) r hr
  rw [htidy] at hs
  have hr' := (comesThrough_visits c repo).visitGroups.reachable s hs
  rwa [hgroups] at hr'

theorem comesToDocument (hr : r.world.page.Reachable)
    (h : ¬ FailsAt (tidy c (c.commands repo)) r) :
    ∃ r', ComesToDocument c (c.commands repo) r r' := by
  rcases htidy : (tidy c (c.commands repo)).run r with ⟨e | u, s⟩
  · exact absurd ⟨e, s, htidy⟩ h
  · have hs := keepsReachable_tidy c (c.commands repo) r hr
    rw [htidy] at hs
    obtain ⟨counts, r', hgroups⟩ := (comesThrough_visits c repo).visitGroups.result s hs
    exact ⟨r', s, counts, htidy, hgroups⟩

theorem failsAt_applyTick (hr : r.world.page.Reachable) :
    FailsAt (applyTick c (c.commands repo)) r ↔
      FailsAt (tidy c (c.commands repo)) r ∨
        ∃ r', ComesToDocument c (c.commands repo) r r' ∧
          FailsAt (visitDocument c (c.commands repo)) r' := by
  rw [applyTick_eq, failsAt_bind]
  refine or_congr_right ?_
  constructor
  · rintro ⟨u, s, htidy, h⟩
    have hs := keepsReachable_tidy c (c.commands repo) r hr
    rw [htidy] at hs
    obtain ⟨counts, r', hgroups⟩ := (comesThrough_visits c repo).visitGroups.result s hs
    rcases failsAt_bind.mp h with h | ⟨counts', r'', hgroups', h⟩
    · exact absurd h (not_failsAt_of_ok hgroups)
    · rcases failsAt_bind.mp h with h | ⟨_, _, -, h⟩
      · exact ⟨r'', ⟨s, counts', htidy, hgroups'⟩, h⟩
      · -- reporting never fails
        obtain ⟨e, r'', hreport⟩ := h
        cases hreport
  · rintro ⟨r', ⟨s, counts, htidy, hgroups⟩, h⟩
    exact ⟨(), s, htidy, failsAt_bind.mpr (.inr ⟨counts, r', hgroups, failsAt_bind.mpr (.inl h)⟩)⟩

theorem keepsReachable_applyTick (c : Configuration) (repo : Repository) :
    KeepsReachable (applyTick c (c.commands repo)) := by
  rw [applyTick_eq]
  refine (keepsReachable_tidy c _).bind fun _ => ?_
  refine (comesThrough_visits c repo).visitGroups.reachable.bind fun counts => ?_
  exact (keepsReachable_recorded (c.tells_applyCommands _ _ _)).bind fun _ => fun _ hr => hr

/-- Some ticks of configurations, each with those that it may import. -/
def ticks (r : Runner) : List (Configuration × Repository) → Runner
  | [] => r
  | (c, repo) :: rest => ((applyTick c (c.commands repo)).run r).2.ticks rest

theorem reachable_ticks (hr : r.world.page.Reachable)
    (earlier : List (Configuration × Repository)) :
    (r.ticks earlier).world.page.Reachable := by
  induction earlier generalizing r with
  | nil => exact hr
  | cons tick rest ih => exact ih (keepsReachable_applyTick tick.1 tick.2 r hr)

/-- Whatever ticks came before, a tick fails just if shortened labels clash, or a command for the
whole document clashes with itself. No visit to a node of a group fails, so unless labels clash the
tick comes to the document. -/
theorem applyTick_fails_iff (hr : r.world.page.Reachable)
    (earlier : List (Configuration × Repository)) (c : Configuration) (repo : Repository) :
    let now := r.ticks earlier
    let clashing := now.labels ∧
      Labels.Clashes { configuration := c, commands := c.commands repo } now.world
    now.world.page.Reachable ∧
    (FailsAt (applyTick c (c.commands repo)) now ↔ clashing ∨
      ∃ r' a done v, ComesToDocument c (c.commands repo) now r' ∧
        c.HasTurn repo .document documentTarget r'.world a done v ∧ a.Clashes v.page) ∧
    (¬ clashing → ∃ r', ComesToDocument c (c.commands repo) now r') := by
  intro now clashing
  have hnow : now.world.page.Reachable := reachable_ticks hr earlier
  have htidy : FailsAt (tidy c (c.commands repo)) now ↔ clashing := failsAt_tidy hnow
  have hdocument : ∀ {r'}, ComesToDocument c (c.commands repo) now r' →
      (FailsAt (visitDocument c (c.commands repo)) r' ↔
        ∃ a done v, c.HasTurn repo .document documentTarget r'.world a done v ∧
          a.Clashes v.page) :=
    fun h => failsAt_recorded.trans
      (Configuration.apply_fails_iff (h.reachable hnow) (by decide))
  refine ⟨hnow, ?_, fun h => comesToDocument hnow (mt htidy.mp h)⟩
  rw [failsAt_applyTick hnow, htidy]
  refine or_congr_right ?_
  constructor
  · rintro ⟨r', hto, hfails⟩
    obtain ⟨a, done, v, hturn⟩ := (hdocument hto).mp hfails
    exact ⟨r', a, done, v, hto, hturn⟩
  · rintro ⟨r', a, done, v, hto, hturn⟩
    exact ⟨r', hto, (hdocument hto).mpr ⟨a, done, v, hturn⟩⟩

def nestedRunner : Runner := create Configuration.nestedPage [] {} true

def settingTick : Tick TickStats :=
  applyTick Configuration.settingTexts (Configuration.settingTexts.commands [])

theorem failsAt_settingTick : FailsAt settingTick nestedRunner := by
  have herror : (settingTick.run nestedRunner).1 = .error (.noNode 2) := by decide +kernel
  exact failsAt_of_fst herror

theorem applyTick_fails_iff_nested :
    nestedRunner.world.page.Reachable ∧ FailsAt settingTick nestedRunner ∧
      ∃ r' a done v, ComesToDocument Configuration.settingTexts
          (Configuration.settingTexts.commands []) nestedRunner r' ∧
        Configuration.settingTexts.HasTurn [] .document documentTarget r'.world a done v ∧
          a.Clashes v.page := by
  have hr : nestedRunner.world.page.Reachable := .ofSnapshot _
  have htidy : ((tidy Configuration.settingTexts (Configuration.settingTexts.commands [])).run
      nestedRunner).1 = .ok () := by decide +kernel
  obtain ⟨-, hiff, -⟩ := applyTick_fails_iff hr [] Configuration.settingTexts []
  rcases hiff.mp failsAt_settingTick with hclashing | hdocument
  · obtain ⟨e, r', herror⟩ := (failsAt_tidy hr).mpr hclashing
    rw [herror] at htidy
    cases htidy
  · exact ⟨hr, failsAt_settingTick, hdocument⟩

/-- So not every tick comes through. -/
theorem exists_failing_tick :
    ¬ ∀ (s : Snapshot) (text : String),
      let c := Configuration.ofText text
      ∃ stats r', (applyTick c (c.commands [])).run (create (.ofSnapshot s) [] {} true) =
        (.ok stats, r') := by
  intro h
  obtain ⟨s, hs⟩ : ∃ s, Configuration.nestedPage = .ofSnapshot s := ⟨_, rfl⟩
  obtain ⟨stats, r', hrun⟩ := h s "!querySelector(div, textContent) = X"
  rw [← hs] at hrun
  exact not_failsAt_of_ok hrun failsAt_settingTick

end Runner
end PageOverlay
