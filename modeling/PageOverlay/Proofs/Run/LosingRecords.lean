import PageOverlay.Proofs.Command.ActionTurns
import PageOverlay.Proofs.Run.ShortenedLabels

/-!
# Failures lose records

A configuration that is applied to a node tells its caller of all changes unless it fails. Then the
caller learns of none of them. What was changed before the failing action stays, and if this action
clashed with itself, so does what it had changed.
-/

set_option autoImplicit false

namespace PageOverlay

namespace Configuration

/-- The action has its turn when the configuration is applied to the target: it is applied to `v`,
after the changes that `done` tells. -/
def HasTurn (c : Configuration) (repo : Repository) (g : TargetGroup) (t : Target) (w : World)
    (a : Action) (done : List Undo) (v : World) : Prop :=
  c.mayTouch w.page t ∧ Turn g t (c.commands repo) w a done v

variable {c : Configuration} {repo : Repository} {g : TargetGroup} {n : NodeId} {path : String}
  {w w' v : World} {a : Action} {done : List Undo} {e : MutationError}

theorem run_apply_error {t : Target} :
    (c.apply repo g t).run w = (.error e, w') ↔
      ∃ a done v, c.HasTurn repo g t w a done v ∧ (a.apply t).run v = (.error e, w') := by
  rw [apply, run_applyCommands_error]
  constructor
  · rintro ⟨hm, a, done, v, h, hrun⟩
    exact ⟨a, done, v, ⟨hm, h⟩, hrun⟩
  · rintro ⟨a, done, v, ⟨hm, h⟩, hrun⟩
    exact ⟨hm, a, done, v, h, hrun⟩

theorem apply_error (hw : w.page.Reachable)
    (h : (c.apply repo g (.node n path)).run w = (.error e, w')) :
    ∃ a done v, c.HasTurn repo g (.node n path) w a done v ∧ Edits w done v ∧
      (a.Refused v.page n path ∧ w' = v ∨ a.Clashes v.page ∧ Change.Shrinks v w') := by
  obtain ⟨a, done, v, hturn, hrun⟩ := run_apply_error.mp h
  have hdone : Edits w done v := hturn.2.edits
  have hv := hdone.reachable hw
  refine ⟨a, done, v, hturn, hdone, ?_⟩
  rcases (a.outcome_applyNode hv.wellFormed n path).of_error hrun with h | ⟨hc, hthinned⟩
  · exact .inl h
  · exact .inr ⟨hc, .of_error hv (a.tells_apply (.node n path)) hrun hthinned⟩

theorem apply_fails (hw : w.page.Reachable) (hturn : c.HasTurn repo g (.node n path) w a done v)
    (h : a.Refused v.page n path ∨ a.Clashes v.page) :
    Change.Fails (c.apply repo g (.node n path)) w := by
  have hv := hturn.2.edits.reachable hw
  obtain ⟨e, w', hrun⟩ := (a.outcome_applyNode hv.wellFormed n path).fails h
  exact ⟨e, w', run_apply_error.mpr ⟨a, done, v, hturn, hrun⟩⟩

/-- No change is left without a record unless an action clashes at its turn, or is refused there
after changes were made. A clash always leaves changes: the page shows fewer elements than before
the action. The same holds of bringing shortened labels up to date, where only clashes fail. -/
theorem error_loses_records (c : Configuration) (repo : Repository) (g : TargetGroup)
    (n : NodeId) (path : String) (t : Labels.Transformer) {w : World} (hw : w.page.Reachable) :
    (match (c.apply repo g (.node n path)).run w with
      | (.ok us, w') => Edits w us w' ∧ ∀ a done v, c.HasTurn repo g (.node n path) w a done v →
          ¬ a.Refused v.page n path ∧ ¬ a.Clashes v.page
      | (.error _, w') => ∃ a done v, c.HasTurn repo g (.node n path) w a done v ∧
          Edits w done v ∧ (done = [] → v = w) ∧
            (a.Refused v.page n path ∧ w' = v ∨ a.Clashes v.page ∧ Change.Shrinks v w')) ∧
    (match (Labels.normalize t).run w with
      | (.ok us, w') => Edits w us w' ∧ ¬ Labels.Clashes t w
      | (.error _, w') => Labels.Clashes t w ∧
          ∃ done v, Edits w done v ∧ Change.Shrinks v w') := by
  constructor
  · rcases h : (c.apply repo g (.node n path)).run w with ⟨e | us, w'⟩
    · obtain ⟨a, done, v, hturn, hdone, hleft⟩ := apply_error hw h
      refine ⟨a, done, v, hturn, hdone, ?_, hleft⟩
      rintro rfl
      cases hdone
      rfl
    · refine ⟨(c.tells_applyCommands (c.commands repo) g (.node n path)).edits h, ?_⟩
      intro a done v hturn
      refine not_or.mp fun hfails => ?_
      exact Change.not_fails_of_ok h (apply_fails hw hturn hfails)
  · rcases h : (Labels.normalize t).run w with ⟨e | us, w'⟩
    · exact Labels.run_normalize_error hw h
    · refine ⟨(Labels.tells_normalize t).edits h, fun hclash => ?_⟩
      exact Change.not_fails_of_ok h (Labels.fails_normalize hw hclash)

def nestedPage : Page :=
  .ofSnapshot {
    location := "x"
    root := .node (some "html") none [] [
      .node (some "div") none [] [.node (some "div") none [] [.node none (some "a") [] []]]] }

def settingTexts : Configuration := .ofText "!querySelector(div, textContent) = X"

def nestedRun : Except MutationError (List Undo) × World :=
  (settingTexts.apply [] .document (.node Page.root "documentElement")).run { page := nestedPage }

theorem run_settingTexts :
    (settingTexts.apply [] .document (.node Page.root "documentElement")).run
      { page := nestedPage } = (.error (.noNode 2), nestedRun.2) := by
  have herror : nestedRun.1 = .error (.noNode 2) := by decide +kernel
  rw [← herror]
  rfl

theorem error_loses_records_nested :
    nestedPage.Reachable ∧ nestedRun.1 = .error (.noNode 2) ∧
      ∃ a done v, settingTexts.HasTurn [] .document (.node Page.root "documentElement")
        { page := nestedPage } a done v ∧ Edits { page := nestedPage } done v ∧
          (a.Refused v.page Page.root "documentElement" ∧ nestedRun.2 = v ∨
            a.Clashes v.page ∧ Change.Shrinks v nestedRun.2) := by
  have hpage : ({ page := nestedPage } : World).page.Reachable := .ofSnapshot _
  have herror : nestedRun.1 = .error (.noNode 2) := congrArg Prod.fst run_settingTexts
  have h := (error_loses_records settingTexts [] .document Page.root "documentElement"
    { configuration := settingTexts, commands := [] } hpage).1
  rw [run_settingTexts] at h
  obtain ⟨a, done, v, hturn, hdone, -, hleft⟩ := h
  exact ⟨hpage, herror, a, done, v, hturn, hdone, hleft⟩

theorem error_changes_snapshot :
    ¬ ∀ (c : Configuration) (repo : Repository) (g : TargetGroup) (n : NodeId) (path : String)
      (w w' : World) (e : MutationError), w.page.Reachable →
      (c.apply repo g (.node n path)).run w = (.error e, w') →
        w'.page.snapshot = w.page.snapshot := by
  intro h
  have hsame := h _ _ _ _ _ _ _ _ (.ofSnapshot _) run_settingTexts
  have helements : nestedRun.2.page.snapshot.root.elements = 2 := by decide +kernel
  have hbefore : nestedPage.snapshot.root.elements = 3 := by decide +kernel
  rw [hsame, hbefore] at helements
  cases helements

end Configuration
end PageOverlay
