import PageOverlay.Proofs.Change.Outcome
import PageOverlay.Run.Runner

/-!
# The parts of a tick

A tick cares for shortened labels, visits the nodes of all groups, then the document as a whole, and
reports. What holds of a visit to a node, and is handed on from part to part, holds of all visits.
-/

set_option autoImplicit false

namespace PageOverlay.Runner

theorem addUndo_nil (r : Runner) : addUndo [] r = r := rfl

theorem addUndo_of_ne {us : List Undo} (h : us ≠ []) (r : Runner) :
    addUndo us r = notify { r with
      tracking := r.tracking && decide (r.undo.size ≤ r.undoLimit)
      undo := if r.tracking && decide (r.undo.size ≤ r.undoLimit) then r.undo ++ us.toArray
        else r.undo } (.changed us) := by
  have hempty : us.isEmpty = false := List.isEmpty_eq_false_iff.mpr h
  rw [addUndo, hempty]
  cases ht : r.tracking with
  | false =>
    have hsame : { r with tracking := false } = r := by rw [← ht]
    simp [hsame]
  | true =>
    by_cases hl : r.undoLimit < r.undo.size
    · simp [hl, Nat.not_le_of_lt hl]
    · simp [hl, Nat.le_of_not_lt hl]

theorem run_recorded (x : Change (List Undo)) (r : Runner) :
    (recorded x).run r =
      match x.run r.world with
      | (.ok us, w) => (.ok (), addUndo us { r with world := w })
      | (.error e, w) => (.error e, { r with world := w }) := by
  have hchange : (change x).run r = ((x.run r.world).1, { r with world := (x.run r.world).2 }) :=
    rfl
  rw [recorded, Change.run_bind, hchange]
  rcases x.run r.world with ⟨e | us, w⟩ <;> rfl

structure Counts where
  text : Nat
  input : Nat
  image : Nat
  dashboard : Nat
  deriving DecidableEq, Repr

def tidy (c : Configuration) (commands : List Command) : Tick Unit := do
  if (← get).labels then recorded (Labels.normalize { configuration := c, commands })

def visitGroups (c : Configuration) (commands : List Command) : Tick Counts := do
  let texts ← applyGroup c commands .bodyText .text Page.dataPath
  let attributes ← applyAttributes c commands c.textAttributes
  let input ← applyGroup c commands inputs .input "value"
  let image ← applyGroup c commands images .image "src"
  let widgets ← applyGroup c commands imageWidgets .image Action.backgroundPath
  let dashboard ← applyGroup c commands dashboards .dashboard "style"
  recorded (c.applyCommands commands .text (.node Page.root "title"))
  pure { text := texts + attributes, input, image := image + widgets, dashboard }

def documentTarget : Target := .node Page.root "documentElement"

def visitDocument (c : Configuration) (commands : List Command) : Tick Unit :=
  recorded (c.applyCommands commands .document documentTarget)

def report (counts : Counts) : Tick TickStats := do
  let r ← get
  let stats : TickStats := {
    text := counts.text, input := counts.input, image := counts.image
    dashboard := counts.dashboard, interval := r.interval, undoLength := r.undo.size }
  modify (·.notify (.applied stats))
  pure stats

theorem applyTick_eq (c : Configuration) (commands : List Command) :
    applyTick c commands = (do
      tidy c commands
      let counts ← visitGroups c commands
      visitDocument c commands
      report counts) := by
  simp only [applyTick, tidy, visitGroups, visitDocument, documentTarget, report, bind_assoc,
    pure_bind]
  refine bind_congr fun r => ?_
  split
  · rfl
  · exact (pure_bind _ _).symm

/-- A property of computations that is handed on from part to part, and that all visits to nodes
have, the ones to the document as a whole apart. -/
structure VisitRule (P : (α : Type) → Tick α → Prop) (c : Configuration) (commands : List Command) :
    Prop where
  pure {α : Type} (a : α) : P α (Pure.pure a)
  bind {α β : Type} {x : Tick α} {f : α → Tick β} (hx : P α x) (hf : ∀ a, P β (f a)) :
    P β (x >>= f)
  page {α : Type} {f : Page → Tick α} (hf : ∀ p, P α (f p)) :
    P α (MonadState.get >>= fun r => f r.world.page)
  visit {g : TargetGroup} {path : String} (n : NodeId) (hg : g ≠ .document) (hp : path ≠ "") :
    P Unit (recorded (c.applyCommands commands g (.node n path)))

namespace VisitRule

variable {P : (α : Type) → Tick α → Prop} {c : Configuration} {commands : List Command}
  {g : TargetGroup} {path : String}

theorem applyEach (h : VisitRule P c commands) (hg : g ≠ .document) (hp : path ≠ "")
    (ns : List NodeId) : P Unit (Runner.applyEach c commands g path ns) := by
  induction ns with
  | nil => exact h.pure ()
  | cons n ns ih => exact h.bind (h.visit n hg hp) fun _ => ih

theorem applyGroup (h : VisitRule P c commands) (hg : g ≠ .document) (hp : path ≠ "")
    (s : Selector) : P Nat (Runner.applyGroup c commands s g path) := by
  have hpage : ∀ p : Page, P Nat (do
      Runner.applyEach c commands g path (p.query s)
      Pure.pure (p.query s).length) := fun p => h.bind (h.applyEach hg hp _) fun _ => h.pure _
  exact h.page hpage

theorem applyAttributes (h : VisitRule P c commands) (names : List String) :
    P Nat (Runner.applyAttributes c commands names) := by
  induction names with
  | nil => exact h.pure 0
  | cons name rest ih =>
    have hrest : ∀ first, P Nat (do
        let others ← Runner.applyAttributes c commands rest
        Pure.pure (first + others)) := fun first => h.bind ih fun others => h.pure _
    rw [Runner.applyAttributes]
    split
    · next s hs =>
      refine h.bind (h.applyGroup (by decide) ?_ s) hrest
      rintro rfl
      have hnone : (Selector.parse "[]").toOption = none := by decide +kernel
      change Selector.parse "[]" = .ok s at hs
      rw [hs] at hnone
      cases hnone
    · exact h.bind (h.pure 0) hrest

theorem visitGroups (h : VisitRule P c commands) :
    P Counts (Runner.visitGroups c commands) := by
  refine h.bind (h.applyGroup (by decide) (by decide) _) fun texts => ?_
  refine h.bind (h.applyAttributes _) fun attributes => ?_
  refine h.bind (h.applyGroup (by decide) (by decide) _) fun input => ?_
  refine h.bind (h.applyGroup (by decide) (by decide) _) fun image => ?_
  refine h.bind (h.applyGroup (by decide) (by decide) _) fun widgets => ?_
  refine h.bind (h.applyGroup (by decide) (by decide) _) fun dashboard => ?_
  exact h.bind (h.visit _ (by decide) (by decide)) fun _ => h.pure _

end VisitRule
end PageOverlay.Runner
