import PageOverlay.Run.Clock
import PageOverlay.Run.Labels

/-!
# Runs

A runner applies configurations to one page. Starting schedules those that are switched on and in
force at the page's location: rules once, everything else on every tick. Stopping takes the
recorded changes back, the last one first. A change is recorded until there are too many.
-/

set_option autoImplicit false

namespace PageOverlay

inductive RunState
  | idle
  | scheduled
  | running
  | stopped
  deriving DecidableEq, Repr

inductive Job
  | rules (place : Nat)
  | tick (place : Nat)
  deriving DecidableEq, Repr

structure TickStats where
  text : Nat
  input : Nat
  image : Nat
  dashboard : Nat
  interval : Nat
  undoLength : Nat
  deriving DecidableEq, Repr

inductive Event
  | changed (elements : List Undo)
  | applied (stats : TickStats)
  | failed (configuration message : String)
  deriving DecidableEq, Repr

structure RunOptions where
  withUndo : Bool := true
  interval : Nat := milliseconds 100
  undoLimit : Nat := 50000
  deriving DecidableEq, Repr

structure Managed where
  name : String
  configuration : Configuration
  commands : List Command
  state : RunState := .idle

def Managed.isActive (m : Managed) : Bool := m.state == .scheduled || m.state == .running

structure Runner where
  world : World
  repository : Repository
  managed : Array Managed
  labels : Bool := true
  undo : Array Undo := #[]
  tracking : Bool
  undoLimit : Nat
  period : Nat
  clock : Clock Job := {}
  jobs : List Nat := []
  events : Array Event := #[]

abbrev Tick := ExceptT MutationError (StateM Runner)

namespace Runner

def shortestInterval : Nat := milliseconds 100

def interval (r : Runner) : Nat := min (wholeMilliseconds r.period) (UInt64.size - 1)

/-- Ticks never follow each other faster than the shortest interval. -/
def create (page : Page) (configurations : List (String × Configuration)) (options : RunOptions)
    (labels : Bool) : Runner :=
  let repository := configurations.foldl (fun r (n, c) => Repository.add n c r) []
  { world := { page }
    repository
    managed := (configurations.map fun (name, configuration) =>
      { name, configuration, commands := configuration.commands repository : Managed }).toArray
    labels
    tracking := options.withUndo
    undoLimit := options.undoLimit
    period := max options.interval shortestInterval }

def isRunning (r : Runner) : Bool := !r.jobs.isEmpty

def activeCount (r : Runner) : Nat := (r.managed.toList.filter (·.isActive)).length

def state? (r : Runner) (name : String) : Option RunState :=
  (r.managed.toList.find? (·.name == name)).map (·.state)

def find? (r : Runner) (name : String) : Option Managed :=
  r.managed.toList.reverse.find? (·.name == name)

def notify (r : Runner) (e : Event) : Runner := { r with events := r.events.push e }

def isDue (r : Runner) (m : Managed) : Bool :=
  m.configuration.enabled && m.configuration.isEnabledFor r.repository r.world.page.location

def schedule (place : Nat) (r : Runner) : Runner :=
  let (first, clock) := r.clock.once r.period (.rules place)
  let (second, clock) := clock.repeating r.period (.tick place)
  { r with
    clock
    jobs := r.jobs ++ [first, second]
    managed := r.managed.modify place fun m => { m with state := .scheduled } }

def duePlaces (r : Runner) : List Nat :=
  (List.range r.managed.size).filter fun place =>
    match r.managed[place]? with
    | some m => r.isDue m
    | none => false

def start (r : Runner) : Nat × Runner :=
  if r.isRunning then (r.activeCount, r)
  else
    let places := r.duePlaces
    (places.length, places.foldl (fun r place => r.schedule place) r)

def revertAll : List Undo → World → World
  | [], w => w
  | u :: us, w => revertAll us (u.revert.run w).2

/-- Ends the run: no job is left, and unless recording was given up all changes are taken back. -/
def stop (r : Runner) : Runner :=
  let clock := r.jobs.foldl (fun c id => c.cancel id) r.clock
  let managed := r.managed.map fun m => if m.isActive then { m with state := .stopped } else m
  let w := if r.tracking then revertAll r.undo.toList.reverse r.world else r.world
  { r with
    clock
    managed
    jobs := []
    undo := #[]
    world := { w with requests := w.requests.clear, responses := w.responses.clear } }

/-- Records changes and tells of them. Once the record is longer than the limit, recording is given
up. -/
def addUndo (elements : List Undo) (r : Runner) : Runner :=
  if elements.isEmpty then r
  else
    let r :=
      if r.tracking then
        if r.undoLimit < r.undo.size then { r with tracking := false }
        else { r with undo := r.undo ++ elements.toArray }
      else r
    r.notify (.changed elements)

def change {α : Type} (x : Change α) : Tick α := fun r =>
  let (result, w) := x.run r.world
  (result, { r with world := w })

def recorded (x : Change (List Undo)) : Tick Unit := do
  let elements ← change x
  modify (addUndo elements)

def applyRules (c : Configuration) (commands : List Command) : Tick Unit := do
  recorded (c.applyCommands commands .url .requests)
  recorded (c.applyCommands commands .ajax .responses)

def applyEach (c : Configuration) (commands : List Command) (g : TargetGroup) (path : String) :
    List NodeId → Tick Unit
  | [] => pure ()
  | n :: ns => do
    recorded (c.applyCommands commands g (.node n path))
    applyEach c commands g path ns

def applyGroup (c : Configuration) (commands : List Command) (s : Selector) (g : TargetGroup)
    (path : String) : Tick Nat := do
  let nodes := (← get).world.page.query s
  applyEach c commands g path nodes
  pure nodes.length

/-- Applies a configuration to attributes that hold text, and counts the nodes. An attribute whose
name makes no selector is passed over. -/
def applyAttributes (c : Configuration) (commands : List Command) : List String → Tick Nat
  | [] => pure 0
  | name :: rest => do
    let first ← match Selector.parse ("[" ++ name ++ "]") with
      | .ok s => applyGroup c commands s .text name
      | .error _ => pure 0
    let others ← applyAttributes c commands rest
    pure (first + others)

def inputs : Selector := .known "body input"
def images : Selector := .known "body img"
def imageWidgets : Selector := .known "body div[ad-test-id*=dash-image-widget-renderer]"
def dashboards : Selector := .known "body div[class*=ads-dashboard-canvas-pane]"

/-- One tick of a configuration over all groups of targets; later groups see what earlier ones
have changed. -/
def applyTick (c : Configuration) (commands : List Command) : Tick TickStats := do
  if (← get).labels then recorded (Labels.normalize { configuration := c, commands })
  let texts ← applyGroup c commands .bodyText .text Page.dataPath
  let attributes ← applyAttributes c commands c.textAttributes
  let input ← applyGroup c commands inputs .input "value"
  let image ← applyGroup c commands images .image "src"
  let widgets ← applyGroup c commands imageWidgets .image Action.backgroundPath
  let dashboard ← applyGroup c commands dashboards .dashboard "style"
  recorded (c.applyCommands commands .text (.node Page.root "title"))
  recorded (c.applyCommands commands .document (.node Page.root "documentElement"))
  let r ← get
  let stats : TickStats := {
    text := texts + attributes, input, image := image + widgets, dashboard
    interval := r.interval, undoLength := r.undo.size }
  modify (·.notify (.applied stats))
  pure stats

/-- Runs one job. An error ends the job and is told, and nothing else. -/
def runJob (job : Job) (r : Runner) : Runner :=
  let place := match job with
    | .rules place => place
    | .tick place => place
  match r.managed[place]? with
  | none => r
  | some m =>
    let r := { r with managed := r.managed.modify place fun m => { m with state := .running } }
    let work : Tick Unit := match job with
      | .rules _ => applyRules m.configuration m.commands
      | .tick _ => do
        let _ ← applyTick m.configuration m.commands
    match work.run r with
    | (.ok _, r) => r
    | (.error e, r) => r.notify (.failed m.name e.message)

def runDue (limit : Nat) : Nat → Runner → Nat × Runner
  | 0, r => (0, r)
  | n + 1, r =>
    match r.clock.pop? limit with
    | none => (0, r)
    | some (timer, clock) =>
      let (count, r) := runDue limit n (runJob timer.job { r with clock })
      (count + 1, r)

def advanceBy (span : Nat) (r : Runner) : Nat × Runner :=
  let limit := r.clock.now + span
  let (count, r) := runDue limit (r.clock.dueCount limit) r
  (count, { r with clock := r.clock.advanceTo limit })

def advance (elapsed : Nat) (r : Runner) : Nat × Runner := r.advanceBy (milliseconds elapsed)

end Runner
end PageOverlay
