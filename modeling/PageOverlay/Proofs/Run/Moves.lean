import PageOverlay.Run.Runner

/-!
# Moves

What the owner of a runner does with it: it starts and stops, time passes, a configuration is
applied out of turn, or the page is edited. Of the runs between a start and a stop some consist of
ticks and of writes from outside only.
-/

set_option autoImplicit false

namespace PageOverlay.Runner

inductive Move
  | start
  | stop
  | advance (span : Nat)
  | apply (c : Configuration) (commands : List Command)
  | applyOnce (c : Configuration) (commands : List Command)
  | edit (f : Page → Page)

def Move.make (r : Runner) : Move → Runner
  | .start => r.start.2
  | .stop => r.stop
  | .advance span => (r.advanceBy span).2
  | .apply c commands => ((applyTick c commands).run r).2
  | .applyOnce c commands => ((applyRules c commands).run r).2
  | .edit f => { r with world := { r.world with page := f r.world.page } }

def play (r : Runner) : List Move → Runner
  | [] => r
  | move :: moves => (move.make r).play moves

theorem play_append (r : Runner) (moves later : List Move) :
    r.play (moves ++ later) = (r.play moves).play later := by
  induction moves generalizing r with
  | nil => rfl
  | cons move moves ih => exact ih (move.make r)

inductive Act
  | advance (span : Nat)
  | write (n : NodeId) (path value : String)

/-- A write that is refused changes nothing. -/
def Act.move : Act → Move
  | .advance span => .advance span
  | .write n path value => .edit fun p => (p.setProperty n path value).toOption.getD p

def runActs (r : Runner) (acts : List Act) : Runner := r.play (acts.map Act.move)

end PageOverlay.Runner
