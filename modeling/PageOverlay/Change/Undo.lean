import PageOverlay.Page.Tree
import PageOverlay.Rule.Request
import PageOverlay.Rule.Response

/-!
# Changes and their undoing

Commands change a page and two rule books. A change that was made is recorded so that it can be
taken back later, unless someone else has changed the same property since. What was changed before
an error stays changed.
-/

set_option autoImplicit false

namespace PageOverlay

/-- Everything that commands can change. -/
structure World where
  page : Page
  requests : RequestRules := {}
  responses : ResponseRules := {}
  deriving DecidableEq, Repr

abbrev Change := ExceptT MutationError (StateM World)

/-- A recorded change. -/
inductive Undo
  | property (node : NodeId) (path before after : String)
  | insertion (node : NodeId)
  | requestRule (id : Nat)
  | responseRule (id : Nat)
  deriving DecidableEq, Repr

namespace Change

def page : Change Page := do pure (← get).page

def setPage (p : Page) : Change Unit := modify fun w => { w with page := p }

def ofExcept {α : Type} : Except MutationError α → Change α
  | .ok a => pure a
  | .error e => throw e

def setProperty (n : NodeId) (path value : String) : Change Unit := do
  let p ← page
  setPage (← ofExcept (p.setProperty n path value))

def remove (n : NodeId) : Change Unit := do
  let p ← page
  setPage (← ofExcept (p.remove n))

def insert (parent : NodeId) (tag : String) (properties : Fields String) : Change Undo := do
  let p ← page
  let (n, p) ← ofExcept (p.appendElement parent tag properties)
  setPage p
  pure (.insertion n)

/-- Sets a property and records it. A property that has the value already is left alone, and one
that is absent counts as empty. -/
def record (n : NodeId) (path value : String) : Change (Option Undo) := do
  let before := ((← page).property? n path).getD ""
  if before = value then pure none
  else
    setProperty n path value
    pure (some (.property n path before value))

def recordAll (path value : String) : List NodeId → Change (List Undo)
  | [] => pure []
  | n :: ns => do
    let first ← record n path value
    let others ← recordAll path value ns
    pure (first.toList ++ others)

def addRequest (rule : RequestRule) : Change Undo := do
  let w ← get
  let (id, requests) := w.requests.add rule
  set { w with requests }
  pure (.requestRule id)

def addResponse (rule : ResponseRule) : Change Undo := do
  let w ← get
  let (id, responses) := w.responses.add rule
  set { w with responses }
  pure (.responseRule id)

end Change

namespace Undo

/-- Takes a change back. A property that has another value by now, and a node that is gone, are
left alone. -/
def revert : Undo → Change Unit
  | .property n path before after => do
    if (← Change.page).property? n path = some after then Change.setProperty n path before
    else pure ()
  | .insertion n => do
    match (← Change.page).live? n with
    | some _ => Change.remove n
    | none => pure ()
  | .requestRule id => modify fun w => { w with requests := w.requests.remove id }
  | .responseRule id => modify fun w => { w with responses := w.responses.remove id }

end Undo
end PageOverlay
