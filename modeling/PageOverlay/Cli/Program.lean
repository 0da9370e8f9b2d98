import PageOverlay.Cli.Arguments
import PageOverlay.Cli.Outline
import PageOverlay.Cli.Report

/-!
# The program

The answer to a request, from what stands on the disk and in the environment: a text to print, or
a failure. Nothing of the disk is looked at but the request's paths.
-/

set_option autoImplicit false

namespace PageOverlay.Cli

inductive Ending
  | printed (text : String)
  | failed (reason : Failure)
  deriving DecidableEq, Repr

def Failure.exitCode : Failure → Nat
  | .misuse => 2
  | .invalidDocument => 3
  | .unreadable => 4
  | .notFound _ => 5

def Failure.message : Failure → String
  | .misuse => "Invalid arguments"
  | .invalidDocument => "Invalid document"
  | .unreadable => "IO error"
  | .notFound name => "Configuration not found: " ++ name

def versionText : String := "mnky 0.1.0\n"

def usageText : String :=
  "Usage: mnky [-D] config list [-s SOURCE] [-o text|json]\n" ++
  "       mnky [-D] config show [-s SOURCE] -n NAME [-o text|json]\n" ++
  "       mnky [-D] commands [--deprecated] [-o text|json]\n" ++
  "       mnky [-D] run [-s SOURCE] [-n NAME]... -d DOCUMENT [--ticks N] [--interval MS]\n" ++
  "            [--no-undo] [--undo-limit N] [--revert] [-v NAME=VALUE]... [-o text|json]\n"

def write (form : Form) (j : Json) : String :=
  match form with
  | .text => j.outline
  | .json => j.pretty ++ "\n"

def writeAll (form : Form) (title empty : String) (js : List Json) : String :=
  match form with
  | .json => (Json.array js).pretty ++ "\n"
  | .text =>
    if js.isEmpty then empty ++ "\n"
    else (if title.isEmpty then "" else title ++ "\n") ++ (Json.array js).outline

namespace Request

def paths : Request → List String
  | .list source _ => [source]
  | .detail source _ _ => [source]
  | .catalogue _ _ => []
  | .run r => [r.source, r.document]

def configurationOf (globals : List Variable) (s : Source) : Configuration :=
  { Configuration.ofText s.text with globals }

def repositoryOf (globals : List Variable) (sources : List Source) : Repository :=
  sources.foldl (fun r s => Repository.add s.name (configurationOf globals s) r) []

def withConfigurations (repo : Repository) (sources : List Source) :
    List (Source × Configuration) :=
  sources.filterMap fun s => (repo.find? s.name).map fun c => (s, c)

def answerList (disk : Disk) (environment : List (String × String)) (source : String)
    (form : Form) : Except Failure String := do
  let sources ← Source.load disk source
  let repo := repositoryOf (← Globals.load disk environment source) sources
  pure (writeAll form "" "No configurations found"
    ((withConfigurations repo sources).map fun (s, c) => summary repo s c))

def answerDetail (disk : Disk) (environment : List (String × String)) (source name : String)
    (form : Form) : Except Failure String := do
  let sources ← Source.load disk source
  if !sources.any (·.name == name) then throw (.notFound name)
  let repo := repositoryOf (← Globals.load disk environment source) sources
  match (withConfigurations repo sources).find? (·.1.name == name) with
  | some (s, c) => pure (write form (details repo s c))
  | none => throw (.notFound name)

def answerCatalogue (deprecated : Bool) (form : Form) : String :=
  writeAll form "Available commands:" "No commands registered"
    ((Catalogue.entries.filter fun e => deprecated || !e.deprecated).map Entry.toJson)

def entryOf (r : RunRequest) (globals : List Variable) (s : Source) : String × Configuration :=
  let c := configurationOf globals s
  let enabled := if r.names.isEmpty then !c.isTemplate else r.names.contains s.name
  (s.name, { c with enabled, values := if enabled then r.values else [] })

def pageAt (disk : Disk) (path : String) : Except Failure Snapshot :=
  match disk path with
  | some (.file (some text)) =>
    match (Json.readRaw? text.toList).bind Snapshot.ofJson? with
    | some s => .ok s
    | none => .error .invalidDocument
  | _ => .error .unreadable

def tickAll : Nat → Runner → Runner
  | 0, r => r
  | n + 1, r => tickAll n (r.advanceBy r.period).2

def answerRun (disk : Disk) (environment : List (String × String)) (r : RunRequest) :
    Except Failure String := do
  let sources ← Source.load disk r.source
  match r.names.find? fun name => !sources.any (·.name == name) with
  | some name => throw (.notFound name)
  | none => pure ()
  let globals ← Globals.load disk environment r.source
  let snapshot ← pageAt disk r.document
  let options : RunOptions :=
    { withUndo := r.withUndo, interval := milliseconds r.interval, undoLimit := r.undoLimit }
  let runner := Runner.create (Page.ofSnapshot snapshot) (sources.map (entryOf r globals)) options
    true
  let (started, runner) := runner.start
  let runner := tickAll r.ticks runner
  let runner := if r.revert then runner.stop else runner
  pure (write r.form (outcome snapshot.location started r.ticks runner))

def answer (disk : Disk) (environment : List (String × String)) (q : Request) :
    Except Failure String :=
  if !q.paths.all fun path => (disk path).isSome then .error .misuse
  else match q with
    | .list source form => answerList disk environment source form
    | .detail source name form => answerDetail disk environment source name form
    | .catalogue deprecated form => .ok (answerCatalogue deprecated form)
    | .run r => answerRun disk environment r

end Request

/-- What the program answers to its arguments. -/
def respond (disk : Disk) (environment : List (String × String)) (args : List String) : Ending :=
  match Arguments.read args with
  | .error .usage => .printed usageText
  | .error .version => .printed versionText
  | .error .misuse => .failed .misuse
  | .ok request =>
    match request.answer disk environment with
    | .ok text => .printed text
    | .error reason => .failed reason

end PageOverlay.Cli
