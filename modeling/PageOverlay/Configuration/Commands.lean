import PageOverlay.Command.Apply
import PageOverlay.Command.Builder
import PageOverlay.Configuration.Imports
import PageOverlay.Sheet.Placeholder

/-!
# The commands of a configuration

Command lines in the order in which they apply, each import at the line that asks for it. Their
variables are filled in, and what they hold back until the end is released after all of them.
-/

set_option autoImplicit false

namespace PageOverlay

open Sheet (CommandLine)

structure PlacedLine where
  own : Bool
  command : CommandLine
  deriving DecidableEq, Repr

structure Diagnostic where
  line : Nat
  message : String
  deriving DecidableEq, Repr

namespace Configuration

def placedLines (repo : Repository) (c : Configuration) : List PlacedLine :=
  let blocks := (ImportTree.blocks (c.imports repo)).map fun (line, commands) =>
    (line, commands.map fun command => { own := false, command : PlacedLine })
  ImportTree.interleave (·.command.line) blocks
    (c.sheet.commands.map fun command => { own := true, command })

def scopes (repo : Repository) (c : Configuration) : Scopes := {
  values := c.values
  declared := c.sheet.declarations
  imported := c.importedVariables repo
  globals := c.globals }

/-- The key and the value of a line with their variables filled in. Lines of imports are at the top
level of the importing configuration. -/
def fillIn (s : Scopes) (l : PlacedLine) : Except CommandError (String × String) :=
  match l.command.body with
  | .faulty fault => .error (.line l.command.line fault)
  | .invocation key value =>
    let scope := if l.own then l.command.scope else ""
    .ok (s.substitute scope key, s.substitute scope value)

def builder (repo : Repository) (c : Configuration) : Builder := {
  namespaces := c.namespaces repo
  includeRules := c.rules repo includeKey
  excludeRules := c.rules repo excludeKey }

def tryLine (b : Builder) (s : Scopes) (l : PlacedLine) : Except CommandError Command :=
  match fillIn s l with
  | .ok (key, value) => b.tryBuild value key.toList
  | .error e => .error e

def lineCommand (b : Builder) (s : Scopes) (l : PlacedLine) : Command :=
  match tryLine b s l with
  | .ok command => command
  | .error e => .faulty e

def lineCommands (repo : Repository) (c : Configuration) : List Command :=
  (c.placedLines repo).map (lineCommand (c.builder repo) (c.scopes repo))

/-- The commands of all lines, and after them their releases in the same order. -/
def commands (repo : Repository) (c : Configuration) : List Command :=
  let built := c.lineCommands repo
  built ++ built.filterMap Command.release?

/-- The configuration's own lines that make no command, and why. -/
def diagnostics (repo : Repository) (c : Configuration) : List Diagnostic :=
  ((c.placedLines repo).filter (·.own)).filterMap fun l =>
    match tryLine (c.builder repo) (c.scopes repo) l with
    | .ok _ => none
    | .error e => some { line := l.command.line, message := e.message }

def runCommands (g : TargetGroup) (t : Target) : List Command → Change (List Undo)
  | [] => pure []
  | command :: rest =>
    if command.appliesTo g then do
      let first ← command.apply t
      let others ← runCommands g t rest
      pure (first.getD [] ++ others)
    else runCommands g t rest

def mayTouch (c : Configuration) (p : Page) : Target → Bool
  | .node n _ => !c.blocks p n
  | _ => true

def applyCommands (c : Configuration) (commands : List Command) (g : TargetGroup) (t : Target) :
    Change (List Undo) := do
  if c.mayTouch (← Change.page) t then runCommands g t commands else pure []

def apply (repo : Repository) (c : Configuration) (g : TargetGroup) (t : Target) :
    Change (List Undo) :=
  c.applyCommands (c.commands repo) g t

def transformWith (c : Configuration) (commands : List Command) (location text : String) :
    Except MutationError String :=
  let target := Target.node Page.root Page.scratchPath
  match (c.applyCommands commands .text target).run { page := .scratch location text } with
  | (.ok _, w) => .ok ((w.page.property? Page.root Page.scratchPath).getD "")
  | (.error e, _) => .error e

def transformText (repo : Repository) (c : Configuration) (location text : String) :
    Except MutationError String :=
  c.transformWith (c.commands repo) location text

end Configuration
end PageOverlay
