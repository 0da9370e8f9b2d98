import PageOverlay.Cli.Sources
import PageOverlay.Configuration.Commands
import PageOverlay.Page.Snapshot
import PageOverlay.Run.Runner

/-!
# Reports

The forms in which the tool shows commands, configurations and runs.
-/

set_option autoImplicit false

namespace PageOverlay

namespace Json

def nat (n : Nat) : Json := .number (.natural n)

def strings (ss : List String) : Json := .array (ss.map .string)

def optional (name : String) (value : Option String) : List (String × Json) :=
  (value.map fun v => (name, Json.string v)).toList

end Json

def Entry.toJson (e : Entry) : Json := .object [
  ("name", .string e.name),
  ("aliases", .strings e.aliases),
  ("signature", .string e.signature.text),
  ("deprecated", .bool e.deprecated)]

def Variable.toJson (v : Variable) : Json := .object ([
  ("name", .string v.name),
  ("value", .string v.value),
  ("description", .string v.description)] ++ Json.optional "owner" v.owner)

def Diagnostic.toJson (d : Diagnostic) : Json :=
  .object [("line", .nat d.line), ("message", .string d.message)]

def RequestAction.text : RequestAction → String
  | .block => "block"
  | .delay => "delay"
  | .replace => "replace"

def RequestRule.toJson (r : RequestRule) : Json := .object ([
  ("action", .string r.action.text),
  ("url", .string r.url),
  ("value", .string r.value)] ++
  Json.optional "resource_types" r.resourceTypes ++ [
  ("include_rules", .strings r.includeRules),
  ("exclude_rules", .strings r.excludeRules)])

def ResponseAction.text : ResponseAction → String
  | .replace => "replace"
  | .patch => "patch"

def ResponseRule.toJson (r : ResponseRule) : Json := .object ([
  ("action", .string r.action.text),
  ("url", .string r.url)] ++
  Json.optional "search" r.search ++ [
  ("value", .string r.value)])

def TickStats.toJson (s : TickStats) : Json := .object [
  ("sum", .object [
    ("text", .nat s.text),
    ("input", .nat s.input),
    ("image", .nat s.image),
    ("dashboard", .nat s.dashboard)]),
  ("interval_ms", .nat s.interval),
  ("undo_length", .nat s.undoLength)]

namespace Cli

def summary (repo : Repository) (s : Source) (c : Configuration) : Json := .object [
  ("name", .string s.name),
  ("file", .string s.file),
  ("include", .strings (c.optionValues Configuration.includeKey)),
  ("imports", .strings (c.sheet.imports.map (·.name))),
  ("commands", .nat (c.commands repo).length),
  ("template", .bool c.isTemplate),
  ("deprecated", .bool c.isDeprecated)]

def details (repo : Repository) (s : Source) (c : Configuration) : Json := .object [
  ("name", .string s.name),
  ("file", .string s.file),
  ("options", .object (c.sheet.options.map fun (key, values) => (key, .strings values))),
  ("imports", .strings (c.sheet.imports.map (·.name))),
  ("namespaces", .strings (c.namespaces repo)),
  ("variables", .array ((c.knownVariables repo).map Variable.toJson)),
  ("commands", .nat (c.commands repo).length),
  ("diagnostics", .array ((c.diagnostics repo).map Diagnostic.toJson))]

def ticksOf : List Event → List TickStats
  | [] => []
  | .applied stats :: rest => stats :: ticksOf rest
  | _ :: rest => ticksOf rest

def failuresOf : List Event → List Json
  | [] => []
  | .failed configuration message :: rest =>
    .object [("configuration", .string configuration), ("message", .string message)] ::
      failuresOf rest
  | _ :: rest => failuresOf rest

def outcome (location : String) (started ticks : Nat) (r : Runner) : Json :=
  let events := r.events.toList
  .object [
    ("location", .string location),
    ("started", .nat started),
    ("ticks", .nat ticks),
    ("undo_length", .nat r.undo.size),
    ("applied", .array ((ticksOf events).map TickStats.toJson)),
    ("failures", .array (failuresOf events)),
    ("url_rules", .array (r.world.requests.rules.map RequestRule.toJson)),
    ("inline_rules", .array (r.world.responses.rules.map ResponseRule.toJson)),
    ("document", r.world.page.snapshot.toJson)]

end Cli
end PageOverlay
