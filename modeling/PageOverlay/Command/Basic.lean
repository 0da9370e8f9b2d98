import PageOverlay.Change.Undo
import PageOverlay.Selector.Basic
import PageOverlay.Selector.Parser
import PageOverlay.Sheet.Basic
import PageOverlay.Sheet.Parameters

/-!
# Commands

What a line of a sheet does: an action on one target, an action under a condition, several actions
as one, or nothing when the line could not be built.
-/

set_option autoImplicit false

namespace PageOverlay

inductive CommandError
  | line (number : Nat) (fault : Sheet.LineFault)
  | malformed (invocation : String)
  | unknownCommand (name : String)
  | unknownNamespace (name : String)
  | notCallable (name : String)
  | missing (command : String) (position : Nat) (parameter : String)
  | parameters (source : List Char) (fault : Sheet.ParameterFault)
  | noNumber (command : String) (position : Nat) (given : String)
  | pattern (e : PatternError)
  | selector (e : SelectorError)
  deriving DecidableEq, Repr

def CommandError.message : CommandError → String
  | .line number fault => "Syntax error at line " ++ toString number ++ ": " ++ fault.message
  | .malformed invocation => "Malformed command invocation: '" ++ invocation ++ "'"
  | .unknownCommand name => "Unknown command: '" ++ name ++ "'"
  | .unknownNamespace name => "Unknown namespace: '" ++ name ++ "'"
  | .notCallable name => "'" ++ name ++ "' is a namespace, not a command"
  | .missing command position parameter =>
    "Command '" ++ command ++ "' requires parameter #" ++ toString position ++ " (" ++ parameter
      ++ ")"
  | .parameters source fault => "Invalid parameter list: " ++ fault.message source
  | .noNumber command position given =>
    "Invalid parameter list: " ++ command ++ ": expected a number at position "
      ++ toString position ++ ", got '" ++ given ++ "'"
  | .pattern e => e.message
  | .selector e => e.message

inductive TargetGroup
  | text
  | input
  | image
  | dashboard
  | document
  | url
  | ajax
  | other
  deriving DecidableEq, Repr

namespace TargetGroup

def all : List TargetGroup := [.text, .input, .image, .dashboard, .document, .url, .ajax, .other]

def name : TargetGroup → String
  | .text => "text"
  | .input => "input"
  | .image => "image"
  | .dashboard => "ad-dashboard"
  | .document => "document"
  | .url => "url"
  | .ajax => "ajax"
  | .other => "other"

def ofName (s : String) : TargetGroup := (all.find? (·.name == s)).getD .other

def isText (g : TargetGroup) : Bool := g == .text || g == .input

end TargetGroup

inductive InsertPlace
  | start
  | finish
  deriving DecidableEq, Repr

def InsertPlace.text : InsertPlace → String
  | .start => "afterbegin"
  | .finish => "beforeend"

/-- What a single command does. Levels count upwards from the element around the target, which is
level one. -/
inductive Action
  | replace (search : Pattern) (replacement location : String) (within : Option Selector)
      (attr : Option String)
  | protect (word location : String) (within : Option Selector)
  | replaceNeighbor (search : Pattern) (replacement : String) (level : Nat) (neighbor : Selector)
      (location : String) (within : Option Selector)
  | hide (search : Pattern) (level : Nat) (upTo : Option Selector) (location hash : String)
  | style (search : Pattern) (property : String) (level : Nat) (value : String)
  | insert (place : InsertPlace) (search : Pattern) (html : String) (level : Nat)
      (within : Option Selector)
  | replaceImage (searches : List Pattern) (replacement : String)
  | recolorImage (search : Pattern) (color : String)
  | stage (location title name : String)
  | querySelector (selector : Selector) (property value : String)
  | overwrite (location : String) (selector : Option Selector) (html : String)
  | addScript (src : Option String) (script : String)
  | request (rule : RequestRule)
  | response (rule : ResponseRule)

inductive Command
  | action (a : Action)
  | conditional (location : String) (within : Option Selector) (inner : Command)
  | group (commands : List Command)
  | faulty (reason : CommandError)

/-- What a command is applied to: a property of a node, or one of the rule books. -/
inductive Target
  | node (n : NodeId) (path : String)
  | requests
  | responses
  deriving DecidableEq, Repr

def joiner : Char := '\u2060'

/-- The word with a joiner between each two of its characters. -/
def guarded (word : List Char) : List Char := word.intersperse joiner

namespace Action

def name : Action → String
  | .replace .. => "replace"
  | .protect .. => "protect"
  | .replaceNeighbor .. => "replaceNeighbor"
  | .hide .. => "hide"
  | .style .. => "style"
  | .insert .start .. => "insertBefore"
  | .insert .finish .. => "insertAfter"
  | .replaceImage .. => "replaceImage"
  | .recolorImage .. => "recolorImage"
  | .stage .. => "stage"
  | .querySelector .. => "querySelector"
  | .overwrite .. => "overwriteHTML"
  | .addScript .. => "addScript"
  | .request rule =>
    match rule.action with
    | .block => "blockUrl"
    | .delay => "delayUrl"
    | .replace => "replaceUrl"
  | .response rule =>
    match rule.action with
    | .replace => "replaceAjaxResponse"
    | .patch => "patchAjaxResponse"

def appliesTo (a : Action) (g : TargetGroup) : Bool :=
  match a with
  | .replace .. | .protect .. | .replaceNeighbor .. | .hide .. | .style .. | .insert .. => g.isText
  | .replaceImage .. | .recolorImage .. => g == .image
  | .stage .. | .querySelector .. | .overwrite .. | .addScript .. => g == .document
  | .request _ => g == .url
  | .response _ => g == .ajax

/-- The action that runs after all others; it puts protected words back. -/
def release? : Action → Option Action
  | .protect word _ _ => some (.replace (.literal (guarded word.toList)) word "" none none)
  | _ => none

end Action

namespace Command

def name : Command → String
  | .action a => a.name
  | .conditional .. => "if"
  | .group _ => "group"
  | .faulty _ => "error"

mutual

def appliesTo (g : TargetGroup) : Command → Bool
  | .action a => a.appliesTo g
  | .conditional _ _ inner => appliesTo g inner
  | .group commands => allApplyTo g commands
  | .faulty _ => false

def allApplyTo (g : TargetGroup) : List Command → Bool
  | [] => true
  | c :: cs => appliesTo g c && allApplyTo g cs

end

/-- A condition keeps its inner command's release to itself. -/
def release? : Command → Option Command
  | .action a => a.release?.map .action
  | _ => none

def error? : Command → Option CommandError
  | .faulty reason => some reason
  | _ => none

end Command
end PageOverlay
