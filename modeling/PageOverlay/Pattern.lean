import PageOverlay.Regex.Reader
import PageOverlay.Regex.Search
import PageOverlay.Regex.Template
import PageOverlay.Text.Search

/-!
# Search terms

A search term is either a regular expression between slashes, with flags after the second, or a
text that is looked for as it stands.
-/

set_option autoImplicit false

namespace PageOverlay

structure Finder where
  expression : Regex.Expression
  program : Regex.Program

namespace Finder

def ofExpression (e : Regex.Expression) : Finder :=
  { expression := e, program := Regex.program e.body e.groups }

def isMatch (r : Finder) (subject : List Char) : Bool :=
  Regex.hasMatch r.program subject.toArray

def slice (text : Array Char) (span : Nat × Nat) : List Char := (text.extract span.1 span.2).toList

def groupText (text : Array Char) (slots : Regex.Slots) (n : Nat) : List Char :=
  match Regex.group? slots n with
  | some span => slice text span
  | none => []

def partText (r : Finder) (text : Array Char) (slots : Regex.Slots) :
    Regex.TemplatePart → List Char
  | .text cs => cs
  | .number n => groupText text slots n
  | .name s =>
    match r.expression.names.find? (·.1 == s) with
    | some (_, n) => groupText text slots n
    | none => []

/-- The text between the matches with each match replaced; `pos` is where the last one ended. -/
def rebuild (text : Array Char) (fill : Regex.Slots → List Char) :
    Nat → List Regex.Slots → List Char
  | pos, [] => slice text (pos, text.size)
  | pos, m :: rest =>
    match Regex.group? m 0 with
    | some (a, b) => slice text (pos, a) ++ fill m ++ rebuild text fill b rest
    | none => rebuild text fill pos rest

def replaceAll (r : Finder) (subject template : List Char) : List Char :=
  let text := subject.toArray
  let parts := Regex.Template.parts template
  rebuild text (fun m => parts.flatMap (r.partText text m)) 0 (Regex.matchesOf r.program text)

end Finder

inductive PatternError
  | unreadable (shown : String)
  | unsupportedFlag (shown : String) (flag : Char)
  deriving DecidableEq, Repr

def PatternError.message : PatternError → String
  | .unreadable shown => "Invalid regular expression '" ++ shown ++ "': ..."
  | .unsupportedFlag shown flag =>
    "Invalid regular expression '" ++ shown ++ "': unsupported flag '" ++ String.singleton flag
      ++ "'"

inductive Pattern
  | literal (needle : List Char)
  | regex (finder : Finder)

namespace Pattern

def isFlag (c : Char) : Bool := c == 'g' || c == 'i' || c == 'm' || c == 's' || c == 'u'

/-- The flags of a search term. Every search is global and by Unicode rules, so two of the letters
change nothing. -/
def readFlags (shown : String) : List Char → Regex.Flags → Except PatternError Regex.Flags
  | [], f => .ok f
  | c :: cs, f =>
    match c with
    | 'g' | 'u' => readFlags shown cs f
    | 'i' => readFlags shown cs { f with ignoreCase := true }
    | 'm' => readFlags shown cs { f with multiLine := true }
    | 's' => readFlags shown cs { f with dotNewline := true }
    | other => .error (.unsupportedFlag shown other)

def compile (body flags : List Char) : Except PatternError Pattern := do
  let shown := String.ofList ('/' :: body ++ '/' :: flags)
  let f ← readFlags shown flags {}
  match Regex.read? f body with
  | some e => .ok (.regex (.ofExpression e))
  | none => .error (.unreadable shown)

def slashed? (cs : List Char) : Option (List Char × List Char) :=
  match cs with
  | '/' :: rest =>
    match Text.cutAtLast? '/' rest with
    | some (body, flags) =>
      if !body.isEmpty && !body.contains '\n' && flags.all isFlag then some (body, flags) else none
    | none => none
  | _ => none

def isSlashed (cs : List Char) : Bool := (slashed? cs).isSome

def parse (cs : List Char) : Except PatternError Pattern :=
  match slashed? cs with
  | some (body, flags) => compile body flags
  | none => .ok (.literal cs)

def isRegex : Pattern → Bool
  | .literal _ => false
  | .regex _ => true

def isMatch (p : Pattern) (subject : List Char) : Bool :=
  match p with
  | .literal needle => !needle.isEmpty && Text.occursIn needle subject
  | .regex r => r.isMatch subject

def replaceAll (p : Pattern) (subject replacement : List Char) : List Char :=
  match p with
  | .literal [] => subject
  | .literal (n :: ns) => Text.replaceAll n ns replacement subject
  | .regex r => r.replaceAll subject replacement

end Pattern

/-- Whether a rule for locations admits one. The empty rule admits all, one that cannot be read
admits none. -/
def locationMatches (rule location : List Char) : Bool :=
  let rule := Text.trim rule
  rule.isEmpty ||
    match Pattern.parse rule with
    | .ok p => p.isMatch location
    | .error _ => false

end PageOverlay
