import PageOverlay.Run.Runner
import PageOverlay.Text.Hex

/-!
# Arguments

What the tool is asked to do: options with one dash and one letter, which may be written together,
or with two dashes and a word, before and after the words that name the request.
-/

set_option autoImplicit false

namespace PageOverlay.Cli

inductive Form
  | text
  | json
  deriving DecidableEq, Repr

structure RunRequest where
  source : String
  names : List String
  document : String
  ticks : Nat
  interval : Nat
  withUndo : Bool
  undoLimit : Nat
  revert : Bool
  values : Fields String
  form : Form
  deriving DecidableEq, Repr

inductive Request
  | list (source : String) (form : Form)
  | detail (source name : String) (form : Form)
  | catalogue (deprecated : Bool) (form : Form)
  | run (r : RunRequest)
  deriving DecidableEq, Repr

inductive Stop
  | misuse
  | usage
  | version
  deriving DecidableEq, Repr

structure Switch where
  long : String
  short : Option Char := none
  takesValue : Bool := true
  repeats : Bool := false
  deriving DecidableEq, Repr

/-- Options by their long names, with their values in the order in which they were given. -/
abbrev Given := List (String × String)

namespace Arguments

def debug : Switch := { long := "debug", short := some 'D', takesValue := false }
def help : Switch := { long := "help", short := some 'h', takesValue := false }
def version : Switch := { long := "version", short := some 'V', takesValue := false }
def source : Switch := { long := "source", short := some 's' }
def output : Switch := { long := "output", short := some 'o' }
def name : Switch := { long := "name", short := some 'n' }
def names : Switch := { name with repeats := true }
def document : Switch := { long := "document", short := some 'd' }
def ticks : Switch := { long := "ticks" }
def interval : Switch := { long := "interval" }
def noUndo : Switch := { long := "no-undo", takesValue := false }
def undoLimit : Switch := { long := "undo-limit" }
def revert : Switch := { long := "revert", takesValue := false }
def assignment : Switch := { long := "variable", short := some 'v', repeats := true }
def deprecated : Switch := { long := "deprecated", takesValue := false }

def runSwitches : List Switch :=
  [source, names, document, ticks, interval, noUndo, undoLimit, revert, assignment, output]

def note (s : Switch) : Except Stop (String × String) :=
  if s = help then .error .usage
  else if s = version then .error .version
  else .ok (s.long, "")

/-- The letters after one dash. The last may be an option whose value is the next argument. -/
def letters (known : List Switch) : List Char → Except Stop (Given × Option Switch)
  | [] => .ok ([], none)
  | c :: cs =>
    match known.find? (·.short == some c) with
    | none => .error .misuse
    | some s =>
      if s.takesValue then
        match cs with
        | [] => .ok ([], some s)
        | '=' :: value => .ok ([(s.long, String.ofList value)], none)
        | value => .ok ([(s.long, String.ofList value)], none)
      else do
        let first ← note s
        let (others, waiting) ← letters known cs
        pure (first :: others, waiting)

def word (known : List Switch) (cs : List Char) : Except Stop (Given × Option Switch) :=
  let (long, value) := match Text.cutAtFirst? '=' cs with
    | some (long, value) => (long, some value)
    | none => (cs, none)
  match known.find? (·.long.toList == long) with
  | none => .error .misuse
  | some s =>
    match s.takesValue, value with
    | true, none => .ok ([], some s)
    | true, some value => .ok ([(s.long, String.ofList value)], none)
    | false, none => (note s).map fun g => ([g], none)
    | false, some _ => .error .misuse

def isSwitch (a : String) : Bool := a.toList.head? == some '-' && a != "-"

/-- Reads options up to the first argument that is none. Nothing may follow two dashes alone. -/
def scan (known : List Switch) : List String → Except Stop (Given × List String)
  | [] => .ok ([], [])
  | a :: rest =>
    if !isSwitch a then .ok ([], a :: rest)
    else if a = "--" then if rest.isEmpty then .ok ([], []) else .error .misuse
    else do
      let (given, waiting) ← match a.toList with
        | '-' :: '-' :: cs => word known cs
        | cs => letters known (cs.drop 1)
      match waiting with
      | none =>
        let (others, rest) ← scan known rest
        pure (given ++ others, rest)
      | some s =>
        match rest with
        | [] => .error .misuse
        | value :: rest =>
          if isSwitch value then .error .misuse
          else
            let (others, rest) ← scan known rest
            pure (given ++ (s.long, value) :: others, rest)

def countOf (given : Given) (s : Switch) : Nat := (given.filter (·.1 == s.long)).length

def level (known : List Switch) (args : List String) : Except Stop (Given × List String) := do
  let (given, rest) ← scan known args
  if known.all fun s => s.repeats || countOf given s ≤ 1 then pure (given, rest)
  else throw .misuse

def lastLevel (known : List Switch) (args : List String) : Except Stop Given := do
  let (given, rest) ← level (known ++ [debug, help]) args
  if rest.isEmpty then pure given else throw .misuse

def valuesOf (given : Given) (s : Switch) : List String :=
  (given.filter (·.1 == s.long)).map (·.2)

def has (given : Given) (s : Switch) : Bool := given.any (·.1 == s.long)

def valueOr {α : Type} (default : α) (read : String → Option α) (given : Given) (s : Switch) :
    Except Stop α :=
  match valuesOf given s with
  | [] => .ok default
  | value :: _ =>
    match read value with
    | some a => .ok a
    | none => .error .misuse

def needed {α : Type} (read : String → Option α) (given : Given) (s : Switch) : Except Stop α :=
  match valuesOf given s with
  | [] => .error .misuse
  | value :: _ =>
    match read value with
    | some a => .ok a
    | none => .error .misuse

def readForm (s : String) : Option Form :=
  match String.ofList (s.toList.map Char.toLower) with
  | "text" => some .text
  | "json" => some .json
  | _ => none

def readCount (limit : Nat) (s : String) : Option Nat :=
  let digits := match s.toList with
    | '+' :: rest => rest
    | cs => cs
  (Text.decValue? digits).filter (· < limit)

def readTicks (s : String) : Option Nat :=
  match s.toList with
  | '-' :: rest => (Text.decValue? rest).filter (· == 0)
  | _ => readCount UInt32.size s

def isNameChar (c : Char) : Bool :=
  c.isAlphanum || c == '_' || c == '/' || c == '.' || c == '-'

def readName (s : String) : Option String :=
  match s.toList with
  | [] => none
  | c :: cs =>
    if Text.isNameStart c && cs.all isNameChar && cs.length < 100 then some s else none

def readAssignment (s : String) : Option (String × String) :=
  match Text.cutAtFirst? '=' s.toList with
  | some (c :: name, value) =>
    if Text.isNameStart c && name.all Text.isWord then
      some (String.ofList (c :: name), String.ofList value)
    else none
  | _ => none

def each {α : Type} (read : String → Option α) (given : Given) (s : Switch) :
    Except Stop (List α) :=
  match (valuesOf given s).mapM read with
  | some as => .ok as
  | none => .error .misuse

def sourceOf (given : Given) : Except Stop String := valueOr "." some given source

def formOf (given : Given) : Except Stop Form := valueOr .text readForm given output

def readRun (args : List String) : Except Stop RunRequest := do
  let given ← lastLevel runSwitches args
  pure {
    source := ← sourceOf given
    names := ← each readName given names
    document := ← needed some given document
    ticks := ← valueOr 1 readTicks given ticks
    interval := ← valueOr (wholeMilliseconds Runner.shortestInterval) (readCount UInt64.size) given
      interval
    withUndo := !has given noUndo
    undoLimit := ← valueOr ({} : RunOptions).undoLimit (readCount UInt64.size) given undoLimit
    revert := has given revert
    values := Fields.ofList (← each readAssignment given assignment)
    form := ← formOf given }

def readConfig (args : List String) : Except Stop Request := do
  let (_, rest) ← level [debug, help] args
  match rest with
  | "list" :: rest =>
    let given ← lastLevel [source, output] rest
    pure (.list (← sourceOf given) (← formOf given))
  | "show" :: rest =>
    let given ← lastLevel [source, name, output] rest
    pure (.detail (← sourceOf given) (← needed readName given name) (← formOf given))
  | "help" :: _ => throw .usage
  | _ => throw .misuse

/-- The request that the arguments make. -/
def read (args : List String) : Except Stop Request := do
  let (_, rest) ← level [debug, help, version] args
  match rest with
  | [] => throw .usage
  | "config" :: rest => readConfig rest
  | "commands" :: rest =>
    let given ← lastLevel [deprecated, output] rest
    pure (.catalogue (has given deprecated) (← formOf given))
  | "run" :: rest => pure (.run (← readRun rest))
  | "help" :: _ => throw .usage
  | _ => throw .misuse

end Arguments
end PageOverlay.Cli
