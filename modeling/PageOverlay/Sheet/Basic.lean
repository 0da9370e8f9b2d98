import PageOverlay.Sheet.Assignment
import PageOverlay.Sheet.Line
import PageOverlay.Text.Pieces

/-!
# Sheets

A sheet is the text of a configuration: options, variables, imports and command lines, in sections
whose headers set the scope of what follows. Reading never fails. A line that cannot be accepted
is kept as a faulty command line and changes nothing else.
-/

set_option autoImplicit false

namespace PageOverlay.Sheet

inductive LineFault
  | unexpected (text : String)
  | sectionName (name : String)
  | option (key : String)
  | variableName (key : String)
  | noImportName
  | noSearchTerm
  | noEquals (key : String)
  deriving DecidableEq, Repr

def LineFault.message : LineFault → String
  | .unexpected text => "Unexpected line '" ++ text ++ "'"
  | .sectionName name => "Invalid section name '" ++ name ++ "'"
  | .option key => "Invalid option '" ++ key ++ "'"
  | .variableName key => "Invalid variable name '" ++ key ++ "'"
  | .noImportName => "Missing import name"
  | .noSearchTerm => "Missing search term before '='"
  | .noEquals key => "Expected '=' after '" ++ key ++ "'"

structure Declaration where
  name : String
  value : String
  description : String
  scope : String
  line : Nat
  deriving DecidableEq, Repr

inductive CommandBody
  | invocation (key value : String)
  | faulty (fault : LineFault)
  deriving DecidableEq, Repr

structure CommandLine where
  line : Nat
  scope : String
  body : CommandBody
  deriving DecidableEq, Repr

structure Import where
  name : String
  line : Nat
  deriving DecidableEq, Repr

end Sheet

open Sheet in
/-- What a configuration declares. Options are in the order in which their keys first appear. -/
structure Sheet where
  options : List (String × List String) := []
  declarations : List Declaration := []
  imports : List Import := []
  commands : List CommandLine := []
  deriving DecidableEq, Repr

namespace Sheet

inductive Entry
  | nothing
  | scope (name : String)
  | option (key : String) (value : Option String)
  | declare (name value description : String)
  | importing (name : String)
  | command (key value : String)
  deriving DecidableEq, Repr

def isNameTail (c : Char) : Bool := Text.isWord c || c == '-'

/-- A header names a scope by segments between dots, none of them blank; the empty header leads
back to the top. -/
def readSection (text : List Char) : Except LineFault Entry :=
  let opened := text.dropWhile (· = '[')
  let name := Text.trim (opened.reverse.dropWhile (· = ']')).reverse
  let segments := Text.pieces '.' name
  if !name.isEmpty && segments.any Text.allBlank then
    .error (.sectionName (String.ofList name))
  else .ok (.scope (String.ofList (Text.joinWith ['.'] (segments.map Text.trim))))

def optionName? (key : List Char) : Option (List Char) :=
  match key with
  | '@' :: c :: cs =>
    let tail := cs.takeWhile isNameTail
    let rest := (cs.drop tail.length).dropWhile Text.isBlank
    if Text.isNameStart c && (rest.isEmpty || rest == ['[', ']']) then some (c :: tail) else none
  | _ => none

def readOption (text : List Char) : Except LineFault Entry :=
  let (key, value) := splitAssignment text
  match optionName? key with
  | some name =>
    .ok (.option (String.ofList name) ((value.filter (!·.isEmpty)).map String.ofList))
  | none => .error (.option (String.ofList key))

def variableName? (key : List Char) : Option (List Char) :=
  match key with
  | '$' :: c :: cs => if Text.isNameStart c && cs.all Text.isWord then some (c :: cs) else none
  | _ => none

/-- Cuts off a description after `//`. Two slashes right after a colon belong to the value;
`before` holds the value so far, last character first. -/
def splitDescription : List Char → List Char → List Char × List Char
  | before, [] => (Text.trim before.reverse, [])
  | before, '/' :: '/' :: cs =>
    if before.head? = some ':' then splitDescription ('/' :: '/' :: before) cs
    else (Text.trim before.reverse, Text.trim cs)
  | before, c :: cs => splitDescription (c :: before) cs

def readVariable (text : List Char) : Except LineFault Entry :=
  let (key, value) := splitAssignment text
  match variableName? key with
  | some name =>
    let (value, description) := splitDescription [] (value.getD [])
    .ok (.declare (String.ofList name) (String.ofList value) (String.ofList description))
  | none => .error (.variableName (String.ofList key))

def readImport (text : List Char) : Except LineFault Entry :=
  let name := Text.trim (text.dropWhile (· = '+'))
  if name.isEmpty then .error .noImportName else .ok (.importing (String.ofList name))

def readCommand (needsValue : Bool) (text : List Char) : Except LineFault Entry :=
  let (key, value) := splitAssignment text
  if key.isEmpty then .error .noSearchTerm
  else match value with
    | some v => .ok (.command (String.ofList key) (String.ofList v))
    | none =>
      if needsValue then .error (.noEquals (String.ofList key))
      else .ok (.command (String.ofList key) "")

def readLine (l : Line) : Except LineFault Entry :=
  match l.kind with
  | .blank => .ok .nothing
  | .comment => .ok .nothing
  | .header => readSection l.text
  | .option => readOption l.text
  | .declaration => readVariable l.text
  | .importing => readImport l.text
  | .command => readCommand false l.text
  | .assignment => readCommand true l.text
  | .text => .error (.unexpected (String.ofList l.text))

def addOption (key : String) (value : Option String) :
    List (String × List String) → List (String × List String)
  | [] => [(key, value.toList)]
  | (k, vs) :: rest =>
    if k = key then (k, vs ++ value.toList) :: rest else (k, vs) :: addOption key value rest

/-- A sheet that is read up to some line, and the scope there. -/
structure Reading where
  scope : String := ""
  sheet : Sheet := {}
  deriving DecidableEq, Repr

def Reading.addCommand (r : Reading) (line : Nat) (body : CommandBody) : Reading :=
  { r with sheet := { r.sheet with
      commands := r.sheet.commands ++ [{ line, scope := r.scope, body }] } }

/-- Takes up what a line declares. An import that is known already stays where it was. -/
def Reading.add (r : Reading) (line : Nat) : Entry → Reading
  | .nothing => r
  | .scope name => { r with scope := name }
  | .option key value =>
    { r with sheet := { r.sheet with options := addOption key value r.sheet.options } }
  | .declare name value description =>
    { r with sheet := { r.sheet with
        declarations :=
          r.sheet.declarations ++ [{ name, value, description, scope := r.scope, line }] } }
  | .importing name =>
    if r.sheet.imports.any (·.name = name) then r
    else { r with sheet := { r.sheet with imports := r.sheet.imports ++ [{ name, line }] } }
  | .command key value => r.addCommand line (.invocation key value)

def Reading.step (r : Reading) (l : Line) : Reading :=
  match readLine l with
  | .ok entry => r.add l.number entry
  | .error fault => r.addCommand l.number (.faulty fault)

def ofLines (ls : List Line) : Sheet := (ls.foldl Reading.step {}).sheet

def read (source : String) : Sheet := ofLines (lines source.toList)

end Sheet
end PageOverlay
