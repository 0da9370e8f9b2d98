import PageOverlay.Cli.Files
import PageOverlay.Configuration.Basic

/-!
# Sources

Configurations are files with one extension. In a directory each is named by its path without the
extension. Variables for all of them stand in a file beside them and in the environment.
-/

set_option autoImplicit false

namespace PageOverlay.Cli

structure Source where
  name : String
  file : String
  text : String
  deriving DecidableEq, Repr

inductive Failure
  | misuse
  | unreadable
  | invalidDocument
  | notFound (name : String)
  deriving DecidableEq, Repr

namespace Source

def extension : List Char := "mnky".toList

/-- A file name without its extension, and the extension. A dot at the beginning begins none. -/
def splitName (name : List Char) : List Char × Option (List Char) :=
  match Text.cutAtLast? '.' name with
  | some (c :: stem, extension) => (c :: stem, some extension)
  | _ => (name, none)

mutual

/-- The configurations in an entry. `below` and `shown` are the paths of its directory, from the
source on and as the user sees it. -/
def ofEntry (below shown name : String) : FileTree → List Source
  | .directory entries => ofEntries (below ++ name ++ "/") (shown ++ name ++ "/") entries
  | .file none => []
  | .file (some text) =>
    match splitName name.toList with
    | (stem, some e) =>
      if e = extension then
        [{ name := below ++ String.ofList stem, file := shown ++ name, text }]
      else []
    | (_, none) => []

def ofEntries (below shown : String) : List (String × FileTree) → List Source
  | [] => []
  | (name, t) :: rest => ofEntry below shown name t ++ ofEntries below shown rest

end

def asDirectory (path : String) : String :=
  if path.toList.getLast? = some '/' then path else path ++ "/"

def fileName (path : String) : List Char := ((Text.pieces '/' path.toList).getLast?).getD []

def load (disk : Disk) (path : String) : Except Failure (List Source) :=
  match disk path with
  | none => .error .misuse
  | some (.file none) => .error .unreadable
  | some (.file (some text)) =>
    .ok [{ name := String.ofList (splitName (fileName path)).1, file := path, text }]
  | some (.directory entries) =>
    .ok ((ofEntries "" (asDirectory path) entries).mergeSort fun a b => !(b.name < a.name))

end Source

namespace Globals

def fileName : String := ".env"

def beside (path : String) : String :=
  match Text.cutAtLast? '/' path.toList with
  | some (directory, _) => String.ofList directory ++ "/" ++ fileName
  | none => fileName

def file? (disk : Disk) (path : String) : Option FileTree :=
  match disk path with
  | some (.directory entries) => (FileTree.directory entries).child? fileName
  | _ => disk (beside path)

def trimQuotes (cs : List Char) : List Char :=
  ((cs.dropWhile (· == '"')).reverse.dropWhile (· == '"')).reverse

/-- The variable of a line. Lines that begin with `#` are remarks. -/
def ofLine (line : List Char) : Option (String × String) :=
  let line := Text.trim line
  if line.head? = some '#' then none
  else
    match Text.cutAtFirst? '=' line with
    | none => none
    | some (name, value) =>
      let name := Text.trim name
      if name.isEmpty then none
      else some (String.ofList name, String.ofList (trimQuotes (Text.trim value)))

def ofText (text : String) : List (String × String) :=
  (Text.pieces '\n' text.toList).filterMap ofLine

def marker : List Char := "mnky__".toList

def ofEnvironment (entry : String × String) : Option (String × String) :=
  let name := entry.1.toList
  if (name.take marker.length).map Char.toLower = marker && marker.length < name.length then
    some (String.ofList (name.drop marker.length), entry.2)
  else none

/-- The variables for all configurations at a path. Those of the environment come last and
count. -/
def load (disk : Disk) (environment : List (String × String)) (path : String) :
    Except Failure (List Variable) :=
  let written := match file? disk path with
    | none => some []
    | some (.file (some text)) => some (ofText text)
    | some _ => none
  match written with
  | none => .error .unreadable
  | some written =>
    .ok ((written ++ environment.filterMap ofEnvironment).foldl
      (fun vs (name, value) => Configuration.upsert (Variable.ofGlobal name value) vs) [])

end Globals
end PageOverlay.Cli
