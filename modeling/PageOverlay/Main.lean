import PageOverlay.Cli.Program

/-!
# The executable

Reads what the request's paths name from the disk, and the environment, and prints the answer.
-/

set_option autoImplicit false

open PageOverlay PageOverlay.Cli

partial def readTree (entry : IO.FS.DirEntry) : IO (Option FileTree) := do
  if !(← entry.path.pathExists) then return none
  if !(← entry.path.isDir) then
    try return some (.file (some (← IO.FS.readFile entry.path)))
    catch _ => return some (.file none)
  let mut entries := #[]
  for below in ← entry.path.readDir do
    if let some t ← readTree below then entries := entries.push (below.fileName, t)
  return some (.directory entries.toList)

def readShallow (entry : IO.FS.DirEntry) : IO (Option FileTree) := do
  if ← entry.path.isDir then return some (.directory []) else readTree entry

def placeOf (path : String) : IO.FS.DirEntry := { root := ".", fileName := path }

def readEnvironment : IO (List (String × String)) := do
  try
    let text ← IO.FS.readFile "/proc/self/environ"
    return (text.splitOn "\x00").filterMap fun entry =>
      (Text.cutAtFirst? '=' entry.toList).map fun (name, value) =>
        (String.ofList name, String.ofList value)
  catch _ => return []

def readPaths : List String → IO (List (String × FileTree))
  | [] => return []
  | "" :: _ => return []
  | source :: others => do
    let mut found := #[]
    if let some t ← readTree (placeOf source) then found := found.push (source, t)
    for path in Globals.beside source :: others do
      if let some t ← readShallow (placeOf path) then found := found.push (path, t)
    return found.toList

def main (args : List String) : IO UInt32 := do
  let found ← match Arguments.read args with
    | .ok request => readPaths request.paths
    | .error _ => pure []
  let disk : Disk := fun path => (found.find? (·.1 == path)).map (·.2)
  match respond disk (← readEnvironment) args with
  | .printed text =>
    IO.print text
    return 0
  | .failed reason =>
    IO.eprintln ("Error: " ++ reason.message)
    return UInt32.ofNat reason.exitCode
