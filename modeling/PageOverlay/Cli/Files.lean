import PageOverlay.Text.Pieces

/-!
# Files

Directories with named entries, and files with their texts. A disk says what stands at a path;
a tree in memory answers as a disk does for someone who stands in its topmost directory.
-/

set_option autoImplicit false

namespace PageOverlay.Cli

inductive FileTree
  | file (text : Option String)
  | directory (entries : List (String × FileTree))

abbrev Disk := String → Option FileTree

namespace FileTree

def child? (t : FileTree) (name : String) : Option FileTree :=
  match t with
  | .directory entries => (entries.find? (·.1 == name)).map (·.2)
  | .file _ => none

def isDirectory : FileTree → Bool
  | .directory _ => true
  | .file _ => false

/-- Follows the steps of a path, each of which starts in a directory. The list holds the
directories above, the nearest first. -/
def follow : List FileTree → FileTree → List String → Option FileTree
  | _, here, [] => some here
  | above, here, step :: rest =>
    if !here.isDirectory then none
    else if step = "" ∨ step = "." then follow above here rest
    else if step = ".." then
      match above with
      | [] => none
      | up :: above => follow above up rest
    else
      match here.child? step with
      | some there => follow (here :: above) there rest
      | none => none

def steps (path : String) : List String := (Text.pieces '/' path.toList).map String.ofList

/-- Paths that begin at the root of all files lead out of the tree, and so does the empty one. -/
def at? (t : FileTree) (path : String) : Option FileTree :=
  match path.toList with
  | [] => none
  | '/' :: _ => none
  | _ => follow [] t (steps path)

end FileTree
end PageOverlay.Cli
