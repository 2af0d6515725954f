import Interning.Path
import Interning.Workers
/-!
What a program asks of the system it runs on: files that are read or written whole, the standard
input, workers, and a clock. `Host` is a record over the monad in which the answers arrive, so that
the same program runs on the real system and on a `FileTree`, which holds its files as data.
-/

set_option autoImplicit false
set_option relaxedAutoImplicit false

namespace Interning

/-- The services of a system. A text is missing when it cannot be read or is no UTF-8, and an
answer `false` means that the system refused. Workers are started by their number: the answer is the
schedule by which they take turns, or the reason why the system does not start them. -/
structure Host (m : Type → Type) where
  isFile : Text → m Bool
  readFile : Text → m (Option Text)
  readInput : m (Option Text)
  makeParents : Text → m Bool
  writeFile : Text → Text → m Bool
  startWorkers : UInt64 → m (Except Text (List Turn))
  milliseconds : m Nat

/-- What surrounds a run: the machine, the environment, and the directories of the user. -/
structure Surroundings where
  machine : Machine
  environment : Environment
  home : Option Text
  configHome : Option Text

/-! ### Files as data -/

/-- Files and directories, by the names that lead to them from the root of the system. A file that
holds no UTF-8 has no text, and nothing is a link to another place. -/
structure FileTree where
  files : List (List Text × Option Text)
  directories : List (List Text)

namespace FileTree

/-- Whether names lead to a directory: to the root, or to a place that is listed as a directory or
on the way to one that is listed. -/
def isDirectory (tree : FileTree) (place : List Text) : Bool :=
  place.isEmpty || tree.directories.any place.isPrefixOf ||
    tree.files.any fun file ↦ place.isPrefixOf file.1 && place != file.1

/-- Whether names lead to a file. -/
def holdsFile (tree : FileTree) (place : List Text) : Bool :=
  (tree.files.lookup place).isSome

/-- Follows names from a directory as far as the last one, which need not exist. -/
def follow (tree : FileTree) (place : List Text) : List Text → Option (List Text)
  | [] => some place
  | name :: rest =>
    if !tree.isDirectory place then none
    else if name = Path.upward then follow tree place.dropLast rest
    else follow tree (place ++ [name]) rest

/-- The place that a path of a file leads to from a working directory. -/
def locate (tree : FileTree) (path : Text) (working : List Text := []) : Option (List Text) :=
  if Path.isAccepted path && !Path.endsInDirectory path then
    tree.follow (Path.origin working path) (Path.names path)
  else none

/-- Makes the directories that names lead through, beginning in one that is there. -/
def makeDirectories (tree : FileTree) (place : List Text) : List Text → Option FileTree
  | [] => some tree
  | name :: rest =>
    if !tree.isDirectory place then none
    else if name = Path.upward then makeDirectories tree place.dropLast rest
    else
      let next := place ++ [name]
      if tree.holdsFile next then none
      else if tree.isDirectory next then makeDirectories tree next rest
      else makeDirectories { tree with directories := next :: tree.directories } next rest

/-- The tree with the directories that lead to the last name of a path. -/
def makeParents (tree : FileTree) (path : Text) (working : List Text := []) : Option FileTree :=
  let parent := Path.parent path
  if Path.isAccepted parent then
    tree.makeDirectories (Path.origin working path) (Path.names parent)
  else none

/-- The tree after a file has been written, unless the place is a directory or in none. -/
def write (tree : FileTree) (path content : Text) (working : List Text := []) : Option FileTree :=
  match tree.locate path working with
  | none => none
  | some place =>
    if tree.isDirectory place then none
    else
      some { tree with
        files := (place, some content) :: tree.files.filter fun file ↦ file.1 != place }

/-- The text of a file. -/
def read (tree : FileTree) (path : Text) (working : List Text := []) : Option Text :=
  match tree.locate path working with
  | none => none
  | some place => (tree.files.lookup place).join

/-- A change of the tree that may be refused. -/
def change (attempt : FileTree → Option FileTree) : StateM FileTree Bool := do
  match attempt (← get) with
  | some tree => set tree; return true
  | none => return false

/-- The services that a tree gives to a program in a working directory, which is the root unless
another one is named, with the given standard input, workers that take no turns from each other, and
a clock that stands still. -/
def host (input : Option Text) (working : List Text := []) : Host (StateM FileTree) where
  isFile path := do
    let tree ← get
    return (tree.locate path working).any tree.holdsFile
  readFile path := do
    let tree ← get
    return tree.read path working
  readInput := pure input
  makeParents path := change fun tree ↦ tree.makeParents path working
  writeFile path content := change fun tree ↦ tree.write path content working
  startWorkers _ := pure (.ok [])
  milliseconds := pure 0

end FileTree

end Interning
