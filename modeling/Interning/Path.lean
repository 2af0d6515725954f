import Interning.Text
/-!
Paths: the names that a path leads through, the directory in which it begins, the path of the
directory that its last name stands in, and the paths that a system takes at all. `Path.isAccepted`
bounds the bytes of a path and of each of its names and keeps out the character that ends a path.
-/

set_option autoImplicit false
set_option relaxedAutoImplicit false

namespace Interning

namespace Path

/-- The name that leads from a directory to the one that holds it. -/
def upward : Text := ['.', '.']

/-- The names on a path, those that stay in place left out. -/
def names (path : Text) : List Text :=
  (path.splitBy fun a b ↦ a != '/' && b != '/').filter fun name ↦
    name != ['/'] && name != ['.']

/-- Whether a path begins at the root of the system. -/
def isAbsolute (path : Text) : Bool :=
  path.head? = some '/'

/-- The place in which a path begins: the root, or the working directory. -/
def origin (working : List Text) (path : Text) : List Text :=
  if isAbsolute path then [] else working

/-- Whether a path can only be a directory's. -/
def endsInDirectory (path : Text) : Bool :=
  match path.reverse with
  | [] => true
  | '/' :: _ => true
  | ['.'] => true
  | '.' :: '/' :: _ => true
  | ['.', '.'] => true
  | '.' :: '.' :: '/' :: _ => true
  | _ => false

/-- A path, held in reverse, without the separators and the names that stay in place at its
end. -/
def trimReversed : Text → Text
  | '/' :: rest => trimReversed rest
  | '.' :: '/' :: rest => trimReversed rest
  | path => path

/-- The path of the directory that the last name of a path stands in. -/
def parent (path : Text) : Text :=
  (trimReversed ((trimReversed path.reverse).dropWhile (· != '/'))).reverse

/-! ### Limits -/

/-- The most bytes that a name has. -/
def maxNameBytes : Nat := 255

/-- The most bytes that a path has. -/
def maxBytes : Nat := 4095

/-- Whether a system takes a path: no null character stands in it, and neither the path nor a
name on it is too long. -/
def isAccepted (path : Text) : Bool :=
  !path.contains '\x00' && Text.byteCount path ≤ maxBytes &&
    (names path).all fun name ↦ Text.byteCount name ≤ maxNameBytes

end Path

end Interning
