import BootNote.Text.System

/-!
Paths. A path is made of names with slashes between them. Two views are taken of it: the `names`
that a system walks along, and the `parts` by which paths are compared and taken apart, among which
a dot counts only at the very start and the slash in front of an absolute path is a part of its own.
-/

set_option autoImplicit false
set_option relaxedAutoImplicit false

namespace BootNote.Path

/-- The byte between the names in a path. -/
def slash : UInt8 := 0x2f

/-- Whether a path starts at the root. -/
def isAbsolute (path : SystemText) : Bool := path.bytes.head? == some slash

/-- Whether a path ends with a slash, and so can only lead to a directory. -/
def hasFinalSlash (path : SystemText) : Bool := path.bytes.getLast? == some slash

/-- The names that a path leads along. -/
def names (path : SystemText) : List SystemText :=
  ((path.bytes.splitOn slash).filter fun piece ↦ !piece.isEmpty).map SystemText.mk

/-- Pieces of a text with one byte between each two, the first of which starts at `start`, each with
the position at which it ends. -/
def stops (start : Nat) : List (List UInt8) → List (SystemText × Nat)
  | [] => []
  | piece :: rest => (⟨piece⟩, start + piece.length) :: stops (start + piece.length + 1) rest

/-- The parts of a path, each with the position at which it ends. A dot that ends at position one is
at the very start. -/
def located (path : SystemText) : List (SystemText × Nat) :=
  let root := if isAbsolute path then [(("/" : SystemText), 1)] else []
  root ++ (stops 0 (path.bytes.splitOn slash)).filter fun (piece, stop) ↦
    !piece.bytes.isEmpty && (piece != "." || stop == 1)

/-- The parts of a path. Paths with the same parts are the same path. -/
def parts (path : SystemText) : List SystemText := (located path).map Prod.fst

/-- The name of the file that a path leads to, unless its last part names none. -/
def fileName? (path : SystemText) : Option SystemText :=
  (parts path).getLast?.filter fun name ↦ name != "/" && name != "." && name != ".."

/-- The text of a path up to the end of each of its parts, the whole path first and the shortest
last. -/
def ancestors (path : SystemText) : List SystemText :=
  match (located path).reverse with
  | [] => []
  | _ :: shorter => path :: shorter.map fun (_, stop) ↦ ⟨path.bytes.take stop⟩

/-- The path without its last part, if that part is not the root. -/
def parent? (path : SystemText) : Option SystemText :=
  match ancestors path with
  | [] => none
  | [_] => if isAbsolute path then none else some ""
  | _ :: shorter :: _ => some shorter

/-- The path to a name in the directory that a path leads to. -/
def join (directory name : SystemText) : SystemText :=
  if directory.bytes.isEmpty || hasFinalSlash directory then directory ++ name
  else directory ++ "/" ++ name

/-- The path to another name next to the file that a path leads to, or inside what it leads to if
that has no file name. -/
def withFileName (path name : SystemText) : SystemText :=
  let directory := if (fileName? path).isSome then (parent? path).getD path else path
  join directory name

/-- The name of the file that is written before it takes the place of the file with a name. It is
hidden, shows the name and carries the mark of the run that writes it. -/
def temporaryName (run : String) (name : SystemText) : String :=
  "." ++ name.shown ++ ".pvh-" ++ run ++ ".tmp"

/-- The path to the file that is written before it takes the place of the file at a path. It lies in
the same directory. -/
def temporary (run : String) (path : SystemText) : SystemText :=
  withFileName path (temporaryName run ((fileName? path).getD ""))

end BootNote.Path
