/-!
# Paths

A path is a text in which slashes stand between names.  Repeated slashes, a slash at the
end and the name `.` do not change which file is meant, and paths are compared without
them; the name `..` does.

## Main definitions

* `Path.names` — the names of a path as they are written.
* `Path.components` — the names that paths are compared by.
* `Path.join` — the path of a name in a directory.
* `Path.isAbsolute`, `Path.same` — whether a path starts at the root, and whether two
  absolute paths are the same.
-/

namespace Contracts.Path

/-- The parts of a text between slashes. -/
def splitSlash : List Char → List (List Char)
  | [] => [[]]
  | c :: rest =>
      if c = '/' then [] :: splitSlash rest
      else match splitSlash rest with
        | [] => [[c]]
        | part :: parts => (c :: part) :: parts

/-- The names of a path as they are written, empty ones left out. -/
def names (path : String) : List String :=
  ((splitSlash path.toList).filter fun part => !part.isEmpty).map String.ofList

/-- The names that paths are compared by. -/
def components (path : String) : List String := (names path).filter fun name => name != "."

/-- Whether a path starts at the root. -/
def isAbsolute (path : String) : Bool := path.toList.head? == some '/'

/-- Whether a path can only be that of a directory. -/
def endsInSlash (path : String) : Bool := path.toList.getLast? == some '/'

/-- The path of a name in a directory. -/
def join (directory name : String) : String :=
  directory ++ (if endsInSlash directory then "" else "/") ++ name

/-- Whether two absolute paths are the same. -/
def same (left right : String) : Bool := components left == components right

end Contracts.Path
