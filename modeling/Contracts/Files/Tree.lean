import Contracts.Files.Fault
import Contracts.Files.Path

/-!
# Trees of files

Files in directories, as far as files are read, written at their end and removed, and
directories are listed and made.  Names may be 255 bytes long, and whole paths 4095.

## Main definitions

* `FileTree` — files, and directories with what is in them.
* `FileTree.walk` — walk along a path.
* `FileTree.read`, `FileTree.append` — read a file as text, and write at its end.
* `FileTree.fileNames`, `FileTree.remove` — the files in a directory, and without one.
* `FileTree.makeDirectories` — make a directory, and those on the way to it.
-/

namespace Contracts

/-- A file, or a directory with what is in it. -/
inductive FileTree where
  /-- A file with its bytes. -/
  | file (bytes : ByteArray) : FileTree
  /-- A directory with what is in it by name. -/
  | directory (entries : List (String × FileTree)) : FileTree

/-- What was passed on the way from the root, the last first: each directory with the
name that was followed in it. -/
abbrev Trail := List (String × FileTree)

namespace FileTree

/-- A directory with nothing in it. -/
def empty : FileTree := .directory []

instance : Inhabited FileTree := ⟨empty⟩

/-- What a directory holds under a name. -/
def entry? (tree : FileTree) (name : String) : Option FileTree :=
  match tree with
  | .file _ => none
  | .directory entries => entries.lookup name

/-- What is found along names. -/
def get? (tree : FileTree) : List String → Option FileTree
  | [] => some tree
  | name :: rest => (tree.entry? name).bind fun entry => entry.get? rest

/-- Put something into a directory under a name. -/
def setEntry (tree : FileTree) (name : String) (entry : FileTree) : FileTree :=
  match tree with
  | .file bytes => .file bytes
  | .directory entries => .directory ((name, entry) :: entries.filter fun old => old.1 != name)

/-- Put something where names lead, with the directories on the way. -/
def put (tree : FileTree) (names : List String) (node : FileTree) : FileTree :=
  match names with
  | [] => node
  | name :: rest => tree.setEntry name (((tree.entry? name).getD empty).put rest node)

/-! ### Paths in a tree -/

/-- The most bytes that a name can have. -/
abbrev longestName : Nat := 255

/-- The most bytes that a path can have. -/
abbrev longestPath : Nat := 4095

/-- Whether a text can be a path at all. -/
def checkPath (path : String) : Except FileFault Unit :=
  if path.toList.contains '\x00' then .error .nullInName
  else if path.isEmpty then .error .notFound
  else if longestPath < path.utf8ByteSize then .error .nameTooLong
  else .ok ()

/-- Where a path starts: at the root or at the working directory. -/
def origin (working : List String) (path : String) : List String :=
  if Path.isAbsolute path then [] else working

/-- Walk along names, through directories only, to what the last of them stands for. -/
def walk (trail : Trail) (here : FileTree) :
    List String → Except FileFault (Trail × FileTree)
  | [] => .ok (trail, here)
  | name :: rest =>
      match here with
      | .file _ => .error .notDirectory
      | .directory entries =>
          if name = "." then walk trail here rest
          else if name = ".." then
            match trail with
            | [] => walk [] here rest
            | (_, above) :: trail => walk trail above rest
          else if longestName < name.utf8ByteSize then .error .nameTooLong
          else
            match entries.lookup name with
            | none => .error .notFound
            | some next => walk ((name, here) :: trail) next rest

/-- The names that were followed on the way from the root. -/
def followed (trail : Trail) : List String := (trail.map Prod.fst).reverse

/-- The directory in which the last of some names is to be found, and that name. -/
def parent (tree : FileTree) (names : List String) :
    Except FileFault (List String × FileTree × String) :=
  match walk [] tree names.dropLast, names.getLast? with
  | .error fault, _ => .error fault
  | .ok (_, .file _), _ => .error .notDirectory
  | .ok (trail, here), name? =>
      let name := name?.getD "."
      if name ≠ "." ∧ name ≠ ".." ∧ longestName < name.utf8ByteSize then
        .error .nameTooLong
      else .ok (followed trail, here, name)

/-! ### Reading and writing files -/

/-- Read the bytes of a file. -/
def readBytes (tree : FileTree) (working : List String) (path : String) :
    Except FileFault ByteArray :=
  match checkPath path with
  | .error fault => .error fault
  | .ok () =>
      match walk [] tree (origin working path ++ Path.names path) with
      | .error fault => .error fault
      | .ok (_, .directory _) => .error .isDirectory
      | .ok (_, .file bytes) =>
          if Path.endsInSlash path then .error .notDirectory else .ok bytes

/-- Read a file as text. -/
def read (tree : FileTree) (working : List String) (path : String) :
    Except FileFault String :=
  match tree.readBytes working path with
  | .error fault => .error fault
  | .ok bytes =>
      match String.fromUTF8? bytes with
      | some text => .ok text
      | none => .error .notText

/-- Write a text at the end of a file, which is made if it is not there. -/
def append (tree : FileTree) (working : List String) (path text : String) :
    Except FileFault FileTree :=
  match checkPath path with
  | .error fault => .error fault
  | .ok () =>
      match tree.parent (origin working path ++ Path.names path) with
      | .error fault => .error fault
      | .ok (names, here, name) =>
          if name = "." ∨ name = ".." ∨ Path.endsInSlash path = true then
            .error .isDirectory
          else
            match here.entry? name with
            | some (.directory _) => .error .isDirectory
            | some (.file bytes) =>
                .ok (tree.put (names ++ [name]) (.file (bytes ++ text.toUTF8)))
            | none => .ok (tree.put (names ++ [name]) (.file text.toUTF8))

/-! ### Listing and removing files -/

/-- Whether a path leads to a file. -/
def isFile (tree : FileTree) (working : List String) (path : String) : Bool :=
  (tree.readBytes working path).isOk

/-- The names of the files in a directory.  A file is left out if its whole path is too
long to lead to it. -/
def fileNames (tree : FileTree) (working : List String) (directory : String) :
    List String :=
  match walk [] tree (origin working directory ++ Path.names directory) with
  | .ok (_, .directory entries) =>
      (entries.map Prod.fst).filter fun name =>
        tree.isFile working (Path.join directory name)
  | _ => []

/-- What is left of a directory without what it holds under a name. -/
def withoutEntry (tree : FileTree) (name : String) : FileTree :=
  match tree with
  | .file bytes => .file bytes
  | .directory entries => .directory (entries.filter fun entry => entry.1 != name)

/-- Remove a file. -/
def remove (tree : FileTree) (working : List String) (path : String) : FileTree :=
  if tree.isFile working path then
    match tree.parent (origin working path ++ Path.names path) with
    | .error _ => tree
    | .ok (names, here, name) => tree.put names (here.withoutEntry name)
  else tree

/-! ### Making directories -/

/-- Whether names lead to a directory. -/
def isDirectory (tree : FileTree) (names : List String) : Bool :=
  match walk [] tree names with
  | .ok (_, .directory _) => true
  | _ => false

/-- Make the directory that the last of some names stands for. -/
def makeDirectory (tree : FileTree) (names : List String) : Except FileFault FileTree :=
  match tree.parent names with
  | .error fault => .error fault
  | .ok (above, here, name) =>
      if name = "." ∨ name = ".." then .error .exists
      else if (here.entry? name).isSome then .error .exists
      else .ok (tree.put (above ++ [name]) empty)

/-- The directories on the way that have to be made, the deepest first, and the tree
with the first of them made that could be.  The search goes up the path until a
directory is there or can be made. -/
def makeUpwards (tree : FileTree) :
    List (List String) → FileTree × Except FileFault (List (List String))
  | [] => (tree, .ok [])
  | names :: above =>
      match tree.makeDirectory names with
      | .ok tree => (tree, .ok [])
      | .error .notFound =>
          let (tree, outcome) := tree.makeUpwards above
          (tree, outcome.map (names :: ·))
      | .error fault =>
          if tree.isDirectory names then (tree, .ok []) else (tree, .error fault)

/-- Make directories in turn; one that is there already is not made again. -/
def makeDownwards (tree : FileTree) :
    List (List String) → FileTree × Except FileFault Unit
  | [] => (tree, .ok ())
  | names :: below =>
      match tree.makeDirectory names with
      | .ok tree => tree.makeDownwards below
      | .error fault =>
          if fault = .exists ∧ tree.isDirectory names = true then
            tree.makeDownwards below
          else (tree, .error fault)

/-- The names of a path and of the paths above it, without the root. -/
def upwards (path : String) : List (List String) :=
  let components := Path.components path
  Path.names path ::
    ((List.range components.length).reverse.map fun count => components.take count).filter
      fun names => !names.isEmpty

/-- Make a directory, and those on the way to it.  What was made before a fault
stays. -/
def makeDirectories (tree : FileTree) (working : List String) (path : String) :
    FileTree × Except FileFault Unit :=
  if path.isEmpty then (tree, .ok ())
  else
    match checkPath path with
    | .error fault => (tree, .error fault)
    | .ok () =>
        match tree.makeUpwards ((upwards path).map (origin working path ++ ·)) with
        | (tree, .error fault) => (tree, .error fault)
        | (tree, .ok missing) => tree.makeDownwards missing.reverse

end FileTree

end Contracts
