/-!
# File trees

A tree of directories and files, and the few operations on it that saving a file takes: making the directories on
the way, writing a file, moving one file over another, and reading.  An operation that cannot be done says why
(`FileError`) and changes nothing.
-/

namespace ThermalPress

/-- What lies at a path. -/
inductive FileNode where
  | directory
  | file (text : List Char)
  deriving DecidableEq, Repr

/-- Why a file operation failed. -/
inductive FileError where
  | missing
  | alreadyThere
  | isDirectory
  | notADirectory
  deriving DecidableEq, Repr

/-- Directories and files by their names on the way from the root. -/
structure FileTree where
  nodes : List (List String × FileNode)
  deriving DecidableEq, Repr

namespace FileTree

/-- The tree of nothing but the root. -/
def empty : FileTree := ⟨[]⟩

/-- What lies at a path; the root is a directory. -/
def node? (tree : FileTree) (path : List String) : Option FileNode :=
  if path = [] then some .directory else tree.nodes.lookup path

/-- The tree without what lies at a path. -/
def erase (tree : FileTree) (path : List String) : FileTree := ⟨tree.nodes.filter fun entry => entry.1 ≠ path⟩

/-- The tree with a node at a path. -/
def put (tree : FileTree) (path : List String) (node : FileNode) : FileTree :=
  ⟨(path, node) :: (tree.erase path).nodes⟩

/-- Whether a file lies at a path. -/
def hasFile (tree : FileTree) (path : List String) : Bool :=
  match tree.node? path with
  | some (.file _) => true
  | _ => false

/-- Why nothing can be found at a path: there is a file on the way to it, or nothing. -/
def absence (tree : FileTree) (path : List String) : FileError :=
  if (List.range path.length).any fun n => tree.hasFile (path.take n) then .notADirectory else .missing

/-- Makes a directory below `done`, one name after another. -/
def makeDirectoriesFrom (tree : FileTree) (done : List String) : List String → Except FileError FileTree
  | [] => .ok tree
  | name :: names =>
    let path := done ++ [name]
    match tree.node? path with
    | some .directory => makeDirectoriesFrom tree path names
    | some (.file _) => .error (if names = [] then .alreadyThere else .notADirectory)
    | none => makeDirectoriesFrom (tree.put path .directory) path names

/-- Makes a directory and those above it; one that is there stays. -/
def makeDirectories (tree : FileTree) (path : List String) : Except FileError FileTree :=
  tree.makeDirectoriesFrom [] path

/-- Puts a text into a file of a directory that is there. -/
def write (tree : FileTree) (path : List String) (text : List Char) : Except FileError FileTree :=
  match tree.node? path.dropLast with
  | none | some (.file _) => .error (tree.absence path)
  | some .directory =>
    match tree.node? path with
    | some .directory => .error .isDirectory
    | _ => .ok (tree.put path (.file text))

/-- Moves a file to a path, over a file that may lie there. -/
def move (tree : FileTree) (source target : List String) : Except FileError FileTree :=
  match tree.node? source, tree.node? target with
  | _, some .directory => .error .isDirectory
  | some (.file text), _ => .ok ((tree.erase source).put target (.file text))
  | _, _ => .error .missing

/-- The text of a file. -/
def read (tree : FileTree) (path : List String) : Except FileError (List Char) :=
  match tree.node? path with
  | some (.file text) => .ok text
  | some .directory => .error .isDirectory
  | none => .error (tree.absence path)

/-- The paths of all files. -/
def files (tree : FileTree) : List (List String) :=
  tree.nodes.filterMap fun (path, node) =>
    match node with
    | .file _ => some path
    | .directory => none

end FileTree

end ThermalPress
