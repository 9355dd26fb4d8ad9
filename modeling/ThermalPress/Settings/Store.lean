import ThermalPress.Json.Printer
import ThermalPress.Settings.FileTree
import ThermalPress.Settings.Resolve

/-!
# Saving and loading configuration

A configuration file is never left half written: the text goes into a file beside it, which is then moved over it
(`Settings.save`).  If a step fails, the steps before it stay done, so the file beside it may remain.  The system may
also end a saving for reasons of its own, at any step (`Settings.interrupted`).  A file that is not there loads as
nothing (`Settings.load`).
-/

namespace ThermalPress

/-- Why a configuration file could not be loaded. -/
inductive LoadError where
  | file (e : FileError)
  | json (e : JsonError)
  deriving DecidableEq, Repr

namespace Settings

/-- The file that a text is first written to. -/
def besidePath (path : List String) : List String :=
  path.dropLast ++ [path.getLast?.getD "" ++ ".tmp"]

/-- The tree with a text in the file beside a path, and the error that ended this, if any. -/
def stageText (tree : FileTree) (path : List String) (text : List Char) : FileTree × Option FileError :=
  match tree.makeDirectories path.dropLast with
  | .error e => (tree, some e)
  | .ok tree =>
    match tree.write (besidePath path) text with
    | .error e => (tree, some e)
    | .ok tree => (tree, none)

/-- The tree after a text is saved at a path, and the error that ended the saving, if any. -/
def saveText (tree : FileTree) (path : List String) (text : List Char) : FileTree × Option FileError :=
  match stageText tree path text with
  | (tree, some e) => (tree, some e)
  | (tree, none) =>
    match tree.move (besidePath path) path with
    | .error e => (tree, some e)
    | .ok tree => (tree, none)

/-- The tree after values are saved at a path, and the error that ended the saving, if any. -/
def save (tree : FileTree) (path : List String) (values : Json) : FileTree × Option FileError :=
  saveText tree path (values.text Json.fileForm)

/-- Where the system ends a saving that the tree would let go on. -/
inductive Interruption where
  /-- After so many of the directories on the way. -/
  | directories (made : Nat)
  /-- With so much in the file beside, and nothing moved yet. -/
  | writing (written : List Char)
  deriving DecidableEq, Repr

/-- The tree that a saving leaves when the system ends it. -/
def interrupted (tree : FileTree) (path : List String) : Interruption → FileTree
  | .directories made => (tree.makeDirectories (path.dropLast.take made)).toOption.getD tree
  | .writing written => (stageText tree path written).1

/-- The value in a configuration file, or nothing if there is no such file. -/
def load (tree : FileTree) (path : List String) : Except LoadError (Option Json) :=
  match tree.node? path with
  | none => .ok none
  | some _ => do
    let text ← (tree.read path).mapError .file
    return some (← (readFile text).mapError .json)

end Settings

end ThermalPress
