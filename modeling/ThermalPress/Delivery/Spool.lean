import ThermalPress.Text.Utf8

/-!
# Spool files

The bytes of a job wait in a file of their own until they are sent (`SpoolBuffer`).  Staging makes a new file and
fills it, reading gives back what is in it, and releasing deletes it and forgets it, so that a second release does
nothing.  A file that could not be filled is deleted at once (`SpoolBuffer.discard`).  The system may refuse to delete
a file, and then the file stays; and a file may be deleted behind the buffer's back (`SpoolBuffer.lose`).
-/

namespace ThermalPress

/-- Why the staged bytes could not be read. -/
inductive SpoolError where
  /-- No file is staged. -/
  | notStaged
  /-- The staged file is gone. -/
  | missing
  deriving DecidableEq, Repr

/-- Bytes with the spool files made for them. -/
structure SpoolBuffer where
  data : Bytes
  /-- The files that were made and not deleted. -/
  files : List (Nat × Bytes)
  /-- The number of files made so far. -/
  made : Nat
  /-- The file that is staged. -/
  staged : Option Nat
  /-- The number of releases that had a staged file to forget. -/
  releases : Nat
  /-- The number of files that the system refused to delete. -/
  refusals : Nat
  deriving DecidableEq, Repr

namespace SpoolBuffer

/-- A buffer without a file. -/
def ofData (data : Bytes) : SpoolBuffer := ⟨data, [], 0, none, 0, 0⟩

/-- The buffer without one of its files. -/
def deleteFile (buffer : SpoolBuffer) (file : Nat) : SpoolBuffer :=
  { buffer with files := buffer.files.filter (·.1 ≠ file) }

/-- Makes a file, without any bytes in it. -/
def create (buffer : SpoolBuffer) : SpoolBuffer :=
  { buffer with files := (buffer.made, []) :: buffer.files, made := buffer.made + 1 }

/-- Writes the bytes into the file that was made last, and stages it. -/
def fill (buffer : SpoolBuffer) : SpoolBuffer :=
  match buffer.files with
  | [] => buffer
  | (file, _) :: files => { buffer with files := (file, buffer.data) :: files, staged := some file }

/-- Deletes the file that was made last. -/
def discard (buffer : SpoolBuffer) : SpoolBuffer := { buffer with files := buffer.files.tail }

/-- Makes a file of the bytes and stages it. -/
def stage (buffer : SpoolBuffer) : SpoolBuffer := buffer.create.fill

/-- The bytes of the staged file. -/
def read (buffer : SpoolBuffer) : Except SpoolError Bytes :=
  match buffer.staged with
  | none => .error .notStaged
  | some file =>
    match buffer.files.lookup file with
    | none => .error .missing
    | some bytes => .ok bytes

/-- The system refuses to delete a file. -/
def refuse (buffer : SpoolBuffer) : SpoolBuffer := { buffer with refusals := buffer.refusals + 1 }

/-- Forgets the staged file without deleting it. -/
def forget (buffer : SpoolBuffer) : SpoolBuffer :=
  match buffer.staged with
  | none => buffer
  | some _ => { buffer with staged := none, releases := buffer.releases + 1 }

/-- Forgets the staged file and deletes it. -/
def release (buffer : SpoolBuffer) : SpoolBuffer :=
  match buffer.staged with
  | none => buffer
  | some file => { buffer.deleteFile file with staged := none, releases := buffer.releases + 1 }

/-- Whether a release finds that the staged file is gone. -/
def isLost (buffer : SpoolBuffer) : Bool :=
  match buffer.staged with
  | none => false
  | some file => (buffer.files.lookup file).isNone

/-- The staged file is deleted by someone else. -/
def lose (buffer : SpoolBuffer) : SpoolBuffer :=
  match buffer.staged with
  | none => buffer
  | some file => buffer.deleteFile file

end SpoolBuffer

end ThermalPress
