import HotReload.Disk.Path
import HotReload.Text.Numeral
import HotReload.Text.Quoted
import HotReload.Text.Utf8
/-!
A disk: what stands at which location, the working directory, and how much room there is.

* `Disk.lookup` finds what a path leads to. Each part but the last must be a
  directory, and a double point goes one directory up.
* `Disk.read`, `Disk.write`, `Disk.makeDirectories` fail as a file system does
  (`OsError`). Names and paths have a greatest length, in bytes.
* `Disk.store` writes a file as far as there is room for it. What did not fit is lost, and what did
  stays.
-/

namespace HotReload

/-- Why a file operation failed, and the path it was given. -/
inductive OsError where
  | missing (path : Text)
  | present (path : Text)
  | notDirectory (path : Text)
  | isDirectory (path : Text)
  | tooLong (path : Text)
  /-- A disk without room for all that is written. -/
  | full
  /-- A path with a null character in it, with which no operation is begun. -/
  | embeddedNull
  deriving DecidableEq, Repr

/-- The number, the words and the path of a failure. -/
def OsError.message : OsError → Text
  | .missing path => "[Errno 2] No such file or directory: " ++ path.quoted
  | .present path => "[Errno 17] File exists: " ++ path.quoted
  | .notDirectory path => "[Errno 20] Not a directory: " ++ path.quoted
  | .isDirectory path => "[Errno 21] Is a directory: " ++ path.quoted
  | .tooLong path => "[Errno 36] File name too long: " ++ path.quoted
  | .full => "[Errno 28] No space left on device"
  | .embeddedNull => "embedded null byte"

/-- The parts of the way from the top of the disk. -/
abbrev Location := List Text

/-- What stands at a location. -/
inductive Entry where
  | file (content : List UInt8)
  | directory
  deriving DecidableEq, Repr

/-- The entries at their locations, and the working directory, which exists together
with the directories above it. -/
structure Disk where
  working : Location
  entries : List (Location × Entry)
  /-- The bytes that there is room for in a file that is written, if the room is bounded. -/
  room : Option Nat := none
  deriving Repr

/-- The most bytes in the name of an entry. -/
def mostNameBytes : Nat := 255

/-- The most bytes in a path. -/
def mostPathBytes : Nat := 4095

namespace Disk

/-- What stands at a location. -/
def entryAt (disk : Disk) (location : Location) : Option Entry :=
  if location.isPrefixOf disk.working then some .directory
  else (disk.entries.find? fun e => e.1 == location).map (·.2)

/-- Puts an entry at a location. -/
def put (disk : Disk) (location : Location) (entry : Entry) : Disk :=
  { disk with entries := (location, entry) :: disk.entries.filter fun e => e.1 != location }

/-- Goes from a location along the parts of the path that is shown as `shown`. -/
def walk (disk : Disk) (shown : Text) (location : Location) :
    List Text → Except OsError Location
  | [] => .ok location
  | part :: parts =>
      match disk.entryAt location with
      | some .directory =>
          if part = ['.', '.'] then disk.walk shown location.dropLast parts
          else if mostNameBytes < part.toUtf8.length then .error (.tooLong shown)
          else disk.walk shown (location ++ [part]) parts
      | some (.file _) => .error (.notDirectory shown)
      | none => .error (.missing shown)

/-- The location that a path leads to, whether or not something stands there. -/
def locate (disk : Disk) (path : Path) : Except OsError Location :=
  if path.hasNull then .error .embeddedNull
  else if mostPathBytes < path.text.toUtf8.length then .error (.tooLong path.text)
  else disk.walk path.text (if path.root = [] then disk.working else []) path.parts

/-- What a path leads to. -/
def lookup (disk : Disk) (path : Path) : Except OsError Entry := do
  match disk.entryAt (← disk.locate path) with
  | some entry => return entry
  | none => throw (.missing path.text)

/-- Whether a path leads to an entry of some kind. A path that leads nowhere does not; only one
that is too long has no answer. -/
def holds (disk : Disk) (path : Path) (isKind : Entry → Bool) : Except OsError Bool :=
  match disk.lookup path with
  | .ok entry => .ok (isKind entry)
  | .error (.tooLong shown) => .error (.tooLong shown)
  | .error _ => .ok false

/-- Whether a path leads to a file or a directory. -/
def has (disk : Disk) (path : Path) : Except OsError Bool := disk.holds path fun _ => true

/-- Whether a path leads to a file. -/
def hasFile (disk : Disk) (path : Path) : Except OsError Bool :=
  disk.holds path fun entry => entry != .directory

/-- Whether a path leads to a directory. -/
def hasDirectory (disk : Disk) (path : Path) : Except OsError Bool :=
  disk.holds path (· == .directory)

/-- The content of the file at a path. -/
def read (disk : Disk) (path : Path) : Except OsError (List UInt8) := do
  match ← disk.lookup path with
  | .file content => return content
  | .directory => throw (.isDirectory path.text)

/-- Puts an entry at a location, above which there must be a directory. -/
def putBelow (disk : Disk) (path : Path) (location : Location) (entry : Entry) :
    Except OsError Disk :=
  match disk.entryAt location.dropLast with
  | some .directory => .ok (disk.put location entry)
  | some (.file _) => .error (.notDirectory path.text)
  | none => .error (.missing path.text)

/-- Opens a file at a path, in place of one that is there, and gives it this content. -/
def write (disk : Disk) (path : Path) (content : List UInt8) : Except OsError Disk := do
  let location ← disk.locate path
  match disk.entryAt location with
  | some .directory => throw (.isDirectory path.text)
  | some (.file _) => return disk.put location (.file content)
  | none => disk.putBelow path location (.file content)

/-- The bytes of a content that there is room for. -/
def fitting (disk : Disk) (content : List UInt8) : List UInt8 :=
  match disk.room with
  | none => content
  | some room => content.take room

/-- Writes a file at a path, in place of one that is there: the disk afterwards, and the failure if
the file could not be opened or not all of its content could be written. -/
def store (disk : Disk) (path : Path) (content : List UInt8) : Disk × Option OsError :=
  match disk.write path (disk.fitting content) with
  | .error e => (disk, some e)
  | .ok after =>
      (after, if (disk.fitting content).length < content.length then some .full else none)

/-- Makes one directory. -/
def makeDirectory (disk : Disk) (path : Path) : Except OsError Disk := do
  let location ← disk.locate path
  match disk.entryAt location with
  | some _ => throw (.present path.text)
  | none => disk.putBelow path location .directory

/-- Settles an attempt at making a directory: one that is there already will do. -/
def orPresent (disk : Disk) (path : Path) (attempt : Except OsError Disk) :
    Disk × Option OsError :=
  match attempt with
  | .ok disk => (disk, none)
  | .error e => if disk.hasDirectory path matches .ok true then (disk, none) else (disk, some e)

/-- Makes a directory and those above it that are missing; the directories made before
a failure stay. -/
def makeDirectories (disk : Disk) (path : Path) : Nat → Disk × Option OsError
  | 0 => disk.orPresent path (disk.makeDirectory path)
  | fuel + 1 =>
      match disk.makeDirectory path with
      | .error (.missing shown) =>
          if path.parts = [] then (disk, some (.missing shown))
          else
            match disk.makeDirectories path.parent fuel with
            | (disk, some e) => (disk, some e)
            | (disk, none) => disk.orPresent path (disk.makeDirectory path)
      | attempt => disk.orPresent path attempt

/-- The files below the directory that a path leads to, as the parts from there. -/
def filesBelow (disk : Disk) (path : Path) : List (List Text) :=
  match disk.locate path with
  | .error _ => []
  | .ok location =>
      disk.entries.filterMap fun e =>
        match e.2 with
        | .file _ =>
            if location.isPrefixOf e.1 then some (e.1.drop location.length) else none
        | .directory => none

/-- Puts an entry at a location and a directory at each location above it. -/
def place (disk : Disk) (location : Location) (entry : Entry) : Disk :=
  let above := (List.range location.length).map fun n => location.take n
  let disk := above.foldl
    (fun (d : Disk) l => if (d.entryAt l).isSome then d else d.put l .directory) disk
  disk.put location entry

/-- An empty disk with this working directory. -/
def empty (working : Location) : Disk := { working, entries := [] }

end Disk

end HotReload
