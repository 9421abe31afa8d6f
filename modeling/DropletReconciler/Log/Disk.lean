import DropletReconciler.Text.Quoted

/-!
The files that log messages go to, with the directories that hold them. Paths start at one working
directory, which is always there.
-/

namespace DropletReconciler.Log

/-- Why a path cannot be used. -/
inductive Obstacle where
  | missing
  | occupied
  | notDirectory
  | isDirectory
  | nameTooLong
  deriving DecidableEq, Repr

/-- No path has a null character. -/
inductive DiskFault where
  | at (path : String) (obstacle : Obstacle)
  | nullCharacter
  deriving DecidableEq, Repr

def Obstacle.sentence : Obstacle → String
  | .missing => "[Errno 2] No such file or directory"
  | .occupied => "[Errno 17] File exists"
  | .notDirectory => "[Errno 20] Not a directory"
  | .isDirectory => "[Errno 21] Is a directory"
  | .nameTooLong => "[Errno 36] File name too long"

def DiskFault.message : DiskFault → String
  | .at path obstacle => obstacle.sentence ++ ": " ++ Text.quoted path
  | .nullCharacter => "embedded null byte"

/-- A path as its parts. -/
abbrev Path := List String

/-- The parts of a written path; empty ones and single points do not count. -/
def pathOf (path : String) : Path :=
  (path.splitOn "/").filter fun part => part ≠ "" ∧ part ≠ "."

def written (path : Path) : String := String.intercalate "/" path

/-- The path to a part of a directory; two points lead out of it. -/
def enter (directory : Path) (part : String) : Path :=
  if part ≠ ".." then directory ++ [part]
  else
    match directory.getLast? with
    | none => [".."]
    | some ".." => directory ++ [".."]
    | some _ => directory.dropLast

/-- A path without parts that lead back. -/
def normal (path : Path) : Path := path.foldl enter []

structure Disk where
  directories : List Path
  files : List (Path × String)
  deriving DecidableEq, Repr

namespace Disk

def empty : Disk := ⟨[], []⟩

def text? (disk : Disk) (path : Path) : Option String := disk.files.lookup path

/-- The working directory and those around it are always there. -/
def isDirectory (disk : Disk) (path : Path) : Bool :=
  path.all (· == "..") || disk.directories.contains path

/-- The bytes that a part of a path may have. -/
def maxPartSize : Nat := 255

/-- The bytes that a path may have. -/
def maxPathSize : Nat := 4095

/-- Follows a path part by part to where it ends. -/
def follow (disk : Disk) : (directory : Path) → Path → Except Obstacle Path
  | directory, [] => .ok directory
  | directory, part :: rest =>
    if disk.isDirectory directory then
      if maxPartSize < part.utf8ByteSize then .error .nameTooLong
      else follow disk (enter directory part) rest
    else if (disk.text? directory).isSome then .error .notDirectory
    else .error .missing

/-- Where a path leads from the working directory. -/
def locate (path : Path) (disk : Disk) : Except DiskFault Path :=
  if path.any fun part => part.contains '\x00' then .error .nullCharacter
  else if maxPathSize < (written path).utf8ByteSize then .error (.at (written path) .nameTooLong)
  else (disk.follow [] path).mapError (.at (written path))

/-- Makes one directory, inside one that is there. -/
def makeDirectory (path : Path) (disk : Disk) : Except DiskFault Disk := do
  let place ← disk.locate path
  if disk.isDirectory place then pure disk
  else if (disk.text? place).isSome then throw (.at (written path) .occupied)
  else pure { disk with directories := disk.directories ++ [place] }

/-- Makes a directory, given by its parts in reverse, and those above it that are missing. Those
that were made before a fault stay. -/
def makeAll : Path → Disk → Except DiskFault Unit × Disk
  | [], disk => (.ok (), disk)
  | part :: above, disk =>
    let path := (part :: above).reverse
    match disk.makeDirectory path with
    | .ok disk => (.ok (), disk)
    | .error (.at _ .missing) =>
      match makeAll above disk with
      | (.error fault, disk) => (.error fault, disk)
      | (.ok (), disk) =>
        match disk.makeDirectory path with
        | .ok disk => (.ok (), disk)
        | .error fault => (.error fault, disk)
    | .error fault => (.error fault, disk)

/-- Makes the directory that a file is to be in. -/
def makeParent (path : Path) (disk : Disk) : Except DiskFault Unit × Disk :=
  makeAll path.dropLast.reverse disk

/-- Makes an empty file unless there is one. -/
def openFile (path : Path) (disk : Disk) : Except DiskFault Disk := do
  let path := normal path
  let place ← disk.locate path
  if disk.isDirectory place then throw (.at (written path) .isDirectory)
  else if (disk.text? place).isSome then pure disk
  else pure { disk with files := disk.files ++ [(place, "")] }

/-- Adds text to the end of a file. -/
def append (path : Path) (text : String) (disk : Disk) : Disk :=
  { disk with
    files := disk.files.map fun (place, old) =>
      if place = path then (place, old ++ text) else (place, old) }

end Disk

end DropletReconciler.Log
