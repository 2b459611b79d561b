import Rosbridge.Data.Text
import Rosbridge.Foundation.Directory

/-!
Log files (`logging/file.rs`).

Owns: the names of log files, their rotation, and the archives.

The directory is the state of a program. A step is given the time that the clock shows,
the time stamp that the file system sets, and the operations that fail.
-/

set_option autoImplicit false

namespace Rosbridge.Logging

open Foundation

/-! ### Times -/

/-- A local time, to the minute, and its distance from UTC in seconds. -/
structure DateTime where
  year : Int
  month : Nat
  day : Nat
  hour : Nat
  minute : Nat
  offset : Int
  month_lt : month < 13
  day_lt : day < 32
  hour_lt : hour < 24
  minute_lt : minute < 60

/-- A number with leading zeros. -/
def padded (width value : Nat) : String :=
  String.ofList (List.replicate (width - (toString value).toList.length) '0') ++ toString value

namespace DateTime

variable (time : DateTime)

/-- `%Y`. Years that have no four digits are signed. -/
def yearText : String :=
  if 0 ≤ time.year ∧ time.year ≤ 9999 then padded 4 time.year.toNat
  else (if time.year < 0 then "-" else "+") ++ padded 4 time.year.natAbs

/-- `%z`, which is rounded to minutes. -/
def offsetText : String :=
  let minutes := (time.offset.natAbs + 30) / 60
  (if time.offset < 0 then "-" else "+") ++ padded 2 (minutes / 60) ++ padded 2 (minutes % 60)

/-- `%Y%m%d`. -/
def dateText : String := time.yearText ++ padded 2 time.month ++ padded 2 time.day

/-- `%Y%m%d%H%z`. -/
def hourText : String := time.dateText ++ padded 2 time.hour ++ time.offsetText

/-- `%Y%m%d%H%M`. -/
def minuteText : String := time.dateText ++ padded 2 time.hour ++ padded 2 time.minute

end DateTime

inductive Rotation where
  | twentyMinutes
  | daily
  | hourly
  | never
deriving DecidableEq

def Rotation.period (rotation : Rotation) (time : DateTime) : String :=
  match rotation with
  | .twentyMinutes => time.hourText ++ "-" ++ toString (time.minute / 20)
  | .daily => time.dateText
  | .hourly => time.hourText
  | .never => ""

/-! ### Names -/

/-- `path.file_stem()`. -/
def fileStem (name : String) : String :=
  if name = ".." then name
  else
    match rsplitOnce name '.' with
    | none => name
    | some (before, _) => if before = "" then name else before

/-- `path.extension()`. -/
def extension (name : String) : Option String :=
  if name = ".." then none
  else
    match rsplitOnce name '.' with
    | none => none
    | some (before, after) => if before = "" then none else some after

/-- `path.with_extension(other)`. -/
def withExtension (name other : String) : String := fileStem name ++ "." ++ other

/-- The name that `create` tries, given how many it has tried before. -/
def activeName (time : DateTime) (index : Nat) : String :=
  let stem :=
    if index = 0 then time.minuteText else time.minuteText ++ "-" ++ toString index
  stem ++ ".logging"

def isArchive (name : String) : Bool :=
  if extension name ≠ some "log" then false
  else
    let stem := fileStem name
    let (stamp, suffix) :=
      match splitOnce stem '-' with
      | none => (stem, none)
      | some (before, after) => (before, some after)
    stamp.toList.length = 12 && stamp.toList.all Char.isDigit &&
      suffix.all fun text => !text.isEmpty && text.toList.all Char.isDigit

/-! ### Log files -/

/-- The file that is written to, under its name, and how it is rotated. -/
structure LogFile where
  file : Nat
  path : String
  rotation : Rotation
  period : String
  maxFiles : Nat
deriving DecidableEq

section Operations

variable (faults : Faults)

/-- The loop of `create`, for as many names as there is fuel. -/
def createFrom (time : DateTime) (stamp : Nat) : Nat → Nat → Disk (Nat × String)
  | 0, _ => Program.panic "unreachable"
  | fuel + 1, index => do
      let path := activeName time index
      match ← Program.attempt (createNew faults path stamp) with
      | .ok file =>
          if ← isUsed (withExtension path "log") then
            removeFile faults path
            createFrom time stamp fuel (index + 1)
          else return (file, path)
      | .error .alreadyExists => createFrom time stamp fuel (index + 1)
      | .error cause => Program.fail cause

/-- `create`. A name that is taken, or whose archive is, is one of those in the directory. -/
def create (time : DateTime) (stamp : Nat) : Disk (Nat × String) := do
  let directory ← Program.get
  createFrom faults time stamp (directory.names.entries.length + 1) 0

/-- `archive`. Flushing does nothing. -/
def archive (self : LogFile) : Disk Unit := do
  hardLink faults self.path (withExtension self.path "log")
  removeFile faults self.path

def prune (self : LogFile) : Disk Unit := do
  let files ← listDated faults isArchive
  Program.forEach (files.take (files.length - self.maxFiles)) fun item =>
    removeFile faults (ofLex item).2

/-- What `drop` tries. -/
def finish (self : LogFile) : Disk Unit := do
  archive faults self
  prune faults self

/-- `drop`. An error is only printed. -/
def drop (self : LogFile) : Disk Unit := do
  let _ ← Program.attempt (finish faults self)
  return ()

/-- `at`. A log file that is not returned is dropped. -/
def startAt (final : Faults) (rotation : Rotation) (maxFiles : Nat) (time : DateTime)
    (stamp : Nat) : Disk LogFile := do
  Program.ensure (!faults .prepare) .faulty
  let (file, path) ← create faults time stamp
  let writer : LogFile := ⟨file, path, rotation, rotation.period time, maxFiles⟩
  match ← Program.attempt (prune faults writer) with
  | .ok () => return writer
  | .error cause =>
      drop final writer
      Program.fail cause

end Operations

/-! ### Writing -/

/-- A log file in its directory. -/
structure Writer where
  self : LogFile
  directory : Directory

/-- Run a program on the directory. -/
def onDirectory {α : Type} (program : Disk α) : Program Writer Failure α := fun writer =>
  ((program writer.directory).1, { writer with directory := (program writer.directory).2 })

section Writing

variable (faults : Faults)

def rotate (time : DateTime) (stamp : Nat) : Program Writer Failure Unit := do
  let writer ← Program.get
  let period := writer.self.rotation.period time
  if period = writer.self.period then return ()
  else
    let (file, path) ← onDirectory (create faults time stamp)
    match ← Program.attempt (onDirectory (archive faults writer.self)) with
    | .error cause =>
        let _ ← Program.attempt (onDirectory (removeFile faults path))
        Program.fail cause
    | .ok () =>
        let self := { writer.self with file, path, period }
        Program.modify fun writer => { writer with self }
        onDirectory (prune faults self)

/-- `write`, when the file takes at most so many of the bytes. -/
def write (time : DateTime) (stamp count : Nat) (bytes : List UInt8) :
    Program Writer Failure Nat := do
  rotate faults time stamp
  Program.ensure (!faults .write) .faulty
  let taken := bytes.take count
  Program.modify fun writer =>
    { writer with directory := writer.directory.append writer.self.file taken stamp }
  return taken.length

end Writing

end Rosbridge.Logging
