/-
# The rotating log

The log is the file `runtime.log` of a directory.  A write that would make it longer than the size
limit first *rotates*: the file gets a name with the current time, a new one is begun, and rotated
logs beyond the limits on number and age are deleted.

* Only a log that is not empty is rotated, so one buffer longer than the limit still gets written.
* Pruning looks at names only: from the newest on, those behind the first `maxBackups` go, and
  those stamped before the cut-off go.
* The first fault ends the write.  What was done before it stays done.
-/
import SqlGateway.Config
import SqlGateway.Log.Directory
import SqlGateway.Log.Stamp

namespace SqlGateway.Log

/-! ## 1. Limits -/

/-- The limits of a log. -/
structure Limits where
  /-- How many bytes the log may have. -/
  maxSize : Nat
  /-- How many days a rotated log is kept; none for ever. -/
  maxAge : Option Nat
  /-- How many rotated logs are kept; none for all. -/
  maxBackups : Option Nat
deriving DecidableEq, Repr

/-- The longest age that is a limit: more milliseconds do not fit a signed 64-bit number. -/
def maxAgeDays : Nat := (0x8000000000000000 - 1) / 1000 / secondsPerDay

/-- The limits that a configuration sets.  An age that is too long to be counted is none. -/
def Limits.ofConfig (log : Config.Log) : Limits where
  maxSize := min (log.maxSizeMb * 0x100000) (0x10000000000000000 - 1)
  maxAge := log.maxAgeDays.filter (· ≤ maxAgeDays)
  maxBackups := log.maxBackups

/-! ## 2. Pruning -/

/-- A rotated log: its name and when it was rotated. -/
abbrev Backup := String × Moment

/-- The rotated logs of a directory. -/
def backups (d : Directory) : List Backup :=
  d.filterMap fun (name, _) => (backupMoment? name).map (name, ·)

/-- The rotated logs, the newest first. -/
def newestFirst (bs : List Backup) : List Backup :=
  bs.mergeSort fun a b => !a.2.isBefore b.2

/-- The rotated logs beyond the limits, given the cut-off; `i` newer ones are before them. -/
def expired (maxBackups : Option Nat) (cutoff : Option Moment) (i : Nat) :
    List Backup → List Backup
  | [] => []
  | b :: bs =>
    let tooMany := maxBackups.any (· ≤ i)
    let tooOld := cutoff.any b.2.isBefore
    if tooMany || tooOld then b :: expired maxBackups cutoff (i + 1) bs
    else expired maxBackups cutoff (i + 1) bs

/-- Deletes rotated logs in order, up to the first fault. -/
def removeAll (d : Directory) : List Backup → Option FileFault × Directory
  | [] => (none, d)
  | b :: bs =>
    match d.remove b.1 with
    | .ok d => removeAll d bs
    | .error f => (some f, d)

/-- How an operation on the log ends. -/
inductive Ending where
  | done
  | failed (f : FileFault)
  /-- The cut-off is before the first day of the calendar, which ends the whole program. -/
  | beyondCalendar
deriving DecidableEq, Repr

/-- Deletes the rotated logs beyond the limits, at the moment `now`. -/
def prune (limits : Limits) (now : Moment) (d : Directory) : Ending × Directory :=
  let go (cutoff : Option Moment) : Ending × Directory :=
    match removeAll d (expired limits.maxBackups cutoff 0 (newestFirst (backups d))) with
    | (none, d) => (.done, d)
    | (some f, d) => (.failed f, d)
  match limits.maxAge, limits.maxBackups with
  | none, none => (.done, d)
  | none, some _ => go none
  | some days, _ =>
    match now.daysEarlier? days with
    | some cutoff => go (some cutoff)
    | none => (.beyondCalendar, d)

/-! ## 3. Writing -/

/-- The name of the log. -/
def fileName : String := "runtime.log"

/-- A log that has been opened. -/
structure Rotating where
  limits : Limits
  directory : Directory
  /-- How many bytes the log has, as far as this writer knows. -/
  size : Nat
deriving DecidableEq, Repr

/-- What stands where the log directory should be. -/
inductive Site where
  | nothing
  | file
  /-- Nothing, and a file where a directory further up should be. -/
  | belowFile
  /-- Something that the system does not show. -/
  | refused (f : FileFault)
  | directory (d : Directory)
deriving DecidableEq, Repr

/-- The directory at a site; one that is not there is created. -/
def Site.directory? : Site → Except FileFault Directory
  | nothing => .ok []
  | file => .error .alreadyExists
  | belowFile => .error .notADirectory
  | refused f => .error f
  | directory d => .ok d

/-- The readings of the clock during a rotation. -/
structure Clock where
  /-- The moment that the rotated log is named for. -/
  renamedAt : Moment
  /-- The moment from which ages are measured. -/
  prunedAt : Moment
deriving DecidableEq, Repr

namespace Rotating

/-- Opens the log. -/
def start (limits : Limits) (site : Site) : Except FileFault Rotating := do
  let d ← site.directory?
  let d ← d.openFile fileName
  return ⟨limits, d, ((d.content? fileName).getD []).length⟩

/-- Gives the log a name with the current time and begins a new one. -/
def rotate (log : Rotating) (clock : Clock) : Ending × Rotating :=
  match log.directory.rename fileName (backupName clock.renamedAt) with
  | .error f => (.failed f, log)
  | .ok d =>
    match d.openFile fileName with
    | .error f => (.failed f, { log with directory := d })
    | .ok d =>
      let (ending, d) := prune log.limits clock.prunedAt d
      (ending, { log with directory := d, size := 0 })

/-- Whether a buffer does not fit the log any more. -/
def needsRotation (log : Rotating) (buffer : List UInt8) : Bool :=
  0 < log.size && log.limits.maxSize < log.size + buffer.length

/-- Appends a buffer to the log. -/
def append (log : Rotating) (buffer : List UInt8) : Rotating :=
  { log with
    directory := log.directory.append fileName buffer
    size := log.size + buffer.length }

/-- Writes a buffer, after a rotation if there has to be one. -/
def write (log : Rotating) (clock : Clock) (buffer : List UInt8) : Ending × Rotating :=
  if log.needsRotation buffer then
    match log.rotate clock with
    | (.done, log) => (.done, log.append buffer)
    | (ending, log) => (ending, log)
  else (.done, log.append buffer)

end Rotating

end SqlGateway.Log
