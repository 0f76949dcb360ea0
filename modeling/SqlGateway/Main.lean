/-
# The program

Starts the gateway in the surroundings that the operating system gives: reads the files that
starting up asks for, prints what is logged, and keeps the log directory.  Nothing is decided here.
What is printed, written, deleted and returned is what `Startup.start` reports.

How the names in a directory are listed is handed in.  Without them the logs that were rotated
earlier would be out of sight, and a rotation could not delete the ones beyond the limits.
-/
import SqlGateway.Startup.Report
import Std.Time.DateTime.Timestamp

namespace SqlGateway.Program

/-! ## 1. Surroundings -/

/-- The variables that starting up may ask for. -/
def askedVariables : List String := ["SGT_CONFIG", "SGT_PORT", "RUST_LOG"]

/-- Those of the variables that the environment has. -/
def readVariables : IO Startup.EnvFile.Variables := do
  let values ← askedVariables.mapM fun name => do
    return (← IO.getEnv name).map fun value => (name, value)
  return values.filterMap id

/-- The fault that the system has a number for. -/
def faultOfNumber? : Nat → Option FileFault
  | 2 => some .notFound
  | 13 => some .notPermitted
  | 17 => some .alreadyExists
  | 20 => some .notADirectory
  | 21 => some .isDirectory
  | _ => none

/-- The fault that an error of the system is.  Its number may come with the opposite sign. -/
def faultOf? : IO.Error → Option FileFault
  | .noFileOrDirectory _ code _ | .permissionDenied _ code _ | .alreadyExists _ code _
  | .inappropriateType _ code _ => faultOfNumber? (min code.toNat (-code).toNat)
  | _ => none

/-- Reads a file.  An error that is none of the faults ends the program. -/
def readFile (path : String) : IO (Except FileFault (List UInt8)) := do
  try
    return .ok (← IO.FS.readBinFile path).toList
  catch e =>
    match faultOf? e with
    | some f => return .error f
    | none => throw e

/-- Whether the log looks at the entry of a name: it is the log itself or one that was rotated. -/
def isLogName (name : String) : Bool := name = Log.fileName || (Log.backupMoment? name).isSome

/-- Reads the entry of a log directory.  A rotated log that may not be read is taken as empty: it is
deleted or left alone, and its content is never looked at. -/
def readEntry (directory name : String) : IO (Except FileFault (String × Log.Entry)) := do
  match ← readFile (directory ++ "/" ++ name) with
  | .ok content => return .ok (name, .file content)
  | .error .isDirectory => return .ok (name, .directory)
  | .error f => return if name = Log.fileName then .error f else .ok (name, .file [])

/-- Looks at the place of a log directory. -/
def lookAt (listing : String → IO (List String)) (path : String) : IO Log.Site := do
  match ← readFile path with
  | .ok _ => return .file
  | .error .notFound => return .nothing
  | .error .notADirectory => return .belowFile
  | .error .isDirectory =>
    let names := (← listing path).filter isLogName
    let entries ← names.mapM (readEntry path)
    return match entries.mapM id with
      | .ok d => .directory d
      | .error f => .refused f
  | .error f => return .refused f

/-- Reads the environment file; that it cannot be read is no matter, whatever the reason. -/
def readEnvironmentFile : IO (Except FileFault (List UInt8)) := do
  try readFile ".env" catch _ => return .error .notFound

/-- The surroundings for the given arguments: only what starting up asks for is looked at. -/
def surroundings (listing : String → IO (List String)) (arguments : List String) :
    IO Startup.Surroundings := do
  let environment ← readEnvironmentFile
  let w : Startup.Surroundings :=
    ⟨← readVariables, fun path => if path = ".env" then environment else .error .notFound,
      fun _ => .nothing⟩
  match w.configPath? arguments with
  | none => return w
  | some config =>
    let content ← readFile config
    let w := { w with
      read := fun path => if path = ".env" then environment else content }
    match w.logDirectory? arguments with
    | none => return w
    | some directory =>
      let site ← lookAt listing directory
      return { w with site := fun _ => site }

/-! ## 2. Telling -/

/-- The current moment, in universal time. -/
def now : IO Moment := do
  let nanos := (← Std.Time.Timestamp.now).toNanosecondsSinceUnixEpoch.val
  let seconds := nanos / nanosPerSecond
  return ⟨seconds / secondsPerDay, (seconds % secondsPerDay).toNat, (nanos % nanosPerSecond).toNat⟩

/-- Writes the files of a directory that are new or other than before, and deletes those that are
gone. -/
def saveChanges (path : String) (before after : Log.Directory) : IO Unit := do
  IO.FS.createDirAll path
  for (name, entry) in after do
    if let .file content := entry then
      if before.content? name != some content then
        IO.FS.writeBinFile (path ++ "/" ++ name) content.toByteArray
  for (name, _) in before do
    if (after.lookup name).isNone then IO.FS.removeFile (path ++ "/" ++ name)

/-- Prints the lines of a report, and writes them to its log file. -/
def tell (r : Startup.Report) : IO Unit := do
  let moment ← now
  let time (_ : Nat) : String := Log.lineTime moment
  for line in r.ending.reply do IO.println line
  for event in r.events do IO.println (event.line (Log.lineTime moment))
  if let some log := r.log then
    let written := log.file.writeEvents time (fun _ => ⟨moment, moment⟩) r.events
    saveChanges log.directory log.file.directory written.directory
  for line in r.ending.complaint do IO.eprintln line

/-- Starts the gateway and tells how that went. -/
def run (listing : String → IO (List String)) (arguments : List String) : IO UInt32 := do
  let report := Startup.start (← surroundings listing arguments) arguments
  tell report
  return UInt32.ofNat (report.ending.exitCode?.getD 0)

end SqlGateway.Program
