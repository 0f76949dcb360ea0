/-
# The command line

The program takes two settings, the path of the configuration file and a port, each as an option
with a long and a short name, and as a variable of the environment for when the option is missing.
The switches `--help` and `--version` stop everything else.

* A value may be attached to the name (`--port=1`, `-p1`, `-p=1`) or be the next argument, which
  then must not look like an option.
* A value that is the next argument is examined only when the next option or the end is reached.
  So an unknown argument behind a bad value is what gets reported.
* An option may be given once.
* An unknown long name is told together with the known one that it is most like, if it is like one.
* A variable is examined only if its option is missing, but then even an empty one counts as given.
-/
import SqlGateway.Config.File
import SqlGateway.Number.Whole
import SqlGateway.Text.Similarity

namespace SqlGateway.Startup

/-! ## 1. Settings -/

/-- What the command line settles. -/
structure Settings where
  /-- The path of the configuration file. -/
  config : String
  /-- The port to listen on, in place of the configured one. -/
  port : Option Nat
deriving DecidableEq, Repr

/-- The path of the configuration file unless the command line says so. -/
def defaultConfig : String := "config.yaml"

/-- The options that take a value. -/
inductive Setting where
  | config
  | port
deriving DecidableEq, Repr

/-- What stops the reading. -/
inductive Switch where
  | help
  | version
deriving DecidableEq, Repr

/-- What has a name on the command line. -/
inductive Known where
  | setting (s : Setting)
  | switch (w : Switch)
deriving DecidableEq, Repr

namespace Known

/-- All that has a name. -/
def all : List Known := [.setting .config, .setting .port, .switch .help, .switch .version]

/-- The long name. -/
def longName : Known → String
  | setting .config => "config"
  | setting .port => "port"
  | switch .help => "help"
  | switch .version => "version"

/-- The short name. -/
def shortName : Known → Char
  | setting .config => 'c'
  | setting .port => 'p'
  | switch .help => 'h'
  | switch .version => 'V'

/-- What has a long name. -/
def ofLong? (name : String) : Option Known := all.find? (·.longName == name)

/-- What has a short name. -/
def ofShort? (name : Char) : Option Known := all.find? (·.shortName == name)

/-- What has the long name that is most like `name`. -/
def near? (name : String) : Option Known :=
  (Text.Similarity.closest? name.toList (all.map longName)).bind ofLong?

end Known

/-- Why a text is no port. -/
inductive PortFault where
  /-- It is no signed number of 64 bits. -/
  | notNumber (f : Whole.Fault)
  | outOfRange (n : Int)
deriving DecidableEq, Repr

/-- Why the command line yields no settings. -/
inductive UsageError where
  | helpWanted
  | versionWanted
  | unknownArgument (shown : String)
  /-- A long name that is not known, what it may have meant, and the settings met before. -/
  | unknownName (name : String) (near : Option Known) (met : List Setting)
  /-- An option without its value, or with an empty one that must not be empty. -/
  | missingValue (s : Setting)
  /-- A value that is no port. -/
  | badPort (value : String) (f : PortFault)
  /-- A value attached to a switch, and the settings met before. -/
  | unwantedValue (value : String) (w : Switch) (met : List Setting)
  /-- An option that is given twice. -/
  | repeated (s : Setting)
deriving DecidableEq, Repr

/-- The variable that stands in for an option. -/
def Setting.variableName : Setting → String
  | config => "SGT_CONFIG"
  | port => "SGT_PORT"

/-! ## 2. Arguments -/

/-- What an argument is by its looks. -/
inductive Argument where
  /-- Two dashes: no option follows. -/
  | separator
  | long (name : String) (attached : Option String)
  | short (name : Char) (attached : Option String)
  | plain (text : String)
deriving DecidableEq, Repr

/-- The text in front of the first `=`, and the text behind it. -/
def splitValue (cs : List Char) : String × Option String :=
  let name := cs.takeWhile (· != '=')
  match cs.drop name.length with
  | [] => (String.ofList name, none)
  | _ :: value => (String.ofList name, some (String.ofList value))

/-- The value attached to a short name; an `=` in front does not belong to it. -/
def attachedShort : List Char → Option String
  | [] => none
  | '=' :: value => some (String.ofList value)
  | value => some (String.ofList value)

/-- What an argument is. -/
def Argument.ofText (text : String) : Argument :=
  match text.toList with
  | ['-', '-'] => .separator
  | '-' :: '-' :: rest =>
    let (name, attached) := splitValue rest
    .long name attached
  | '-' :: c :: rest => .short c (attachedShort rest)
  | _ => .plain text

/-! ## 3. Values -/

/-- The port that a text says: a decimal number below 2 ^ 16, with or without a sign. -/
def portOf (text : String) : Except PortFault Nat :=
  match Whole.read 0x8000000000000000 0x7FFFFFFFFFFFFFFF text.toList with
  | .error f => .error (.notNumber f)
  | .ok n => if n < 0 || 0x10000 ≤ n then .error (.outOfRange n) else .ok n.toNat

/-- What has been read so far. -/
structure Reading where
  config : Option String
  port : Option Nat
  /-- The settings that have been met, in order. -/
  met : List Setting
  /-- The option met last, and its value if that has been met, not yet examined. -/
  pending : Option (Setting × Option String)

namespace Reading

/-- Nothing has been read. -/
def empty : Reading := ⟨none, none, [], none⟩

/-- Whether a setting has its value. -/
def has (r : Reading) : Setting → Bool
  | .config => r.config.isSome
  | .port => r.port.isSome

/-- Examines a value and takes it. -/
def take (r : Reading) (s : Setting) (value : String) : Except UsageError Reading :=
  if r.has s then .error (.repeated s)
  else
    let r := { r with met := r.met ++ [s] }
    match s with
    | .config =>
      if value = "" then .error (.missingValue s) else .ok { r with config := some value }
    | .port =>
      match portOf value with
      | .error f => .error (.badPort value f)
      | .ok n => .ok { r with port := some n }

/-- Examines what is pending. -/
def settle (r : Reading) : Except UsageError Reading :=
  match r.pending with
  | none => .ok r
  | some (s, none) => .error (.missingValue s)
  | some (s, some value) => { r with pending := none }.take s value

/-- The settings that have been met, the pending one among them if it has a value.  One that is met
a second time counts no more. -/
def allMet (r : Reading) : List Setting :=
  match r.pending with
  | some (s, some _) => if r.has s then r.met.filter (· != s) else r.met ++ [s]
  | _ => r.met

/-- Reads a setting's name and the value attached to it. -/
def readSetting (r : Reading) (s : Setting) : Option String → Except UsageError Reading
  | some value => do (← r.settle).take s value
  | none => do return { ← r.settle with pending := some (s, none) }

/-- Stops at a switch, unless what is pending is at fault. -/
def stopAt (r : Reading) (w : Switch) : Except UsageError Reading := do
  let _ ← r.settle
  match w with
  | .help => .error .helpWanted
  | .version => .error .versionWanted

/-- Reads an argument with a long name. -/
def readLong (r : Reading) (name : String) (attached : Option String) :
    Except UsageError Reading :=
  match Known.ofLong? name, attached with
  | some (.setting s), _ => r.readSetting s attached
  | some (.switch w), none => r.stopAt w
  | some (.switch w), some value => .error (.unwantedValue value w r.met)
  | none, _ => .error (.unknownName name (Known.near? name) r.allMet)

/-- Reads an argument with a short name. -/
def readShort (r : Reading) (name : Char) (attached : Option String) :
    Except UsageError Reading :=
  match Known.ofShort? name with
  | some (.setting s) => r.readSetting s attached
  | some (.switch w) => r.stopAt w
  | none => .error (.unknownArgument (String.ofList ['-', name]))

/-- Reads the arguments. -/
def readAll (r : Reading) : List String → Except UsageError Reading
  | [] => r.settle
  | text :: rest =>
    match Argument.ofText text with
    | .separator =>
      match rest with
      | [] => r.settle
      | shown :: _ => .error (.unknownArgument shown)
    | .long name attached => do (← r.readLong name attached).readAll rest
    | .short name attached => do (← r.readShort name attached).readAll rest
    | .plain value =>
      match r.pending with
      | some (s, none) => { r with pending := some (s, some value) }.readAll rest
      | _ => .error (.unknownArgument value)

/-- Takes the variable of a setting that has no value yet. -/
def orVariable (r : Reading) (env : String → Option String) (s : Setting) :
    Except UsageError Reading :=
  if r.has s then .ok r
  else
    match env s.variableName with
    | none => .ok r
    | some value => r.take s value

end Reading

/-- The settings that the arguments and the environment make. -/
def Settings.ofArguments (env : String → Option String) (arguments : List String) :
    Except UsageError Settings := do
  let r ← Reading.empty.readAll arguments
  let r ← r.orVariable env .config
  let r ← r.orVariable env .port
  return ⟨r.config.getD defaultConfig, r.port⟩

/-! ## 4. Loading -/

/-- Sets the port of a configuration. -/
def Settings.override (s : Settings) (c : Config) : Config :=
  match s.port with
  | none => c
  | some port => { c with server := { c.server with port := port } }

/-- The configuration under the settings, given what reading its file yields. -/
def Settings.load (s : Settings) (content : Except FileFault (List UInt8)) :
    Except Config.FileError Config :=
  (Config.ofFile content).map s.override

/-- What is being done while the configuration of a path is loaded. -/
def loadContext (path : String) : String := "failed to load config " ++ path

end SqlGateway.Startup
