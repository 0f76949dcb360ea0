/-
# Starting up

From the command line to the address that is listened on:

1. An environment file fills in variables, and the settings are read.
2. The configuration is loaded.
3. The log is set up: a filter, and a log file if one is configured.
4. The gateway is made.  What happens on the way is logged.

Up to step 3 nothing is logged at all, whatever the filter says, so an error there is told only to
whoever started the program.
-/
import SqlGateway.Gateway.Start
import SqlGateway.Log.Event
import SqlGateway.Startup.CommandLine
import SqlGateway.Startup.EnvFile
import SqlGateway.Startup.Usage

namespace SqlGateway.Startup

open Log (Event)

/-! ## 1. Failures -/

/-- Why the program does not start. -/
inductive Failure where
  | configuration (path : String) (e : Config.FileError)
  | filter (f : Log.FilterFault)
  | logFile (directory : String) (f : FileFault)
  | gateway (e : Gateway.StartError)
  | binding (address : String) (f : FileFault)
deriving DecidableEq, Repr

namespace Failure

/-- What was being done. -/
def context : Failure → String
  | configuration path _ => loadContext path
  | filter _ => "invalid log filter"
  | logFile directory _ => "failed to open log file in " ++ directory
  | gateway e => e.context
  | binding address _ => "failed to bind " ++ address

/-- The wordings of the reasons, the innermost at the end. -/
def reasons : Failure → List String
  | configuration _ (.unreadable f) => [(Config.FileError.unreadable f).message, f.message]
  | configuration _ e => [e.message]
  | filter f => f.reasons
  | logFile _ f => [f.message]
  | gateway e => e.reasons
  | binding _ f => [f.message]

/-- The lines of a text after a mark; those after the first stand below what follows the mark. -/
def hanging (mark text : String) : List String :=
  match text.splitOn "\n" with
  | [] => [mark]
  | first :: more => (mark ++ first) :: more.map ("".pushn ' ' mark.length ++ ·)

/-- The number of a reason, as the mark in front of it. -/
def numberMark (i : Nat) : String :=
  let number := toString i
  "".pushn ' ' (5 - number.length) ++ number ++ ": "

/-- The lines that tell the failure; several reasons are numbered. -/
def lines (f : Failure) : List String :=
  let told :=
    match f.reasons with
    | [reason] => hanging "    " reason
    | reasons => reasons.zipIdx.flatMap fun (reason, i) => hanging (numberMark i) reason
  ["Error: " ++ f.context, "", "Caused by:"] ++ told

end Failure

/-! ## 2. Events -/

/-- The target of what the program itself tells. -/
def programTarget : String := "sgt_gateway"

/-- That the program starts. -/
def startingEvent (s : Settings) (c : Config) : Event :=
  ⟨.info, programTarget, "Starting SQL gateway",
    [("config", s.config), ("databases", toString c.databases.length)]⟩

/-- That the registry is there. -/
def registryEvent (r : Registry) : Event :=
  ⟨.debug, "sgt_sql::registry", "api registry built", [("apis", toString r.size)]⟩

/-- That the pool of a database is there. -/
def poolEvent (d : Config.Database) : Event :=
  ⟨.debug, "sgt_gateway::state", "connection pool ready",
    [("db", d.name), ("engine", Text.quoted d.engine.name)]⟩

/-- That a part of a database's connection settings means nothing. -/
def passedOverEvent (key value : String) : Event :=
  ⟨.warn, "sqlx_postgres::options::parse", "ignoring unrecognized connect parameter",
    [("key", key), ("value", value)]⟩

/-- What is told while the pools are opened: of each database what is passed over in its settings,
then that its pool is there.  The first database that is refused is the last one. -/
def poolEvents : List Config.Database → List Event
  | [] => []
  | d :: more =>
    let passed := (Dsn.passedOver d.engine d.dsn).map fun (key, value) => passedOverEvent key value
    passed ++ if (Gateway.openPool d).isOk then poolEvent d :: poolEvents more else []

/-- That there is nothing to call. -/
def nothingToCallEvent : Event :=
  ⟨.warn, programTarget, "no apis configured; only /health and /info will respond", []⟩

/-- Texts in quotes, in brackets and with commas between them. -/
def quotedList (items : List String) : String :=
  "[" ++ String.intercalate ", " (items.map Text.quoted) ++ "]"

/-- That an endpoint can be called. -/
def endpointEvent (level : Log.Level) (e : Endpoint) : Event :=
  ⟨level, programTarget, "api registered", [("route", e.route), ("params", quotedList e.params)]⟩

/-- That requests are waited for. -/
def listeningEvent (address : String) : Event :=
  ⟨.info, programTarget, "Gateway listening on " ++ address, []⟩

/-- What is told about a registry that is there. -/
def registryEvents (c : Config) (r : Registry) : List Event :=
  let level := if c.server.debug then Log.Level.info else .debug
  (if r.isEmpty then [nothingToCallEvent] else []) ++ r.endpoints.map (endpointEvent level)

/-- Makes the gateway, and tells what happens on the way. -/
def makeGateway (s : Settings) (c : Config) :
    List Event × Except Gateway.StartError Gateway :=
  let start := startingEvent s c
  match Registry.ofConfig c with
  | .error e => ([start], .error (.registry e))
  | .ok r =>
    let ready := start :: registryEvent r :: poolEvents c.databases
    match Gateway.ofConfig c with
    | .error e => (ready, .error e)
    | .ok g =>
      (ready ++ registryEvents c g.registry ++ [listeningEvent c.server.bindAddress], .ok g)

/-! ## 3. The whole -/

/-- Whether the system keeps a port to itself. -/
def isReserved (port : Nat) : Bool := 0 < port && port < 1024

/-- Starts to wait for requests. -/
def bind (server : Config.Server) : Except Failure Unit :=
  if isReserved server.port then .error (.binding server.bindAddress .notPermitted) else .ok ()

/-- What the program finds when it is started. -/
structure Surroundings where
  /-- The variables of the environment. -/
  environment : EnvFile.Variables
  /-- Reads a file. -/
  read : String → Except FileFault (List UInt8)
  /-- Looks at the place of a directory. -/
  site : String → Log.Site

/-- How starting up ends. -/
inductive Ending where
  /-- Requests for the gateway are waited for. -/
  | listening (g : Gateway) (address : String)
  | failed (f : Failure)
  /-- The command line yields no settings: the lines are told, as an answer or as an error. -/
  | usage (e : UsageError) (lines : List String)

/-- The exit code, unless the program goes on. -/
def Ending.exitCode? : Ending → Option Nat
  | listening _ _ => none
  | failed _ => some 1
  | usage e _ => some e.exitCode

/-- The lines for the standard error. -/
def Ending.complaint : Ending → List String
  | listening _ _ => []
  | failed f => f.lines
  | usage e lines => if e.isAnswer then [] else lines

/-- The lines for the standard output, beside what is logged. -/
def Ending.reply : Ending → List String
  | usage e lines => if e.isAnswer then lines else []
  | _ => []

/-- A log file that has been opened, and the directory it is in. -/
structure OpenedLog where
  directory : String
  file : Log.Rotating

/-- What starting up comes to. -/
structure Report where
  /-- What is logged, in order. -/
  events : List Event
  /-- The log file, before anything is written to it. -/
  log : Option OpenedLog
  ending : Ending

/-- A report of a failure before anything is logged. -/
def Report.silent (e : Ending) : Report := ⟨[], none, e⟩

/-- Opens the log file if one is configured. -/
def openLog (w : Surroundings) (log : Config.Log) : Except Failure (Option OpenedLog) :=
  match log.path with
  | none => .ok none
  | some directory =>
    match Log.Rotating.start (.ofConfig log) (w.site directory) with
    | .ok file => .ok (some ⟨directory, file⟩)
    | .error f => .error (.logFile directory f)

/-- The variables of the environment, filled in from its file. -/
def Surroundings.allVariables (w : Surroundings) : EnvFile.Variables :=
  match w.read ".env" with
  | .error _ => w.environment
  | .ok bytes => EnvFile.fill w.environment (Text.Utf8.decodeLossy bytes)

/-- The configuration file that the arguments lead to. -/
def Surroundings.configPath? (w : Surroundings) (arguments : List String) : Option String :=
  let vars := w.allVariables
  (Settings.ofArguments (fun name => vars.lookup name) arguments).toOption.map (·.config)

/-- The log directory that the arguments lead to. -/
def Surroundings.logDirectory? (w : Surroundings) (arguments : List String) : Option String := do
  let path ← w.configPath? arguments
  (← (Config.ofFile (w.read path)).toOption).log.path

/-- Starts under the settings. -/
def startWith (w : Surroundings) (vars : EnvFile.Variables) (s : Settings) :
    Except Failure Report := do
  let c ← (s.load (w.read s.config)).mapError (.configuration s.config)
  let filter ← (Log.Filter.choose (vars.lookup "RUST_LOG") c.log.level).mapError .filter
  let log ← openLog w c.log
  let (events, made) := makeGateway s c
  let ending :=
    match made.mapError .gateway, bind c.server with
    | .ok g, .ok () => Ending.listening g c.server.bindAddress
    | .error f, _ | .ok _, .error f => .failed f
  return ⟨events.filter (·.passes filter), log, ending⟩

/-- Starts with the given arguments. -/
def start (w : Surroundings) (arguments : List String) : Report :=
  let vars := w.allVariables
  let env (name : String) : Option String := vars.lookup name
  match Settings.ofArguments env arguments with
  | .error e => .silent (.usage e (e.lines env))
  | .ok s =>
    match startWith w vars s with
    | .error f => .silent (.failed f)
    | .ok report => report

end SqlGateway.Startup
