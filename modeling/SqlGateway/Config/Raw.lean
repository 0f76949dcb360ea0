/-
# The configuration as it is written

The fields of the configuration file, each as it was given or not given at all.  `Raw.validate`
makes the configuration of it: it fills in defaults, lets formats be inherited, trims names, and
checks everything in the order of the document, so the first fault wins.

* A format counts only if it is not blank; the nearest one decides, and `none` is a format.
* Zero means no limit for a time-out and for the age and number of rotated logs, and the default
  for the size of the log.
* Two databases, two groups of one database, or two APIs of one group may not share a name.
-/
import SqlGateway.Config
import SqlGateway.Config.Error

namespace SqlGateway.Config

open Text

/-! ## 1. The fields -/

/-- The `server` section. -/
structure RawServer where
  addr : Option String
  port : Option Nat
  auth : Bool
  accounts : List Account
  tls : Bool
  debug : Bool
  queryTimeout : Option Nat
deriving DecidableEq, Repr

/-- A `server` section without fields. -/
def RawServer.empty : RawServer := ⟨none, none, false, [], false, false, none⟩

/-- The `log` section. -/
structure RawLog where
  path : Option String
  level : Option String
  size : Option Nat
  age : Option Nat
  backups : Option Nat
deriving DecidableEq, Repr

/-- An entry of `apis`. -/
structure RawApi where
  name : Option String
  sql : Option String
  format : Option String
  debug : Bool
deriving DecidableEq, Repr

/-- An entry of `groups`. -/
structure RawGroup where
  name : Option String
  format : Option String
  apis : List RawApi
deriving DecidableEq, Repr

/-- An entry of `dbs`. -/
structure RawDatabase where
  name : Option String
  type : Option String
  dsn : Option String
  format : Option String
  maxConnections : Option Nat
  groups : List RawGroup
deriving DecidableEq, Repr

/-- The whole file. -/
structure Raw where
  server : Option RawServer
  log : Option RawLog
  dbs : List RawDatabase
deriving DecidableEq, Repr

/-! ## 2. Single settings -/

/-- The setting, unless it is blank. -/
def nonBlank (setting : Option String) : Option String := setting.filter (!isBlankText ·)

/-- The setting, unless it is zero. -/
def nonZero (setting : Option Nat) : Option Nat := setting.filter (0 < ·)

/-- The trimmed name; a blank one counts as missing. -/
def requireName (name : Option String) (missing : Error) : Except Error String :=
  match nonBlank name with
  | some n => .ok (trim n)
  | none => .error missing

/-- The case that a format asks for. -/
def caseOf (format : String) : Except Error KeyCase :=
  (KeyCase.ofFormat format).mapError .unknownFormat

/-- The case that a format asks for, or the inherited one if the format is blank. -/
def inheritedCase (format : Option String) (inherited : KeyCase) : Except Error KeyCase :=
  match nonBlank format with
  | some f => caseOf f
  | none => .ok inherited

/-- The entries, checked in order; the first whose name has been seen before is a clash. -/
def validateAll {α β : Type} (validate : α → Except Error β) (name : β → String)
    (clash : β → Error) (seen : List String) : List α → Except Error (List β)
  | [] => .ok []
  | a :: more => do
    let b ← validate a
    if name b ∈ seen then throw (clash b)
    let bs ← validateAll validate name clash (name b :: seen) more
    return b :: bs

/-! ## 3. Sections -/

/-- The address to listen on unless the file says so. -/
def defaultAddr : String := "0.0.0.0"

/-- The port to listen on unless the file says so. -/
def defaultPort : Nat := 8080

/-- The seconds a statement may take unless the file says so. -/
def defaultQueryTimeout : Nat := 30

/-- The connections to a database unless the file says so. -/
def defaultMaxConnections : Nat := 10

/-- The listener. -/
def RawServer.validate (raw : RawServer) : Except Error Server := do
  if raw.tls then throw .tlsUnsupported
  if raw.auth ∧ raw.accounts = [] then throw .authWithoutAccounts
  return {
    addr := (nonBlank raw.addr).getD defaultAddr
    port := raw.port.getD defaultPort
    auth := raw.auth
    accounts := raw.accounts
    debug := raw.debug
    queryTimeout := nonZero (some (raw.queryTimeout.getD defaultQueryTimeout)) }

/-- The log. -/
def RawLog.complete (raw : RawLog) : Log where
  path := nonBlank raw.path
  level := nonBlank raw.level
  maxSizeMb := (nonZero raw.size).getD defaultLogSizeMb
  maxAgeDays := nonZero raw.age
  maxBackups := nonZero raw.backups

/-- A template of a group with the given case. -/
def RawApi.validate (case : KeyCase) (serverDebug : Bool) (raw : RawApi) : Except Error Api := do
  let name ← requireName raw.name .unnamedApi
  let sql := raw.sql.getD ""
  if isBlankText sql then throw (.emptySql name)
  let case ← inheritedCase raw.format case
  return { name := name, sql := sql, case := case, debug := raw.debug || serverDebug }

/-- A group of a database with the given name and case. -/
def RawGroup.validate (db : String) (case : KeyCase) (serverDebug : Bool) (raw : RawGroup) :
    Except Error Group := do
  let name ← requireName raw.name .unnamedGroup
  let case ← inheritedCase raw.format case
  let apis ← validateAll (RawApi.validate case serverDebug) Api.name
    (fun api => .duplicateApi db name api.name) [] raw.apis
  return { name := name, apis := apis }

/-- A database. -/
def RawDatabase.validate (serverDebug : Bool) (raw : RawDatabase) : Except Error Database := do
  let name ← requireName raw.name .unnamedDatabase
  let typeName ← raw.type.elim (throw (.missingType name)) pure
  let engine ← (Engine.ofType typeName).mapError .unsupportedEngine
  let dsn := raw.dsn.getD ""
  if isBlankText dsn then throw (.missingDsn name)
  let maxConnections := raw.maxConnections.getD defaultMaxConnections
  if maxConnections = 0 then throw (.noConnections name)
  let case ← caseOf (raw.format.getD "")
  let groups ← validateAll (RawGroup.validate name case serverDebug) Group.name
    (fun group => .duplicateGroup name group.name) [] raw.groups
  return {
    name := name
    engine := engine
    dsn := dsn
    maxConnections := maxConnections
    groups := groups }

/-- The configuration that a file describes. -/
def Raw.validate (raw : Raw) : Except Error Config := do
  let server ← (raw.server.getD .empty).validate
  let log := (raw.log.map RawLog.complete).getD .default
  let databases ← validateAll (RawDatabase.validate server.debug) Database.name
    (fun db => .duplicateDatabase db.name) [] raw.dbs
  return { server := server, log := log, databases := databases }

end SqlGateway.Config
