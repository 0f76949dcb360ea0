/-
# Configuration

What the gateway serves and how: the listener with its accounts, the log, and the databases with
their groups of SQL templates.  A value of `Config` is complete: every default has been filled in,
every inherited setting applied, and names are trimmed.
-/
import SqlGateway.Engine
import SqlGateway.KeyCase

namespace SqlGateway

namespace Config

/-- An account for basic authentication. -/
structure Account where
  username : String
  password : String
deriving DecidableEq, Repr

/-- The listener. -/
structure Server where
  addr : String
  port : Nat
  /-- Whether requests must carry the credentials of an account. -/
  auth : Bool
  accounts : List Account
  /-- Whether every API echoes its statements. -/
  debug : Bool
  /-- How many seconds a statement may take; none for no limit. -/
  queryTimeout : Option Nat
deriving DecidableEq, Repr

/-- The address to listen on. -/
def Server.bindAddress (s : Server) : String := s.addr ++ ":" ++ toString s.port

/-- The log. -/
structure Log where
  /-- The directory of the log file; none for no file. -/
  path : Option String
  /-- Which events are logged, unless the environment says so. -/
  level : Option String
  /-- How many megabytes the log file may have before it is rotated. -/
  maxSizeMb : Nat
  /-- How many days a rotated file is kept; none for ever. -/
  maxAgeDays : Option Nat
  /-- How many rotated files are kept; none for all. -/
  maxBackups : Option Nat
deriving DecidableEq, Repr

/-- How many megabytes the log file may have unless the configuration says so. -/
def defaultLogSizeMb : Nat := 100

/-- The log without any settings. -/
def Log.default : Log := ⟨none, none, defaultLogSizeMb, none, none⟩

/-- A SQL template under a name. -/
structure Api where
  name : String
  sql : String
  case : KeyCase
  /-- Whether responses echo the statement. -/
  debug : Bool
deriving DecidableEq, Repr

/-- A group of templates. -/
structure Group where
  name : String
  apis : List Api
deriving DecidableEq, Repr

/-- A logical database. -/
structure Database where
  name : String
  engine : Engine
  /-- Where the database is, in the notation of its engine. -/
  dsn : String
  maxConnections : Nat
  groups : List Group
deriving DecidableEq, Repr

end Config

/-- A complete configuration. -/
structure Config where
  server : Config.Server
  log : Config.Log
  databases : List Config.Database
deriving DecidableEq, Repr

/-- The database of a name. -/
def Config.database? (c : Config) (name : String) : Option Config.Database :=
  c.databases.find? (·.name == name)

end SqlGateway
