/-
# What is wrong with a configuration

The causes, each with a code for programs and a wording for people.
-/
import SqlGateway.Engine
import SqlGateway.KeyCase

namespace SqlGateway.Config

/-- Why a configuration is refused. -/
inductive Error where
  /-- The text is no YAML document of the expected shape. -/
  | malformed
  | tlsUnsupported
  | authWithoutAccounts
  | unnamedDatabase
  | unnamedGroup
  | unnamedApi
  | missingType (database : String)
  | missingDsn (database : String)
  | noConnections (database : String)
  | duplicateGroup (database group : String)
  | emptySql (api : String)
  | duplicateDatabase (name : String)
  | duplicateApi (database group api : String)
  | unsupportedEngine (e : UnsupportedEngine)
  | unknownFormat (e : UnknownFormat)
deriving DecidableEq, Repr

/-- The code of an error. -/
def Error.code : Error → String
  | malformed => "YAML_ERROR"
  | duplicateDatabase _ => "DUPLICATE_DATABASE"
  | duplicateApi _ _ _ => "DUPLICATE_API"
  | unsupportedEngine _ => "UNSUPPORTED_ENGINE"
  | unknownFormat _ => "UNKNOWN_FORMAT"
  | _ => "CONFIG_VALIDATION_ERROR"

/-- The wording of an error. -/
def Error.message : Error → String
  | malformed => "YAML parse error"
  | tlsUnsupported =>
    "config validation error: tls is not supported by the gateway listener; " ++
      "terminate TLS in front of it"
  | authWithoutAccounts =>
    "config validation error: server.auth is enabled but no accounts are configured"
  | unnamedDatabase => "config validation error: 'dbs[].name' must not be empty"
  | unnamedGroup => "config validation error: 'groups[].name' must not be empty"
  | unnamedApi => "config validation error: 'apis[].name' must not be empty"
  | missingType db => "config validation error: database '" ++ db ++ "' is missing 'type'"
  | missingDsn db => "config validation error: database '" ++ db ++ "' is missing 'dsn'"
  | noConnections db =>
    "config validation error: database '" ++ db ++ "' must allow at least one connection"
  | duplicateGroup db group =>
    "config validation error: duplicate group '" ++ group ++ "' in database '" ++ db ++ "'"
  | emptySql api => "config validation error: api '" ++ api ++ "' has an empty sql template"
  | duplicateDatabase name => "duplicate database name: " ++ name
  | duplicateApi db group api => "duplicate api: " ++ db ++ "/" ++ group ++ "/" ++ api
  | unsupportedEngine e => e.message
  | unknownFormat e => e.message

end SqlGateway.Config
