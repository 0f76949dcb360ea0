/-
# Connection settings

Every engine has its own notation for where a database is.  The settings are examined when the
gateway starts, long before the first connection, so that a mistake in them is told at once.  What
counts is what they say, not whether a database is there.

* PostgreSQL and MySQL: a URL.  User, password and path must be text when decoded, and known keys of
  the query must have one of their values.  A key that PostgreSQL does not know is told in the log.
* SQLite: a file name or `:memory:`, behind `sqlite:` or not, and keys and values behind a `?`.  An
  unknown key is a mistake here, and only here.
-/
import SqlGateway.Dsn.Url
import SqlGateway.Engine
import SqlGateway.Number.Whole
import SqlGateway.Text.Quoted

namespace SqlGateway.Dsn

/-! ## 1. Faults -/

/-- Why connection settings are refused. -/
inductive Fault where
  | url (f : UrlFault)
  | notText (f : Text.Utf8.Fault)
  | notCount (f : Whole.Fault)
  | notAddress
  /-- A key of the query has none of its values. -/
  | unknownValue (key value : String)
  /-- As before, where the key belongs to the encryption of a connection. -/
  | unknownMode (value : String)
  | unknownKey (key : String)
deriving DecidableEq, Repr

/-- The wording of what is at fault. -/
def Fault.message : Fault → String
  | url f => f.message
  | notText f => f.message
  | notCount f => f.message
  | notAddress => "invalid IP address syntax"
  | unknownValue key value => "unknown value " ++ Text.quoted value ++ " for \x60" ++ key ++ "\x60"
  | unknownMode value => "unknown value " ++ Text.quoted value ++ " for \x60ssl_mode\x60"
  | unknownKey key => "unknown query parameter \x60" ++ key ++ "\x60 while parsing connection URL"

/-- The wording of a fault in the settings, given the wording of its reason. -/
def inSettings (reason : String) : String := "error with configuration: " ++ reason

/-- The wordings from the outermost to the innermost reason; a mode is refused on two levels. -/
def Fault.reasons (f : Fault) : List String :=
  match f with
  | unknownMode _ =>
    [inSettings (inSettings f.message), inSettings f.message, f.message]
  | _ => [inSettings f.message, f.message]

/-! ## 2. Values -/

/-- Refuses a part of a URL that is no text when decoded. -/
def checkText (part : List Char) : Except Fault Unit :=
  match Text.Utf8.firstFault (Text.Percent.decode (Text.Utf8.encodeChars part)) with
  | some f => .error (.notText f)
  | none => .ok ()

/-- Refuses what is no decimal number up to `high`. -/
def checkCount (high : Nat) (value : String) : Except Fault Unit :=
  match Whole.readNatural high value.toList with
  | .ok _ => .ok ()
  | .error f => .error (.notCount f)

/-- Refuses what is no address. -/
def checkAddress (value : String) : Except Fault Unit :=
  if Address.isAddress value.toList then .ok () else .error .notAddress

/-- Refuses a mode of encryption that is none of `modes`, whatever the case of its letters. -/
def checkMode (modes : List String) (value : String) : Except Fault Unit :=
  if modes.contains (String.ofList (value.toList.map Char.toLower)) then .ok ()
  else .error (.unknownMode value)

/-- Refuses the value of a key unless it is one of `values`. -/
def checkValue (key : String) (values : List String) (value : String) : Except Fault Unit :=
  if values.contains value then .ok () else .error (.unknownValue key value)

/-! ## 3. Engines -/

/-- The modes of encryption of PostgreSQL. -/
def postgresModes : List String :=
  ["disable", "allow", "prefer", "require", "verify-ca", "verify-full"]

/-- Checks a key of the query for PostgreSQL. -/
def checkPostgresPair : String × String → Except Fault Unit
  | ("sslmode", value) => checkMode postgresModes value
  | ("ssl-mode", value) => checkMode postgresModes value
  | ("statement-cache-capacity", value) => checkCount 0xFFFFFFFFFFFFFFFF value
  | ("port", value) => checkCount 0xFFFF value
  | ("hostaddr", value) => checkAddress value
  | _ => .ok ()

/-- The keys that mean something to PostgreSQL. -/
def postgresKeys : List String :=
  ["sslmode", "ssl-mode", "sslrootcert", "ssl-root-cert", "ssl-ca", "sslcert", "ssl-cert", "sslkey",
    "ssl-key", "statement-cache-capacity", "host", "hostaddr", "port", "dbname", "user", "password",
    "application_name", "options"]

/-- Whether a key means something to PostgreSQL; behind `options[` anything may stand. -/
def isPostgresKey (key : String) : Bool :=
  postgresKeys.contains key || "options[".toList.isPrefixOf key.toList

/-- The modes of encryption of MySQL. -/
def mysqlModes : List String :=
  ["disabled", "preferred", "required", "verify_ca", "verify_identity"]

/-- Checks a key of the query for MySQL. -/
def checkMysqlPair : String × String → Except Fault Unit
  | ("sslmode", value) => checkMode mysqlModes value
  | ("ssl-mode", value) => checkMode mysqlModes value
  | ("statement-cache-capacity", value) => checkCount 0xFFFFFFFFFFFFFFFF value
  | _ => .ok ()

/-- Checks the parts of a URL in front of its query, and returns the query's keys and values;
`decodedHost` tells whether the host is decoded too. -/
def checkParts (decodedHost : Bool) (dsn : String) : Except Fault (List (String × String)) := do
  let u ← (Url.ofText dsn).mapError Fault.url
  if decodedHost && (Text.Percent.decode (Text.Utf8.encodeChars u.host)).head? = some 47 then
    checkText u.host
  checkText u.user
  checkText u.password
  checkText (u.path.dropWhile (· == '/'))
  return queryPairs u.query

/-- The text without all occurrences of `pattern` in front. -/
def withoutLeading (pattern : List Char) (cs : List Char) : List Char :=
  if _h : pattern ≠ [] ∧ pattern.isPrefixOf cs then withoutLeading pattern (cs.drop pattern.length)
  else cs
termination_by cs.length
decreasing_by
  have hl : 0 < pattern.length := List.length_pos_iff.mpr _h.1
  have hp := (List.isPrefixOf_iff_prefix.mp _h.2).length_le
  simp only [List.length_drop]
  omega

/-- Checks a key behind a SQLite file name. -/
def checkSqlitePair : String × String → Except Fault Unit
  | ("mode", value) => checkValue "mode" ["ro", "rw", "rwc", "memory"] value
  | ("cache", value) => checkValue "cache" ["private", "shared"] value
  | ("immutable", value) => checkValue "immutable" ["true", "1", "false", "0"] value
  | ("vfs", _) => .ok ()
  | (key, _) => .error (.unknownKey key)

/-- Checks the notation of SQLite. -/
def checkSqlite (dsn : String) : Except Fault Unit := do
  let cs := withoutLeading "sqlite:".toList (withoutLeading "sqlite://".toList dsn.toList)
  let file := cs.takeWhile (· != '?')
  if file ≠ ":memory:".toList then checkText file
  (queryPairs (cs.drop (file.length + 1))).forM checkSqlitePair

/-- Checks the connection settings of a database. -/
def check (engine : Engine) (dsn : String) : Except Fault Unit :=
  match engine with
  | .postgres => do (← checkParts true dsn).forM checkPostgresPair
  | .mysql => do (← checkParts false dsn).forM checkMysqlPair
  | .sqlite => checkSqlite dsn

/-- The keys and values of a database's settings that mean nothing to its engine, as far as they are
read: up to the first mistake.  Only PostgreSQL tells about them. -/
def passedOver (engine : Engine) (dsn : String) : List (String × String) :=
  match engine, checkParts true dsn with
  | .postgres, .ok pairs =>
    (pairs.takeWhile fun p => (checkPostgresPair p).isOk).filter fun p => !isPostgresKey p.1
  | _, _ => []

end SqlGateway.Dsn
