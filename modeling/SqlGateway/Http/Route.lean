/-
# Routes

The gateway answers four kinds of path: `/query/db/group/api`, `/command/db/group/api`, `/info` and
`/health`.  A route allows certain methods, and the names in it are percent-encoded.  A path is
split before it is decoded, so an encoded slash belongs to a name.
-/
import SqlGateway.Http.Message
import SqlGateway.Text.Percent
import SqlGateway.Text.Utf8

namespace SqlGateway.Http

/-! ## 1. Routes -/

/-- How an API is called. -/
inductive CallKind where
  /-- For the rows of a result. -/
  | query
  /-- For a change. -/
  | command
deriving DecidableEq, Repr

/-- What a path leads to. -/
inductive Route where
  /-- A call; the names are still encoded. -/
  | call (kind : CallKind) (db group api : String)
  | info
  | health
deriving DecidableEq, Repr

/-- The segments of a path: what is between its slashes. -/
def segments (path : String) : List String :=
  (path.toList.splitOn '/').map String.ofList

/-- The route of a path. -/
def Route.ofPath? (path : String) : Option Route :=
  match segments path with
  | ["", "info"] => some .info
  | ["", "health"] => some .health
  | ["", "query", db, group, api] => if api = "" then none else some (.call .query db group api)
  | ["", "command", db, group, api] =>
    if api = "" then none else some (.call .command db group api)
  | _ => none

/-- The methods that a route allows. -/
def Route.methods : Route → List String
  | call _ _ _ _ => ["POST"]
  | _ => ["GET", "HEAD"]

/-! ## 2. Names -/

/-- Which API is called. -/
structure ApiName where
  db : String
  group : String
  api : String
deriving DecidableEq, Repr

/-- The name that a segment says; what it is the name of is for the error. -/
def decodedName (what segment : String) : Except String String :=
  match Text.Utf8.decode? (Text.Percent.decode (Text.Utf8.encode segment)) with
  | some name => .ok name
  | none => .error ("Invalid URL: Invalid UTF-8 in \x60" ++ what ++ "\x60")

/-- The API that encoded names say. -/
def ApiName.ofSegments (db group api : String) : Except String ApiName := do
  return ⟨← decodedName "db" db, ← decodedName "group" group, ← decodedName "api" api⟩

end SqlGateway.Http
