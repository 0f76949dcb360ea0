/-
# Database engines and their markers

A configured database names its engine by type.  The engine decides how a bound value is marked in
the text of a statement: PostgreSQL counts its markers (`$1`, `$2`, ...), the others write `?`.
-/
import SqlGateway.Text.Blank

namespace SqlGateway

open Text

/-- The engines that a database may run on. -/
inductive Engine where
  | postgres
  | mysql
  | sqlite
deriving DecidableEq, Repr

/-- A configured type that names no engine, as it was written. -/
structure UnsupportedEngine where
  typeName : String
deriving DecidableEq, Repr

/-- The wording of the error. -/
def UnsupportedEngine.message (e : UnsupportedEngine) : String :=
  "unsupported database type: " ++ e.typeName

/-- How a bound value is marked in the text of a statement. -/
inductive MarkerStyle where
  /-- Every marker is `?`. -/
  | question
  /-- The `n`-th marker from the left, counted from one, is `$n`. -/
  | dollar
deriving DecidableEq, Repr

/-- The name of a style. -/
def MarkerStyle.name : MarkerStyle → String
  | question => "question"
  | dollar => "dollar"

/-- The `n`-th marker of a statement. -/
def MarkerStyle.marker (style : MarkerStyle) (n : Nat) : List Char :=
  match style with
  | question => ['?']
  | dollar => '$' :: Nat.toDigits 10 n

namespace Engine

/-- The name of an engine. -/
def name : Engine → String
  | postgres => "postgres"
  | mysql => "mysql"
  | sqlite => "sqlite"

/-- The engine of a configured type.  Case and surrounding blanks do not count. -/
def ofType (typeName : String) : Except UnsupportedEngine Engine :=
  match (trim typeName).map Char.toLower with
  | "postgres" => .ok postgres
  | "postgresql" => .ok postgres
  | "pgx" => .ok postgres
  | "mysql" => .ok mysql
  | "sqlite" => .ok sqlite
  | "sqlite3" => .ok sqlite
  | _ => .error ⟨typeName⟩

/-- The marker style that the engine reads. -/
def markerStyle : Engine → MarkerStyle
  | postgres => .dollar
  | mysql => .question
  | sqlite => .question

end Engine

end SqlGateway
