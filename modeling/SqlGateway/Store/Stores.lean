/-
# The stores of a gateway

All stores that a gateway can reach, with what can be told from outside: the replies that the
servers have ready, one for every statement, and the databases that live in the gateway itself.

* A server with no reply left says that nothing was found and nothing was done.
* A SQLite database exists from its first statement on, one for every configured database.
-/
import SqlGateway.Mysql.Reply
import SqlGateway.Postgres.Reply
import SqlGateway.Sqlite.Database
import SqlGateway.Store.Backend

namespace SqlGateway

/-- A statement as it reached a server. -/
inductive SentStatement where
  | postgres (s : Postgres.Sent)
  | mysql (s : Mysql.Sent)
deriving DecidableEq, Repr

/-- All stores. -/
structure Stores where
  postgres : List Postgres.Reply
  mysql : List Mysql.Reply
  /-- The SQLite databases by the name of the configured database. -/
  sqlite : List (String × Sqlite.Database)
  /-- What reached the servers, in order. -/
  sent : List SentStatement

namespace Stores

/-- The SQLite database of a configured database. -/
def sqliteDatabase (s : Stores) (name : String) : Sqlite.Database :=
  (s.sqlite.lookup name).getD .empty

/-- The stores after a reply of the PostgreSQL server, and the reply. -/
def askPostgres (s : Stores) (e : Store.Execution) : Postgres.Reply × Stores :=
  let reply := s.postgres.headD .empty
  (reply, { s with
    postgres := s.postgres.drop 1
    sent := s.sent ++ [.postgres (reply.sent e)] })

/-- The stores after a reply of the MySQL server, and the reply. -/
def askMysql (s : Stores) (e : Store.Execution) : Mysql.Reply × Stores :=
  let reply := s.mysql.headD .empty
  (reply, { s with
    mysql := s.mysql.drop 1
    sent := s.sent ++ [.mysql (reply.sent e)] })

/-- Why the MySQL server cannot be asked: once the statement is prepared, it has to have as many
values as it asks for. -/
def mysqlObstacle? (s : Stores) (e : Store.Execution) : Option Store.Error :=
  let asked := Mysql.markerCount e.sql
  if asked = e.bound.length || (s.mysql.headD .empty).prepareError.isSome then none
  else some (.valueCount asked e.bound.length)

/-- The stores after a statement on a SQLite database, and what it came to. -/
def askSqlite (s : Stores) (e : Store.Execution) :
    (Sqlite.Database × Sqlite.Outcome × Option Store.Error) × Stores :=
  let name := e.pool.database
  let (d, outcome, fault) := (s.sqliteDatabase name).run e.sql e.bound
  ((d, outcome, fault.map fun f => .refused f.message),
    { s with sqlite := (name, d) :: s.sqlite.filter (·.1 ≠ name) })

/-- A row of a SQLite result. -/
def sqliteRow (r : Sqlite.ShownRow) : Store.Row := ⟨r.names, .ok (r.values.map (·.toCell))⟩

/-- Carries a query out. -/
def query (e : Store.Execution) (s : Stores) :
    List (Delivery Store.Row Store.Error) × Stores :=
  match e.pool.engine with
  | .postgres => (s.askPostgres e).map (·.deliveries) id
  | .mysql =>
    match s.mysqlObstacle? e with
    | some error => ([.failed error], s)
    | none => (s.askMysql e).map (·.deliveries) id
  | .sqlite =>
    let ((_, outcome, error), s) := s.askSqlite e
    (outcome.rows.map (.row ∘ sqliteRow) ++ [error.elim .finished .failed], s)

/-- Carries a command out. -/
def command (e : Store.Execution) (s : Stores) :
    Answer (Except Store.Error Store.CommandResult) × Stores :=
  match e.pool.engine with
  | .postgres => (s.askPostgres e).map (·.commandResult) id
  | .mysql =>
    match s.mysqlObstacle? e with
    | some error => (.given (.error error) false, s)
    | none => (s.askMysql e).map (·.commandResult) id
  | .sqlite =>
    let ((d, outcome, error), s) := s.askSqlite e
    (.given (error.elim (.ok ⟨outcome.changes, d.lastKey⟩) .error) false, s)

/-- The backend that these stores are. -/
def backend : Store.Backend Stores := ⟨query, command⟩

end Stores

end SqlGateway
