/-
# Replies of a MySQL server

What a server says to a statement: columns and rows of binary values, or the number of changed rows
and the key of the last one, or an error with its number and its state.  A statement that has a
result changes nothing, and a key that does not fit 64 bits with a sign is told as the largest
number that does.
-/
import SqlGateway.Mysql.Parameter
import SqlGateway.Mysql.RowBytes
import SqlGateway.Mysql.Value
import SqlGateway.Store.Backend

namespace SqlGateway.Mysql

/-- A column of a result. -/
structure Column where
  name : String
  /-- The number of the type. -/
  type : Nat
  isUnsigned : Bool
  /-- How wide the column is displayed. -/
  width : Nat
deriving DecidableEq, Repr

/-- An error of a server. -/
structure ServerError where
  code : Nat
  state : String
  text : String
deriving DecidableEq, Repr

/-- The wording of the error. -/
def ServerError.message (e : ServerError) : String :=
  toString e.code ++ " (" ++ e.state ++ "): " ++ e.text

/-- What a server says to a statement. -/
structure Reply where
  columns : List Column
  rows : List (List (Option (List UInt8)))
  affected : Nat
  lastId : Nat
  /-- Why the statement cannot be prepared. -/
  prepareError : Option ServerError
  /-- Why the statement fails behind its rows. -/
  error : Option ServerError
  /-- Whether the server says nothing. -/
  hangs : Bool
deriving DecidableEq, Repr

/-- The statement as it is sent: values are sent only if it can be prepared. -/
structure Sent where
  sql : String
  params : Option (List Parameter)
deriving DecidableEq, Repr

/-- How many values a statement asks for: one for every question mark. -/
def markerCount (sql : String) : Nat := sql.toList.count '?'

namespace Reply

/-- A reply without anything in it. -/
def empty : Reply := ⟨[], [], 0, 0, none, none, false⟩

/-- The values of a row as they are read. -/
def readRow (r : Reply) (values : List (Option (List UInt8))) :
    Store.Reading (List (Option (List UInt8))) :=
  readValues (r.columns.map fun c => .ofNumber c.type) values

/-- A row of the reply. -/
def row (r : Reply) (values : List (Option (List UInt8))) : Store.Row where
  names := r.columns.map (·.name)
  cells := do
    let values ← r.readRow values
    Store.readCells (fun c v => cell (.ofNumber c.type c.isUnsigned c.width) v) r.columns values

/-- The rows, which are there only if there are columns. -/
def resultRows (r : Reply) : List (List (Option (List UInt8))) :=
  if r.columns.isEmpty then [] else r.rows

/-- Why there is no result: the statement cannot be prepared, or a column has no type. -/
def refusal? (r : Reply) : Option Store.Error :=
  match r.prepareError with
  | some e => some (.refused e.message)
  | none => (r.columns.find? fun c => !isTypeNumber c.type).map fun c => .unknownType c.type

/-- What the reply delivers to a query. -/
def deliveries (r : Reply) : List (Delivery Store.Row Store.Error) :=
  match r.hangs, r.refusal? with
  | true, _ => []
  | false, some e => [.failed e]
  | false, none =>
    let last :=
      match r.error with
      | some e => .failed (.refused e.message)
      | none => .finished
    r.resultRows.map (fun values => .row (r.row values)) ++ [last]

/-- What the reply tells about a command.  The rows are read, though nothing comes of them. -/
def commandResult (r : Reply) : Answer (Except Store.Error Store.CommandResult) :=
  match r.hangs, r.refusal? with
  | true, _ => .withheld
  | false, some e => .given (.error e) false
  | false, none =>
    match r.resultRows.mapM r.readRow, r.error with
    | .error e, _ => .given (.error e) false
    | .ok _, some e => .given (.error (.refused e.message)) false
    | .ok _, none =>
      if r.columns.isEmpty then
        .given (.ok ⟨r.affected, min r.lastId (0x8000000000000000 - 1)⟩) false
      else .given (.ok ⟨0, 0⟩) false

/-- The statement that the reply is for, as it was sent. -/
def sent (r : Reply) (e : Store.Execution) : Sent :=
  ⟨e.sql, if r.prepareError.isSome then none else some (e.bound.map Parameter.ofBound)⟩

end Reply

end SqlGateway.Mysql
