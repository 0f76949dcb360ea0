/-
# Replies of a PostgreSQL server

What a server says to a statement: the columns of the result, rows of binary values, and at the end
a tag such as `UPDATE 3` or an error.  It may refuse the statement when it is prepared, and it may
say nothing.

The number of changed rows is the number at the end of the tag.  There is no key of the last row,
so that is always 0.
-/
import SqlGateway.Number.Digits
import SqlGateway.Postgres.Parameter
import SqlGateway.Postgres.Value
import SqlGateway.Store.Backend

namespace SqlGateway.Postgres

/-- A column of a result: its name, and the number of its type. -/
structure Column where
  name : String
  oid : Nat
deriving DecidableEq, Repr

/-- What a server says to a statement. -/
structure Reply where
  columns : List Column
  rows : List (List (Option (List UInt8)))
  tag : String
  /-- Why the statement cannot be prepared. -/
  prepareError : Option String
  /-- Why the statement fails behind its rows. -/
  error : Option String
  /-- Whether the server says nothing. -/
  hangs : Bool
deriving DecidableEq, Repr

/-- The statement as it is sent: values are sent only if it can be prepared. -/
structure Sent where
  sql : String
  types : List Nat
  values : Option (List (Option (List UInt8)))
deriving DecidableEq, Repr

/-- The number that a text starts with. -/
def leadingNumber? (cs : List Char) : Option Nat :=
  let digits := ((if cs.head? = some '+' then cs.drop 1 else cs).takeWhile Char.isDigit)
  let n := Digits.value digits
  if digits.isEmpty || 0x10000000000000000 ≤ n then none else some n

/-- The number of changed rows that a tag tells. -/
def taggedRows (tag : String) : Nat :=
  let cs := tag.toList
  let word := (cs.reverse.takeWhile (· != ' ')).reverse
  if word.length < cs.length then (leadingNumber? word).getD 0 else 0

namespace Reply

/-- A reply without anything in it. -/
def empty : Reply := ⟨[], [], "", none, none, false⟩

/-- A row of the reply. -/
def row (r : Reply) (values : List (Option (List UInt8))) : Store.Row where
  names := r.columns.map (·.name)
  cells := Store.readCells (fun c v => cell (.ofOid c.oid) v) r.columns values

/-- What the reply delivers to a query. -/
def deliveries (r : Reply) : List (Delivery Store.Row Store.Error) :=
  match r.hangs, r.prepareError with
  | true, _ => []
  | false, some message => [.failed (.refused message)]
  | false, none =>
    let rows := if r.columns.isEmpty then [] else r.rows.map fun values => .row (r.row values)
    let last :=
      match r.error with
      | some message => .failed (.refused message)
      | none => .finished
    rows ++ [last]

/-- What the reply tells about a command. -/
def commandResult (r : Reply) : Answer (Except Store.Error Store.CommandResult) :=
  match r.hangs, r.prepareError.or r.error with
  | true, _ => .withheld
  | false, some message => .given (.error (.refused message)) false
  | false, none => .given (.ok ⟨taggedRows r.tag, 0⟩) false

/-- The statement that the reply is for, as it was sent. -/
def sent (r : Reply) (e : Store.Execution) : Sent :=
  let params := e.bound.map Parameter.ofBound
  ⟨e.sql, params.map (·.type),
    if r.prepareError.isSome then none else some (params.map (·.value))⟩

end Reply

end SqlGateway.Postgres
