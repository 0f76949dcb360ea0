/-
# Faults of SQLite statements

Why a statement cannot be carried out, with the number that SQLite gives to each kind: 1 for what
is wrong with the statement itself, others for what is wrong with its values.
-/
import SqlGateway.Sqlite.Syntax

namespace SqlGateway.Sqlite

/-- Why a statement cannot be carried out. -/
inductive Fault where
  | notReadable (e : SyntaxError)
  | noSuchTable (table : String)
  | tableExists (table : String)
  | duplicateColumn (column : String)
  /-- A column counts up that is not the key of the rows. -/
  | countsNoKey
  | severalKeys (table : String)
  | reservedName (table : String)
  /-- Rows are ordered by a column, given by its place, that there is not. -/
  | orderOutOfRange (place columns : Nat)
  | noSuchColumn (column : String)
  | notInTable (table column : String)
  | oversizedNumber (source : String)
  | noTables
  | noSuchFunction (name : String)
  | argumentCount (function : String)
  /-- Several values stand where one is wanted. -/
  | rowMisused
  | unevenRows
  | valuesForColumns (values columns : Nat)
  | valuesForTable (table : String) (columns values : Nat)
  /-- A key is not an integer. -/
  | keyMismatch
  /-- There is no key left. -/
  | full
  /-- A required value is null. -/
  | missingValue (table column : String)
  | takenKey (table column : String)
deriving DecidableEq, Repr

namespace Fault

/-- The number of the kind. -/
def code : Fault → Nat
  | full => 13
  | keyMismatch => 20
  | missingValue _ _ => 1299
  | takenKey _ _ => 1555
  | _ => 1

/-- A number as the place in an order: `1st`, `2nd`, `11th`. -/
def ordinal (n : Nat) : String :=
  let ending :=
    if n / 10 % 10 = 1 then "th"
    else match n % 10 with
      | 1 => "st"
      | 2 => "nd"
      | 3 => "rd"
      | _ => "th"
  toString n ++ ending

/-- The wording without the number. -/
def text : Fault → String
  | notReadable e => e.message
  | noSuchTable table => "no such table: " ++ table
  | tableExists table => "table " ++ table ++ " already exists"
  | duplicateColumn column => "duplicate column name: " ++ column
  | severalKeys table => "table \"" ++ table ++ "\" has more than one primary key"
  | reservedName table => "object name reserved for internal use: " ++ table
  | orderOutOfRange place columns =>
    ordinal place ++ " ORDER BY term out of range - should be between 1 and " ++ toString columns
  | countsNoKey => "AUTOINCREMENT is only allowed on an INTEGER PRIMARY KEY"
  | noSuchColumn column => "no such column: " ++ column
  | notInTable table column => "table " ++ table ++ " has no column named " ++ column
  | oversizedNumber source => "hex literal too big: " ++ source
  | noTables => "no tables specified"
  | noSuchFunction name => "no such function: " ++ name
  | argumentCount function => "wrong number of arguments to function " ++ function ++ "()"
  | rowMisused => "row value misused"
  | unevenRows => "all VALUES must have the same number of terms"
  | valuesForColumns values columns =>
    toString values ++ " values for " ++ toString columns ++ " columns"
  | valuesForTable table columns values =>
    "table " ++ table ++ " has " ++ toString columns ++ " columns but " ++ toString values ++
      " values were supplied"
  | keyMismatch => "datatype mismatch"
  | full => "database or disk is full"
  | missingValue table column => "NOT NULL constraint failed: " ++ table ++ "." ++ column
  | takenKey table column => "UNIQUE constraint failed: " ++ table ++ "." ++ column

/-- The wording. -/
def message (f : Fault) : String := "(code: " ++ toString f.code ++ ") " ++ f.text

end Fault

end SqlGateway.Sqlite
