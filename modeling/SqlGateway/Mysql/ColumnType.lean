/-
# Column types of MySQL

A column says the number of its type, whether it has no sign, and how wide it is shown.  What is
not a number, a moment, JSON or null is read as bytes.  A `TINYINT` that is shown one digit wide is
a truth value, with or without a sign.
-/
namespace SqlGateway.Mysql

/-- A type of columns. -/
inductive ColumnType where
  | bool
  | signed
  | unsigned
  | float
  | double
  | decimal
  | datetime
  | timestamp
  | date
  | time
  | json
  | null
  | bytes
deriving DecidableEq, Repr

/-- The type of an integer. -/
def ColumnType.integer (isUnsigned : Bool) : ColumnType := if isUnsigned then unsigned else signed

/-- The type with the given number, sign and width. -/
def ColumnType.ofNumber (number : Nat) (isUnsigned : Bool) (width : Nat) : ColumnType :=
  match number with
  | 0 => decimal
  | 1 => if width = 1 then bool else integer isUnsigned
  | 2 => integer isUnsigned
  | 3 => integer isUnsigned
  | 4 => float
  | 5 => double
  | 6 => null
  | 7 => timestamp
  | 8 => integer isUnsigned
  | 9 => integer isUnsigned
  | 10 => date
  | 11 => time
  | 12 => datetime
  | 13 => signed
  | 245 => json
  | 246 => decimal
  | _ => bytes

/-- Whether there is a type of the number. -/
def isTypeNumber (n : Nat) : Bool := n ≤ 13 || n = 15 || n = 16 || (245 ≤ n && n ≤ 255)

/-- Whether an empty value of the type is null: the zero date is sent without bytes. -/
def ColumnType.isNullIfEmpty : ColumnType → Bool
  | datetime => true
  | timestamp => true
  | date => true
  | _ => false

end SqlGateway.Mysql
