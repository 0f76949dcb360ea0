/-
# Actions on a SQLite database

What a statement asks for: to make a table, to insert, change or remove rows, or to select values
of them.  The values are said by expressions over the columns of a row and the bound values.

A bracketed list is an expression only where a single value is wanted and it has just one item; a
*row* of several values is kept as such, to be refused by name.
-/
import SqlGateway.Sqlite.Affinity

namespace SqlGateway.Sqlite

/-! ## 1. Expressions -/

/-- How two values are compared. -/
inductive Comparison where
  | equal
  | unequal
  | less
  | atMost
  | greater
  | atLeast
  /-- Equal, with null equal to null. -/
  | same
  /-- Unequal, with null equal to null. -/
  | different
deriving DecidableEq, Repr

/-- An expression. -/
inductive Expr where
  | literal (v : Value)
  /-- A hexadecimal number of more than 64 bits, as it was written. -/
  | oversized (source : String)
  /-- The bound value of a variable. -/
  | parameter (index : Nat)
  | column (name : String)
  /-- A column; if there is none of this name, what is `orText` stands for the name itself. -/
  | quotedName (name : String) (orText : Bool)
  | minus (e : Expr)
  | call (function : String) (args : List Expr)
  | cast (e : Expr) (target : Affinity)
  | row (items : List Expr)
  | compare (c : Comparison) (a b : Expr)
  | both (a b : Expr)
  | either (a b : Expr)
  | negation (e : Expr)
  | isIn (e : Expr) (items : List Expr)
deriving Repr

/-! ## 2. Actions -/

/-- A column of a table that is to be made. -/
structure ColumnSpec where
  name : String
  affinity : Affinity
  /-- Whether the column is the key of the rows. -/
  isKey : Bool
  /-- Whether no two rows have one value there. -/
  isPrimary : Bool
  /-- Whether a key is never given twice, not even after its row was removed. -/
  countsUp : Bool
  /-- Whether null is refused. -/
  required : Bool
deriving DecidableEq, Repr

/-- What a selection shows. -/
inductive Shown where
  | everything
  | value (e : Expr) (label : Option String) (source : String)
deriving Repr

/-- A rule for the order of rows. -/
structure OrderRule where
  key : Expr
  descending : Bool
deriving Repr

/-- What a statement asks for. -/
inductive Action where
  /-- Makes a table; `source` is its name as it was written. -/
  | create (table source : String) (unlessThere : Bool) (columns : List ColumnSpec)
  | insert (table : String) (columns : Option (List String)) (rows : List (List Expr))
  | update (table : String) (changes : List (String × Expr)) (which : Option Expr)
  | delete (table : String) (which : Option Expr)
  | select (shown : List Shown) (table : Option String) (which : Option Expr)
      (order : List OrderRule)
deriving Repr

end SqlGateway.Sqlite
