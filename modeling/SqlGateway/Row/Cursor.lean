/-
# Cursors

The result of a statement as its reader sees it: something that is asked for the names of the
columns and for one row after the other.  A cursor may fail, and it may be silent until the whole
operation is cancelled, so a call comes to an *answer* that is given or withheld.

Nothing says that the rows ever end.  Where they do, because what a cursor still holds is bounded
and a row that is read comes off the bound, the cursor is `Bounded`.
-/
import SqlGateway.Row.Cell

namespace SqlGateway

/-- What a call of a cursor comes to. -/
inductive Answer (α : Type) where
  /-- The call answered; `cancels` tells whether the operation was cancelled meanwhile. -/
  | given (a : α) (cancels : Bool)
  /-- The operation was cancelled before the call had an answer. -/
  | withheld
deriving DecidableEq

/-- A cursor with states `σ` and failures `ε`. -/
structure Cursor (σ ε : Type) where
  /-- Asks for the names of the columns. -/
  columns : σ → Answer (Except ε (List String)) × σ
  /-- Asks for the next row; none at the end. -/
  nextRow : σ → Answer (Except ε (Option (List Cell))) × σ

/-- A cursor whose rows come to an end. -/
class Cursor.Bounded {σ ε : Type} (c : Cursor σ ε) where
  /-- A bound on the rows that are left. -/
  remaining : σ → Nat
  remaining_columns_le : ∀ s, remaining (c.columns s).2 ≤ remaining s
  remaining_nextRow_lt : ∀ s cells cancels,
    (c.nextRow s).1 = .given (.ok (some cells)) cancels → remaining (c.nextRow s).2 < remaining s

end SqlGateway
