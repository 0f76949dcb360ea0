/-
# Scripted cursors

A cursor that plays a script: one answer for the columns, one for every row that is asked for, and
the end of the rows when the script is over.  It counts what it is asked for.
-/
import SqlGateway.Row.Cursor

namespace SqlGateway

/-- A script and how far it has been played. -/
structure Script where
  columns : Answer (Except String (List String))
  rows : List (Answer (Except String (Option (List Cell))))
  /-- How often the columns were asked for. -/
  columnCalls : Nat
  /-- How often a row was asked for and came, or the end of the rows. -/
  rowReads : Nat

namespace Script

/-- A script at its beginning. -/
def ofAnswers (columns : Answer (Except String (List String)))
    (rows : List (Answer (Except String (Option (List Cell))))) : Script :=
  ⟨columns, rows, 0, 0⟩

/-- Whether a row or the end of the rows came. -/
def isRead : Answer (Except String (Option (List Cell))) → Bool
  | .given (.ok _) _ => true
  | _ => false

/-- The answer for the next row. -/
def upcoming (s : Script) : Answer (Except String (Option (List Cell))) :=
  s.rows.headD (.given (.ok none) false)

/-- The cursor that plays scripts. -/
def cursor : Cursor Script String where
  columns s := (s.columns, { s with columnCalls := s.columnCalls + 1 })
  nextRow s :=
    (s.upcoming,
      { s with
        rows := s.rows.tail
        rowReads := s.rowReads + (if isRead s.upcoming then 1 else 0) })

instance bounded : cursor.Bounded where
  remaining s := s.rows.length
  remaining_columns_le _ := Nat.le_refl _
  remaining_nextRow_lt s cells cancels h := by
    have hcells : s.upcoming = .given (.ok (some cells)) cancels := h
    show s.rows.tail.length < s.rows.length
    cases hr : s.rows with
    | nil => simp [upcoming, hr] at hcells
    | cons a rest => simp

end Script

end SqlGateway
