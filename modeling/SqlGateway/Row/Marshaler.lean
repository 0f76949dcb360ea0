/-
# Reading rows as JSON objects

A marshaler reads the rows of a cursor.  The names of the columns are asked for once, before the
first row, and take the form of the key case once.  A row becomes an object with a member for
every name; where two columns have one name, the first gives the place and the last the value.

* Nothing is asked of the cursor once the operation is cancelled.
* After the end, a cancellation or a failure there are no more rows: only the first of them is
  told, and the cursor is left alone.
* Collecting gives all rows or none.  It comes to an end if the rows do.
-/
import SqlGateway.Json.Basic
import SqlGateway.KeyCase
import SqlGateway.Row.Cursor

namespace SqlGateway

/-! ## 1. Rows and errors -/

/-- A row as the client sees it: the members of an object. -/
abbrev ResultRow := List (String × Json)

/-- The row that has the given names and cells. -/
def ResultRow.ofCells (names : List String) (cells : List Cell) : ResultRow :=
  Json.membersOf (names.zip (cells.map Cell.toJson))

/-- Why there are no more rows before the end. -/
inductive MarshalError (ε : Type) where
  | cancelled
  | columnMismatch (expected actual : Nat)
  | store (e : ε)
deriving DecidableEq, Repr

/-- The wording of the error, given that of the cursor's failures. -/
def MarshalError.message {ε : Type} (wording : ε → String) : MarshalError ε → String
  | cancelled => "query cancelled"
  | columnMismatch expected actual =>
    "row has " ++ toString actual ++ " values but " ++ toString expected ++
      " columns were reported"
  | store e => wording e

/-! ## 2. One row -/

/-- A marshaler over a cursor in state `cursor`. -/
structure Marshaler (σ : Type) where
  cursor : σ
  case : KeyCase
  /-- Whether the operation is cancelled. -/
  cancelled : Bool
  /-- The names of the members, once they are known. -/
  names : Option (List String)
  /-- Whether there are no more rows. -/
  done : Bool

namespace Marshaler

variable {σ ε : Type}

/-- A marshaler that has not asked for anything. -/
def start (case : KeyCase) (cursor : σ) : Marshaler σ := ⟨cursor, case, false, none, false⟩

/-- The marshaler after a cancellation. -/
def cancel (m : Marshaler σ) : Marshaler σ := { m with cancelled := true }

/-- The marshaler after a call that left the cursor in state `s`. -/
def after (m : Marshaler σ) (s : σ) (cancels : Bool) : Marshaler σ :=
  { m with cursor := s, cancelled := m.cancelled || cancels }

/-- The names of the members; the cursor is asked the first time. -/
def askNames (c : Cursor σ ε) (m : Marshaler σ) :
    Except (MarshalError ε) (List String) × Marshaler σ :=
  match m.names with
  | some names => (.ok names, m)
  | none =>
    match c.columns m.cursor with
    | (.withheld, s) => (.error .cancelled, m.after s true)
    | (.given (.error e) cancels, s) => (.error (.store e), m.after s cancels)
    | (.given (.ok columns) cancels, s) =>
      let names := columns.map m.case.apply
      (.ok names, { m.after s cancels with names := some names })

/-- The next row under the given names. -/
def askRow (c : Cursor σ ε) (names : List String) (m : Marshaler σ) :
    Except (MarshalError ε) (Option ResultRow) × Marshaler σ :=
  if m.cancelled then (.error .cancelled, m)
  else
    match c.nextRow m.cursor with
    | (.withheld, s) => (.error .cancelled, m.after s true)
    | (.given (.error e) cancels, s) => (.error (.store e), m.after s cancels)
    | (.given (.ok none) cancels, s) => (.ok none, m.after s cancels)
    | (.given (.ok (some cells)) cancels, s) =>
      if cells.length = names.length then
        (.ok (some (.ofCells names cells)), m.after s cancels)
      else (.error (.columnMismatch names.length cells.length), m.after s cancels)

/-- The next row. -/
def readRow (c : Cursor σ ε) (m : Marshaler σ) :
    Except (MarshalError ε) (Option ResultRow) × Marshaler σ :=
  if m.cancelled then (.error .cancelled, m)
  else
    match m.askNames c with
    | (.error e, m) => (.error e, m)
    | (.ok names, m) => m.askRow c names

/-- Whether an outcome is a row. -/
def isRow : Except (MarshalError ε) (Option ResultRow) → Bool
  | .ok (some _) => true
  | _ => false

/-- The next row; none at the end and ever after. -/
def next (c : Cursor σ ε) (m : Marshaler σ) :
    Except (MarshalError ε) (Option ResultRow) × Marshaler σ :=
  if m.done then (.ok none, m)
  else
    let (outcome, m) := m.readRow c
    (outcome, { m with done := !isRow outcome })

/-! ## 3. All rows -/

/-- `m'` is what is left of `m` behind a row. -/
def Follows (c : Cursor σ ε) (m' m : Marshaler σ) : Prop := ∃ row, m.next c = (.ok (some row), m')

/-- The rows of a marshaler come to an end: nowhere does row follow on row for ever. -/
def Ends (c : Cursor σ ε) (m : Marshaler σ) : Prop := Acc (Follows c) m

instance followsRelation (c : Cursor σ ε) : WellFoundedRelation { m : Marshaler σ // m.Ends c } where
  rel m' m := Follows c m'.1 m.1
  wf := ⟨fun m => InvImage.accessible _ m.2⟩

/-- All rows, or the first error; and the marshaler after it all. -/
def collectEnding (c : Cursor σ ε) (m : Marshaler σ) (h : m.Ends c) :
    Except (MarshalError ε) (List ResultRow) × Marshaler σ :=
  match hm : m.next c with
  | (.error e, m') => (.error e, m')
  | (.ok none, m') => (.ok [], m')
  | (.ok (some row), m') =>
    let (rows, m'') := collectEnding c m' (h.inv ⟨row, hm⟩)
    (rows.map (row :: ·), m'')
termination_by (⟨m, h⟩ : { m : Marshaler σ // m.Ends c })
decreasing_by exact ⟨row, hm⟩

theorem remaining_askNames_le (c : Cursor σ ε) [b : c.Bounded] (m : Marshaler σ) :
    b.remaining (m.askNames c).2.cursor ≤ b.remaining m.cursor := by
  have h := b.remaining_columns_le m.cursor
  unfold askNames
  split
  next => exact Nat.le_refl _
  next => split <;> simp_all [after]

theorem remaining_askRow_lt {c : Cursor σ ε} [b : c.Bounded] {names : List String}
    {m : Marshaler σ} {row : ResultRow} (h : (m.askRow c names).1 = .ok (some row)) :
    b.remaining (m.askRow c names).2.cursor < b.remaining m.cursor := by
  revert h
  unfold askRow
  split
  next => simp
  next =>
    split <;> try simp
    next cells cancels s hs =>
      split <;> simp
      have := b.remaining_nextRow_lt m.cursor cells cancels (by rw [hs])
      intro _
      simpa [after, hs] using this

theorem remaining_next_lt {c : Cursor σ ε} [b : c.Bounded] {m : Marshaler σ} {row : ResultRow}
    (h : (m.next c).1 = .ok (some row)) :
    b.remaining (m.next c).2.cursor < b.remaining m.cursor := by
  revert h
  unfold next
  split
  next => simp
  next =>
    simp only [readRow]
    split
    next => simp
    next =>
      have hle := remaining_askNames_le c m
      split
      next => simp
      next names m' hm =>
        intro h
        rw [hm] at hle
        exact Nat.lt_of_lt_of_le (remaining_askRow_lt h) hle

/-- The rows of a bounded cursor come to an end. -/
theorem ends_of_bounded (c : Cursor σ ε) [b : c.Bounded] (m : Marshaler σ) : m.Ends c := by
  refine Subrelation.accessible (r := InvImage (· < ·) fun m => b.remaining m.cursor) ?_
    (InvImage.accessible _ (Nat.lt_wfRel.wf.apply _))
  rintro m' m ⟨row, hm⟩
  have hlt := @remaining_next_lt _ _ c b m row (by rw [hm])
  rwa [hm] at hlt

/-- All rows of a bounded cursor, or the first error; and the marshaler after it all. -/
def collect (c : Cursor σ ε) [c.Bounded] (m : Marshaler σ) :
    Except (MarshalError ε) (List ResultRow) × Marshaler σ :=
  collectEnding c m (ends_of_bounded c m)

end Marshaler

end SqlGateway
