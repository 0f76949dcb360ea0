/-
# Cursors that look one row ahead

A store delivers rows one by one and tells the names of the columns only with a row.  A peeking
cursor asked for the columns pulls the first row and keeps it, to hand it out when the row is asked
for; without any row there are no columns.  A row is pulled once and handed out once, in order, and
a store that has told its end is not asked again.
-/
import SqlGateway.Row.Cursor

namespace SqlGateway

/-- What a store delivers at a time. -/
inductive Delivery (ρ ε : Type) where
  | row (r : ρ)
  | failed (e : ε)
  /-- There are no more rows. -/
  | finished
deriving DecidableEq, Repr

/-- How the rows of a store are read. -/
structure RowReader (ρ ε : Type) where
  columnNames : ρ → List String
  cells : ρ → Except ε (List Cell)

/-- A peeking cursor. -/
structure Peeking (ρ ε : Type) where
  /-- What the store will deliver; behind it the store is silent. -/
  upcoming : List (Delivery ρ ε)
  /-- The row that was pulled for its columns. -/
  peeked : Option ρ
  /-- Whether the store has told its end. -/
  exhausted : Bool
deriving DecidableEq

namespace Peeking

variable {ρ ε : Type}

/-- A cursor over everything that a store will deliver. -/
def ofDeliveries (upcoming : List (Delivery ρ ε)) : Peeking ρ ε := ⟨upcoming, none, false⟩

/-- Waits for the next delivery. -/
def pull (p : Peeking ρ ε) : Answer (Except ε (Option ρ)) × Peeking ρ ε :=
  if p.exhausted then (.given (.ok none) false, p)
  else
    match p.upcoming with
    | [] => (.withheld, p)
    | .row r :: rest => (.given (.ok (some r)) false, { p with upcoming := rest })
    | .failed e :: rest => (.given (.error e) false, { p with upcoming := rest })
    | .finished :: rest =>
      (.given (.ok none) false, { p with upcoming := rest, exhausted := true })

/-- Asks for the columns. -/
def columns (reader : RowReader ρ ε) (p : Peeking ρ ε) :
    Answer (Except ε (List String)) × Peeking ρ ε :=
  match p.peeked with
  | some r => (.given (.ok (reader.columnNames r)) false, p)
  | none =>
    match p.pull with
    | (.withheld, p) => (.withheld, p)
    | (.given (.error e) cancels, p) => (.given (.error e) cancels, p)
    | (.given (.ok none) cancels, p) => (.given (.ok []) cancels, p)
    | (.given (.ok (some r)) cancels, p) =>
      (.given (.ok (reader.columnNames r)) cancels, { p with peeked := some r })

/-- Asks for the next row. -/
def nextRow (reader : RowReader ρ ε) (p : Peeking ρ ε) :
    Answer (Except ε (Option (List Cell))) × Peeking ρ ε :=
  match p.peeked with
  | some r => (.given ((reader.cells r).map some) false, { p with peeked := none })
  | none =>
    match p.pull with
    | (.withheld, p) => (.withheld, p)
    | (.given (.error e) cancels, p) => (.given (.error e) cancels, p)
    | (.given (.ok none) cancels, p) => (.given (.ok none) cancels, p)
    | (.given (.ok (some r)) cancels, p) => (.given ((reader.cells r).map some) cancels, p)

/-- How many deliveries are left, the peeked row included. -/
def remaining (p : Peeking ρ ε) : Nat := p.upcoming.length + p.peeked.toList.length

theorem remaining_pull (p : Peeking ρ ε) :
    (p.pull).2.peeked = p.peeked ∧
      (∀ r cancels, (p.pull).1 = .given (.ok (some r)) cancels →
        (p.pull).2.remaining + 1 = p.remaining) ∧
      (p.pull).2.remaining ≤ p.remaining := by
  unfold pull
  split
  next => simp
  next =>
    split <;> simp_all [remaining]
    omega

/-- The cursor that looks one row ahead. -/
def cursor (reader : RowReader ρ ε) : Cursor (Peeking ρ ε) ε := ⟨columns reader, nextRow reader⟩

instance bounded (reader : RowReader ρ ε) : (cursor reader).Bounded where
  remaining := remaining
  remaining_columns_le p := by
    have ⟨h, h', h''⟩ := remaining_pull p
    show (columns reader p).2.remaining ≤ p.remaining
    unfold columns
    split
    next => simp
    next hp =>
      split <;> simp_all [remaining]
  remaining_nextRow_lt p cells cancels := by
    have ⟨h, h', h''⟩ := remaining_pull p
    show (nextRow reader p).1 = _ → (nextRow reader p).2.remaining < p.remaining
    unfold nextRow
    split
    next hp => simp [remaining, hp]
    next hp =>
      split <;> simp_all
      omega

end Peeking

end SqlGateway
