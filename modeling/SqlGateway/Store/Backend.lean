/-
# Carrying statements out

The gateway keeps one pool for every configured database.  A statement goes to a pool with its
bound values; for a query the store delivers rows, for a command it tells what was changed.  It
hands over text and values side by side; no backend sees a value as a part of the text.

A *backend* is whatever stands behind the pools.  Its state is a parameter, so what is said about
the gateway holds for every store and every sequence of its replies.
-/
import SqlGateway.Config
import SqlGateway.Row.Peeking
import SqlGateway.Store.Bound
import SqlGateway.Store.Error

namespace SqlGateway.Store

/-! ## 1. Pools and executions -/

/-- The connections to one database. -/
structure Pool where
  /-- The name of the database in the configuration. -/
  database : String
  engine : Engine
  dsn : String
deriving DecidableEq, Repr

/-- The pool of a configured database. -/
def Pool.ofDatabase (d : Config.Database) : Pool := ⟨d.name, d.engine, d.dsn⟩

/-- A statement that is sent to a pool, with one bound value for each of its markers. -/
structure Execution where
  pool : Pool
  sql : String
  bound : List Bound
deriving DecidableEq

/-! ## 2. Results -/

/-- A row as a store delivers it; its cells may turn out to be unreadable. -/
structure Row where
  names : List String
  cells : Reading (List Cell)

/-- How the rows of stores are read. -/
def Row.reader : RowReader Row Error := ⟨Row.names, Row.cells⟩

/-- What a command did. -/
structure CommandResult where
  rowsAffected : Nat
  lastInsertId : Int
deriving DecidableEq, Repr

/-- A store with states `σ`. -/
structure Backend (σ : Type) where
  /-- Carries a query out: what it delivers, and behind that is silent. -/
  query : Execution → σ → List (Delivery Row Error) × σ
  /-- Carries a command out. -/
  command : Execution → σ → Answer (Except Error CommandResult) × σ

/-- The readings of values one after the other; one that is not there breaks off. -/
def readCells {τ ν : Type} (read : τ → ν → Reading Cell) : List τ → List ν → Reading (List Cell)
  | [], _ => .ok []
  | _ :: _, [] => abandon
  | t :: ts, v :: vs => do return (← read t v) :: (← readCells read ts vs)

end SqlGateway.Store
