/-
# Numbers as parts of a value

A value on the wire of PostgreSQL is made of parts, each a number of so many bytes, the most
significant first.
-/
import SqlGateway.Number.ByteOrder
import SqlGateway.Store.Part

namespace SqlGateway.Postgres

open Store

/-- A number without a sign, and what is behind it. -/
def takeNatural (short : Error) (k : Nat) (bytes : List UInt8) : Reading (Nat × List UInt8) := do
  let (part, rest) ← takePart short k bytes
  return (ByteOrder.ofBigEndian part, rest)

/-- A number with a sign, and what is behind it. -/
def takeInteger (short : Error) (k : Nat) (bytes : List UInt8) : Reading (Int × List UInt8) := do
  let (n, rest) ← takeNatural short k bytes
  return (ByteOrder.signed k n, rest)

/-- The first `k` bytes, which have to be there. -/
def leading (k : Nat) (bytes : List UInt8) : Reading (List UInt8) := do
  return (← takePart .abandoned k bytes).1

end SqlGateway.Postgres
