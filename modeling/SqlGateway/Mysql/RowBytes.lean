/-
# Rows on the wire of MySQL

The values of a row stand one behind the other.  A number has no length of its own: it takes as
many bytes as its type says.  In front of a moment there is its length in one byte, in front of all
else a length of up to nine bytes.  Which values are null is told apart from them, so a null takes
no bytes.

So a value with more or fewer bytes than its type says moves those behind it, and a row that is too
short for its columns breaks the reading off.
-/
import SqlGateway.Number.ByteOrder
import SqlGateway.Store.Part

namespace SqlGateway.Mysql

open Store

/-! ## 1. Lengths -/

/-- A length, in as few bytes as its size allows. -/
def lengthBytes (n : Nat) : List UInt8 :=
  if n < 0xFB then ByteOrder.littleEndian 1 n
  else if n < 0x10000 then 0xFC :: ByteOrder.littleEndian 2 n
  else if n < 0x1000000 then 0xFD :: ByteOrder.littleEndian 3 n
  else 0xFE :: ByteOrder.littleEndian 8 n

/-- A number without a sign of `k` bytes, and what is behind it. -/
def takeNatural (k : Nat) (bytes : List UInt8) : Reading (Nat × List UInt8) := do
  let (part, rest) ← takePart .abandoned k bytes
  return (ByteOrder.ofLittleEndian part, rest)

/-- A length, and what is behind it. -/
def takeLength : List UInt8 → Reading (Nat × List UInt8)
  | [] => abandon
  | 0xFC :: rest => takeNatural 2 rest
  | 0xFD :: rest => takeNatural 3 rest
  | 0xFE :: rest => takeNatural 8 rest
  | b :: rest => .ok (b.toNat, rest)

/-! ## 2. Values -/

/-- How far a value reaches. -/
inductive Extent where
  /-- So many bytes. -/
  | fixed (bytes : Nat)
  /-- As many bytes as the one in front of them says. -/
  | counted
  /-- As many bytes as the length in front of them says. -/
  | measured
  /-- There are no values, only nulls. -/
  | absent
deriving DecidableEq, Repr

/-- How far the values of the type with the given number reach. -/
def Extent.ofNumber : Nat → Extent
  | 1 => fixed 1
  | 2 => fixed 2
  | 3 => fixed 4
  | 4 => fixed 4
  | 5 => fixed 8
  | 6 => absent
  | 7 => counted
  | 8 => fixed 8
  | 9 => fixed 4
  | 10 => counted
  | 11 => counted
  | 12 => counted
  | 13 => fixed 2
  | _ => measured

/-- A value as it is written. -/
def Extent.write (e : Extent) (value : List UInt8) : List UInt8 :=
  match e with
  | fixed _ => value
  | counted => ByteOrder.littleEndian 1 value.length ++ value
  | measured => lengthBytes value.length ++ value
  | absent => value

/-- The value that bytes start with, and what is behind it. -/
def Extent.take (e : Extent) (bytes : List UInt8) : Reading (List UInt8 × List UInt8) :=
  match e with
  | fixed k => takePart .abandoned k bytes
  | counted => do
    let (n, rest) ← takeNatural 1 bytes
    takePart .abandoned n rest
  | measured => do
    let (n, rest) ← takeLength bytes
    takePart .abandoned n rest
  | absent => abandon

/-! ## 3. Rows -/

/-- The bytes of a row's values. -/
def rowBytes (extents : List Extent) (values : List (Option (List UInt8))) : List UInt8 :=
  (extents.zip values).flatMap fun (e, v) => (v.map e.write).getD []

/-- The values of a row whose nulls are known. -/
def takeValues : List (Extent × Bool) → List UInt8 → Reading (List (Option (List UInt8)))
  | [], _ => .ok []
  | (_, true) :: more, bytes => do return none :: (← takeValues more bytes)
  | (e, false) :: more, bytes => do
    let (value, rest) ← e.take bytes
    return some value :: (← takeValues more rest)

/-- The values of a row as they are read: one for every column. -/
def readValues (extents : List Extent) (values : List (Option (List UInt8))) :
    Reading (List (Option (List UInt8))) :=
  if values.length < extents.length then abandon
  else takeValues (extents.zip (values.map (·.isNone))) (rowBytes extents values)

end SqlGateway.Mysql
