/-
# Parameters on the wire of PostgreSQL

A bound value is sent as the number of its type and its bytes, the most significant first.  A null
has no type, so the server takes the one that fits where the null is used.

A wide integer is sent as a numeric: groups of four decimal digits, how many groups stand in front
of the point, and no groups of zeros at the end.
-/
import SqlGateway.Number.ByteOrder
import SqlGateway.Store.Bound
import SqlGateway.Text.Utf8

namespace SqlGateway.Postgres

/-- A parameter: the number of its type, and its bytes unless it is null. -/
structure Parameter where
  type : Nat
  value : Option (List UInt8)
deriving DecidableEq, Repr

/-- The groups of four decimal digits of a number, the least significant first. -/
def decimalGroups (n : Nat) : List Nat :=
  if n = 0 then [] else n % 10000 :: decimalGroups (n / 10000)
termination_by n

/-- A number as a numeric. -/
def numericBytes (n : Nat) : List UInt8 :=
  let groups := decimalGroups n
  let kept := (groups.dropWhile (· == 0)).reverse
  ByteOrder.bigEndian 2 kept.length ++ ByteOrder.bigEndian 2 (groups.length - 1) ++
    ByteOrder.bigEndian 2 0 ++ ByteOrder.bigEndian 2 0 ++
    kept.flatMap (ByteOrder.bigEndian 2)

/-- The parameter of a bound value. -/
def Parameter.ofBound : Store.Bound → Parameter
  | .null => ⟨0, none⟩
  | .bool b => ⟨16, some [if b then 1 else 0]⟩
  | .int n _ => ⟨20, some (ByteOrder.bigEndian 8 (ByteOrder.twosComplement 8 n))⟩
  | .wide n _ => ⟨1700, some (numericBytes n)⟩
  | .float x => ⟨701, some (ByteOrder.bigEndian 8 x.bits.toNat)⟩
  | .text s => ⟨25, some (Text.Utf8.encode s)⟩

end SqlGateway.Postgres
