/-
# Parameters on the wire of MySQL

A bound value is sent as the number of its type, whether it has no sign, and its bytes, the least
significant first.
-/
import SqlGateway.Number.ByteOrder
import SqlGateway.Store.Bound
import SqlGateway.Text.Utf8

namespace SqlGateway.Mysql

/-- A parameter: its type, and its bytes unless it is null. -/
structure Parameter where
  type : Nat
  unsigned : Bool
  value : Option (List UInt8)
deriving DecidableEq, Repr

/-- The parameter of a bound value. -/
def Parameter.ofBound : Store.Bound → Parameter
  | .null => ⟨253, false, none⟩
  | .bool b => ⟨1, true, some [if b then 1 else 0]⟩
  | .int n _ => ⟨8, false, some (ByteOrder.littleEndian 8 (ByteOrder.twosComplement 8 n))⟩
  | .wide n _ => ⟨8, true, some (ByteOrder.littleEndian 8 n)⟩
  | .float x => ⟨5, false, some (ByteOrder.littleEndian 8 x.bits.toNat)⟩
  | .text s => ⟨253, false, some (Text.Utf8.encode s)⟩

end SqlGateway.Mysql
