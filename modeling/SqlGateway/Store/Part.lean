/-
# Parts of a value

What a store sends is a run of bytes, and its parts are taken off the front.  What a lack of bytes
comes to depends on the value: some are refused, others break the reading off.
-/
import SqlGateway.Store.Error

namespace SqlGateway.Store

/-- The first `k` bytes, and those behind them; `short` is what a lack of bytes comes to. -/
def takePart (short : Error) (k : Nat) (bytes : List UInt8) :
    Reading (List UInt8 × List UInt8) :=
  if bytes.length < k then .error short else .ok (bytes.take k, bytes.drop k)

theorem takePart_append (short : Error) (part rest : List UInt8) :
    takePart short part.length (part ++ rest) = .ok (part, rest) := by
  simp [takePart]

end SqlGateway.Store
