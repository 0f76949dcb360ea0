/-
# Bound values

What the arguments of a statement are bound as: an integer as a signed integer of 64 bits, or as a
wide one if it does not fit; any other number as a float; everything else as it is.

The forms of a number are tried in this order, and the last resort is its text.  An integer would
also be a float, so it must not be asked for that first: above `2 ^ 53` it would be rounded.
-/
import SqlGateway.Fields

namespace SqlGateway.Store

/-- A value that is bound to a marker. -/
inductive Bound where
  | null
  | bool (b : Bool)
  /-- An integer of 64 bits with a sign. -/
  | int (n : Int) (fits : -0x8000000000000000 ≤ n ∧ n < 0x8000000000000000)
  /-- An integer of 64 bits without a sign. -/
  | wide (n : Nat) (fits : n < 0x10000000000000000)
  | float (x : Binary64)
  | text (s : String)
deriving DecidableEq

namespace Bound

/-- The value that a number is bound as. -/
def ofNumber (n : JsonNumber) : Bound :=
  match n.asInt64? with
  | some i => .int i.1 i.2
  | none =>
    match n.asUInt64? with
    | some u => .wide u.1 u.2
    | none =>
      match n.asBinary64? with
      | some x => .float x
      | none => .text (String.ofList n.render)

/-- The value that an argument is bound as. -/
def ofScalar : Scalar → Bound
  | .null => .null
  | .bool b => .bool b
  | .number n => ofNumber n
  | .text s => .text s

/-- An integer is bound with a sign if it fits so, and without one otherwise. -/
theorem ofNumber_integer {n : Int}
    (fits : -0x8000000000000000 ≤ n ∧ n < 0x10000000000000000) :
    ofNumber (.integer n fits) =
      if h : n < 0x8000000000000000 then .int n ⟨fits.1, h⟩ else .wide n.toNat (by omega) := by
  by_cases h : n < 0x8000000000000000
  · simp [ofNumber, JsonNumber.asInt64?, h]
  · have hwide : 0 ≤ n := by omega
    simp [ofNumber, JsonNumber.asInt64?, JsonNumber.asUInt64?, h, hwide]

theorem ofNumber_float (x : Binary64) (finite : x.isFinite = true) :
    ofNumber (.float x finite) = .float x := rfl

end Bound

end SqlGateway.Store
