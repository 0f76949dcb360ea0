/-
# Percent-encoding

In a URL a byte may be written as `%` and two hexadecimal digits.  A `%` without them stands for
itself.
-/
namespace SqlGateway.Text.Percent

/-- The value of a hexadecimal digit. -/
def hexValue? (b : UInt8) : Option UInt8 :=
  if 48 ≤ b ∧ b ≤ 57 then some (b - 48)
  else if 65 ≤ b ∧ b ≤ 70 then some (b - 55)
  else if 97 ≤ b ∧ b ≤ 102 then some (b - 87)
  else none

/-- The bytes that encoded bytes stand for. -/
def decode : List UInt8 → List UInt8
  | [] => []
  | 37 :: a :: b :: rest =>
    match hexValue? a, hexValue? b with
    | some x, some y => (x * 16 + y) :: decode rest
    | _, _ => 37 :: decode (a :: b :: rest)
  | b :: rest => b :: decode rest
termination_by bytes => bytes.length

end SqlGateway.Text.Percent
