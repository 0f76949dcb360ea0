/-
# Decimal numbers

A decimal number of limited size: an integer below `2 ^ 96`, a sign, and how many of its digits
stand behind the point.  Digits behind the point are kept even if they are zero, so `1.50` and `1.5`
are two values.

A number that is read from a text or summed up has at most 28 digits behind the point.  Zeros that
are asked for may go beyond that, as far as the integer has room for them; those of zero may not.

Digits that a result has no room for are rounded with an exact half to the even neighbour; digits
that are cut on demand, with a half upwards.
-/
import SqlGateway.Number.Binary64

namespace SqlGateway

/-- The decimal number `± mantissa / 10 ^ scale`. -/
structure Decimal where
  negative : Bool
  mantissa : Nat
  scale : Nat
deriving DecidableEq, Repr

namespace Decimal

/-! ## 1. Limits -/

/-- What the integer has to be below. -/
def mantissaLimit : Nat := 0x1000000000000000000000000

/-- The most digits behind the point. -/
def maxScale : Nat := 28

/-- Whether the integer is small enough. -/
def fits (mantissa : Nat) : Bool := mantissa < mantissaLimit

/-- `n / 10 ^ scale` with as many digits behind the point as there is room for. -/
def ofRatio? (n : Int) (scale : Nat) : Option Decimal :=
  (List.range (scale + 1)).findSome? fun cut =>
    let mantissa := Binary64.nearestEven n.natAbs (Nat.pow 10 cut)
    if fits mantissa then some ⟨n < 0, mantissa, scale - cut⟩ else none

/-- The integer of a number at a scale that is not less than its own. -/
def atScale (d : Decimal) (scale : Nat) : Int :=
  let n : Int := (d.mantissa * Nat.pow 10 (scale - d.scale) : Nat)
  if d.negative then -n else n

/-- The sum of two numbers, if it is small enough. -/
def add? (a b : Decimal) : Option Decimal :=
  let scale := max a.scale b.scale
  ofRatio? (a.atScale scale + b.atScale scale) scale

/-! ## 2. A given number of digits behind the point -/

/-- The number with up to `k` zeros added at the end, as many as there is room for. -/
def extend : Nat → Decimal → Decimal
  | 0, d => d
  | k + 1, d =>
    if fits (d.mantissa * 10) then
      extend k { d with mantissa := d.mantissa * 10, scale := d.scale + 1 }
    else d

/-- The number with `k` digits cut at the end. -/
def cut (k : Nat) (d : Decimal) : Decimal :=
  { d with mantissa := (2 * d.mantissa + Nat.pow 10 k) / (2 * Nat.pow 10 k), scale := d.scale - k }

/-- The number with the given number of digits behind the point, if there is room for them. -/
def rescale (d : Decimal) (scale : Nat) : Decimal :=
  if d.mantissa = 0 then { d with scale := min scale maxScale }
  else if d.scale ≤ scale then d.extend (scale - d.scale) else d.cut (d.scale - scale)

/-! ## 3. Text -/

/-- The digits, with a point in front of the last `scale` ones. -/
def text (d : Decimal) : String :=
  let digits := Nat.toDigits 10 d.mantissa
  let padded := List.replicate (d.scale + 1 - digits.length) '0' ++ digits
  let whole := padded.take (padded.length - d.scale)
  let fraction := padded.drop (padded.length - d.scale)
  let point := if fraction.isEmpty then [] else ['.']
  (if d.negative then "-" else "") ++ String.ofList (whole ++ point ++ fraction)

end Decimal

end SqlGateway
