/-
# Numbers of extended precision

Positive binary numbers with a mantissa of 64 bits, as they serve for the steps of a calculation
whose result has fewer bits.  Exponents have no limits: what a calculation ends with is rounded to
a number that has some.  Every product is rounded, so the order of multiplications shows in the
last bits of the result.
-/
import SqlGateway.Number.Binary64

namespace SqlGateway

/-- The number `mantissa * 2 ^ exponent`. -/
structure Extended where
  mantissa : Nat
  exponent : Int
deriving DecidableEq, Repr

namespace Extended

/-! ## 1. Rounding -/

/-- How many bits a mantissa has. -/
def mantissaBits : Nat := 64

/-- `n * 2 ^ e`, rounded; an exact half goes to the even neighbour. -/
def rounded (n : Nat) (e : Int) : Extended :=
  let extra := n.log2 + 1 - mantissaBits
  ⟨Binary64.nearestEven n (Nat.pow 2 extra), e + extra⟩

/-- `num / den`, rounded. -/
def ofRatio (num den : Nat) : Extended :=
  let e : Int := (num.log2 : Int) - den.log2 - mantissaBits
  let (n, d) := Binary64.scaledBy num den e
  if n < d * Nat.pow 2 mantissaBits then ⟨Binary64.nearestEven n d, e⟩
  else ⟨Binary64.nearestEven n (d * 2), e + 1⟩

/-- The number nearest to `10 ^ k`. -/
def powerOfTen (k : Nat) : Extended := rounded (Nat.pow 10 k) 0

/-- The number nearest to `10 ^ (-k)`. -/
def inversePowerOfTen (k : Nat) : Extended := ofRatio 1 (Nat.pow 10 k)

/-! ## 2. Operations -/

/-- The product, rounded. -/
def mul (x y : Extended) : Extended :=
  rounded (x.mantissa * y.mantissa) (x.exponent + y.exponent)

/-- The product with a factor taken `k` times. -/
def mulTimes (factor : Extended) : Nat → Extended → Extended
  | 0, x => x
  | k + 1, x => mulTimes factor k (x.mul factor)

/-- Whether a number is less than another one. -/
def isLess (x y : Extended) : Bool :=
  let e := min x.exponent y.exponent
  let shifted (z : Extended) : Nat := z.mantissa * Nat.pow 2 (z.exponent - e).toNat
  shifted x < shifted y

/-- The whole part. -/
def floor (x : Extended) : Nat :=
  let (n, d) := Binary64.ratio x.mantissa x.exponent
  n / d

/-- The largest number that the binary64 format has. -/
def largestBinary64 : Extended := ⟨0x1FFFFFFFFFFFFF, 971⟩

/-- The nearest number of the binary64 format; infinity for what is larger than the largest. -/
def toBinary64 (negative : Bool) (x : Extended) : Binary64 :=
  if largestBinary64.isLess x then .ofMagnitude negative Binary64.infinityBits
  else
    let (n, d) := Binary64.ratio x.mantissa x.exponent
    .ofRatio negative n d

end Extended

end SqlGateway
