/-
# Binary64 numbers

A binary floating-point number of 64 bits, kept as its bits: equality is equality of
representations, so `0.0` and `-0.0` are two values, and every operation is exact arithmetic on
`Nat` followed by one rounding to the nearest number, an exact half going to the even neighbour.

`roundRatio` is that rounding.  Multiplication, division and the reading of decimal literals are
defined through it, so nothing here depends on the arithmetic of the machine.
-/
namespace SqlGateway

/-- A number of the binary64 format, by its 64 bits. -/
structure Binary64 where
  bits : UInt64
deriving DecidableEq, Repr, Inhabited

namespace Binary64

/-! ## 1. Reading the bits -/

/-- What the bits of a number say. -/
inductive Reading where
  | nan
  | infinite (negative : Bool)
  /-- `± mantissa * 2 ^ exponent`. -/
  | finite (negative : Bool) (mantissa : Nat) (exponent : Int)
deriving DecidableEq, Repr

/-- Whether the sign bit is set. -/
def isNegative (x : Binary64) : Bool := 0x8000000000000000 ≤ x.bits.toNat

/-- The eleven bits of the exponent. -/
def exponentBits (x : Binary64) : Nat := x.bits.toNat / 0x10000000000000 % 0x800

/-- The fifty-two bits of the fraction. -/
def fractionBits (x : Binary64) : Nat := x.bits.toNat % 0x10000000000000

/-- The value of a number. -/
def read (x : Binary64) : Reading :=
  if x.exponentBits = 2047 then
    if x.fractionBits = 0 then .infinite x.isNegative else .nan
  else if x.exponentBits = 0 then .finite x.isNegative x.fractionBits (-1074)
  else .finite x.isNegative (0x10000000000000 + x.fractionBits) ((x.exponentBits : Int) - 1075)

/-- Whether the number is neither infinite nor a NaN. -/
def isFinite (x : Binary64) : Bool := x.exponentBits != 2047

/-! ## 2. Rounding -/

/-- The integer nearest to `num / den`; of two equally near ones the even one. -/
def nearestEven (num den : Nat) : Nat :=
  let q := num / den
  let r := num % den
  if 2 * r < den then q else if den < 2 * r then q + 1 else q + q % 2

/-- The bits of positive infinity. -/
def infinityBits : Nat := 2047 * 0x10000000000000

/-- `num / den / 2 ^ e`, as a numerator and a denominator. -/
def scaledBy (num den : Nat) (e : Int) : Nat × Nat :=
  if e < 0 then (num * Nat.pow 2 (-e).toNat, den) else (num, den * Nat.pow 2 e.toNat)

/-- The exponent at which `num / den` has a mantissa of 53 bits, or the least exponent. -/
def mantissaExponent (num den : Nat) : Int :=
  let e : Int := (num.log2 : Int) - den.log2 - 52
  let (n, d) := scaledBy num den e
  max (-1074) (if n < d * 0x10000000000000 then e - 1 else e)

/-- The bits, without a sign, of the number nearest to `num / den`; infinity from the midpoint
above the largest number on.  A carry out of the mantissa runs into the exponent, which is what
the format wants. -/
def roundRatio (num den : Nat) : Nat :=
  if num = 0 then 0
  else
    let e := mantissaExponent num den
    let (n, d) := scaledBy num den e
    min infinityBits ((e + 1074).toNat * 0x10000000000000 + nearestEven n d)

/-- The number with the given sign and the given remaining bits. -/
def ofMagnitude (negative : Bool) (bits : Nat) : Binary64 :=
  ⟨UInt64.ofNat (if negative then 0x8000000000000000 + bits else bits)⟩

/-- The number nearest to `± num / den`. -/
def ofRatio (negative : Bool) (num den : Nat) : Binary64 :=
  ofMagnitude negative (roundRatio num den)

/-- The number nearest to an integer. -/
def ofInt (n : Int) : Binary64 := ofRatio (n < 0) n.natAbs 1

/-- The number with the opposite sign. -/
def neg (x : Binary64) : Binary64 :=
  ofMagnitude (!x.isNegative) (x.bits.toNat % 0x8000000000000000)

/-! ## 3. Scaling by powers of ten -/

/-- `m * 2 ^ e` as a numerator and a denominator. -/
def ratio (m : Nat) (e : Int) : Nat × Nat :=
  if e < 0 then (m, Nat.pow 2 (-e).toNat) else (m * Nat.pow 2 e.toNat, 1)

/-- The product or quotient of two numbers, rounded once. -/
def combine (divide : Bool) (x y : Binary64) : Binary64 :=
  match x.read, y.read with
  | .finite s m e, .finite s' m' e' =>
    let (n, d) := ratio m e
    let (n', d') := ratio m' e'
    let negative := s != s'
    if divide then
      if n' = 0 then ofMagnitude negative infinityBits else ofRatio negative (n * d') (d * n')
    else ofRatio negative (n * n') (d * d')
  | r, r' =>
    let negative := x.isNegative != y.isNegative
    match r, r' with
    | .nan, _ => x
    | _, .nan => y
    | _, .infinite _ => if divide then ofMagnitude negative 0 else ofMagnitude negative infinityBits
    | _, _ => ofMagnitude negative infinityBits

/-- `10 ^ k`, rounded. -/
def powerOfTen (k : Nat) : Binary64 := ofRatio false (Nat.pow 10 k) 1

/-! ## 4. Decimal literals -/

/-- The number nearest to `± digits * 10 ^ exponent`.  Exponents that leave no doubt are decided
before any power is formed. -/
def ofDecimal (negative : Bool) (digits : Nat) (exponent : Int) : Binary64 :=
  if digits = 0 then ofMagnitude negative 0
  else if 400 < exponent then ofMagnitude negative infinityBits
  else if exponent + (digits.log2 : Int) < -1200 then ofMagnitude negative 0
  else if exponent < 0 then ofRatio negative digits (Nat.pow 10 (-exponent).toNat)
  else ofRatio negative (digits * Nat.pow 10 exponent.toNat) 1

/-- A number of the binary32 format, widened without loss. -/
def ofBinary32 (bits : UInt32) : Binary64 :=
  let b : Nat := bits.toNat
  let negative : Bool := 0x80000000 ≤ b
  let exponent : Nat := b / 0x800000 % 0x100
  let fraction : Nat := b % 0x800000
  if exponent = 255 then
    ofMagnitude negative (infinityBits + fraction * 0x20000000)
  else if exponent = 0 then ofRatio negative fraction (Nat.pow 2 149)
  else
    let (n, d) := ratio (0x800000 + fraction) ((exponent : Int) - 150)
    ofRatio negative n d

end Binary64

end SqlGateway
