/-
# The real that digits say

How SQLite reads a number with a point or an exponent, or one that is too large for an integer:

* As many digits as 64 bits have room for make a whole number, and those behind them only count as
  places.
* Zeros go back and forth between that number and the power of ten, so that the power is as near to
  zero as it can be.
* The number is multiplied by the power in steps of a hundred, ten and one places, each product with
  64 bits of precision, and is rounded to a real at the end.

The result is not always the nearest real, since the steps round too.
-/
import SqlGateway.Number.Digits
import SqlGateway.Number.Extended

namespace SqlGateway.Sqlite

/-! ## 1. Gathering digits -/

/-- The most that 64 bits have room for. -/
def largestSignificand : Nat := 0xFFFFFFFFFFFFFFFF

/-- A number from which on no digit is added. -/
def fullSignificand : Nat := (largestSignificand - 9) / 10

/-- Adds digits in front of the point; told are the number and how many digits were left out. -/
def gatherWhole (s : Nat) : List Char → Nat × Nat
  | [] => (s, 0)
  | c :: cs =>
    let s := s * 10 + Digits.digitValue c
    if fullSignificand ≤ s then (s, cs.length) else gatherWhole s cs

/-- Adds digits behind the point; told are the number and how many digits were added. -/
def gatherFraction (s places : Nat) : List Char → Nat × Nat
  | [] => (s, places)
  | c :: cs =>
    if s < fullSignificand then gatherFraction (s * 10 + Digits.digitValue c) (places + 1) cs
    else (s, places)

/-- The value of the digits of an exponent; one that leaves no doubt is not read exactly. -/
def exponentValue (digits : List Char) : Nat :=
  digits.foldl (fun e c => if e < 10000 then e * 10 + Digits.digitValue c else 10000) 0

/-! ## 2. The power of ten -/

/-- Takes places of a positive power into the number while there is room. -/
def takePlaces (s : Nat) : Nat → Nat × Nat
  | 0 => (s, 0)
  | k + 1 => if s < largestSignificand / 10 then takePlaces (s * 10) k else (s, k + 1)

/-- Takes zeros at the end of the number into a negative power. -/
def dropZeros (s : Nat) : Nat → Nat × Nat
  | 0 => (s, 0)
  | k + 1 => if s % 10 = 0 then dropZeros (s / 10) k else (s, k + 1)

/-- The product with a power of ten, where `power k` is the one of `k` places: as many steps of a
hundred places as there are, then of ten, then of one. -/
def stepwise (power : Nat → Extended) (k : Nat) (x : Extended) : Extended :=
  Extended.mulTimes (power 1) (k % 10)
    (Extended.mulTimes (power 10) (k % 100 / 10) (Extended.mulTimes (power 100) (k / 100) x))

/-- The number `s * 10 ^ e`. -/
def scaledReal (s : Nat) (e : Int) : Extended :=
  if e < 0 then
    let (s, k) := dropZeros s e.natAbs
    stepwise Extended.inversePowerOfTen k ⟨s, 0⟩
  else
    let (s, k) := takePlaces s e.natAbs
    stepwise Extended.powerOfTen k ⟨s, 0⟩

/-- The real that digits in front of the point and behind it say, times a power of ten. -/
def realOf (negative : Bool) (whole fraction : List Char) (exponent : Int) : Binary64 :=
  let (s, leftOut) := gatherWhole 0 whole
  let (s, places) := gatherFraction s 0 fraction
  if s = 0 then .ofMagnitude negative 0
  else (scaledReal s (exponent + leftOut - places)).toBinary64 negative

end SqlGateway.Sqlite
