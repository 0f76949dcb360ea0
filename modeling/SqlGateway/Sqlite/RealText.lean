/-
# The text of reals

A real as SQLite writes it: fifteen significant digits at most, no zeros at the end, and a point
with at least one digit on either side.

The digits come from the number brought to eighteen or nineteen digits in front of the point, in
steps of a hundred, ten and one places, each product with 64 bits of precision.
-/
import SqlGateway.Number.Extended

namespace SqlGateway.Sqlite

/-- How many digits the text of a real has at most. -/
def realDigits : Nat := 15

/-- Multiplies by a factor while `goesOn` tells so, `fuel` times at most; the count is of the steps
done. -/
def multiplyWhile (goesOn : Extended → Bool) (factor : Extended) : Nat → Extended → Extended × Nat
  | 0, x => (x, 0)
  | fuel + 1, x =>
    if goesOn x then
      let (y, k) := multiplyWhile goesOn factor fuel (x.mul factor)
      (y, k + 1)
    else (x, 0)

/-- More steps of one size than a real ever needs. -/
def stepLimit : Nat := 20

/-- A number below `10 ^ 19` and the power of ten that it is to be multiplied by. -/
def lowered (x : Extended) : Extended × Int :=
  let from_ (k : Nat) (x : Extended) : Bool := !x.isLess (.powerOfTen k)
  let (x, hundreds) := multiplyWhile (from_ 119) (.inversePowerOfTen 100) stepLimit x
  let (x, tens) := multiplyWhile (from_ 29) (.inversePowerOfTen 10) stepLimit x
  let (x, ones) := multiplyWhile (from_ 19) (.inversePowerOfTen 1) stepLimit x
  (x, hundreds * 100 + tens * 10 + ones)

/-- A number from `10 ^ 17` on and the power of ten that it is to be multiplied by. -/
def raised (x : Extended) : Extended × Int :=
  let (x, hundreds) := multiplyWhile (·.isLess (.inversePowerOfTen 97)) (.powerOfTen 100) stepLimit x
  let (x, tens) := multiplyWhile (·.isLess (.powerOfTen 7)) (.powerOfTen 10) stepLimit x
  let (x, ones) := multiplyWhile (·.isLess (.powerOfTen 17)) (.powerOfTen 1) stepLimit x
  (x, -(hundreds * 100 + tens * 10 + ones : Nat))

/-- The first digits of a positive number, and the power of ten of the first one.  The next digit
rounds them. -/
def leadingDigits (x : Extended) : List Char × Int :=
  let (y, power) := if x.isLess (.powerOfTen 19) then raised x else lowered x
  let n := y.floor
  let size := (Nat.toDigits 10 n).length
  let unit := Nat.pow 10 (size - realDigits)
  let kept := (2 * n + unit) / (2 * unit)
  let power := power + size - 1
  let (kept, power) :=
    if kept = Nat.pow 10 realDigits then (kept / 10, power + 1) else (kept, power)
  (((Nat.toDigits 10 kept).reverse.dropWhile (· == '0')).reverse, power)

/-- Digits with a point behind the first `k`, and at least one digit on either side of it. -/
def pointed (digits : List Char) (k : Nat) : List Char :=
  let whole := digits.take k ++ List.replicate (k - digits.length) '0'
  let fraction := digits.drop k
  whole ++ '.' :: (if fraction.isEmpty then ['0'] else fraction)

/-- The text of a positive number: positional for powers from -4 to 14, else scientific. -/
def magnitudeText (x : Extended) : List Char :=
  let (digits, power) := leadingDigits x
  if power < -4 || (realDigits : Int) ≤ power then
    let e := Nat.toDigits 10 power.natAbs
    pointed digits 1 ++ 'e' :: (if power < 0 then '-' else '+') ::
      (List.replicate (2 - e.length) '0' ++ e)
  else if power < 0 then
    '0' :: '.' :: (List.replicate ((-power).toNat - 1) '0' ++ digits)
  else pointed digits (power.toNat + 1)

/-- The text of a real. -/
def realText (x : Binary64) : String :=
  match x.read with
  | .nan => ""
  | .infinite negative => if negative then "-Inf" else "Inf"
  | .finite negative m e =>
    if m = 0 then "0.0"
    else (if negative then "-" else "") ++ String.ofList (magnitudeText ⟨m, e⟩)

end SqlGateway.Sqlite
