/-
# Decimal numbers in a text

A sign or none, digits with a point among them or none, and behind an `e` a power of ten.  Between
digits an underscore may stand for the eye.

* Digits without a point have to fit.  Behind the point the first digit that finds no room rounds
  the number, and those behind it do not count; they only have to be digits.
* A power of ten moves the point as far as the digits behind it go.  Only what is left of the power
  is multiplied, and a number multiplied is a whole one.
* A power below one adds places.  If there are too many, digits are cut, with a half upwards.
* A text without an `e` never loses the zeros at its end, so it has the places that it was written
  with.
-/
import SqlGateway.Number.Decimal
import SqlGateway.Number.Whole

namespace SqlGateway.Decimal

/-! ## 1. Faults -/

/-- Why a text is no decimal number. -/
inductive TextFault where
  | empty
  | noDigits
  | unknownCharacter
  | secondPoint
  | leadingSeparator
  | tooManyDigits
  | tooLargeAfterRounding
  /-- What is behind the `e` is no power. -/
  | power
  | powerTooLarge (power : Nat)
  | tooLarge
deriving DecidableEq, Repr

/-- The wording of a fault. -/
def TextFault.message : TextFault → String
  | empty => "Invalid decimal: empty"
  | noDigits => "Invalid decimal: no digits found"
  | unknownCharacter => "Invalid decimal: unknown character"
  | secondPoint => "Invalid decimal: two decimal points"
  | leadingSeparator => "Invalid decimal: must start lead with a number"
  | tooManyDigits => "Invalid decimal: overflow from too many digits"
  | tooLargeAfterRounding => "Invalid decimal: overflow from mantissa after rounding"
  | power => "Failed to parse"
  | powerTooLarge n =>
    "Scale exceeds the maximum precision allowed: " ++ toString n ++ " > " ++ toString maxScale
  | tooLarge => "Number exceeds maximum value that can be represented."

/-- The fault of a character that no number has at its place. -/
def TextFault.ofChar : Char → TextFault
  | '.' => secondPoint
  | '_' => leadingSeparator
  | _ => unknownCharacter

/-! ## 2. Digits -/

/-- The number of the digits read; zero has no sign. -/
def ofDigits (negative : Bool) (mantissa scale : Nat) : Decimal :=
  ⟨negative && mantissa != 0, mantissa, scale⟩

/-- Whether a character may stand among the digits that find no room. -/
def isPassedOver (c : Char) : Bool := c.isDigit || c = '_'

/-- The number of the digits read, rounded by the first of those that find no room. -/
def roundedBy (negative : Bool) (mantissa scale : Nat) (rest : List Char) :
    Except TextFault Decimal :=
  match rest.find? (!isPassedOver ·) with
  | some c => .error (.ofChar c)
  | none =>
    if (rest.find? Char.isDigit).all (·.toNat < 53) then .ok (ofDigits negative mantissa scale)
    else if fits (mantissa + 1) then .ok (ofDigits negative (mantissa + 1) scale)
    else if scale = 0 then .error .tooLargeAfterRounding
    else .ok (ofDigits negative ((mantissa + 5) / 10) (scale - 1))

/-- Reads on behind a sign; `seen` says whether there was a digit, `point` whether the point. -/
def readDigits (negative seen point : Bool) (mantissa scale : Nat) :
    List Char → Except TextFault Decimal
  | [] => if seen then .ok (ofDigits negative mantissa scale) else .error .noDigits
  | c :: cs =>
    if point && maxScale ≤ scale then roundedBy negative mantissa scale (c :: cs)
    else if c.isDigit then
      let next := mantissa * 10 + (c.toNat - 48)
      if fits next then
        readDigits negative true point next (if point then scale + 1 else 0) cs
      else if point then roundedBy negative mantissa scale (c :: cs)
      else .error .tooManyDigits
    else if c = '.' && !point then readDigits negative seen true mantissa scale cs
    else if c = '_' && seen then readDigits negative seen point mantissa scale cs
    else .error (.ofChar c)

/-- The number that a text without a power says. -/
def ofPlainText : List Char → Except TextFault Decimal
  | [] => .error .empty
  | '-' :: cs => readDigits true false false 0 0 cs
  | '+' :: cs => readDigits false false false 0 0 cs
  | cs => readDigits false false false 0 0 cs

/-! ## 3. Powers of ten -/

/-- The largest power that is read. -/
def maxPower : Nat := 0xFFFFFFFF

/-- The power that a text says. -/
def readPower (text : List Char) : Except TextFault Nat :=
  (Whole.readNatural maxPower text).mapError fun _ => .power

/-- The number times `10 ^ power`. -/
def raise (d : Decimal) (power : Nat) : Except TextFault Decimal :=
  if power ≤ d.scale then .ok { d with scale := d.scale - power }
  else if maxScale < power then .error (.powerTooLarge power)
  else
    let mantissa := d.mantissa * Nat.pow 10 (power - d.scale)
    if fits mantissa then .ok ⟨d.negative, mantissa, 0⟩ else .error .tooLarge

/-- The number divided by `10 ^ power`. -/
def lower (d : Decimal) (power : Nat) : Except TextFault Decimal :=
  if maxScale < power then .error (.powerTooLarge power)
  else if d.scale + power ≤ maxScale then .ok { d with scale := d.scale + power }
  else .ok { d.rescale (maxScale - power) with scale := maxScale }

/-- Whether a character starts a power. -/
def startsPower (c : Char) : Bool := c = 'e' || c = 'E'

/-- The number that a text says. -/
def ofText (text : List Char) : Except TextFault Decimal :=
  match text.span (!startsPower ·) with
  | (digits, []) => ofPlainText digits
  | (digits, _ :: power) => do
    let d ← ofPlainText digits
    match power with
    | '-' :: places => d.lower (← readPower places)
    | _ => d.raise (← readPower power)

end SqlGateway.Decimal
