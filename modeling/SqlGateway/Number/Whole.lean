/-
# Whole numbers of a bounded size

A decimal number that must lie in a range.  It is read digit by digit, and the first thing that is
wrong is what gets told: a number that has left the range is too large whatever follows its digits.

A plus sign may stand in front; a minus sign only where the range has negative numbers.
-/
import SqlGateway.Number.Digits

namespace SqlGateway.Whole

/-! ## 1. Faults -/

/-- Why a text is no whole number in a range. -/
inductive Fault where
  | empty
  | digit
  | large
  | small
deriving DecidableEq, Repr

/-- The wording of the fault. -/
def Fault.message : Fault → String
  | empty => "cannot parse integer from empty string"
  | digit => "invalid digit found in string"
  | large => "number too large to fit in target type"
  | small => "number too small to fit in target type"

/-! ## 2. Reading -/

/-- Reads digits of a number up to `high`, of which `n` has been read. -/
def readUp (high : Nat) (n : Nat) : List Char → Except Fault Nat
  | [] => .ok n
  | c :: cs =>
    if !c.isDigit then .error .digit
    else
      let m := n * 10 + Digits.digitValue c
      if high < m then .error .large else readUp high m cs

/-- Reads digits of the magnitude of a number down to `-low`. -/
def readDown (low : Nat) (digits : List Char) : Except Fault Int :=
  match readUp low 0 digits with
  | .ok n => .ok (-n)
  | .error .large => .error .small
  | .error f => .error f

/-- Reads a number from `-low` to `high`. -/
def read (low high : Nat) (text : List Char) : Except Fault Int :=
  let up (digits : List Char) : Except Fault Int := (readUp high 0 digits).map Int.ofNat
  match text with
  | [] => .error .empty
  | ['+'] => .error .digit
  | ['-'] => .error .digit
  | '+' :: digits => up digits
  | '-' :: digits => if low = 0 then .error .digit else readDown low digits
  | digits => up digits

/-- Reads a natural number up to `high`. -/
def readNatural (high : Nat) (text : List Char) : Except Fault Nat :=
  (read 0 high text).map Int.toNat

end SqlGateway.Whole
