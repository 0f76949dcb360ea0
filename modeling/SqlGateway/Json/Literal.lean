/-
# Number literals

How the digits of a JSON number become a number.  An integer that fits 64 bits is kept exactly.
Everything else is a float, and it is formed in steps that each round:

* the leading digits are gathered as long as they fit 64 bits, and the rest only count as places;
* what was gathered is rounded to binary64;
* the result is multiplied or divided by a rounded power of ten, `10 ^ 308` at a time.

So a literal with many digits may miss the nearest float by a neighbour.  A literal whose value is
too large has no number; one that is too small is zero.
-/
import SqlGateway.Json.Basic

namespace SqlGateway.Json.Literal

/-! ## 1. Gathering digits -/

/-- Digits gathered so far, and the power of ten they stand before. -/
structure Gathered where
  significand : Nat
  exponent : Int
deriving DecidableEq, Repr

/-- Whether another digit still fits 64 bits. -/
def fits (significand digit : Nat) : Bool := significand * 10 + digit < 0x10000000000000000

/-- The digits before the point: from the first that does not fit, each is only a place. -/
def gatherWhole (g : Gathered) : List Nat → Gathered
  | [] => g
  | d :: ds =>
    if fits g.significand d then gatherWhole ⟨g.significand * 10 + d, g.exponent⟩ ds
    else ⟨g.significand, g.exponent + (ds.length + 1)⟩

/-- The digits behind the point: from the first that does not fit, all are dropped. -/
def gatherFraction (g : Gathered) : List Nat → Gathered
  | [] => g
  | d :: ds =>
    if fits g.significand d then gatherFraction ⟨g.significand * 10 + d, g.exponent - 1⟩ ds
    else g

/-! ## 2. Scaling -/

/-- `x` scaled by `10 ^ exponent`, in steps of at most `10 ^ 308`; none when the value is too
large. -/
def scale (x : Binary64) (exponent : Int) : Option Binary64 :=
  if 308 < exponent then
    if x.read = .finite false 0 (-1074) then some x else none
  else if 0 ≤ exponent then
    let y := Binary64.combine false x (Binary64.powerOfTen exponent.toNat)
    if y.isFinite then some y else none
  else if -308 ≤ exponent then
    some (Binary64.combine true x (Binary64.powerOfTen (-exponent).toNat))
  else if x.read = .finite false 0 (-1074) then some x
  else scale (Binary64.combine true x (Binary64.powerOfTen 308)) (exponent + 308)
termination_by (-exponent).toNat
decreasing_by omega

/-- The float of a literal; none when its value is too large. -/
def Gathered.float (g : Gathered) (negative : Bool) : Option Binary64 :=
  (scale (Binary64.ofInt g.significand) g.exponent).map fun x => if negative then x.neg else x

/-- The number of an integer literal whose digits all fit 64 bits.  A negative one that does not
fit 63 bits is a float, and so is `-0`. -/
def integer (negative : Bool) (significand : Nat) : Option JsonNumber :=
  if negative && (significand = 0 || 0x8000000000000000 < significand) then
    JsonNumber.ofFloat? (Binary64.ofInt significand).neg
  else JsonNumber.ofInt? (if negative then -significand else significand)

end SqlGateway.Json.Literal
