/-
# The shortest decimal that reads back

The reals that round to a binary64 number form an interval around it.  Among the decimals in that
interval `shortest` picks one with the fewest digits, and of those the nearest to the number; of
two equally near ones, the one with the even last digit.

The search is by grids: for a falling power of ten the two neighbours of the value among its
multiples are tested in exact arithmetic, and the first grid with a hit wins.  If any point of a
grid lies in the interval then one of the two neighbours does, so no coarser grid is missed.
-/
import SqlGateway.Number.Binary64

namespace SqlGateway

/-- `digits * 10 ^ exponent`. -/
structure ShortDecimal where
  digits : Nat
  exponent : Int
deriving DecidableEq, Repr, Inhabited

namespace Binary64

/-! ## 1. The interval -/

/-- The value and the ends of its interval, over one denominator. -/
structure Rounding where
  low : Nat
  value : Nat
  high : Nat
  den : Nat
  /-- Whether the ends themselves round to the value. -/
  closed : Bool

/-- The interval of `mantissa * 2 ^ exponent`.  Below a power of two the gap is half as wide. -/
def rounding (mantissa : Nat) (exponent : Int) : Rounding :=
  let narrow := mantissa = 0x10000000000000 ∧ -1074 < exponent
  let unit : Int := exponent - 2
  let (scale, den) := if unit < 0 then (1, Nat.pow 2 (-unit).toNat) else (Nat.pow 2 unit.toNat, 1)
  { low := (if narrow then 4 * mantissa - 1 else 4 * mantissa - 2) * scale
    value := 4 * mantissa * scale
    high := (4 * mantissa + 2) * scale
    den := den
    closed := mantissa % 2 = 0 }

/-- Whether `n / d` lies in the interval. -/
def Rounding.holds (r : Rounding) (n d : Nat) : Bool :=
  if r.closed then r.low * d ≤ n * r.den && n * r.den ≤ r.high * d
  else r.low * d < n * r.den && n * r.den < r.high * d

/-! ## 2. The search -/

/-- `k * 10 ^ p` as a numerator and a denominator. -/
def gridPoint (k : Nat) (p : Int) : Nat × Nat :=
  if p < 0 then (k, Nat.pow 10 (-p).toNat) else (k * Nat.pow 10 p.toNat, 1)

/-- The multiple of `10 ^ p` in the interval that is nearest to the value, if there is one. -/
def Rounding.onGrid (r : Rounding) (p : Int) : Option Nat :=
  let (n, d) :=
    if p < 0 then (r.value * Nat.pow 10 (-p).toNat, r.den)
    else (r.value, r.den * Nat.pow 10 p.toNat)
  let below := n / d
  let holds (k : Nat) : Bool :=
    let (a, b) := gridPoint k p
    k != 0 && r.holds a b
  match holds below, holds (below + 1) with
  | true, true => some (nearestEven n d)
  | true, false => some below
  | false, true => some (below + 1)
  | false, false => none

/-- The first grid with a hit, from `10 ^ p` downwards. -/
def Rounding.search (r : Rounding) : Nat → Int → ShortDecimal
  | 0, p => ⟨0, p⟩
  | steps + 1, p =>
    match r.onGrid p with
    | some k => ⟨k, p⟩
    | none => r.search steps (p - 1)

/-- A power of ten above `mantissa * 2 ^ exponent`: every binary digit counts for less than 0.302
decimal ones. -/
def decimalBound (mantissa : Nat) (exponent : Int) : Int :=
  ((mantissa.log2 : Int) + 1 + exponent) * 302 / 1000 + 2

/-- The shortest decimal that reads back as `mantissa * 2 ^ exponent`.  Seventeen digits always
suffice, so a few more steps than that end the search. -/
def shortest (mantissa : Nat) (exponent : Int) : ShortDecimal :=
  if mantissa = 0 then ⟨0, 0⟩
  else (rounding mantissa exponent).search 40 (decimalBound mantissa exponent)

end Binary64

end SqlGateway
