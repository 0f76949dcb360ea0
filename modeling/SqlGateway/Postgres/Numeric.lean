/-
# Numerics on the wire

A numeric is sent in groups of four decimal digits, with the number of the group that stands right
in front of the point, a sign, and how many digits are to be shown behind the point.

The number is summed up group by group, the most significant first, so a group that is too large
by itself breaks the reading off, while a sum that grows too large is refused.  A number with more
digits behind the point than a text has room for breaks it off too.
-/
import SqlGateway.Postgres.Part

namespace SqlGateway.Postgres

open Store

/-- A number of groups. -/
structure Numeric where
  groups : List Int
  /-- How many groups are between the first one and the point. -/
  weight : Int
  negative : Bool
  /-- How many digits are shown behind the point. -/
  scale : Int
deriving DecidableEq, Repr

/-- Some groups, and what is behind them. -/
def takeGroups : Nat → List UInt8 → Reading (List Int)
  | 0, _ => .ok []
  | n + 1, bytes => do
    let (group, rest) ← takeInteger .abandoned 2 bytes
    return group :: (← takeGroups n rest)

/-- The numeric that bytes say. -/
def Numeric.ofBytes (bytes : List UInt8) : Reading Numeric := do
  let (count, rest) ← takeNatural .abandoned 2 bytes
  let (weight, rest) ← takeInteger .abandoned 2 rest
  let (sign, rest) ← takeNatural .abandoned 2 rest
  let (scale, rest) ← takeInteger .abandoned 2 rest
  if sign = 0xC000 then refuse .notANumber
  let groups ← takeGroups count rest
  if sign ≠ 0 ∧ sign ≠ 0x4000 then refuse (.numericSign sign)
  return ⟨groups, weight, sign = 0x4000, scale⟩

/-- The farthest group from the point that can be read. -/
def maxWeight : Int := 7

/-- The value of one group. -/
def groupValue (group weight : Int) : Reading Decimal :=
  if weight < -maxWeight ∨ maxWeight < weight then refuse .decimalOutOfRange
  else if weight < 0 then .ok ⟨group < 0, group.natAbs, (-4 * weight).toNat⟩
  else
    let mantissa := group.natAbs * Nat.pow 10000 weight.toNat
    if Decimal.fits mantissa then .ok ⟨group < 0, mantissa, 0⟩ else abandon

/-- A sum with the values of groups added, the first of which has the given weight. -/
def addGroups (sum : Decimal) (weight : Int) : List Int → Reading Decimal
  | [] => .ok sum
  | group :: rest => do
    match sum.add? (← groupValue group weight) with
    | none => refuse .decimalOutOfRange
    | some sum => addGroups sum (weight - 1) rest

/-- The decimal number of a numeric. -/
def Numeric.toDecimal (n : Numeric) : Reading Decimal :=
  if n.groups.isEmpty then .ok ⟨false, 0, 0⟩
  else do
    if n.scale < 0 then refuse (.numericScale n.scale)
    let sum ← addGroups ⟨false, 0, 0⟩ n.weight n.groups
    return { sum with negative := n.negative }.rescale n.scale.toNat

/-- How many digits behind the point a text has room for. -/
def maxShownScale : Nat := 30

/-- The text of a numeric. -/
def numericText (bytes : List UInt8) : Reading String := do
  let d ← (← Numeric.ofBytes bytes).toDecimal
  if maxShownScale < d.scale then abandon
  return d.text

end SqlGateway.Postgres
