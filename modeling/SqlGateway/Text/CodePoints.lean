/-
# Sets of code points

A class of characters that a standard defines by listing code points is kept here as closed
ranges.  Membership is a scan of the ranges; the tables that use it are `Alphanumeric` and
`Printable`, and both decide ASCII before they look at a table.
-/
namespace SqlGateway.Text

/-- A set of code points, as closed ranges in ascending order. -/
structure CodePoints where
  ranges : List (Nat × Nat)

/-- Whether the range `r` holds the code point `n`. -/
def inRange (n : Nat) (r : Nat × Nat) : Bool := r.1 ≤ n && n ≤ r.2

/-- Whether `c` lies in one of the ranges. -/
def CodePoints.contains (s : CodePoints) (c : Char) : Bool := s.ranges.any (inRange c.toNat)

end SqlGateway.Text
