/-
# How alike two words are

Two words are the more alike, the more of their letters can be paired.  Letters pair when they are
equal and stand about as far from the start, and every letter pairs at most once.  Of `m` pairs, in
words of `a` and `b` letters, with `t` exchanges among them, the likeness is the mean of

* `m / a` and `m / b`, the parts of the words that are paired;
* `(m - t) / m`, the part of the pairs that are in order.

Likeness is a quotient of natural numbers, so which of two words is closer is decided without
rounding.
-/
namespace SqlGateway.Text.Similarity

/-! ## 1. Pairs -/

/-- How far apart two letters may stand that pair. -/
def reach (a b : Nat) : Nat := max a b / 2 - 1

/-- The first place of `ys`, at most `range` from place `i`, that holds `x` and is not taken. -/
def partner? (range i : Nat) (x : Char) (ys : List Char) (taken : List Nat) : Option Nat :=
  (ys.zipIdx.find? fun (y, j) =>
    i ≤ j + range && j ≤ i + range && x == y && !taken.contains j).map (·.2)

/-- Pairs the letters of a word with places of `ys`, from place `i` on; `taken` are the places of the
pairs so far. -/
def pairUp (range : Nat) (ys : List Char) : Nat → List Nat → List Char → List (Char × Nat)
  | _, _, [] => []
  | i, taken, x :: xs =>
    match partner? range i x ys taken with
    | some j => (x, j) :: pairUp range ys (i + 1) (j :: taken) xs
    | none => pairUp range ys (i + 1) taken xs

/-- The pairs of two words: a letter of the first, and a place of the second. -/
def pairs (xs ys : List Char) : List (Char × Nat) :=
  pairUp (reach xs.length ys.length) ys 0 [] xs

/-- How many pairs are out of order, two for an exchange. -/
def misplaced (ys : List Char) (found : List (Char × Nat)) : Nat :=
  let here := found.map (·.1)
  let there := (ys.zipIdx.filter fun (_, j) => (found.map (·.2)).contains j).map (·.1)
  (here.zip there).countP fun (x, y) => x != y

/-! ## 2. Likeness -/

/-- A likeness: three times the mean, as a quotient. -/
structure Likeness where
  above : Nat
  below : Nat
deriving DecidableEq, Repr

/-- How alike two words are. -/
def likeness (xs ys : List Char) : Likeness :=
  let found := pairs xs ys
  let a := xs.length
  let b := ys.length
  let m := found.length
  let t := misplaced ys found / 2
  if m = 0 then ⟨0, 1⟩ else ⟨m * m * b + m * m * a + (m - t) * a * b, a * b * m⟩

/-- Whether a likeness is at most another one. -/
def Likeness.le (p q : Likeness) : Bool := p.above * q.below ≤ q.above * p.below

/-- Whether a mean is seven tenths or more. -/
def Likeness.isHigh (p : Likeness) : Bool := 21 * p.below ≤ 10 * p.above

/-- The word that is most like `xs`, the last of several, if its likeness is high. -/
def closest? (xs : List Char) (words : List String) : Option String :=
  (words.filter fun w => (likeness xs w.toList).isHigh).foldl
    (fun best w =>
      if best.all fun v => (likeness xs v.toList).le (likeness xs w.toList) then some w else best)
    none

end SqlGateway.Text.Similarity
