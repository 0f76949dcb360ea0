/-
# Values of SQLite

A value belongs to one of five storage classes, whatever the column it stands in was declared as.
Between classes the order is null, numbers, text, blobs; numbers are compared by their exact value.
A text may say a number, and then counts as one where a number is wanted.
-/
import SqlGateway.Number.Digits
import SqlGateway.Row.Cell
import SqlGateway.Sqlite.RealLiteral
import SqlGateway.Sqlite.RealText
import SqlGateway.Store.Bound

namespace SqlGateway.Sqlite

/-! ## 1. Storage classes -/

/-- A value. -/
inductive Value where
  | null
  | int (n : Int)
  | real (x : Binary64)
  | text (s : String)
  | blob (bytes : List UInt8)
deriving DecidableEq, Repr

namespace Value

/-- The value that a bound one is; there are no truth values, and no integers without a sign. -/
def ofBound : Store.Bound → Value
  | .null => null
  | .bool b => int (if b then 1 else 0)
  | .int n _ => int n
  | .wide n _ => text (toString n)
  | .float x => real x
  | .text s => text s

/-- The cell of a value. -/
def toCell : Value → Cell
  | null => .null
  | int n => .int n
  | real x => .float x
  | text s => .text s
  | blob bytes => .bytes bytes

/-- The name of the storage class. -/
def className : Value → String
  | null => "null"
  | int _ => "integer"
  | real _ => "real"
  | text _ => "text"
  | blob _ => "blob"

/-- The bytes of a value as they stand in a blob. -/
def bytes : Value → List UInt8
  | null => []
  | int n => Text.Utf8.encode (toString n)
  | real x => Text.Utf8.encode (realText x)
  | text s => Text.Utf8.encode s
  | blob bs => bs

/-! ## 2. Text as numbers -/

/-- A number without a point or an exponent. -/
def ofWhole (negative : Bool) (digits : List Char) : Value :=
  let n := Digits.value digits
  let signed : Int := if negative then -n else n
  if -0x8000000000000000 ≤ signed ∧ signed < 0x8000000000000000 then int signed
  else real (realOf negative digits [] 0)

/-- The value of an exponent with a sign or without. -/
def exponentOf? (cs : List Char) : Option Int :=
  let digits (negative : Bool) (ds : List Char) : Option Int :=
    if ds.isEmpty || !ds.all Char.isDigit then none
    else some (if negative then -(exponentValue ds : Int) else exponentValue ds)
  match cs with
  | '-' :: ds => digits true ds
  | '+' :: ds => digits false ds
  | ds => digits false ds

/-- The number that a whole text without a sign says. -/
def unsignedNumber? (negative : Bool) (cs : List Char) : Option Value :=
  let whole := cs.takeWhile Char.isDigit
  let rest := cs.drop whole.length
  let (fraction, tail) : List Char × List Char :=
    match rest with
    | '.' :: more => (more.takeWhile Char.isDigit, more.dropWhile Char.isDigit)
    | _ => ([], rest)
  if whole.isEmpty && fraction.isEmpty then none
  else if rest.isEmpty then some (ofWhole negative whole)
  else
    let value (e : Int) : Value := real (realOf negative whole fraction e)
    match tail with
    | [] => some (value 0)
    | c :: e => if c = 'e' || c = 'E' then (exponentOf? e).map value else none

/-- How many characters of a number `cs` starts with, if runs of digits may hold what `inRun`
says. -/
def numberSizeWith (inRun : Char → Bool) (cs : List Char) : Nat :=
  let run (cs : List Char) : Nat := (cs.takeWhile inRun).length
  let whole := run cs
  let fraction :=
    match cs.drop whole with
    | '.' :: more => 1 + run more
    | _ => 0
  let exponent :=
    match cs.drop (whole + fraction) with
    | e :: more =>
      let sign := ((more.take 1).filter fun c => c == '+' || c == '-').length
      let digits := more.drop sign
      if (e == 'e' || e == 'E') && digits.head?.any Char.isDigit then 1 + sign + run digits else 0
    | [] => 0
  whole + fraction + exponent

/-- How many characters of a number `cs` starts with. -/
def numberSize (cs : List Char) : Nat := numberSizeWith Char.isDigit cs

/-- The integer of 64 bits that hexadecimal digits say, unless they are too many. -/
def ofHex? (negative : Bool) (digits : List Char) : Option Value :=
  let n : Nat := digits.foldl (fun n c => n * 16 + Digits.hexValue c) 0
  let signed : Int := if n < 0x8000000000000000 then n else n - 0x10000000000000000
  if 0x10000000000000000 ≤ n ∨ negative ∧ n = 0x8000000000000000 then none
  else some (int (if negative then -signed else signed))

/-- A sign, if there is one, and what is behind it; `true` is told for a minus. -/
def splitSign : List Char → Bool × List Char
  | '-' :: cs => (true, cs)
  | '+' :: cs => (false, cs)
  | cs => (false, cs)

/-- Whether a character may stand around a number. -/
def isPadding (c : Char) : Bool := c == ' ' || ('\t' ≤ c && c ≤ '\r')

/-- The number that a whole text says, blanks around it or not. -/
def number? (s : String) : Option Value :=
  let trimmed := ((s.toList.dropWhile isPadding).reverse.dropWhile isPadding).reverse
  let (negative, cs) := splitSign trimmed
  unsignedNumber? negative cs

/-- The number that a text starts with; zero if it starts with none. -/
def leadingNumber (s : String) : Value :=
  let (negative, cs) := splitSign (s.toList.dropWhile isPadding)
  (unsignedNumber? negative (cs.take (numberSize cs))).getD (int 0)

/-- The integer that a text starts with, within 64 bits; zero if it starts with none. -/
def leadingInteger (s : String) : Int :=
  let (negative, cs) := splitSign (s.toList.dropWhile isPadding)
  let n : Nat := Digits.value (cs.takeWhile Char.isDigit)
  if negative then max (-0x8000000000000000) (-n) else min 0x7fffffffffffffff n

/-! ## 3. Order -/

/-- A number as a ratio; what is infinite is larger than every finite number. -/
def ratio : Value → Int × Nat
  | int n => (n, 1)
  | real x =>
    match x.read with
    | .nan => (0, 1)
    | .infinite negative =>
      let larger : Int := Nat.pow 2 1100
      (if negative then -larger else larger, 1)
    | .finite negative m e =>
      let (num, den) := Binary64.ratio m e
      (if negative then -num else num, den)
  | _ => (0, 1)

/-- The place of a storage class in the order. -/
def classRank : Value → Nat
  | null => 0
  | int _ => 1
  | real _ => 1
  | text _ => 2
  | blob _ => 3

/-- The order of bytes. -/
def compareBytes : List UInt8 → List UInt8 → Ordering
  | [], [] => .eq
  | [], _ :: _ => .lt
  | _ :: _, [] => .gt
  | a :: as, b :: bs => if a < b then .lt else if b < a then .gt else compareBytes as bs

/-- The order of values. -/
def order (a b : Value) : Ordering :=
  if a.classRank < b.classRank then .lt
  else if b.classRank < a.classRank then .gt
  else
    match a, b with
    | null, _ => .eq
    | text s, text t => compareBytes (Text.Utf8.encode s) (Text.Utf8.encode t)
    | blob s, blob t => compareBytes s t
    | a, b =>
      let (n, d) := a.ratio
      let (n', d') := b.ratio
      compare (n * d') (n' * d)

/-- Whether a value counts as true; null is neither. -/
def truth? : Value → Option Bool
  | null => none
  | text s => some ((leadingNumber s).ratio.1 != 0)
  | blob bs => some ((leadingNumber (Text.Utf8.decodeLossy bs)).ratio.1 != 0)
  | v => some (v.ratio.1 != 0)

/-- A truth value that may be unknown. -/
def ofTruth? : Option Bool → Value
  | none => null
  | some b => int (if b then 1 else 0)

end Value

end SqlGateway.Sqlite
