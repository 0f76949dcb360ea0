/-
# Affinities

The declared type of a column does not say of which storage class its values are.  It gives an
affinity: a class that values are turned into when nothing is lost by it.
-/
import SqlGateway.Sqlite.Value

namespace SqlGateway.Sqlite

/-- What values of a column are turned into. -/
inductive Affinity where
  | text
  | numeric
  | integer
  | real
  | blob
deriving DecidableEq, Repr

namespace Affinity

/-- Whether one text occurs in another. -/
def occursIn (pattern : List Char) : List Char → Bool
  | [] => pattern.isEmpty
  | c :: cs => pattern.isPrefixOf (c :: cs) || occursIn pattern cs

/-- The affinity of a declared type. -/
def ofType (typeName : String) : Affinity :=
  let name := typeName.toList.map Char.toUpper
  let has (pattern : String) : Bool := occursIn pattern.toList name
  if has "INT" then integer
  else if has "CHAR" || has "CLOB" || has "TEXT" then text
  else if has "BLOB" || name.isEmpty then blob
  else if has "REAL" || has "FLOA" || has "DOUB" then real
  else numeric

/-- Whether the affinity is for numbers. -/
def isNumeric : Affinity → Bool
  | numeric => true
  | integer => true
  | real => true
  | _ => false

/-- A real that is an integer, as that integer. -/
def wholeReal (v : Value) : Value :=
  match v with
  | .real _ =>
    let (n, d) := v.ratio
    if n % d = 0 ∧ -0x8000000000000000 < n / d ∧ n / d < 0x8000000000000000 - 1 then .int (n / d) else v
  | v => v

/-- The value under an affinity. -/
def apply (a : Affinity) (v : Value) : Value :=
  match a with
  | blob => v
  | text =>
    match v with
    | .int n => .text (toString n)
    | .real x => .text (realText x)
    | v => v
  | _ =>
    let n :=
      match v with
      | .text s => (Value.number? s).getD v
      | v => v
    match a, wholeReal n with
    | real, .int k => .real (.ofInt k)
    | _, n => n

/-- The integers below this one are told from reals without doubt. -/
def safeWhole : Int := 2251799813685248

/-- A real that is an integer which is safe, as that integer. -/
def safeWholeReal (v : Value) : Value :=
  match wholeReal v with
  | .int n => if -safeWhole ≤ n ∧ n < safeWhole then .int n else v
  | v => v

/-- The integer part of a number, within 64 bits. -/
def wholePart (v : Value) : Int :=
  let (n, d) := v.ratio
  max (-0x8000000000000000) (min 0x7fffffffffffffff (n.tdiv d))

/-- The value turned into the class of the affinity on demand; of a text that says no number, what
it starts with counts. -/
def cast (a : Affinity) (v : Value) : Value :=
  let number (s : String) : Value :=
    match a with
    | integer => .int (Value.leadingInteger s)
    | numeric => safeWholeReal (Value.leadingNumber s)
    | a => a.apply (Value.leadingNumber s)
  match a, v with
  | _, .null => .null
  | blob, v => .blob v.bytes
  | text, v => .text (Text.Utf8.decodeLossy v.bytes)
  | _, .text s => number s
  | _, .blob bs => number (Text.Utf8.decodeLossy bs)
  | integer, v => .int (wholePart v)
  | real, v => real.apply v
  | numeric, v => v

end Affinity

end SqlGateway.Sqlite
