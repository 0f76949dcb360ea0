/-
# Base64

Bytes as text, six bits a character: capital letters, small letters, digits, `+` and `/`.  Three
bytes make four characters; a rest of one or two bytes is filled up with `=`.

Reading takes written forms only: the filling must be there, and the bits that it leaves over must
be zero.  So no two texts stand for the same bytes.
-/
namespace SqlGateway.Text.Base64

/-- The character of a number below 64. -/
def digit (n : Nat) : Char :=
  if n < 26 then Char.ofNat (65 + n)
  else if n < 52 then Char.ofNat (97 + (n - 26))
  else if n < 62 then Char.ofNat (48 + (n - 52))
  else if n = 62 then '+'
  else '/'

/-- The number of a character. -/
def value? (c : Char) : Option Nat :=
  if c.isUpper then some (c.toNat - 65)
  else if c.isLower then some (c.toNat - 97 + 26)
  else if c.isDigit then some (c.toNat - 48 + 52)
  else if c = '+' then some 62
  else if c = '/' then some 63
  else none

theorem value?_digit : ∀ n, n < 64 → value? (digit n) = some n := by decide

/-- Bytes as text. -/
def encode : List UInt8 → List Char
  | [] => []
  | [a] => [digit (a.toNat / 4), digit (a.toNat % 4 * 16), '=', '=']
  | [a, b] =>
    [digit (a.toNat / 4), digit (a.toNat % 4 * 16 + b.toNat / 16), digit (b.toNat % 16 * 4), '=']
  | a :: b :: c :: rest =>
    digit (a.toNat / 4) :: digit (a.toNat % 4 * 16 + b.toNat / 16) ::
      digit (b.toNat % 16 * 4 + c.toNat / 64) :: digit (c.toNat % 64) :: encode rest

/-- The bytes that a text stands for. -/
def decode? : List Char → Option (List UInt8)
  | [] => some []
  | [a, b, '=', '='] => do
    let (a, b) := (← value? a, ← value? b)
    guard (b % 16 = 0)
    return [UInt8.ofNat (a * 4 + b / 16)]
  | [a, b, c, '='] => do
    let (a, b, c) := (← value? a, ← value? b, ← value? c)
    guard (c % 4 = 0)
    return [UInt8.ofNat (a * 4 + b / 16), UInt8.ofNat (b % 16 * 16 + c / 4)]
  | a :: b :: c :: d :: rest => do
    let (a, b, c, d) := (← value? a, ← value? b, ← value? c, ← value? d)
    let bytes ← decode? rest
    return UInt8.ofNat (a * 4 + b / 16) :: UInt8.ofNat (b % 16 * 16 + c / 4) ::
      UInt8.ofNat (c % 4 * 64 + d) :: bytes
  | _ => none

end SqlGateway.Text.Base64
