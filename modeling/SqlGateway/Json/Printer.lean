/-
# The text of a JSON value

Compact JSON: no blanks, members in their order, only the characters that must be escaped are.
A float is written with the fewest digits that read back; positional from `0.00001` up to sixteen
integer digits, with `.0` where it is integral, and in scientific form (`1e+16`, `1.5e-7`)
otherwise.
-/
import SqlGateway.Json.Basic
import SqlGateway.Number.Shortest

namespace SqlGateway

/-! ## 1. Numbers -/

/-- Where positional notation ends, by the exponent of the leading digit. -/
structure FloatNotation where
  lowest : Int
  highest : Int

/-- Floats in JSON stand in positional notation from `1e-5` to below `1e16`. -/
def jsonFloats : FloatNotation := ⟨-5, 15⟩

/-- The decimal digits of `n`. -/
def decimalDigits (n : Nat) : List Char := Nat.toDigits 10 n

/-- `ds * 10 ^ p` in positional notation, with at least one digit on either side of the point. -/
def positional (ds : List Char) (p : Int) : List Char :=
  if 0 ≤ p then ds ++ List.replicate p.toNat '0' ++ ['.', '0']
  else
    let places := (-p).toNat
    if places < ds.length then
      ds.take (ds.length - places) ++ '.' :: ds.drop (ds.length - places)
    else '0' :: '.' :: List.replicate (places - ds.length) '0' ++ ds

/-- Digits with the point behind the first, and the exponent `e` with its sign. -/
def scientific (ds : List Char) (e : Int) : List Char :=
  let mantissa :=
    match ds with
    | d :: d' :: rest => d :: '.' :: d' :: rest
    | short => short
  mantissa ++ 'e' :: (if e < 0 then '-' else '+') :: decimalDigits e.natAbs

/-- A decimal in the notation that its size asks for. -/
def FloatNotation.render (f : FloatNotation) (d : ShortDecimal) : List Char :=
  let ds := decimalDigits d.digits
  let leading := d.exponent + ds.length - 1
  if f.lowest ≤ leading && leading ≤ f.highest then positional ds d.exponent
  else scientific ds leading

/-- The text of a float; the empty text for what is not finite. -/
def FloatNotation.renderFloat (f : FloatNotation) (x : Binary64) : List Char :=
  match x.read with
  | .finite negative m e =>
    let magnitude := if m = 0 then ['0', '.', '0'] else f.render (Binary64.shortest m e)
    if negative then '-' :: magnitude else magnitude
  | _ => []

/-- The text of an integer. -/
def renderInt (n : Int) : List Char :=
  if n < 0 then '-' :: decimalDigits n.natAbs else decimalDigits n.natAbs

/-- The text of a number. -/
def JsonNumber.render : JsonNumber → List Char
  | .integer n _ => renderInt n
  | .float x _ => jsonFloats.renderFloat x

/-! ## 2. Strings -/

namespace Json

/-- A character as it stands between the quotes. -/
def escapeChar (c : Char) : List Char :=
  if c = '"' then ['\\', '"']
  else if c = '\\' then ['\\', '\\']
  else if c = '\x08' then ['\\', 'b']
  else if c = '\x0c' then ['\\', 'f']
  else if c = '\n' then ['\\', 'n']
  else if c = '\r' then ['\\', 'r']
  else if c = '\t' then ['\\', 't']
  else if c.toNat < 0x20 then
    ['\\', 'u', '0', '0', Nat.digitChar (c.toNat / 16), Nat.digitChar (c.toNat % 16)]
  else [c]

/-- A string with its quotes. -/
def renderString (s : String) : List Char := '"' :: s.toList.flatMap escapeChar ++ ['"']

/-! ## 3. Values -/

mutual

/-- The text of a value. -/
def render : Json → List Char
  | null => "null".toList
  | bool true => "true".toList
  | bool false => "false".toList
  | number n => n.render
  | string s => renderString s
  | array items => '[' :: renderItems items ++ [']']
  | object members => '\x7b' :: renderMembers members ++ ['\x7d']

/-- The items of an array, separated by commas. -/
def renderItems : List Json → List Char
  | [] => []
  | [v] => render v
  | v :: w :: rest => render v ++ ',' :: renderItems (w :: rest)

/-- The members of an object, separated by commas. -/
def renderMembers : List (String × Json) → List Char
  | [] => []
  | [(k, v)] => renderString k ++ ':' :: render v
  | (k, v) :: m :: rest => renderString k ++ ':' :: render v ++ ',' :: renderMembers (m :: rest)

end

/-- The compact text of a value. -/
def text (v : Json) : String := String.ofList (render v)

end Json

end SqlGateway
