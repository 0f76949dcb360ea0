/-
# Internet addresses

An address is written as four decimal numbers with points between them, or as eight hexadecimal
groups with colons between them, of which a run of zero groups may be left out (`::`).  The last two
groups may be written as four decimal numbers.

A host name whose last part is a number is an address too, in a looser notation: up to four numbers,
each decimal, octal (`017`) or hexadecimal (`0x1f`), of which the last fills all bytes that are left.
-/
import SqlGateway.Number.Digits

namespace SqlGateway.Dsn.Address

/-! ## 1. Decimal addresses -/

/-- Whether a text is a number of one byte, without needless zeros. -/
def isByte (cs : List Char) : Bool :=
  !cs.isEmpty && cs.length ≤ 3 && cs.all Char.isDigit && Digits.value cs < 256 &&
    (cs.length == 1 || cs.head? != some '0')

/-- Whether a text is four bytes with points between them. -/
def isDecimal (cs : List Char) : Bool :=
  let parts := cs.splitOn '.'
  parts.length == 4 && parts.all isByte

/-! ## 2. Grouped addresses -/

/-- Whether a text is a group. -/
def isGroup (g : List Char) : Bool := !g.isEmpty && g.length ≤ 4 && g.all Digits.isHex

/-- How many groups a text between double colons has; at its end (`final`) a decimal address counts
for two. -/
def groupCount? (final : Bool) (cs : List Char) : Option Nat :=
  let groups := if cs.isEmpty then [] else cs.splitOn ':'
  let last := groups.getLast?.getD []
  if final && isDecimal last then
    if groups.dropLast.all isGroup then some (groups.length + 1) else none
  else if groups.all isGroup then some groups.length
  else none

/-- Whether a text is eight groups, or fewer with a `::`. -/
def isGrouped (cs : List Char) : Bool :=
  match (String.ofList cs).splitOn "::" with
  | [all] => groupCount? true all.toList == some 8
  | [front, back] =>
    match groupCount? false front.toList, groupCount? true back.toList with
    | some m, some n => m + n ≤ 7
    | _, _ => false
  | _ => false

/-- Whether a text is an address. -/
def isAddress (cs : List Char) : Bool := isDecimal cs || isGrouped cs

/-! ## 3. Numbers as hosts -/

/-- The number that a part of a host name says, if it is one. -/
def number? (cs : List Char) : Option Nat :=
  let inBase (base : Nat) (ok : Char → Bool) (digits : List Char) : Option Nat :=
    if digits.all ok then some (digits.foldl (fun n c => n * base + Digits.hexValue c) 0) else none
  match cs with
  | [] => none
  | ['0'] => some 0
  | '0' :: 'x' :: digits => inBase 16 Digits.isHex digits
  | '0' :: 'X' :: digits => inBase 16 Digits.isHex digits
  | '0' :: digits => inBase 8 (fun c => '0' ≤ c && c ≤ '7') digits
  | digits => inBase 10 Char.isDigit digits

/-- The parts of a host name; an empty one at the end does not count. -/
def partsOf (name : List Char) : List (List Char) :=
  let parts := name.splitOn '.'
  if parts.getLast? == some [] && 1 < parts.length then parts.dropLast else parts

/-- Whether the last part of a host name is a number, or looks like a decimal one. -/
def endsInNumber (name : List Char) : Bool :=
  (partsOf name).getLast?.any fun last =>
    (!last.isEmpty && last.all Char.isDigit) || (number? last).isSome

/-- Whether a host name is an address of up to four numbers. -/
def isNumeric (name : List Char) : Bool :=
  let numbers := (partsOf name).mapM number?
  numbers.any fun numbers =>
    match numbers.reverse with
    | [] => false
    | last :: front =>
      front.length ≤ 3 && front.all (· < 256) && last < Nat.pow 256 (4 - front.length)

end SqlGateway.Dsn.Address
