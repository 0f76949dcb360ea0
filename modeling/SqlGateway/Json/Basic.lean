/-
# JSON values

Objects keep their members in the order in which keys first appeared; a key that comes again
replaces the value and stays where it is.  A number is an integer of 64 bits, signed or unsigned,
or a finite binary64 number, and it remembers which: `1` and `1.0` are two values.
-/
import SqlGateway.Number.Binary64

namespace SqlGateway

/-- A JSON number. -/
inductive JsonNumber where
  /-- An integer that fits 64 bits, with or without a sign. -/
  | integer (n : Int) (fits : -0x8000000000000000 ≤ n ∧ n < 0x10000000000000000)
  /-- Any other number. -/
  | float (x : Binary64) (finite : x.isFinite = true)
deriving DecidableEq

namespace JsonNumber

/-- The integer as a number, if it fits. -/
def ofInt? (n : Int) : Option JsonNumber :=
  if h : -0x8000000000000000 ≤ n ∧ n < 0x10000000000000000 then some (.integer n h) else none

/-- The float as a number, if it is finite. -/
def ofFloat? (x : Binary64) : Option JsonNumber :=
  if h : x.isFinite = true then some (.float x h) else none

/-- The number as an integer of 64 bits with a sign, if it is one. -/
def asInt64? : JsonNumber → Option { n : Int // -0x8000000000000000 ≤ n ∧ n < 0x8000000000000000 }
  | .integer n fits => if h : n < 0x8000000000000000 then some ⟨n, fits.1, h⟩ else none
  | .float _ _ => none

/-- The number as an integer of 64 bits without a sign, if it is one. -/
def asUInt64? : JsonNumber → Option { n : Nat // n < 0x10000000000000000 }
  | .integer n fits => if h : 0 ≤ n then some ⟨n.toNat, by omega⟩ else none
  | .float _ _ => none

/-- The number as a float; an integer is rounded.  There is always one. -/
def asBinary64? : JsonNumber → Option Binary64
  | .integer n _ => some (.ofInt n)
  | .float x _ => some x

end JsonNumber

/-- A JSON value. -/
inductive Json where
  | null
  | bool (b : Bool)
  | number (n : JsonNumber)
  | string (s : String)
  | array (items : List Json)
  | object (members : List (String × Json))

namespace Json

/-- `members` with the value of `key` replaced, or the member added at the end. -/
def setMember {α : Type} (members : List (String × α)) (key : String) (value : α) :
    List (String × α) :=
  match members with
  | [] => [(key, value)]
  | (k, v) :: rest =>
    if k = key then (k, value) :: rest else (k, v) :: setMember rest key value

/-- The members of an object, given in order and with keys that may repeat. -/
def membersOf {α : Type} (entries : List (String × α)) : List (String × α) :=
  entries.foldl (fun ms (k, v) => setMember ms k v) []

/-- A JSON integer for a natural number that is a count. -/
def count (n : Nat) : Json := (JsonNumber.ofInt? n).elim .null .number

end Json

end SqlGateway
