/-
# Cells of a result row

What a store hands over for one column of one row, and the JSON value that the client sees for it.
Bytes become text, with U+FFFD where they are none; a float that is not finite is null.
-/
import SqlGateway.Json.Basic
import SqlGateway.Text.Utf8

namespace SqlGateway

/-- A value of a result row. -/
inductive Cell where
  | null
  | bool (b : Bool)
  | number (n : JsonNumber)
  | text (s : String)
  | bytes (bs : List UInt8)
deriving DecidableEq

namespace Cell

/-- The cell of a float: null unless the float is finite. -/
def float (x : Binary64) : Cell := (JsonNumber.ofFloat? x).elim null number

/-- The cell of an integer that fits 64 bits. -/
def int (n : Int) : Cell := (JsonNumber.ofInt? n).elim null number

/-- The cell as the client sees it. -/
def toJson : Cell → Json
  | null => .null
  | bool b => .bool b
  | number n => .number n
  | text s => .string s
  | bytes bs => .string (Text.Utf8.decodeLossy bs)

end Cell

end SqlGateway
