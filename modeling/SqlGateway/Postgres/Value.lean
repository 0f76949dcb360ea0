/-
# Values on the wire of PostgreSQL

The bytes of a column's value, the most significant first, and the cell that they say.  Numbers and
truth values stay what they are; moments, decimals, UUIDs and JSON become text, and an array the
text of a JSON array.  A null is a null whatever the type, even one that cannot be read.
-/
import SqlGateway.Json.Printer
import SqlGateway.Postgres.ColumnType
import SqlGateway.Postgres.Interval
import SqlGateway.Postgres.Numeric
import SqlGateway.Row.Cell
import SqlGateway.Time.Moment

namespace SqlGateway.Postgres

open Store

/-! ## 1. Numbers -/

/-- An integer of up to eight bytes. -/
def integer (bytes : List UInt8) : Reading Int :=
  if bytes.isEmpty then refuse .emptyInteger
  else if 8 < bytes.length then refuse (.integerLength bytes.length)
  else .ok (ByteOrder.signed bytes.length (ByteOrder.ofBigEndian bytes))

/-- An integer that fits `k` bytes. -/
def integerIn (k : Nat) (bytes : List UInt8) : Reading Int := do
  let n ← integer bytes
  let half : Int := (ByteOrder.span k / 2 : Nat)
  if n < -half then refuse (.integerOutOfRange .small)
  if half ≤ n then refuse (.integerOutOfRange .large)
  return n

/-- A truth value. -/
def truth (bytes : List UInt8) : Reading Bool :=
  match bytes with
  | [] => abandon
  | b :: _ => .ok (b != 0)

/-- A float of four bytes. -/
def float4 (bytes : List UInt8) : Reading Binary64 := do
  return .ofBinary32 (UInt32.ofNat (ByteOrder.ofBigEndian (← leading 4 bytes)))

/-- A float of eight bytes. -/
def float8 (bytes : List UInt8) : Reading Binary64 := do
  return ⟨UInt64.ofNat (ByteOrder.ofBigEndian (← leading 8 bytes))⟩

/-- The text of an amount of money, which is sent in hundredths. -/
def moneyText (bytes : List UInt8) : Reading String := do
  let n := ByteOrder.signed 8 (ByteOrder.ofBigEndian (← leading 8 bytes))
  return Decimal.text ⟨n < 0, n.natAbs, 2⟩

/-! ## 2. Text -/

/-- The two hexadecimal digits of a byte. -/
def hexText (b : UInt8) : List Char :=
  [Nat.digitChar (b.toNat / 16), Nat.digitChar (b.toNat % 16)]

/-- The text of a UUID: its digits in groups of eight, four, four, four and twelve. -/
def uuidText (bytes : List UInt8) : Reading String :=
  if bytes.length ≠ 16 then refuse (.uuidLength bytes.length)
  else
    let group (start size : Nat) : String :=
      String.ofList (((bytes.drop start).take size).flatMap hexText)
    .ok (String.intercalate "-" [group 0 4, group 4 2, group 6 2, group 8 2, group 10 6])

/-- The text of a JSON value, written anew. -/
def jsonText (bytes : List UInt8) : Reading String :=
  match Json.ofBytes bytes with
  | .ok v => .ok v.text
  | .error e => refuse (.json e)

/-- The text of a JSON value in the binary format, which starts with its version. -/
def jsonbText : List UInt8 → Reading String
  | 1 :: bytes => jsonText bytes
  | _ => abandon

/-! ## 3. Time -/

/-- The number of the day from which days and moments are counted, 2000-01-01. -/
def epoch : Int := Date.toNumber ⟨2000, 1, 1⟩

/-- A moment, which is sent in microseconds. -/
def moment (bytes : List UInt8) : Reading Moment := do
  match Moment.ofMicros? epoch (← integer bytes) with
  | some m => return m
  | none => abandon

/-- The text of a date. -/
def dateText (bytes : List UInt8) : Reading String := do
  let day := epoch + (← integerIn 4 bytes)
  if Date.isNumber day then return (Date.ofNumber day).text else abandon

/-- The text of a time of day. -/
def timeText (bytes : List UInt8) : Reading String := do
  return (TimeOfDay.ofMicros (← integer bytes)).text

/-- The text of an offset from universal time, which is sent in seconds to the west. -/
def offsetText (west : Int) : String :=
  let n := west.natAbs
  (if 0 < west then "-" else "+") ++ Digits.padded 2 (n / 3600) ++ ":" ++
    Digits.padded 2 (n / 60 % 60) ++ (if n % 60 = 0 then "" else ":" ++ Digits.padded 2 (n % 60))

/-- What a lack of bytes comes to in a value of time. -/
def truncated : Error := .unreadable .truncated

/-- The text of a time of day with an offset of less than a day. -/
def timetzText (bytes : List UInt8) : Reading String := do
  let (micros, rest) ← takeInteger truncated 8 bytes
  let (west, _) ← takeInteger truncated 4 rest
  if secondsPerDay ≤ west.natAbs then refuse (.offsetOutOfRange west)
  return (TimeOfDay.ofMicros micros).text ++ offsetText west

/-- An interval. -/
def interval (bytes : List UInt8) : Reading Interval := do
  let (micros, rest) ← takeInteger truncated 8 bytes
  let (days, rest) ← takeInteger truncated 4 rest
  let (months, _) ← takeInteger truncated 4 rest
  return ⟨months, days, micros⟩

/-! ## 4. Arrays -/

/-- An element as a JSON value. -/
def elementJson (t : ElementType) (bytes : List UInt8) : Reading Json :=
  match t with
  | .bool => (truth bytes).map .bool
  | .int k => (integerIn k bytes).map fun n => (Cell.int n).toJson
  | .float4 => (float4 bytes).map fun x => (Cell.float x).toJson
  | .float8 => (float8 bytes).map fun x => (Cell.float x).toJson
  | .text => (readText bytes).map .string
  | .numeric => (numericText bytes).map .string
  | .uuid => (uuidText bytes).map .string

/-- An integer of four bytes, which have to be there, and what is behind it. -/
def headerPart (bytes : List UInt8) : Reading (Int × List UInt8) := takeInteger .abandoned 4 bytes

/-- Some elements, each behind its length; a length of -1 is a null. -/
def elements (t : ElementType) : Nat → List UInt8 → Reading (List Json)
  | 0, _ => .ok []
  | n + 1, bytes => do
    let (length, rest) ← headerPart bytes
    if length = -1 then return .null :: (← elements t n rest)
    if length < 0 then refuse (.elementLength length)
    let v ← elementJson t (← leading length.toNat rest)
    return v :: (← elements t n (rest.drop length.toNat))

/-- The elements of an array, which has one dimension that is counted from one. -/
def arrayItems (t : ElementType) (bytes : List UInt8) : Reading (List Json) := do
  let (dimensions, rest) ← headerPart bytes
  if dimensions = 0 then return []
  if dimensions ≠ 1 then refuse (.arrayDimensions dimensions)
  let (_, rest) ← headerPart rest
  let (_, rest) ← headerPart rest
  let (length, rest) ← headerPart rest
  if length < 0 then refuse (.arrayLength length)
  let (lower, rest) ← headerPart rest
  if lower ≠ 1 then refuse (.arrayLowerBound lower)
  elements t length.toNat rest

/-! ## 5. Cells -/

/-- The cell of a value that is not null. -/
def cellOfBytes (t : ColumnType) (bytes : List UInt8) : Reading Cell :=
  match t with
  | .bool => (truth bytes).map .bool
  | .int k => (integerIn k bytes).map .int
  | .float4 => (float4 bytes).map .float
  | .float8 => (float8 bytes).map .float
  | .numeric => (numericText bytes).map .text
  | .uuid => (uuidText bytes).map .text
  | .json => (jsonText bytes).map .text
  | .jsonb => (jsonbText bytes).map .text
  | .timestamptz => (moment bytes).map fun m => .text m.universalText
  | .timestamp => (moment bytes).map fun m => .text (m.text " ")
  | .date => (dateText bytes).map .text
  | .time => (timeText bytes).map .text
  | .timetz => (timetzText bytes).map .text
  | .interval => (interval bytes).map fun v => .text v.text
  | .oid => (leading 4 bytes).map fun b => .int (ByteOrder.ofBigEndian b)
  | .money => (moneyText bytes).map .text
  | .text => (readText bytes).map .text
  | .bytea => .ok (.bytes bytes)
  | .void => .ok .null
  | .array t => (arrayItems t bytes).map fun items => .text (Json.array items).text
  | .other name => refuse (.unsupportedType name)

/-- The cell of a value. -/
def cell (t : ColumnType) : Option (List UInt8) → Reading Cell
  | none => .ok .null
  | some bytes => cellOfBytes t bytes

end SqlGateway.Postgres
