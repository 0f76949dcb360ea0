/-
# Values on the wire of MySQL

The bytes of a column's value, the least significant first, and the cell that they say.  Numbers
and truth values stay what they are; moments, decimals and JSON become text.

Parts of a moment that are zero may be left off at the end, first the microseconds, then the time,
and of a zero date everything; so the length says what is there.
-/
import SqlGateway.Json.Printer
import SqlGateway.Mysql.ColumnType
import SqlGateway.Number.ByteOrder
import SqlGateway.Row.Cell
import SqlGateway.Store.Error
import SqlGateway.Time.Moment

namespace SqlGateway.Mysql

open Store

/-! ## 1. Numbers and text -/

/-- The number without a sign that up to eight bytes say. -/
def natural (bytes : List UInt8) : Reading Nat :=
  if bytes.isEmpty || 8 < bytes.length then abandon else .ok (ByteOrder.ofLittleEndian bytes)

/-- The number with a sign that up to eight bytes say. -/
def integer (bytes : List UInt8) : Reading Int := do
  return ByteOrder.signed bytes.length (← natural bytes)

/-- A float of four or eight bytes. -/
def float (bytes : List UInt8) : Reading Binary64 :=
  match bytes.length with
  | 4 => .ok (.ofBinary32 (UInt32.ofNat (ByteOrder.ofLittleEndian bytes)))
  | 8 => .ok ⟨UInt64.ofNat (ByteOrder.ofLittleEndian bytes)⟩
  | _ => abandon

/-- The text of a decimal number, which is sent as text. -/
def decimalText (bytes : List UInt8) : Reading String := do
  match Decimal.ofText (← readText bytes).toList with
  | .ok d => return d.text
  | .error f => refuse (.decimalText f)

/-- The text of a JSON value, written anew. -/
def jsonText (bytes : List UInt8) : Reading String := do
  match Json.ofText (← readText bytes) with
  | .ok v => return v.text
  | .error e => refuse (.json e)

/-! ## 2. Time -/

/-- The date that the first four bytes say: the year in two of them, month and day. -/
def date : List UInt8 → Reading Date
  | a :: b :: month :: day :: _ =>
    let year := ByteOrder.ofLittleEndian [a, b]
    match Date.ofParts? year month.toNat day.toNat with
    | some d => .ok d
    | none => refuse (.date year month.toNat day.toNat)
  | bytes => refuse (.dateLength bytes.length)

/-- How many microseconds there are numbers for; those of a larger number count anew. -/
def microSpan : Nat := 0x100000000

/-- The time of day that bytes say: hour, minute, second, and microseconds if there are any. -/
def clockTime : List UInt8 → Reading TimeOfDay
  | hour :: minute :: second :: rest => do
    let (hour, minute, second) := (hour.toNat, minute.toNat, second.toNat)
    let micros ← if rest.isEmpty then pure 0 else natural rest
    match TimeOfDay.ofParts? hour minute second (micros % microSpan * 1000) with
    | some t => return t
    | none => refuse (.time hour minute second micros)
  | _ => abandon

/-- The moment that bytes say: a date, and a time unless it is midnight. -/
def moment (bytes : List UInt8) : Reading Moment := do
  let d ← date bytes
  let rest := bytes.drop 4
  let t ← if rest.isEmpty then pure TimeOfDay.midnight else clockTime rest
  return ⟨d.toNumber, t⟩

/-- A duration. -/
structure Duration where
  negative : Bool
  hours : Nat
  minutes : Nat
  seconds : Nat
  micros : Nat
deriving DecidableEq, Repr

/-- The most hours that a duration has. -/
def maxHours : Nat := 838

/-- How many hours there are numbers for. -/
def hourSpan : Nat := 0x100000000

/-- Refuses a part that is too large. -/
def limitPart (name : String) (most value : Nat) : Reading Unit :=
  if most < value then refuse (.timePart name most value) else .ok ()

/-- The duration, if its parts are not too large and it is not too long. -/
def Duration.checked (d : Duration) : Reading Duration := do
  limitPart "hours" maxHours d.hours
  limitPart "minutes" 59 d.minutes
  limitPart "seconds" 59 d.seconds
  limitPart "microseconds" 999999 d.micros
  if d.hours = maxHours ∧ d.minutes = 59 ∧ d.seconds = 59 ∧ d.micros ≠ 0 then
    refuse (.timeTooLong d.negative d.micros)
  return d

/-- The sign that a byte says. -/
def durationIsNegative (sign : UInt8) : Reading Bool :=
  if sign = 0 then .ok false
  else if sign = 1 then .ok true
  else refuse (.timeSign sign.toNat)

/-- The duration that bytes say: sign, days, hours, minutes, seconds, and microseconds if there are
any. -/
def duration : List UInt8 → Reading Duration
  | [] => .ok ⟨false, 0, 0, 0, 0⟩
  | sign :: a :: b :: c :: d :: hour :: minute :: second :: rest => do
    if rest.length ≠ 0 ∧ rest.length ≠ 4 then refuse (.timeLength (8 + rest.length))
    let negative ← durationIsNegative sign
    let hours := ByteOrder.ofLittleEndian [a, b, c, d] * 24 + hour.toNat
    if hourSpan ≤ hours then refuse .timeHours
    Duration.checked ⟨negative, hours, minute.toNat, second.toNat, ByteOrder.ofLittleEndian rest⟩
  | bytes => refuse (.timeLength bytes.length)

/-- The time of day that a duration of less than a day says; its sign does not count. -/
def durationTime (bytes : List UInt8) : Reading TimeOfDay := do
  let d ← duration bytes
  match TimeOfDay.ofParts? d.hours d.minutes d.seconds (d.micros * 1000) with
  | some t => return t
  | none => refuse (.timeOfDay d.negative d.hours d.minutes d.seconds d.micros)

/-! ## 3. Cells -/

/-- The cell of a value that is not null. -/
def cellOfBytes (t : ColumnType) (bytes : List UInt8) : Reading Cell :=
  match t with
  | .bool => (natural bytes).map fun n => .bool (n != 0)
  | .signed => (integer bytes).map .int
  | .unsigned => (natural bytes).map fun n => .int n
  | .float => (float bytes).map .float
  | .double => (float bytes).map .float
  | .decimal => (decimalText bytes).map .text
  | .datetime => (moment bytes).map fun m => .text (m.text " ")
  | .timestamp => (moment bytes).map fun m => .text m.universalText
  | .date => (date bytes).map fun d => .text d.text
  | .time => (durationTime bytes).map fun t => .text t.text
  | .json => (jsonText bytes).map .text
  | .null => .ok .null
  | .bytes => .ok (.bytes bytes)

/-- The cell of a value. -/
def cell (t : ColumnType) : Option (List UInt8) → Reading Cell
  | none => .ok .null
  | some bytes => if t.isNullIfEmpty && bytes.isEmpty then .ok .null else cellOfBytes t bytes

end SqlGateway.Mysql
