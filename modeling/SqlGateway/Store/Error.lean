/-
# Errors of a store

What can go wrong between sending a statement and having the cells of its result: the store
refuses, a value is not what its type promises, or a value breaks the reading off altogether.  Only
the last of these has no wording.  It ends the request without a response.
-/
import SqlGateway.Json.Reader
import SqlGateway.Number.Decimal.Reader
import SqlGateway.Time.Date

namespace SqlGateway.Store

/-- Why a value cannot be read. -/
inductive ValueFault where
  | unsupportedType (name : String)
  | emptyInteger
  | integerOutOfRange (f : Whole.Fault)
  | integerLength (bytes : Nat)
  /-- The value has fewer bytes than its fields need. -/
  | truncated
  | notANumber
  /-- A decimal number that is too large, or has too many digits behind the point. -/
  | decimalOutOfRange
  | numericSign (code : Nat)
  | numericScale (n : Int)
  | decimalText (f : Decimal.TextFault)
  | uuidLength (bytes : Nat)
  | json (e : Json.ReadError)
  | notText (f : Text.Utf8.Fault)
  | offsetOutOfRange (seconds : Int)
  | arrayDimensions (n : Int)
  | arrayLowerBound (n : Int)
  | arrayLength (n : Int)
  | elementLength (n : Int)
  | dateLength (bytes : Nat)
  | date (year month day : Nat)
  | time (hour minute second micros : Nat)
  | timeLength (bytes : Nat)
  | timeSign (code : Nat)
  /-- More hours than there are numbers for. -/
  | timeHours
  /-- A part of a duration is too large. -/
  | timePart (name : String) (most value : Nat)
  /-- A duration is longer than the longest one by a part of a second. -/
  | timeTooLong (negative : Bool) (micros : Nat)
  /-- A duration that is no time of day. -/
  | timeOfDay (negative : Bool) (hours minute second micros : Nat)
deriving DecidableEq, Repr

/-- The sign of a duration. -/
def durationSign (negative : Bool) : String := if negative then "-" else ""

/-- The wording of a time with two digits for each part. -/
def clock (hour minute second : Nat) : String :=
  Digits.padded 2 hour ++ ":" ++ Digits.padded 2 minute ++ ":" ++ Digits.padded 2 second

/-- Two hexadecimal digits at least. -/
def hexDigits (n : Nat) : List Char := (if n < 16 then ['0'] else []) ++ Nat.toDigits 16 n

/-- The wording of a fault. -/
def ValueFault.message : ValueFault → String
  | unsupportedType name => "unsupported column type " ++ name
  | emptyInteger => "Value Buffer found empty while decoding to integer type"
  | integerOutOfRange f => f.message
  | integerLength bytes =>
    "Value Buffer exceeds 8 bytes while decoding to integer type. Buffer size = " ++
      toString bytes ++ " bytes "
  | truncated => "failed to fill whole buffer"
  | notANumber => "Decimal does not support NaN values"
  | decimalOutOfRange => "value not representable as rust_decimal::Decimal"
  | numericSign code =>
    "invalid value for PgNumericSign: 0x" ++ String.ofList ((hexDigits code).map Char.toUpper)
  | numericScale n => "invalid scale value for Pg NUMERIC: " ++ toString n
  | decimalText f => f.message
  | uuidLength bytes => "invalid length: expected 16 bytes, found " ++ toString bytes
  | json e => e.message
  | notText f => f.message
  | offsetOutOfRange seconds =>
    "server returned out-of-range offset for \x60TIMETZ\x60: " ++ toString seconds ++ " seconds"
  | arrayDimensions n =>
    "encountered an array of " ++ toString n ++
      " dimensions; only one-dimensional arrays are supported"
  | arrayLowerBound n =>
    "encountered an array with a lower bound of " ++ toString n ++
      " in the first dimension; only arrays starting at one are supported"
  | arrayLength n => "overflow converting array len (" ++ toString n ++ ") to usize"
  | elementLength n => "overflow converting element_len (" ++ toString n ++ ") to usize"
  | dateLength bytes => "expected at least 4 bytes for date, got " ++ toString bytes
  | date year month day =>
    "server returned invalid date: " ++ toString year ++ "/" ++ toString month ++ "/" ++
      toString day
  | time hour minute second micros =>
    "server returned invalid time: " ++ clock hour minute second ++ "; micros: " ++
      toString micros
  | timeLength bytes => "expected 8 or 12 bytes for TIME value, got " ++ toString bytes
  | timeSign code => "expected 0 or 1 for TIME sign byte, got " ++ toString code
  | timeHours => "overflow calculating whole hours from \x60days * 24 + hours\x60"
  | timePart name most value =>
    "\x60MySqlTime\x60 field \x60" ++ name ++ "\x60 cannot exceed " ++ toString most ++ ", got " ++
      toString value
  | timeTooLong negative micros =>
    "\x60MySqlTime\x60 cannot exceed +/-838:59:59.000000; got " ++ durationSign negative ++
      "838:59:59." ++ Digits.padded 6 micros
  | timeOfDay negative hours minute second micros =>
    "Cannot convert \x60MySqlTime\x60 value to \x60NaiveTime\x60: " ++
      durationSign negative ++ clock hours minute second ++
      (if micros = 0 then "" else "." ++ Digits.padded 6 micros)

/-- Why a statement has no result. -/
inductive Error where
  /-- The store says why. -/
  | refused (message : String)
  /-- The store asks for another number of values than there are. -/
  | valueCount (asked bound : Nat)
  /-- The store names a type that there is not. -/
  | unknownType (number : Nat)
  | unreadable (f : ValueFault)
  /-- Reading breaks off in the middle of a value. -/
  | abandoned
deriving DecidableEq, Repr

/-- The wording of what a store may not say. -/
def unexpectedText (text : String) : String :=
  "encountered unexpected or invalid data: " ++ text

/-- The wording of an error; there is none for what ends the request. -/
def Error.message : Error → String
  | refused message => "error returned from database: " ++ message
  | valueCount asked bound =>
    unexpectedText ("prepared statement expected " ++ toString asked ++ " parameters but " ++
      toString bound ++ " parameters were provided")
  | unknownType number =>
    unexpectedText ("unknown column type 0x" ++ String.ofList (hexDigits number))
  | unreadable f => "error occurred while decoding: " ++ f.message
  | abandoned => ""

/-- What reading a value comes to. -/
abbrev Reading := Except Error

/-- Refuses a value. -/
def refuse {α : Type} (f : ValueFault) : Reading α := .error (.unreadable f)

/-- Breaks off. -/
def abandon {α : Type} : Reading α := .error .abandoned

/-- Reads a text. -/
def readText (bytes : List UInt8) : Reading String :=
  match Text.Utf8.decode? bytes, Text.Utf8.firstFault bytes with
  | some s, _ => .ok s
  | none, some f => refuse (.notText f)
  | none, none => abandon

end SqlGateway.Store
