/-
# Times of day and moments

A time of day counts seconds from midnight, and nanoseconds within the second.  A leap second has
no number of its own: it is the second before it, with a thousand million nanoseconds more.  A
moment is a time of a day.

Moments are ordered by day, second and nanosecond; since there are fewer than two thousand million
nanoseconds, one integer, the rank, says the order.
-/
import SqlGateway.Time.Date

namespace SqlGateway

/-! ## 1. Times of day -/

/-- A time of day. -/
structure TimeOfDay where
  /-- Seconds since midnight. -/
  second : Nat
  nano : Nat
deriving DecidableEq, Repr

/-- How many nanoseconds a second has. -/
def nanosPerSecond : Nat := 1000000000

/-- How many seconds a day has. -/
def secondsPerDay : Nat := 86400

namespace TimeOfDay

/-- Midnight. -/
def midnight : TimeOfDay := ⟨0, 0⟩

/-- The time with the given parts, if there is one; a leap second follows a second 59. -/
def ofParts? (hour minute second nano : Nat) : Option TimeOfDay :=
  if hour < 24 ∧ minute < 60 ∧ second < 60 ∧ nano < 2 * nanosPerSecond ∧
      (nano < nanosPerSecond ∨ second = 59) then
    some ⟨hour * 3600 + minute * 60 + second, nano⟩
  else none

/-- The time so many microseconds after midnight, on whichever day. -/
def ofMicros (micros : Int) : TimeOfDay :=
  let inDay := (micros % (secondsPerDay * 1000000)).toNat
  ⟨inDay / 1000000, inDay % 1000000 * 1000⟩

/-- A fraction of a second: nothing, or a point and three, six or nine digits. -/
def fractionText (nano : Nat) : String :=
  if nano = 0 then ""
  else if nano % 1000000 = 0 then "." ++ Digits.padded 3 (nano / 1000000)
  else if nano % 1000 = 0 then "." ++ Digits.padded 6 (nano / 1000)
  else "." ++ Digits.padded 9 nano

/-- Hours, minutes and seconds, with the given text between them. -/
def clockText (between : String) (t : TimeOfDay) : String :=
  Digits.padded 2 (t.second / 3600) ++ between ++ Digits.padded 2 (t.second / 60 % 60) ++ between ++
    Digits.padded 2 (t.second % 60 + t.nano / nanosPerSecond)

/-- The time as `hours:minutes:seconds`, and its fraction. -/
def text (t : TimeOfDay) : String := clockText ":" t ++ fractionText (t.nano % nanosPerSecond)

end TimeOfDay

/-! ## 2. Moments -/

/-- A moment. -/
structure Moment where
  /-- The number of the day. -/
  day : Int
  time : TimeOfDay
deriving DecidableEq, Repr

namespace Moment

/-- A number that says the order of moments. -/
def rank (m : Moment) : Int :=
  (m.day * secondsPerDay + m.time.second) * (2 * nanosPerSecond) + m.time.nano

/-- Whether a moment is before another one. -/
def isBefore (a b : Moment) : Bool := a.rank < b.rank

/-- The moment so many days earlier, if the calendar reaches that far. -/
def daysEarlier? (m : Moment) (days : Nat) : Option Moment :=
  if Date.isNumber (m.day - days) then some { m with day := m.day - days } else none

/-- The moment so many microseconds after the midnight of a day, if there is one. -/
def ofMicros? (day micros : Int) : Option Moment :=
  let d := day + micros / (secondsPerDay * 1000000)
  if Date.isNumber d then some ⟨d, .ofMicros micros⟩ else none

/-- Date and time, with the given text between them. -/
def text (between : String) (m : Moment) : String :=
  (Date.ofNumber m.day).text ++ between ++ m.time.text

/-- The moment in universal time, as `date T time +00:00`. -/
def universalText (m : Moment) : String := m.text "T" ++ "+00:00"

end Moment

end SqlGateway
