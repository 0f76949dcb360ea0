/-
# Intervals

A span of time in three parts that are not reckoned into each other: months, days and
microseconds, each with a sign of its own.  Its text has a word for every part that is not zero:
`1 year 2 mons 3 days 04:05:06.5`.
-/
import SqlGateway.Time.Date

namespace SqlGateway.Postgres

/-- A span of time. -/
structure Interval where
  months : Int
  days : Int
  micros : Int
deriving DecidableEq, Repr

namespace Interval

/-- A count of units: one `year`, two `years`. -/
def countText (n : Int) (unit : String) : String :=
  if n = 1 then "1 " ++ unit else toString n ++ " " ++ unit ++ "s"

/-- The digits of a fraction, without zeros at the end. -/
def fractionText (micros : Nat) : String :=
  if micros = 0 then ""
  else
    let digits := (Digits.padded 6 micros).toList
    "." ++ String.ofList (digits.reverse.dropWhile (· == '0')).reverse

/-- Hours, minutes and seconds; the hours may be more than a day has. -/
def clockText (micros : Int) : String :=
  let total := micros.natAbs
  let seconds := total / 1000000
  (if micros < 0 then "-" else "") ++ Digits.padded 2 (seconds / 3600) ++ ":" ++
    Digits.padded 2 (seconds / 60 % 60) ++ ":" ++ Digits.padded 2 (seconds % 60) ++
    fractionText (total % 1000000)

/-- The words for years, months and days. -/
def calendarParts (v : Interval) : List String :=
  let part (n : Int) (unit : String) : List String := if n = 0 then [] else [countText n unit]
  part (v.months.tdiv 12) "year" ++ part (v.months.tmod 12) "mon" ++ part v.days "day"

/-- The text of an interval.  The clock is there if it is not zero or nothing else is. -/
def text (v : Interval) : String :=
  let parts := v.calendarParts
  let clock := if v.micros ≠ 0 ∨ parts = [] then [clockText v.micros] else []
  String.intercalate " " (parts ++ clock)

end Interval

end SqlGateway.Postgres
