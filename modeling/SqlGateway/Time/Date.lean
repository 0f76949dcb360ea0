/-
# Dates

Dates of the Gregorian calendar, reckoned back to the years before it was in use, and their
numbering by days.  Day 0 is 1970-01-01.

The numbering counts in eras of 400 years, and within a year from March, so the leap day is the
last day of its year.
-/
import SqlGateway.Number.Digits

namespace SqlGateway

/-- A date. -/
structure Date where
  year : Int
  month : Nat
  day : Nat
deriving DecidableEq, Repr

namespace Date

/-! ## 1. Valid dates -/

/-- Whether a year has a leap day. -/
def isLeapYear (y : Int) : Bool := y % 4 == 0 && (y % 100 != 0 || y % 400 == 0)

/-- The number of days of a month. -/
def daysInMonth (y : Int) (m : Nat) : Nat :=
  if m = 2 then (if isLeapYear y then 29 else 28)
  else if m = 4 ∨ m = 6 ∨ m = 9 ∨ m = 11 then 30
  else 31

/-- The first year with dates. -/
def minYear : Int := -262143

/-- The last year with dates. -/
def maxYear : Int := 262142

/-- The date with the given parts, if there is one. -/
def ofParts? (year : Int) (month day : Nat) : Option Date :=
  if minYear ≤ year ∧ year ≤ maxYear ∧ 1 ≤ month ∧ month ≤ 12 ∧ 1 ≤ day ∧
      day ≤ daysInMonth year month then
    some ⟨year, month, day⟩
  else none

/-! ## 2. Days by number -/

/-- The number of a date's day. -/
def toNumber (d : Date) : Int :=
  let y := if d.month ≤ 2 then d.year - 1 else d.year
  let era := y / 400
  let yearOfEra := y - era * 400
  let monthFromMarch : Int := (d.month + 9) % 12
  let dayOfYear := (153 * monthFromMarch + 2) / 5 + d.day - 1
  let dayOfEra := yearOfEra * 365 + yearOfEra / 4 - yearOfEra / 100 + dayOfYear
  era * 146097 + dayOfEra - 719468

/-- The date of a day. -/
def ofNumber (n : Int) : Date :=
  let z := n + 719468
  let era := z / 146097
  let dayOfEra := z - era * 146097
  let yearOfEra :=
    (dayOfEra - dayOfEra / 1460 + dayOfEra / 36524 - dayOfEra / 146096) / 365
  let dayOfYear := dayOfEra - (365 * yearOfEra + yearOfEra / 4 - yearOfEra / 100)
  let monthFromMarch := (5 * dayOfYear + 2) / 153
  let day := dayOfYear - (153 * monthFromMarch + 2) / 5 + 1
  let month := if monthFromMarch < 10 then monthFromMarch + 3 else monthFromMarch - 9
  let year := yearOfEra + era * 400 + (if month ≤ 2 then 1 else 0)
  ⟨year, month.toNat, day.toNat⟩

/-- The number of the first day. -/
def minNumber : Int := toNumber ⟨minYear, 1, 1⟩

/-- The number of the last day. -/
def maxNumber : Int := toNumber ⟨maxYear, 12, 31⟩

/-- Whether there is a day of the number. -/
def isNumber (n : Int) : Bool := minNumber ≤ n && n ≤ maxNumber

/-! ## 3. Text -/

/-- A year of four digits; one before year 0 or of more digits has its sign. -/
def yearText (y : Int) : String :=
  if 0 ≤ y ∧ y ≤ 9999 then Digits.padded 4 y.toNat
  else (if y < 0 then "-" else "+") ++ Digits.padded 4 y.natAbs

/-- The date as `year-month-day`. -/
def text (d : Date) : String :=
  yearText d.year ++ "-" ++ Digits.padded 2 d.month ++ "-" ++ Digits.padded 2 d.day

end Date

end SqlGateway
