/-
# Stamps of rotated logs

A rotated log has the name `runtime-<stamp>.log`, and the stamp says when it was rotated:
`2024-03-01T09-30-00.250`, to the millisecond.

Reading is more generous than writing.  A number may have fewer digits than it is written with, and
blanks in front; a year may have a sign, and then any number of digits; the fraction may be
missing.  A second 60 is a leap second.
-/
import SqlGateway.Number.Digits
import SqlGateway.Text.Blank
import SqlGateway.Time.Moment

namespace SqlGateway.Log

/-! ## 1. Writing -/

/-- The moment to the millisecond. -/
def stampText (m : Moment) : String :=
  (Date.ofNumber m.day).text ++ "T" ++ m.time.clockText "-" ++ "." ++
    Digits.padded 3 (m.time.nano % nanosPerSecond / 1000000)

/-- What the names of rotated logs start with. -/
def backupHead : String := "runtime-"

/-- What the names of rotated logs end with. -/
def backupTail : String := ".log"

/-- The name of a log that was rotated at a moment. -/
def backupName (m : Moment) : String := backupHead ++ stampText m ++ backupTail

/-! ## 2. Reading -/

/-- A number of one digit or more, at most `limit` of them, and what is behind it. -/
def takeNumber (limit : Nat) (cs : List Char) : Option (Nat × List Char) :=
  let digits := (cs.take limit).takeWhile Char.isDigit
  if digits.isEmpty then none else some (Digits.value digits, cs.drop digits.length)

/-- `cs` without the blanks in front. -/
def skipBlanks (cs : List Char) : List Char := cs.dropWhile Text.isBlank

/-- A number of one or two digits, blanks in front or not. -/
def takeField (cs : List Char) : Option (Nat × List Char) := takeNumber 2 (skipBlanks cs)

/-- A year: up to four digits, or a sign and any number of them. -/
def takeYear (cs : List Char) : Option (Int × List Char) :=
  match skipBlanks cs with
  | '-' :: cs => (takeNumber cs.length cs).map fun (n, cs) => (-(n : Int), cs)
  | '+' :: cs => (takeNumber cs.length cs).map fun (n, cs) => ((n : Int), cs)
  | cs => (takeNumber 4 cs).map fun (n, cs) => ((n : Int), cs)

/-- What is behind the given character. -/
def takeChar (c : Char) : List Char → Option (List Char)
  | d :: cs => if d = c then some cs else none
  | [] => none

/-- The fraction at the end: nothing, or a point and three digits. -/
def fractionOf? : List Char → Option Nat
  | [] => some 0
  | ['.', a, b, c] => if [a, b, c].all Char.isDigit then some (Digits.value [a, b, c]) else none
  | _ => none

/-- The time of day whose second may be a leap second 60. -/
def timeOf? (hour minute second millis : Nat) : Option TimeOfDay :=
  if second = 60 then TimeOfDay.ofParts? hour minute 59 (nanosPerSecond + millis * 1000000)
  else TimeOfDay.ofParts? hour minute second (millis * 1000000)

/-- The moment that a stamp says. -/
def stampOf? (cs : List Char) : Option Moment := do
  let (year, cs) ← takeYear cs
  let (month, cs) ← takeField (← takeChar '-' cs)
  let (day, cs) ← takeField (← takeChar '-' cs)
  let (hour, cs) ← takeField (← takeChar 'T' cs)
  let (minute, cs) ← takeField (← takeChar '-' cs)
  let (second, cs) ← takeField (← takeChar '-' cs)
  let millis ← fractionOf? cs
  let date ← Date.ofParts? year month day
  let time ← timeOf? hour minute second millis
  return ⟨date.toNumber, time⟩

/-- `cs` between the two given ends. -/
def between? (head tail cs : List Char) : Option (List Char) :=
  if head.isPrefixOf cs ∧ tail.isSuffixOf (cs.drop head.length) then
    some ((cs.drop head.length).take (cs.length - head.length - tail.length))
  else none

/-- When the log of the given name was rotated; none if the name is not that of a rotated log. -/
def backupMoment? (name : String) : Option Moment :=
  (between? backupHead.toList backupTail.toList name.toList).bind stampOf?

end SqlGateway.Log
