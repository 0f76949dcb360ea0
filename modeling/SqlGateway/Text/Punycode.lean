/-
# Punycode

A way to write any characters with ASCII letters, digits and hyphens.  In front of the last hyphen
stand the ASCII characters of the text; behind it stand numbers, and each says which character comes
next in code order and where it goes: how far one has to count through all code points and all places.

A number is written with its lowest digit first, in base 36.  A digit below a threshold ends the
number, and the thresholds follow the size of the numbers before.
-/
namespace SqlGateway.Text.Punycode

/-! ## 1. Digits -/

/-- The value of a digit. -/
def digit? (c : Char) : Option Nat :=
  if 'a' ≤ c ∧ c ≤ 'z' then some (c.toNat - 97)
  else if 'A' ≤ c ∧ c ≤ 'Z' then some (c.toNat - 65)
  else if '0' ≤ c ∧ c ≤ '9' then some (c.toNat - 48 + 26)
  else none

/-- The threshold at a place: between 1 and 26, and lower the larger the bias. -/
def threshold (place bias : Nat) : Nat := max 1 (min 26 (place - bias))

/-- Takes a number off the front, of which `sum` has been read: the number, and what follows it. -/
def takeNumber (bias : Nat) : Nat → Nat → Nat → List Char → Option (Nat × List Char)
  | _, _, _, [] => none
  | place, weight, sum, c :: cs => do
    let d ← digit? c
    let t := threshold place bias
    let sum := sum + d * weight
    if d < t then return (sum, cs) else takeNumber bias (place + 36) (weight * (36 - t)) sum cs

theorem length_of_takeNumber {bias place weight sum n : Nat} {cs rest : List Char}
    (h : takeNumber bias place weight sum cs = some (n, rest)) : rest.length < cs.length := by
  induction cs generalizing place weight sum with
  | nil => simp [takeNumber] at h
  | cons c cs ih =>
    simp only [takeNumber, Option.bind_eq_bind] at h
    cases hd : digit? c with
    | none => simp [hd] at h
    | some d =>
      simp only [hd, Option.bind_some] at h
      split at h
      · simp only [Option.pure_def, Option.some.injEq, Prod.mk.injEq] at h
        simp [← h.2]
      · have := ih h
        simp only [List.length_cons]
        omega

/-! ## 2. Bias -/

/-- How often a number can be divided by 35 before it is small, times 36, and what is left then. -/
def shrink (n places : Nat) : Nat × Nat :=
  if 455 < n then shrink (n / 35) (places + 36) else (n, places)
termination_by n

/-- The bias after a number, when `count` characters stand in the text. -/
def nextBias (number count : Nat) (first : Bool) : Nat :=
  let halved := if first then number / 700 else number / 2
  let (n, places) := shrink (halved + halved / count) 0
  places + 36 * n / (n + 38)

/-! ## 3. Texts -/

/-- Puts in the characters that the numbers say, from code point `code` and place `place` on. -/
def insertAll (bias code place : Nat) (seen cs : List Char) : Option (List Char) :=
  if cs.isEmpty then some seen
  else
    match _h : takeNumber bias 36 1 0 cs with
    | none => none
    | some (n, rest) =>
      let count := seen.length + 1
      let code' := code + (place + n) / count
      let place' := (place + n) % count
      if code'.isValidChar then
        insertAll (nextBias n count (place == 0)) code' (place' + 1)
          (seen.take place' ++ Char.ofNat code' :: seen.drop place') rest
      else none
termination_by cs.length
decreasing_by exact length_of_takeNumber _h

/-- The text that is written so. -/
def decode? (cs : List Char) : Option (List Char) :=
  let behind := (cs.reverse.takeWhile (· != '-')).reverse
  let basic := cs.take (cs.length - behind.length - 1)
  if basic.all (·.toNat < 128) then insertAll 72 128 0 basic behind else none

end SqlGateway.Text.Punycode
