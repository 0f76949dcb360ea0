/-
# Digits

The number that decimal digits write, and numbers written with zeros in front.  Reading what was
written gives the number back (`value_toDigits`, `value_padded`).
-/
namespace SqlGateway.Digits

/-- The value of a decimal digit. -/
def digitValue (c : Char) : Nat := c.toNat - 48

/-- The number that decimal digits write. -/
def value (digits : List Char) : Nat := digits.foldl (fun n c => n * 10 + digitValue c) 0

/-- The digits of a number, with zeros in front up to the width. -/
def padded (width n : Nat) : String :=
  let digits := Nat.toDigits 10 n
  String.ofList (List.replicate (width - digits.length) '0' ++ digits)

/-- Whether a character is a hexadecimal digit. -/
def isHex (c : Char) : Bool := c.isDigit || ('a' ≤ c && c ≤ 'f') || ('A' ≤ c && c ≤ 'F')

/-- The value of a hexadecimal digit. -/
def hexValue (c : Char) : Nat :=
  if c.isDigit then c.toNat - 48 else if c.isUpper then c.toNat - 55 else c.toNat - 87

@[simp] theorem value_nil : value [] = 0 := rfl

theorem value_append_singleton (digits : List Char) (c : Char) :
    value (digits ++ [c]) = value digits * 10 + digitValue c := by
  simp [value]

theorem digitValue_digitChar {n : Nat} (h : n < 10) : digitValue n.digitChar = n := by
  have : ∀ k < 10, digitValue (Nat.digitChar k) = k := by decide
  exact this n h

/-- The digits of a number write it. -/
theorem value_toDigits (n : Nat) : value (Nat.toDigits 10 n) = n := by
  induction n using Nat.strongRecOn with
  | ind n ih =>
    rcases Nat.lt_or_ge n 10 with h | h
    · rw [Nat.toDigits_of_lt_base h]
      simpa [value] using digitValue_digitChar h
    · rw [Nat.toDigits_of_base_le (by decide) h, value_append_singleton, ih _ (by omega),
        digitValue_digitChar (Nat.mod_lt _ (by decide))]
      omega

/-- Zeros in front do not count. -/
theorem value_replicate_zero_append (k : Nat) (digits : List Char) :
    value (List.replicate k '0' ++ digits) = value digits := by
  induction k with
  | zero => rfl
  | succ k ih => simpa [List.replicate_succ, value, digitValue] using ih

/-- A padded number is read as it was. -/
theorem value_padded (width n : Nat) : value (padded width n).toList = n := by
  simp [padded, value_replicate_zero_append, value_toDigits]

end SqlGateway.Digits
