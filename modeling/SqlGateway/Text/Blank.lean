/-
# Blank characters

`isBlank` is the Unicode property `White_Space`; `trim` takes blanks off both ends.  A name that
is all blanks counts as missing throughout the configuration, and `trim_eq_nil_iff` is the form in
which that is used.
-/
namespace SqlGateway.Text

/-! ## 1. The class -/

/-- Whether `c` is white space. -/
def isBlank (c : Char) : Bool :=
  let n := c.toNat
  (0x09 ≤ n && n ≤ 0x0D) || n == 0x20 || n == 0x85 || n == 0xA0 || n == 0x1680 ||
    (0x2000 ≤ n && n ≤ 0x200A) || n == 0x2028 || n == 0x2029 || n == 0x202F || n == 0x205F ||
    n == 0x3000

/-! ## 2. Trimming -/

/-- `cs` without the blanks at its two ends. -/
def trimChars (cs : List Char) : List Char :=
  ((cs.dropWhile isBlank).reverse.dropWhile isBlank).reverse

/-- `s` without the blanks at its two ends. -/
def trim (s : String) : String := String.ofList (trimChars s.toList)

/-- Whether nothing but blanks stands in `s`. -/
def isBlankText (s : String) : Bool := s.toList.all isBlank

theorem dropWhile_isBlank_eq_nil (cs : List Char) :
    cs.dropWhile isBlank = [] ↔ cs.all isBlank = true := by
  induction cs with
  | nil => simp
  | cons c cs ih => cases h : isBlank c <;> simp [h, ih]

/-- **Only an all-blank text trims to nothing.** -/
theorem trimChars_eq_nil_iff (cs : List Char) : trimChars cs = [] ↔ cs.all isBlank = true := by
  unfold trimChars
  rw [List.reverse_eq_nil_iff, dropWhile_isBlank_eq_nil, List.all_reverse,
    ← dropWhile_isBlank_eq_nil, ← dropWhile_isBlank_eq_nil]
  induction cs with
  | nil => simp
  | cons c cs ih => cases h : isBlank c <;> simp [h, ih]

end SqlGateway.Text
