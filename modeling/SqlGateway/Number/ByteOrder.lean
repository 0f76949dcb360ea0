/-
# Integers as bytes

A fixed number of bytes holds an integer, the least significant byte first or last.  A signed
integer is kept in two's complement.
-/
namespace SqlGateway.ByteOrder

/-! ## 1. The least significant byte first -/

/-- How many numbers `w` bytes can hold. -/
def span : Nat → Nat
  | 0 => 1
  | w + 1 => 256 * span w

/-- The `w` bytes of a number; what does not fit is dropped. -/
def littleEndian : Nat → Nat → List UInt8
  | 0, _ => []
  | w + 1, n => UInt8.ofNat (n % 256) :: littleEndian w (n / 256)

/-- The number of some bytes. -/
def ofLittleEndian : List UInt8 → Nat
  | [] => 0
  | b :: bs => b.toNat + 256 * ofLittleEndian bs

@[simp] theorem length_littleEndian (w n : Nat) : (littleEndian w n).length = w := by
  induction w generalizing n with
  | zero => rfl
  | succ w ih => simp [littleEndian, ih]

theorem ofLittleEndian_littleEndian (w n : Nat) :
    ofLittleEndian (littleEndian w n) = n % span w := by
  induction w generalizing n with
  | zero => simp [littleEndian, ofLittleEndian, span, Nat.mod_one]
  | succ w ih =>
    have h : (UInt8.ofNat (n % 256)).toNat = n % 256 := by
      simp [UInt8.toNat_ofNat', Nat.mod_mod_of_dvd]
    rw [littleEndian, ofLittleEndian, ih, h, span, Nat.mod_mul]

/-! ## 2. The most significant byte first -/

/-- The `w` bytes of a number; what does not fit is dropped. -/
def bigEndian (w n : Nat) : List UInt8 := (littleEndian w n).reverse

/-- The number of some bytes. -/
def ofBigEndian (bs : List UInt8) : Nat := ofLittleEndian bs.reverse

@[simp] theorem length_bigEndian (w n : Nat) : (bigEndian w n).length = w := by simp [bigEndian]

theorem ofBigEndian_bigEndian (w n : Nat) : ofBigEndian (bigEndian w n) = n % span w := by
  simp [ofBigEndian, bigEndian, ofLittleEndian_littleEndian]

/-! ## 3. Signed integers -/

/-- The natural number whose `w` bytes stand for an integer. -/
def twosComplement (w : Nat) (n : Int) : Nat := (n % span w).toNat

/-- The integer that the number of `w` bytes stands for. -/
def signed (w : Nat) (n : Nat) : Int := if 2 * n < span w then n else (n : Int) - span w

end SqlGateway.ByteOrder
