/-
# Integers come back from their bytes

A number that fits its bytes is read back from them, in either order, and so is a signed one from
its two's complement.

* `ofLittleEndian_littleEndian_of_lt`, `ofBigEndian_bigEndian_of_lt`: a number is what its bytes
  stand for, in either order;
* `signed_twosComplement`: a signed integer is what its two's complement stands for.
-/
import Mathlib.Data.Int.Init
import SqlGateway.Number.ByteOrder

namespace SqlGateway.ByteOrder

variable {w n : Nat}

theorem ofLittleEndian_littleEndian_of_lt (h : n < span w) :
    ofLittleEndian (littleEndian w n) = n := by
  rw [ofLittleEndian_littleEndian, Nat.mod_eq_of_lt h]

theorem ofBigEndian_bigEndian_of_lt (h : n < span w) : ofBigEndian (bigEndian w n) = n := by
  rw [ofBigEndian_bigEndian, Nat.mod_eq_of_lt h]

/-! ## Signed integers -/

theorem span_pos (w : Nat) : 0 < span w := by
  induction w with
  | zero => exact Nat.one_pos
  | succ w ih => rw [span]; omega

theorem twosComplement_lt (w : Nat) (n : Int) : twosComplement w n < span w := by
  have hpos := span_pos w
  have hlt := Int.emod_lt_of_pos n (Int.natCast_pos.mpr hpos)
  rw [twosComplement]
  omega

/-- **A signed integer that fits is what its two's complement stands for.** -/
theorem signed_twosComplement {n : Int} (hlow : -(span w : Int) ≤ 2 * n)
    (hhigh : 2 * n < span w) : signed w (twosComplement w n) = n := by
  have hpos : (0 : Int) < span w := Int.natCast_pos.mpr (span_pos w)
  rw [signed, twosComplement]
  by_cases hneg : n < 0
  · have hmod : n % (span w : Int) = n + span w := by
      rw [← Int.add_emod_right, Int.emod_eq_of_lt (by omega) (by omega)]
    rw [hmod, if_neg (by omega)]
    omega
  · have hmod : n % (span w : Int) = n := Int.emod_eq_of_lt (by omega) (by omega)
    rw [hmod, if_pos (by omega)]
    omega

end SqlGateway.ByteOrder
