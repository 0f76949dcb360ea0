/-
# A numeric on the wire is the number

A wide integer goes out as groups of four decimal digits.  Groups of zeros at the end are left out,
so the value is not to be had from the groups alone: the weight says where they stand.

* `Numeric.value`: what a numeric means, over the rationals, for any sign and any weight;
* `decimalGroups_sum`: the groups of a number add up to it;
* `ofBytes_numericBytes`: the bytes are read as the groups that were kept, with the weight of the
  first and no digits behind the point;
* `exists_ofBytes_numericBytes`: and that numeric is the number.
-/
import Mathlib.Algebra.Order.Field.Basic
import Mathlib.Data.Rat.Defs
import Mathlib.Tactic.Ring
import SqlGateway.Postgres.Numeric
import SqlGateway.Postgres.Parameter
import SqlGateway.Proofs.Config.Accepted
import SqlGateway.Proofs.Number.ByteOrder

namespace SqlGateway.Postgres

/-! ## 1. What a numeric means -/

/-- What groups come to, the first of which has the given weight. -/
def groupSum (weight : Int) : List Int → ℚ
  | [] => 0
  | group :: rest => group * 10000 ^ weight + groupSum (weight - 1) rest

/-- The number that a numeric is. -/
def Numeric.value (n : Numeric) : ℚ :=
  (if n.negative then -1 else 1) * groupSum n.weight n.groups

theorem groupSum_append_singleton (weight group : Int) (groups : List Int) :
    groupSum weight (groups ++ [group]) =
      groupSum weight groups + group * 10000 ^ (weight - groups.length) := by
  induction groups generalizing weight with
  | nil => simp [groupSum]
  | cons g rest ih =>
    have hweight : weight - 1 - (rest.length : Int) = weight - (rest.length + 1) := by ring
    rw [List.cons_append, groupSum, groupSum, ih, List.length_cons, Nat.cast_add, Nat.cast_one,
      hweight, add_assoc]

/-! ## 2. The groups of a number -/

/-- What groups come to, the least significant first. -/
def sumOfGroups : List Nat → Nat
  | [] => 0
  | group :: rest => group + 10000 * sumOfGroups rest

theorem decimalGroups_zero : decimalGroups 0 = [] := by rw [decimalGroups, if_pos rfl]

theorem decimalGroups_of_ne_zero {n : Nat} (h : n ≠ 0) :
    decimalGroups n = n % 10000 :: decimalGroups (n / 10000) := by
  rw [decimalGroups, if_neg h]

theorem decimalGroups_sum (n : Nat) : sumOfGroups (decimalGroups n) = n := by
  induction n using Nat.strongRecOn with
  | ind n ih =>
    by_cases h : n = 0
    · rw [h, decimalGroups_zero, sumOfGroups]
    · rw [decimalGroups_of_ne_zero h, sumOfGroups, ih _ (by omega)]
      omega

theorem lt_of_mem_decimalGroups {n group : Nat} (h : group ∈ decimalGroups n) : group < 10000 := by
  induction n using Nat.strongRecOn with
  | ind n ih =>
    by_cases hn : n = 0
    · rw [hn, decimalGroups_zero] at h
      cases h
    · rw [decimalGroups_of_ne_zero hn] at h
      rcases List.mem_cons.mp h with rfl | h
      · exact Nat.mod_lt _ (by decide)
      · exact ih _ (by omega) h

theorem length_decimalGroups_le {k n : Nat} (h : n < 10000 ^ k) : (decimalGroups n).length ≤ k := by
  induction k generalizing n with
  | zero =>
    obtain rfl : n = 0 := by simpa using h
    rw [decimalGroups_zero, List.length_nil]
  | succ k ih =>
    by_cases hn : n = 0
    · rw [hn, decimalGroups_zero]
      exact Nat.zero_le _
    · rw [decimalGroups_of_ne_zero hn, List.length_cons]
      exact Nat.succ_le_succ (ih (Nat.div_lt_of_lt_mul (by rwa [← Nat.pow_succ'])))

/-- The groups of a number that are sent, the most significant first. -/
def keptGroups (n : Nat) : List Nat := ((decimalGroups n).dropWhile (· == 0)).reverse

/-- The most significant first, and each with its weight, groups come to the same. -/
theorem groupSum_reverse (k : Nat) (groups : List Nat) :
    groupSum (k + groups.length - 1) (groups.reverse.map Nat.cast) =
      10000 ^ k * (sumOfGroups groups : ℚ) := by
  induction groups generalizing k with
  | nil => simp [groupSum, sumOfGroups]
  | cons group rest ih =>
    have hweight : (k : Int) + ((rest.length + 1 : Nat) : Int) - 1 =
        ((k + 1 : Nat) : Int) + rest.length - 1 := by push_cast; ring
    rw [List.reverse_cons, List.map_append, List.map_singleton, groupSum_append_singleton,
      List.length_cons, hweight, ih, List.length_map, List.length_reverse, sumOfGroups]
    have hlast : ((k + 1 : Nat) : Int) + rest.length - 1 - rest.length = k := by push_cast; ring
    rw [hlast, zpow_natCast]
    push_cast
    ring

/-- Zeros at the end only move the others. -/
theorem sumOfGroups_dropWhile (groups : List Nat) :
    sumOfGroups groups = 10000 ^ (groups.length - (groups.dropWhile (· == 0)).length) *
      sumOfGroups (groups.dropWhile (· == 0)) := by
  induction groups with
  | nil => simp [sumOfGroups]
  | cons group rest ih =>
    by_cases hzero : group = 0
    · have hlength := (List.dropWhile_suffix (fun g : Nat => g == 0) (l := rest)).length_le
      rw [List.dropWhile_cons_of_pos (by simpa using hzero), sumOfGroups, ih, hzero,
        List.length_cons, Nat.succ_sub hlength, Nat.pow_succ]
      ring
    · rw [List.dropWhile_cons_of_neg (by simpa using hzero)]
      simp

/-! ## 3. Reading -/

section

open Store

theorem takeNatural_bigEndian (short : Error) {k n : Nat} (rest : List UInt8)
    (h : n < ByteOrder.span k) :
    takeNatural short k (ByteOrder.bigEndian k n ++ rest) = .ok (n, rest) := by
  have hpart := takePart_append short (ByteOrder.bigEndian k n) rest
  rw [ByteOrder.length_bigEndian] at hpart
  refine bind_eq_ok_iff.mpr ⟨_, hpart, ?_⟩
  exact congrArg (fun m => Except.ok (m, rest)) (ByteOrder.ofBigEndian_bigEndian_of_lt h)

theorem takeInteger_bigEndian (short : Error) {k n : Nat} (rest : List UInt8)
    (h : 2 * n < ByteOrder.span k) :
    takeInteger short k (ByteOrder.bigEndian k n ++ rest) = .ok ((n : Int), rest) := by
  refine bind_eq_ok_iff.mpr ⟨_, takeNatural_bigEndian short rest (by omega), ?_⟩
  exact congrArg (fun m => Except.ok (m, rest)) (if_pos h)

theorem takeInteger_twosComplement (short : Error) {k : Nat} {n : Int} (rest : List UInt8)
    (hlow : -(ByteOrder.span k : Int) ≤ 2 * n) (hhigh : 2 * n < ByteOrder.span k) :
    takeInteger short k (ByteOrder.bigEndian k (ByteOrder.twosComplement k n) ++ rest) =
      .ok (n, rest) := by
  refine bind_eq_ok_iff.mpr
    ⟨_, takeNatural_bigEndian short rest (ByteOrder.twosComplement_lt k n), ?_⟩
  exact congrArg (fun m => Except.ok (m, rest)) (ByteOrder.signed_twosComplement hlow hhigh)

theorem takeGroups_flatMap {groups : List Nat} (h : ∀ group ∈ groups, group < 10000) :
    takeGroups groups.length (groups.flatMap (ByteOrder.bigEndian 2)) =
      .ok (groups.map Nat.cast) := by
  induction groups with
  | nil => rfl
  | cons group rest ih =>
    obtain ⟨hgroup, hrest⟩ := List.forall_mem_cons.mp h
    have hspan : ByteOrder.span 2 = 65536 := rfl
    rw [List.length_cons, takeGroups, List.flatMap_cons]
    refine bind_eq_ok_iff.mpr ⟨_, takeInteger_bigEndian _ _ (by omega), ?_⟩
    exact bind_eq_ok_iff.mpr ⟨_, ih hrest, rfl⟩

/-- **The bytes of a number are read** as its groups, with the weight of the first. -/
theorem ofBytes_numericBytes {n : Nat} (hlength : (decimalGroups n).length ≤ 10000) :
    Numeric.ofBytes (numericBytes n) =
      .ok ⟨(keptGroups n).map Nat.cast, ((decimalGroups n).length - 1 : Nat), false, 0⟩ := by
  have hspan : ByteOrder.span 2 = 65536 := rfl
  have hkept : (keptGroups n).length ≤ (decimalGroups n).length := by
    rw [keptGroups, List.length_reverse]
    exact (List.dropWhile_suffix _).length_le
  have hgroups : ∀ group ∈ keptGroups n, group < 10000 := by
    intro group hgroup
    rw [keptGroups, List.mem_reverse] at hgroup
    exact lt_of_mem_decimalGroups ((List.dropWhile_suffix _).subset hgroup)
  have hbytes : numericBytes n = ByteOrder.bigEndian 2 (keptGroups n).length ++
      (ByteOrder.bigEndian 2 ((decimalGroups n).length - 1) ++ (ByteOrder.bigEndian 2 0 ++
        (ByteOrder.bigEndian 2 0 ++ (keptGroups n).flatMap (ByteOrder.bigEndian 2)))) := by
    simp only [numericBytes, keptGroups, List.append_assoc]
  rw [hbytes, Numeric.ofBytes]
  refine bind_eq_ok_iff.mpr ⟨_, takeNatural_bigEndian _ _ (by omega), ?_⟩
  refine bind_eq_ok_iff.mpr ⟨_, takeInteger_bigEndian _ _ (by omega), ?_⟩
  refine bind_eq_ok_iff.mpr ⟨_, takeNatural_bigEndian _ _ (by omega), ?_⟩
  refine bind_eq_ok_iff.mpr ⟨_, takeInteger_bigEndian _ _ (by omega), ?_⟩
  exact bind_eq_ok_iff.mpr ⟨_, takeGroups_flatMap hgroups, rfl⟩

end

/-- The groups that are sent come to the number. -/
theorem groupSum_keptGroups (n : Nat) :
    groupSum ((decimalGroups n).length - 1 : Nat) ((keptGroups n).map Nat.cast) = n := by
  have hkept : (keptGroups n).length = ((decimalGroups n).dropWhile (· == 0)).length := by
    rw [keptGroups, List.length_reverse]
  by_cases hempty : decimalGroups n = []
  · have hzero := decimalGroups_sum n
    rw [hempty, sumOfGroups] at hzero
    rw [keptGroups, hempty, ← hzero]
    rfl
  · have hpos := List.length_pos_of_ne_nil hempty
    have hle := (List.dropWhile_suffix (fun g : Nat => g == 0) (l := decimalGroups n)).length_le
    have hweight : (((decimalGroups n).length - 1 : Nat) : Int) =
        (((decimalGroups n).length - ((decimalGroups n).dropWhile (· == 0)).length : Nat) : Int) +
          ((decimalGroups n).dropWhile (· == 0)).length - 1 := by omega
    rw [hweight, keptGroups, groupSum_reverse, ← Nat.cast_ofNat, ← Nat.cast_pow, ← Nat.cast_mul,
      ← sumOfGroups_dropWhile, decimalGroups_sum]

/-- **The bytes of a number say it exactly.** -/
theorem exists_ofBytes_numericBytes {n : Nat} (h : n < 0x10000000000000000) :
    ∃ num, Numeric.ofBytes (numericBytes n) = .ok num ∧ num.value = n ∧ num.scale = 0 := by
  have hlength : (decimalGroups n).length ≤ 5 := length_decimalGroups_le (by omega)
  refine ⟨_, ofBytes_numericBytes (by omega), ?_, rfl⟩
  exact (one_mul _).trans (groupSum_keptGroups n)

end SqlGateway.Postgres
