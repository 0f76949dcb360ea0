/-
# What arguments are bound as

Every argument of a statement reaches its store as one value, and the value says what the argument
is.  An integer that needs its 64th bit is the hard case: it is a numeric for PostgreSQL, an
integer without a sign for MySQL, and a text of digits for SQLite, and still the same integer.
Since the type depends on the size of the integer, it has to be shown that no two sizes meet.

* `Carries`, for each engine: what a bound value says by the format of its type;
* `carries_ofScalar`: what an argument is bound as carries it;
* `Carries.unique`: a parameter on a wire carries one argument only;
* `Carries.integer_unique`: for SQLite that holds of integers, and of more it does not, since there
  are no truth values, and digits are a text;
* `arguments_bound_exactly`: what is sent for a prepared call.
-/
import SqlGateway.Gateway.Call
import SqlGateway.Proofs.Postgres.Numeric
import SqlGateway.Proofs.Text.Utf8
import SqlGateway.Store.Stores

namespace SqlGateway

open Store (Bound)

/-- An integer of 64 bits, with a sign or without. -/
def Scalar.ofInteger (n : { n : Int // -0x8000000000000000 ≤ n ∧ n < 0x10000000000000000 }) :
    Scalar :=
  .number (.integer n.1 n.2)

theorem Scalar.ofInteger_injective : Function.Injective Scalar.ofInteger := by
  intro n m h
  have hnumber : JsonNumber.integer n.1 n.2 = .integer m.1 m.2 := Scalar.number.inj h
  exact Subtype.ext (JsonNumber.integer.inj hnumber)

theorem Binary64.eq_of_toNat_bits {x y : Binary64} (h : x.bits.toNat = y.bits.toNat) : x = y := by
  cases x
  cases y
  exact congrArg mk (UInt64.toNat_inj.mp h)

/-! ## 1. PostgreSQL -/

namespace Postgres

/-- What a parameter says, by the number of its type. -/
inductive Parameter.Carries : Parameter → Scalar → Prop where
  /-- A null has no type. -/
  | null : Carries ⟨0, none⟩ .null
  | bool {b : Bool} {byte : UInt8} : byte = (if b then 1 else 0) →
      Carries ⟨16, some [byte]⟩ (.bool b)
  | bigint {n : Int} {fits} {bytes : List UInt8} : bytes.length = 8 →
      ByteOrder.signed 8 (ByteOrder.ofBigEndian bytes) = n →
      Carries ⟨20, some bytes⟩ (.number (.integer n fits))
  /-- An integer that needs its 64th bit. -/
  | numeric {n : Int} {fits} {bytes : List UInt8} {num : Numeric} : 0x8000000000000000 ≤ n →
      Numeric.ofBytes bytes = .ok num → num.value = n →
      Carries ⟨1700, some bytes⟩ (.number (.integer n fits))
  | double {x : Binary64} {finite} {bytes : List UInt8} : bytes.length = 8 →
      ByteOrder.ofBigEndian bytes = x.bits.toNat →
      Carries ⟨701, some bytes⟩ (.number (.float x finite))
  | text {s : String} {bytes : List UInt8} : Text.Utf8.decode? bytes = some s →
      Carries ⟨25, some bytes⟩ (.text s)

theorem Parameter.carries_ofScalar (s : Scalar) :
    (Parameter.ofBound (.ofScalar s)).Carries s := by
  have hspan : ByteOrder.span 8 = 0x10000000000000000 := rfl
  cases s with
  | null => exact .null
  | bool b => exact .bool rfl
  | text s => exact .text (Text.Utf8.decode?_eq_some_iff.mpr rfl)
  | number n =>
    cases n with
    | float x finite =>
      exact .double (ByteOrder.length_bigEndian _ _)
        (ByteOrder.ofBigEndian_bigEndian_of_lt x.bits.toNat_lt)
    | integer n fits =>
      rw [Bound.ofScalar, Bound.ofNumber_integer]
      split
      next hsmall =>
        refine .bigint (ByteOrder.length_bigEndian _ _) ?_
        rw [ByteOrder.ofBigEndian_bigEndian_of_lt (ByteOrder.twosComplement_lt 8 n)]
        exact ByteOrder.signed_twosComplement (by omega) (by omega)
      next hwide =>
        obtain ⟨num, hread, hvalue, -⟩ := exists_ofBytes_numericBytes (n := n.toNat) (by omega)
        refine .numeric (not_lt.mp hwide) hread ?_
        rw [hvalue, ← Int.cast_natCast, Int.toNat_of_nonneg (by omega)]

/-- **A parameter carries one argument only.** -/
theorem Parameter.Carries.unique {p : Parameter} {s t : Scalar} (hs : p.Carries s)
    (ht : p.Carries t) : s = t := by
  cases hs with
  | null =>
    cases ht
    rfl
  | @bool b byte hb =>
    cases ht with
    | @bool b' _ hb' =>
      cases b <;> cases b' <;> simp_all
  | bigint _ hn =>
    cases ht with
    | bigint _ hm =>
      subst hn hm
      rfl
  | @numeric n _ _ num _ hread hn =>
    cases ht with
    | @numeric m _ _ num' _ hread' hm =>
      obtain rfl : num = num' := Except.ok.inj (hread.symm.trans hread')
      obtain rfl : n = m := Int.cast_injective (hn.symm.trans hm)
      rfl
  | double _ hx =>
    cases ht with
    | double _ hy =>
      cases Binary64.eq_of_toNat_bits (hx.symm.trans hy)
      rfl
  | text hread =>
    cases ht with
    | text hread' => rw [Option.some.inj (hread.symm.trans hread')]

end Postgres

/-! ## 2. MySQL -/

namespace Mysql

/-- What a parameter says, by the number of its type and whether it has a sign. -/
inductive Parameter.Carries : Parameter → Scalar → Prop where
  | null : Carries ⟨253, false, none⟩ .null
  | bool {b : Bool} {byte : UInt8} : byte = (if b then 1 else 0) →
      Carries ⟨1, true, some [byte]⟩ (.bool b)
  | bigint {n : Int} {fits} {bytes : List UInt8} : bytes.length = 8 →
      ByteOrder.signed 8 (ByteOrder.ofLittleEndian bytes) = n →
      Carries ⟨8, false, some bytes⟩ (.number (.integer n fits))
  /-- An integer that needs its 64th bit. -/
  | unsigned {n : Int} {fits} {bytes : List UInt8} : 0x8000000000000000 ≤ n → bytes.length = 8 →
      (ByteOrder.ofLittleEndian bytes : Int) = n →
      Carries ⟨8, true, some bytes⟩ (.number (.integer n fits))
  | double {x : Binary64} {finite} {bytes : List UInt8} : bytes.length = 8 →
      ByteOrder.ofLittleEndian bytes = x.bits.toNat →
      Carries ⟨5, false, some bytes⟩ (.number (.float x finite))
  | text {s : String} {bytes : List UInt8} : Text.Utf8.decode? bytes = some s →
      Carries ⟨253, false, some bytes⟩ (.text s)

theorem Parameter.carries_ofScalar (s : Scalar) :
    (Parameter.ofBound (.ofScalar s)).Carries s := by
  have hspan : ByteOrder.span 8 = 0x10000000000000000 := rfl
  cases s with
  | null => exact .null
  | bool b => exact .bool rfl
  | text s => exact .text (Text.Utf8.decode?_eq_some_iff.mpr rfl)
  | number n =>
    cases n with
    | float x finite =>
      exact .double (ByteOrder.length_littleEndian _ _)
        (ByteOrder.ofLittleEndian_littleEndian_of_lt x.bits.toNat_lt)
    | integer n fits =>
      rw [Bound.ofScalar, Bound.ofNumber_integer]
      split
      next hsmall =>
        refine .bigint (ByteOrder.length_littleEndian _ _) ?_
        rw [ByteOrder.ofLittleEndian_littleEndian_of_lt (ByteOrder.twosComplement_lt 8 n)]
        exact ByteOrder.signed_twosComplement (by omega) (by omega)
      next hwide =>
        refine .unsigned (not_lt.mp hwide) (ByteOrder.length_littleEndian _ _) ?_
        rw [ByteOrder.ofLittleEndian_littleEndian_of_lt (by omega)]
        omega

/-- **A parameter carries one argument only.** -/
theorem Parameter.Carries.unique {p : Parameter} {s t : Scalar} (hs : p.Carries s)
    (ht : p.Carries t) : s = t := by
  cases hs with
  | null =>
    cases ht
    rfl
  | @bool b byte hb =>
    cases ht with
    | @bool b' _ hb' => cases b <;> cases b' <;> simp_all
  | bigint _ hn =>
    cases ht with
    | bigint _ hm =>
      subst hn hm
      rfl
  | unsigned _ _ hn =>
    cases ht with
    | unsigned _ _ hm =>
      subst hn hm
      rfl
  | double _ hx =>
    cases ht with
    | double _ hy =>
      cases Binary64.eq_of_toNat_bits (hx.symm.trans hy)
      rfl
  | text hread =>
    cases ht with
    | text hread' => rw [Option.some.inj (hread.symm.trans hread')]

end Mysql

/-! ## 3. SQLite -/

namespace Sqlite

/-- What a value says, by its storage class. -/
inductive Value.Carries : Value → Scalar → Prop where
  | null : Carries .null .null
  /-- There are no truth values. -/
  | bool (b : Bool) : Carries (.int (if b then 1 else 0)) (.bool b)
  | int {n : Int} {fits} : n < 0x8000000000000000 → Carries (.int n) (.number (.integer n fits))
  /-- An integer that needs its 64th bit: a text of its digits. -/
  | digits {n : Int} {fits} {s : String} :
      0x8000000000000000 ≤ n → s.toList.all Char.isDigit = true →
        (Digits.value s.toList : Int) = n → Carries (.text s) (.number (.integer n fits))
  | real {x : Binary64} {finite} : Carries (.real x) (.number (.float x finite))
  | text (s : String) : Carries (.text s) (.text s)

theorem Value.carries_ofScalar (s : Scalar) : (Value.ofBound (.ofScalar s)).Carries s := by
  cases s with
  | null => exact .null
  | bool b => exact .bool b
  | text s => exact .text s
  | number n =>
    cases n with
    | float x finite => exact .real
    | integer n fits =>
      rw [Bound.ofScalar, Bound.ofNumber_integer]
      split
      next hsmall => exact .int hsmall
      next hwide =>
        have hdigits : (toString n.toNat).toList = Nat.toDigits 10 n.toNat := by
          simp [toString, Nat.repr]
        refine .digits (not_lt.mp hwide) ?_ ?_
        · rw [hdigits, List.all_eq_true]
          exact fun c hc => Nat.isDigit_of_mem_toDigits (by decide) (by decide) hc
        · rw [hdigits, Digits.value_toDigits]
          omega

/-- **A value carries one integer only.** -/
theorem Value.Carries.integer_unique {v : Value} {n m : Int} {hn hm}
    (hs : v.Carries (.number (.integer n hn))) (ht : v.Carries (.number (.integer m hm))) :
    n = m := by
  cases hs with
  | int _ =>
    cases ht with
    | int _ => rfl
  | digits _ _ hvalue =>
    cases ht with
    | digits _ _ hvalue' => rw [← hvalue, ← hvalue']

end Sqlite

/-! ## 4. What is sent for a call -/

namespace Gateway

/-- What reaches the store for a prepared call are values that carry its arguments, one for each and
in order, whatever the engine is. -/
structure PreparedCall.SendsArguments (c : PreparedCall) : Prop where
  postgres : ∀ r : Postgres.Reply, ∃ params,
    List.Forall₂ Postgres.Parameter.Carries params c.statement.args ∧
      (r.sent c.execution).types = params.map (·.type) ∧
      (r.sent c.execution).values =
        if r.prepareError.isSome then none else some (params.map (·.value))
  mysql : ∀ r : Mysql.Reply, ∃ params,
    List.Forall₂ Mysql.Parameter.Carries params c.statement.args ∧
      (r.sent c.execution).params = if r.prepareError.isSome then none else some params
  sqlite : ∃ values, List.Forall₂ Sqlite.Value.Carries values c.statement.args ∧
    ∀ d : Sqlite.Database, d.run c.execution.sql c.execution.bound =
      d.performAll values ((Sqlite.tokens c.execution.sql).length + 1)
        (Sqlite.tokens c.execution.sql)

theorem forall₂_map_bound {α : Type} {Carries : α → Scalar → Prop} {ofBound : Bound → α}
    (h : ∀ s, Carries (ofBound (.ofScalar s)) s) (c : PreparedCall) :
    List.Forall₂ Carries (c.execution.bound.map ofBound) c.statement.args := by
  rw [PreparedCall.execution, List.map_map, List.forall₂_map_left_iff]
  exact List.forall₂_same.mpr fun s _ => h s

theorem PreparedCall.sendsArguments (c : PreparedCall) : c.SendsArguments where
  postgres _ := ⟨_, forall₂_map_bound Postgres.Parameter.carries_ofScalar c, rfl, rfl⟩
  mysql _ := ⟨_, forall₂_map_bound Mysql.Parameter.carries_ofScalar c, rfl⟩
  sqlite := ⟨_, forall₂_map_bound Sqlite.Value.carries_ofScalar c, fun _ => rfl⟩

/-- **Arguments are bound one for one and exactly.**  Whatever the engine is and whatever the
arguments are, one value for each of them is sent, in order, and it carries the argument; a number
is never bound as a text; and no two integers of 64 bits, with a sign or without, are the same value
on any engine. -/
theorem arguments_bound_exactly :
    (∀ c : PreparedCall, c.SendsArguments) ∧
      (∀ (n : JsonNumber) (s : String), Bound.ofScalar (.number n) ≠ .text s) ∧
      (Function.Injective fun n => Postgres.Parameter.ofBound (.ofScalar (.ofInteger n))) ∧
      (Function.Injective fun n => Mysql.Parameter.ofBound (.ofScalar (.ofInteger n))) ∧
      Function.Injective fun n => Sqlite.Value.ofBound (.ofScalar (.ofInteger n)) := by
  refine ⟨PreparedCall.sendsArguments, ?_, ?_, ?_, ?_⟩
  · intro n s
    rw [Bound.ofScalar]
    cases n with
    | float x finite => simp [Bound.ofNumber_float]
    | integer n fits =>
      rw [Bound.ofNumber_integer]
      split <;> simp
  · intro n m (h : Postgres.Parameter.ofBound _ = _)
    have hn := Postgres.Parameter.carries_ofScalar (.ofInteger n)
    rw [h] at hn
    exact Scalar.ofInteger_injective (hn.unique (Postgres.Parameter.carries_ofScalar _))
  · intro n m (h : Mysql.Parameter.ofBound _ = _)
    have hn := Mysql.Parameter.carries_ofScalar (.ofInteger n)
    rw [h] at hn
    exact Scalar.ofInteger_injective (hn.unique (Mysql.Parameter.carries_ofScalar _))
  · intro n m (h : Sqlite.Value.ofBound _ = _)
    have hn := Sqlite.Value.carries_ofScalar (.ofInteger n)
    rw [h] at hn
    exact Subtype.ext (hn.integer_unique (Sqlite.Value.carries_ofScalar (.ofInteger m)))

end Gateway

end SqlGateway
