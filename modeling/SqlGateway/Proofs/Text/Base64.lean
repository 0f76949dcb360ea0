/-
# Base64 is a bijection

Every byte sequence has exactly one text that is read as it, the one that `encode` writes
(`decode?_eq_some_iff`).  No other text is accepted, neither one without its filling nor one with
bits left over, so two headers with the same bytes are the same header.
-/
import Mathlib.Data.Option.Basic
import SqlGateway.Text.Base64

namespace SqlGateway.Text.Base64

/-! ## 1. Digits -/

theorem digit_value {c : Char} {n : Nat} (h : value? c = some n) : n < 64 ∧ digit n = c := by
  have hc := Char.ofNat_toNat c
  unfold value? at h
  split at h
  next hupper =>
    obtain ⟨hlow, hhigh⟩ : 65 ≤ c.toNat ∧ c.toNat ≤ 90 := by
      simpa [UInt32.le_iff_toNat_le] using of_decide_eq_true hupper
    cases h
    have hn : 65 + (c.toNat - 65) = c.toNat := by omega
    refine ⟨by omega, ?_⟩
    rw [digit, if_pos (by omega), hn, hc]
  split at h
  next hlower =>
    obtain ⟨hlow, hhigh⟩ : 97 ≤ c.toNat ∧ c.toNat ≤ 122 := by
      simpa [UInt32.le_iff_toNat_le] using Bool.and_eq_true_iff.mp hlower
    cases h
    have hn : 97 + (c.toNat - 97 + 26 - 26) = c.toNat := by omega
    refine ⟨by omega, ?_⟩
    rw [digit, if_neg (by omega), if_pos (by omega), hn, hc]
  split at h
  next hdigit =>
    obtain ⟨hlow, hhigh⟩ : 48 ≤ c.toNat ∧ c.toNat ≤ 57 := by
      simpa [UInt32.le_iff_toNat_le] using Bool.and_eq_true_iff.mp hdigit
    cases h
    have hn : 48 + (c.toNat - 48 + 52 - 52) = c.toNat := by omega
    refine ⟨by omega, ?_⟩
    rw [digit, if_neg (by omega), if_neg (by omega), if_pos (by omega), hn, hc]
  split at h
  next hplus =>
    cases h
    exact ⟨by decide, hplus.symm⟩
  split at h
  next hslash =>
    cases h
    exact ⟨by decide, hslash.symm⟩
  next => cases h

theorem digit_ne_filling : ∀ n, n < 64 → digit n ≠ '=' := by decide

/-! ## 2. Texts -/

theorem decode?_encode (bytes : List UInt8) : decode? (encode bytes) = some bytes := by
  fun_induction encode bytes with
  | case1 => rfl
  | case2 a =>
    have ha := a.toNat_lt
    have hjoin : a.toNat / 4 * 4 + a.toNat % 4 * 16 / 16 = a.toNat := by omega
    rw [decode?, value?_digit _ (by omega), value?_digit _ (by omega)]
    have hrest : a.toNat % 4 * 16 % 16 = 0 := by omega
    simp only [Option.bind_eq_bind, Option.bind_some, hjoin, UInt8.ofNat_toNat, hrest]
    rfl
  | case3 a b =>
    have ha := a.toNat_lt
    have hb := b.toNat_lt
    have hrest : b.toNat % 16 * 4 % 4 = 0 := by omega
    have hfilling : digit (b.toNat % 16 * 4) ≠ '=' := digit_ne_filling _ (by omega)
    have hjoin : a.toNat / 4 * 4 + (a.toNat % 4 * 16 + b.toNat / 16) / 16 = a.toNat := by omega
    have hjoin' : (a.toNat % 4 * 16 + b.toNat / 16) % 16 * 16 + b.toNat % 16 * 4 / 4 = b.toNat := by
      omega
    rw [decode?, value?_digit _ (by omega), value?_digit _ (by omega), value?_digit _ (by omega)]
    · simp only [Option.bind_eq_bind, Option.bind_some, hjoin, hjoin', UInt8.ofNat_toNat, hrest]
      rfl
    · exact hfilling
  | case4 a b c rest ih =>
    have ha := a.toNat_lt
    have hb := b.toNat_lt
    have hc := c.toNat_lt
    have hfilling : digit (c.toNat % 64) ≠ '=' := digit_ne_filling _ (by omega)
    have hjoin : a.toNat / 4 * 4 + (a.toNat % 4 * 16 + b.toNat / 16) / 16 = a.toNat := by omega
    have hjoin' : (a.toNat % 4 * 16 + b.toNat / 16) % 16 * 16 +
        (b.toNat % 16 * 4 + c.toNat / 64) / 4 = b.toNat := by omega
    have hjoin'' : (b.toNat % 16 * 4 + c.toNat / 64) % 4 * 64 + c.toNat % 64 = c.toNat := by omega
    rw [decode?, value?_digit _ (by omega), value?_digit _ (by omega), value?_digit _ (by omega),
      value?_digit _ (by omega), ih]
    · simp only [Option.bind_eq_bind, Option.bind_some, hjoin, hjoin', hjoin'', UInt8.ofNat_toNat]
      rfl
    · exact fun _ h => absurd h hfilling
    · exact fun h => absurd h hfilling

theorem encode_of_decode? {cs : List Char} {bytes : List UInt8} (h : decode? cs = some bytes) :
    encode bytes = cs := by
  fun_induction decode? cs generalizing bytes with
  | case1 =>
    cases h
    rfl
  | case2 ca cb =>
    obtain ⟨a, ha, b, hb, hrest, hbytes⟩ : ∃ a, value? ca = some a ∧ ∃ b, value? cb = some b ∧
        b % 16 = 0 ∧ [UInt8.ofNat (a * 4 + b / 16)] = bytes := by
      simpa only [Option.bind_eq_bind, Option.bind_eq_some_iff, Option.guard_eq_some', exists_const,
        Option.pure_def, Option.some.injEq] using h
    obtain ⟨ha, rfl⟩ := digit_value ha
    obtain ⟨hb, rfl⟩ := digit_value hb
    have h1 : (a * 4 + b / 16) % 2 ^ 8 / 4 = a := by omega
    have h2 : (a * 4 + b / 16) % 2 ^ 8 % 4 * 16 = b := by omega
    simp only [← hbytes, encode, UInt8.toNat_ofNat']
    rw [h1, h2]
  | case3 ca cb cc hc =>
    obtain ⟨a, ha, b, hb, c, hc, hrest, hbytes⟩ : ∃ a, value? ca = some a ∧
        ∃ b, value? cb = some b ∧ ∃ c, value? cc = some c ∧ c % 4 = 0 ∧
          [UInt8.ofNat (a * 4 + b / 16), UInt8.ofNat (b % 16 * 16 + c / 4)] = bytes := by
      simpa only [Option.bind_eq_bind, Option.bind_eq_some_iff, Option.guard_eq_some', exists_const,
        Option.pure_def, Option.some.injEq] using h
    obtain ⟨ha, rfl⟩ := digit_value ha
    obtain ⟨hb, rfl⟩ := digit_value hb
    obtain ⟨hc, rfl⟩ := digit_value hc
    have h1 : (a * 4 + b / 16) % 2 ^ 8 / 4 = a := by omega
    have h2 : (a * 4 + b / 16) % 2 ^ 8 % 4 * 16 + (b % 16 * 16 + c / 4) % 2 ^ 8 / 16 = b := by
      omega
    have h3 : (b % 16 * 16 + c / 4) % 2 ^ 8 % 16 * 4 = c := by omega
    simp only [← hbytes, encode, UInt8.toNat_ofNat']
    rw [h1, h2, h3]
  | case4 ca cb cc cd rest _ _ ih =>
    obtain ⟨a, ha, b, hb, c, hc, d, hd, bytes', hbytes', hbytes⟩ : ∃ a, value? ca = some a ∧
        ∃ b, value? cb = some b ∧ ∃ c, value? cc = some c ∧ ∃ d, value? cd = some d ∧
          ∃ bytes', decode? rest = some bytes' ∧
            UInt8.ofNat (a * 4 + b / 16) :: UInt8.ofNat (b % 16 * 16 + c / 4) ::
              UInt8.ofNat (c % 4 * 64 + d) :: bytes' = bytes := by
      simpa only [Option.bind_eq_bind, Option.bind_eq_some_iff, Option.pure_def,
        Option.some.injEq] using h
    obtain ⟨ha, rfl⟩ := digit_value ha
    obtain ⟨hb, rfl⟩ := digit_value hb
    obtain ⟨hc, rfl⟩ := digit_value hc
    obtain ⟨hd, rfl⟩ := digit_value hd
    have h1 : (a * 4 + b / 16) % 2 ^ 8 / 4 = a := by omega
    have h2 : (a * 4 + b / 16) % 2 ^ 8 % 4 * 16 + (b % 16 * 16 + c / 4) % 2 ^ 8 / 16 = b := by
      omega
    have h3 : (b % 16 * 16 + c / 4) % 2 ^ 8 % 16 * 4 + (c % 4 * 64 + d) % 2 ^ 8 / 64 = c := by
      omega
    have h4 : (c % 4 * 64 + d) % 2 ^ 8 % 64 = d := by omega
    simp only [← hbytes, encode, ih hbytes', UInt8.toNat_ofNat']
    rw [h1, h2, h3, h4]
  | case5 => cases h

/-- **A text is read as some bytes exactly if it is what is written for them.** -/
theorem decode?_eq_some_iff {cs : List Char} {bytes : List UInt8} :
    decode? cs = some bytes ↔ cs = encode bytes := by
  constructor
  · exact fun h => (encode_of_decode? h).symm
  · rintro rfl
    exact decode?_encode bytes

end SqlGateway.Text.Base64
