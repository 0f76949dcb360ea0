/-
# Numbers determine their digits

A number is written with at least so many digits, with zeros in front if it has fewer, and with
none of them if it has more.  That rule leaves no choice.

* `value_inj`: as many digits with the same value are the same;
* `writes_iff`: what is written by the rule is `padded`, and nothing else is;
* `padded_append_inj`: a number of fixed width can be told from what is behind it;
* `writesFraction_iff`: the digits of a fraction, without zeros at the end, leave no choice either.
-/
import Mathlib.Data.List.DropRight
import Mathlib.Data.List.Induction
import Mathlib.Data.Nat.Digits.Defs
import SqlGateway.Number.Digits

namespace SqlGateway.Digits

variable {width n n' : Nat} {ds es cs cs' : List Char} {c d : Char}

/-! ## 1. The value of digits -/

theorem digitValue_lt (h : c.isDigit) : digitValue c < 10 := by
  simp only [Char.isDigit, Bool.and_eq_true, decide_eq_true_eq] at h
  have hhigh : c.toNat ≤ 57 := h.2
  rw [digitValue]
  omega

theorem digitValue_inj (hc : c.isDigit) (hd : d.isDigit) (h : digitValue c = digitValue d) :
    c = d := by
  simp only [Char.isDigit, Bool.and_eq_true, decide_eq_true_eq] at hc hd
  have hlow : 48 ≤ c.toNat := hc.1
  have hlow' : 48 ≤ d.toNat := hd.1
  rw [digitValue, digitValue] at h
  exact Char.toNat_inj.mp (by omega)

theorem value_append (ds es : List Char) :
    value (ds ++ es) = value ds * 10 ^ es.length + value es := by
  induction es using List.reverseRecOn with
  | nil => simp
  | append_singleton es e ih =>
    rw [← List.append_assoc, value_append_singleton, ih, value_append_singleton, List.length_append,
      List.length_singleton, Nat.pow_succ, Nat.add_mul, Nat.mul_assoc, Nat.add_assoc]

theorem value_replicate_zero (k : Nat) : value (List.replicate k '0') = 0 := by
  simpa using value_replicate_zero_append k []

theorem value_append_zeros (ds : List Char) (k : Nat) :
    value (ds ++ List.replicate k '0') = value ds * 10 ^ k := by
  rw [value_append, value_replicate_zero, List.length_replicate, Nat.add_zero]

theorem value_lt_pow (h : ∀ c ∈ ds, c.isDigit) : value ds < 10 ^ ds.length := by
  induction ds using List.reverseRecOn with
  | nil => exact Nat.one_pos
  | append_singleton ds d ih =>
    have hds := ih fun c hc => h c (List.mem_append_left _ hc)
    have hd := digitValue_lt (h d (List.mem_append_right _ (List.mem_singleton_self d)))
    rw [value_append_singleton, List.length_append, List.length_singleton, Nat.pow_succ]
    omega

/-- **As many digits with the same value are the same.** -/
theorem value_inj (hds : ∀ c ∈ ds, c.isDigit) (hes : ∀ c ∈ es, c.isDigit)
    (hlength : ds.length = es.length) (h : value ds = value es) : ds = es := by
  induction ds using List.reverseRecOn generalizing es with
  | nil => exact (List.length_eq_zero_iff.mp hlength.symm).symm
  | append_singleton ds d ih =>
    obtain rfl | ⟨es, e, rfl⟩ := List.eq_nil_or_concat' es
    · simp at hlength
    · have hd := hds d (List.mem_append_right _ (List.mem_singleton_self d))
      have he := hes e (List.mem_append_right _ (List.mem_singleton_self e))
      have hdlt := digitValue_lt hd
      have helt := digitValue_lt he
      rw [value_append_singleton, value_append_singleton] at h
      rw [List.length_append, List.length_append] at hlength
      have hinit := ih (fun c hc => hds c (List.mem_append_left _ hc))
        (fun c hc => hes c (List.mem_append_left _ hc)) (Nat.add_right_cancel hlength) (by omega)
      rw [hinit, digitValue_inj hd he (by omega)]

theorem digitValue_ne_zero (hdigit : c.isDigit) (h : c ≠ '0') : digitValue c ≠ 0 :=
  fun hvalue => h (digitValue_inj hdigit (by decide) hvalue)

theorem pow_le_value (hdigit : c.isDigit) (h : c ≠ '0') (ds : List Char) :
    10 ^ ds.length ≤ value (c :: ds) := by
  have hpos := digitValue_ne_zero hdigit h
  have hvalue : value (c :: ds) = digitValue c * 10 ^ ds.length + value ds := by
    simpa [value] using value_append [c] ds
  have hle := Nat.mul_le_mul_right (10 ^ ds.length) (Nat.one_le_iff_ne_zero.mpr hpos)
  omega

/-! ## 2. Numbers of a width -/

/-- Digits that write a number: at least so many, and more only if the first is not zero. -/
structure Writes (width n : Nat) (ds : List Char) : Prop where
  digit : ∀ c ∈ ds, c.isDigit
  value_eq : value ds = n
  width_le : width ≤ ds.length
  head_ne : width < ds.length → ds.head? ≠ some '0'

theorem Writes.length_le (h : Writes width n ds) (h' : Writes width n es) :
    ds.length ≤ es.length := by
  by_contra hlt
  have hwidth := h'.width_le
  obtain _ | ⟨c, ds⟩ := ds
  · exact hlt (Nat.zero_le _)
  · have hhead : c ≠ '0' := fun hc => h.head_ne (by omega) (congrArg some hc)
    have hlow := pow_le_value (h.digit c List.mem_cons_self) hhead ds
    have hhigh := value_lt_pow h'.digit
    have hvalue := h'.value_eq.trans h.value_eq.symm
    rw [List.length_cons] at hlt
    have hpow := (Nat.pow_lt_pow_iff_right (by decide)).mp (hlow.trans_lt (hvalue ▸ hhigh))
    omega

theorem Writes.unique (h : Writes width n ds) (h' : Writes width n es) : ds = es :=
  value_inj h.digit h'.digit (Nat.le_antisymm (h.length_le h') (h'.length_le h))
    (h.value_eq.trans h'.value_eq.symm)

theorem le_length_padded (width n : Nat) : width ≤ (padded width n).toList.length := by
  simp only [padded, String.toList_ofList, List.length_append, List.length_replicate]
  omega

theorem length_padded (hwidth : 0 < width) (h : n < 10 ^ width) :
    (padded width n).toList.length = width := by
  have hlength := Nat.toDigits_length 10 n width hwidth h
  simp only [padded, String.toList_ofList, List.length_append, List.length_replicate]
  omega

theorem padded_injective (width : Nat) : Function.Injective (padded width) := by
  intro n n' h
  rw [← value_padded width n, h, value_padded]

/-- A number of fixed width can be told from what is behind it. -/
theorem padded_append_inj (hwidth : 0 < width) (hn : n < 10 ^ width) (hn' : n' < 10 ^ width)
    (h : (padded width n).toList ++ cs = (padded width n').toList ++ cs') : n = n' ∧ cs = cs' := by
  obtain ⟨hpadded, hcs⟩ := List.append_inj h
    ((length_padded hwidth hn).trans (length_padded hwidth hn').symm)
  exact ⟨padded_injective width (String.toList_injective hpadded), hcs⟩

theorem head?_toDigits_ne_zero (h : n ≠ 0) : (Nat.toDigits 10 n).head? ≠ some '0' := by
  induction n using Nat.strongRecOn with
  | ind n ih =>
    rcases Nat.lt_or_ge n 10 with hlt | hge
    · have hdigit : ∀ k < 10, k ≠ 0 → Nat.digitChar k ≠ '0' := by decide
      rw [Nat.toDigits_of_lt_base hlt]
      exact fun hhead => hdigit n hlt h (Option.some.inj hhead)
    · rw [Nat.toDigits_of_base_le (by decide) hge,
        List.head?_append_of_ne_nil _ Nat.toDigits_ne_nil]
      exact ih _ (by omega) (by omega)

theorem padded_writes (hwidth : 0 < width) (n : Nat) : Writes width n (padded width n).toList where
  digit := by
    intro c hc
    simp only [padded, String.toList_ofList, List.mem_append] at hc
    rcases hc with hc | hc
    · rw [List.eq_of_mem_replicate hc]
      rfl
    · exact Nat.isDigit_of_mem_toDigits (by decide) (by decide) hc
  value_eq := value_padded width n
  width_le := le_length_padded width n
  head_ne := by
    intro hlong
    simp only [padded, String.toList_ofList, List.length_append, List.length_replicate] at hlong ⊢
    have hnone : width - (Nat.toDigits 10 n).length = 0 := by omega
    rw [hnone, List.replicate_zero, List.nil_append]
    -- the digits are more than one, so the number is not zero
    refine head?_toDigits_ne_zero ?_
    rintro rfl
    rw [Nat.toDigits_of_lt_base (by decide)] at hlong
    simp at hlong
    omega

/-- **What is written by the rule is `padded`.** -/
theorem writes_iff (hwidth : 0 < width) : Writes width n ds ↔ ds = (padded width n).toList := by
  constructor
  · intro h
    exact h.unique (padded_writes hwidth n)
  · rintro rfl
    exact padded_writes hwidth n

theorem toList_padded_one (n : Nat) : (padded 1 n).toList = Nat.toDigits 10 n := by
  have hpos := List.length_pos_of_ne_nil (Nat.toDigits_ne_nil (n := n) (b := 10))
  have hnone : 1 - (Nat.toDigits 10 n).length = 0 := by omega
  simp only [padded, String.toList_ofList, hnone, List.replicate_zero, List.nil_append]

/-! ## 3. Fractions -/

/-- Writing a fraction of so many places: a point, and digits of which the last is not zero; nothing
at all if it is zero. -/
inductive WritesFraction (places : Nat) : Nat → List Char → Prop
  | zero : WritesFraction places 0 []
  | digits {init : List Char} {last : Char} (hdigit : ∀ c ∈ init ++ [last], c.isDigit)
      (hlast : last ≠ '0') (hplaces : (init ++ [last]).length ≤ places) :
      WritesFraction places (value (init ++ [last]) * 10 ^ (places - (init ++ [last]).length))
        ('.' :: (init ++ [last]))

theorem WritesFraction.digit_or_point {places : Nat} (h : WritesFraction places n cs) :
    ∀ c ∈ cs, c.isDigit ∨ c = '.' := by
  cases h with
  | zero => exact List.forall_mem_nil _
  | digits hdigit => exact List.forall_mem_cons.mpr ⟨Or.inr rfl, fun c hc => Or.inl (hdigit c hc)⟩

/-- The digits of a fraction with all its places, without the zeros at the end. -/
def significant (places n : Nat) : List Char := (padded places n).toList.rdropWhile (· == '0')

theorem padded_eq_significant_append (hplaces : 0 < width) (h : n < 10 ^ width) :
    (padded width n).toList =
      significant width n ++ List.replicate (width - (significant width n).length) '0' := by
  have hsplit := List.rdropWhile_append_rtakeWhile (p := (· == '0')) (l := (padded width n).toList)
  have hzeros : (padded width n).toList.rtakeWhile (· == '0') =
      List.replicate ((padded width n).toList.rtakeWhile (· == '0')).length '0' :=
    List.eq_replicate_of_mem fun c hc => by simpa using List.mem_rtakeWhile_imp hc
  have hlength := congrArg List.length hsplit
  rw [List.length_append, length_padded hplaces h] at hlength
  have hcount : ((padded width n).toList.rtakeWhile (· == '0')).length =
      width - (significant width n).length := by rw [significant]; omega
  rw [hcount] at hzeros
  rw [← hzeros]
  exact hsplit.symm

theorem rdropWhile_append_zeros (k : Nat) (hlast : d ≠ '0') :
    (ds ++ [d] ++ List.replicate k '0').rdropWhile (· == '0') = ds ++ [d] := by
  induction k with
  | zero =>
    rw [List.replicate_zero, List.append_nil]
    exact List.rdropWhile_concat_neg _ _ _ (by simpa using hlast)
  | succ k ih =>
    rw [List.replicate_succ', ← List.append_assoc]
    exact (List.rdropWhile_concat_pos _ _ _ rfl).trans ih

theorem significant_eq_init_append (hplaces : 0 < width) (hn : n < 10 ^ width) (h : n ≠ 0) :
    ∃ init last, significant width n = init ++ [last] ∧ last ≠ '0' := by
  obtain hnil | ⟨init, last, hconcat⟩ := List.eq_nil_or_concat' (significant width n)
  · -- digits that are all zero write zero
    have hpadded := padded_eq_significant_append hplaces hn
    rw [hnil, List.nil_append] at hpadded
    have hvalue := value_padded width n
    rw [hpadded, value_replicate_zero] at hvalue
    exact absurd hvalue.symm h
  · refine ⟨init, last, hconcat, ?_⟩
    have hne : significant width n ≠ [] := by simp [hconcat]
    have hlast := List.rdropWhile_last_not (· == '0') (padded width n).toList hne
    have hget : (significant width n).getLast hne = last := by simp [hconcat]
    rintro rfl
    exact hlast (by simpa [significant] using hget)

/-- **The digits of a fraction leave no choice.** -/
theorem writesFraction_iff (hplaces : 0 < width) (hn : n < 10 ^ width) :
    WritesFraction width n cs ↔ cs = if n = 0 then [] else '.' :: significant width n := by
  constructor
  · intro h
    cases h with
    | zero => rfl
    | @digits init last hdigit hlast hlength =>
      have hpos := digitValue_ne_zero (hdigit last (by simp)) hlast
      have hvalue := value_append_zeros (init ++ [last]) (width - (init ++ [last]).length)
      -- with the zeros that were left out it is the padded number
      have hwrites : Writes width (value (init ++ [last]) * 10 ^ (width - (init ++ [last]).length))
          (init ++ [last] ++ List.replicate (width - (init ++ [last]).length) '0') :=
        { digit := by
            intro c hc
            rcases List.mem_append.mp hc with hc | hc
            · exact hdigit c hc
            · rw [List.eq_of_mem_replicate hc]
              rfl
          value_eq := hvalue
          width_le := by rw [List.length_append, List.length_replicate]; omega
          head_ne := by
            intro hlong
            rw [List.length_append, List.length_replicate] at hlong
            omega }
      have hne : value (init ++ [last]) * 10 ^ (width - (init ++ [last]).length) ≠ 0 := by
        rw [value_append_singleton]
        exact Nat.mul_ne_zero (by omega) (Nat.pow_pos (by decide)).ne'
      rw [if_neg hne, significant, ← (writes_iff hplaces).mp hwrites,
        rdropWhile_append_zeros _ hlast]
  · rintro rfl
    split
    · rename_i hzero
      rw [hzero]
      exact .zero
    · rename_i hne
      obtain ⟨init, last, hconcat, hlast⟩ := significant_eq_init_append hplaces hn hne
      have hpadded := padded_eq_significant_append hplaces hn
      have hlength := congrArg List.length hpadded
      rw [length_padded hplaces hn, List.length_append, List.length_replicate] at hlength
      have hvalue := value_padded width n
      rw [hpadded, value_append_zeros] at hvalue
      have hdigit : ∀ c ∈ significant width n, c.isDigit := fun c hc =>
        (padded_writes hplaces n).digit c (hpadded ▸ List.mem_append_left _ hc)
      rw [hconcat] at hlength hvalue hdigit ⊢
      have hwritten : WritesFraction width _ _ := .digits hdigit hlast (by omega)
      rwa [hvalue] at hwritten

end SqlGateway.Digits
