/-
# The text of an interval against the standard style

The parts of an interval that are not zero stand one behind the other.  Years and months have one
sign, but months, days and the clock have one each, so a positive part can follow a negative one,
and then the standard style puts a plus in front of it: `-1 mons +1 day`.

* `Part.writes_iff`: years, months, days and the clock are written as the style has them;
* `joined_iff`: the style leaves no choice;
* `text_eq_intercalate`: the text has the same parts, with blanks alone between them;
* `text_isStandard_iff`: it lacks the plus signs and nothing else, so it is the standard text
  exactly if no part turns positive.
-/
import SqlGateway.Postgres.Interval
import SqlGateway.Proofs.Number.Digits

namespace SqlGateway.Postgres.Interval

/-! ## 1. The standard style -/

/-- The units that are counted. -/
inductive CalendarUnit where
  | year
  | month
  | day
deriving DecidableEq

/-- The word for one of them. -/
def CalendarUnit.name : CalendarUnit → String
  | .year => "year"
  | .month => "mon"
  | .day => "day"

/-- A part of an interval: a count of units, or the clock. -/
inductive Part where
  | count (n : Int) (unit : CalendarUnit)
  | clock (micros : Int)

/-- How many units or microseconds a part is. -/
def Part.amount : Part → Int
  | .count n _ => n
  | .clock micros => micros

/-- The parts that are not zero; if all are, the clock. -/
def parts (v : Interval) : List Part :=
  let nonzero := [Part.count (v.months.tdiv 12) .year, .count (v.months.tmod 12) .month,
    .count v.days .day, .clock v.micros].filter (·.amount ≠ 0)
  if nonzero.isEmpty then [.clock 0] else nonzero

/-- A minus in front of what is below zero. -/
def minus (n : Int) : List Char := if n < 0 then ['-'] else []

/-- Writing a part: every count but 1 has the plural, and the clock has two digits for hours,
minutes and seconds each, or more for the hours. -/
inductive Part.Writes : Part → List Char → Prop
  | count {n : Int} {unit : CalendarUnit} {digits : List Char}
      (hdigits : Digits.Writes 1 n.natAbs digits) :
      Writes (.count n unit)
        (minus n ++ digits ++ ' ' :: (unit.name.toList ++ if n = 1 then [] else ['s']))
  | clock {micros : Int} {hour minute second fraction : Nat} {hh mm ss behind : List Char}
      (hmicros : micros.natAbs = ((hour * 60 + minute) * 60 + second) * 1000000 + fraction)
      (hminute : minute < 60) (hsecond : second < 60) (hfraction : fraction < 1000000)
      (hhh : Digits.Writes 2 hour hh) (hmm : Digits.Writes 2 minute mm)
      (hss : Digits.Writes 2 second ss) (hbehind : Digits.WritesFraction 6 fraction behind) :
      Writes (.clock micros) (minus micros ++ hh ++ ':' :: (mm ++ ':' :: (ss ++ behind)))

/-- A part that is above zero right behind one that is below. -/
def Part.Turns (p q : Part) : Prop := p.amount < 0 ∧ 0 < q.amount

instance (p q : Part) : Decidable (p.Turns q) := inferInstanceAs (Decidable (_ ∧ _))

/-- Writing parts one behind the other: a blank between two, and a plus where they turn positive. -/
inductive Joined : List Part → List Char → Prop
  | last {p : Part} {cs : List Char} (hp : p.Writes cs) : Joined [p] cs
  | blank {p q : Part} {ps : List Part} {cs rest : List Char} (hp : p.Writes cs)
      (hturn : ¬ p.Turns q) (hrest : Joined (q :: ps) rest) :
      Joined (p :: q :: ps) (cs ++ ' ' :: rest)
  | plus {p q : Part} {ps : List Part} {cs rest : List Char} (hp : p.Writes cs)
      (hturn : p.Turns q) (hrest : Joined (q :: ps) rest) :
      Joined (p :: q :: ps) (cs ++ ' ' :: '+' :: rest)

/-- A text of an interval in the standard style. -/
def IsStandard (v : Interval) (s : String) : Prop := Joined v.parts s.toList

/-- A part below zero is directly followed by one above; years and months never turn, as they have
one sign. -/
def TurnsPositive (v : Interval) : Prop :=
  (v.months < 0 ∧ 0 < v.days) ∨ (v.days < 0 ∧ 0 < v.micros) ∨
    (v.months < 0 ∧ v.days = 0 ∧ 0 < v.micros)

/-! ## 2. One part -/

theorem toList_toString (n : Int) : (toString n).toList = minus n ++ Nat.toDigits 10 n.natAbs := by
  rw [Int.toString_eq_repr, Int.repr_eq_if, minus]
  by_cases hneg : n < 0
  · have habs : (-n).toNat = n.natAbs := by omega
    rw [if_neg (by omega), if_pos hneg, String.toList_append, Nat.toList_repr, habs]
    rfl
  · have habs : n.toNat = n.natAbs := by omega
    rw [if_pos (by omega), if_neg hneg, Nat.toList_repr, habs]
    rfl

theorem toList_countText (n : Int) (unit : CalendarUnit) :
    (countText n unit.name).toList = minus n ++ (Digits.padded 1 n.natAbs).toList ++
      ' ' :: (unit.name.toList ++ if n = 1 then [] else ['s']) := by
  have hone : (toString (1 : Int)).toList = ['1'] := rfl
  rw [Digits.toList_padded_one, ← toList_toString, countText]
  split
  · rename_i h
    rw [h, hone, String.toList_append, List.append_nil]
    rfl
  · simp

theorem toList_fractionText (micros : Nat) :
    (fractionText micros).toList = if micros = 0 then [] else '.' :: Digits.significant 6 micros := by
  rw [fractionText]
  split
  · rfl
  · simp [Digits.significant, List.rdropWhile]

theorem toList_clockText (micros : Int) :
    (clockText micros).toList = minus micros ++
      (Digits.padded 2 (micros.natAbs / 1000000 / 3600)).toList ++
      ':' :: ((Digits.padded 2 (micros.natAbs / 1000000 / 60 % 60)).toList ++
      ':' :: ((Digits.padded 2 (micros.natAbs / 1000000 % 60)).toList ++
      (fractionText (micros.natAbs % 1000000)).toList)) := by
  have hminus : (if micros < 0 then "-" else "").toList = minus micros := by
    rw [minus]
    split <;> rfl
  simp [clockText, hminus]

/-- What the program prints for a part. -/
def Part.text : Part → List Char
  | .count n unit => (countText n unit.name).toList
  | .clock micros => (clockText micros).toList

/-- **A part is printed as the style has it.** -/
theorem Part.writes_iff {p : Part} {cs : List Char} : p.Writes cs ↔ cs = p.text := by
  constructor
  · intro h
    cases h with
    | count hdigits =>
      rw [text, toList_countText, ← (Digits.writes_iff (by decide)).mp hdigits]
    | @clock micros hour minute second fraction hh mm ss behind hmicros hminute hsecond hfraction
        hhh hmm hss hbehind =>
      have hhour : micros.natAbs / 1000000 / 3600 = hour := by omega
      have hminute' : micros.natAbs / 1000000 / 60 % 60 = minute := by omega
      have hsecond' : micros.natAbs / 1000000 % 60 = second := by omega
      have hfraction' : micros.natAbs % 1000000 = fraction := by omega
      rw [text, toList_clockText, toList_fractionText, hhour, hminute', hsecond', hfraction',
        ← (Digits.writes_iff (by decide)).mp hhh, ← (Digits.writes_iff (by decide)).mp hmm,
        ← (Digits.writes_iff (by decide)).mp hss,
        ← (Digits.writesFraction_iff (by decide) hfraction).mp hbehind]
  · rintro rfl
    cases p with
    | count n unit =>
      rw [text, toList_countText]
      exact .count (Digits.padded_writes (by decide) _)
    | clock micros =>
      have hfraction : micros.natAbs % 1000000 < 1000000 := Nat.mod_lt _ (by decide)
      rw [text, toList_clockText, toList_fractionText]
      exact .clock (by omega) (by omega) (by omega) hfraction
        (Digits.padded_writes (by decide) _) (Digits.padded_writes (by decide) _)
        (Digits.padded_writes (by decide) _)
        ((Digits.writesFraction_iff (by decide) hfraction).mpr rfl)

/-! ## 3. The parts together -/

/-- Parts with the plus signs of the style. -/
def joined : List Part → List Char
  | [] => []
  | [p] => p.text
  | p :: q :: ps => p.text ++ ' ' :: ((if p.Turns q then ['+'] else []) ++ joined (q :: ps))

theorem joined_iff {ps : List Part} {cs : List Char} :
    Joined ps cs ↔ ps ≠ [] ∧ cs = joined ps := by
  constructor
  · intro h
    induction h with
    | last hp => exact ⟨List.cons_ne_nil _ _, Part.writes_iff.mp hp⟩
    | blank hp hturn _ ih =>
      rw [joined, if_neg hturn, ← ih.2, ← Part.writes_iff.mp hp]
      exact ⟨List.cons_ne_nil _ _, rfl⟩
    | plus hp hturn _ ih =>
      rw [joined, if_pos hturn, ← ih.2, ← Part.writes_iff.mp hp]
      exact ⟨List.cons_ne_nil _ _, rfl⟩
  · rintro ⟨hne, rfl⟩
    induction ps using joined.induct with
    | case1 => exact absurd rfl hne
    | case2 p => exact .last (Part.writes_iff.mpr rfl)
    | case3 p q ps ih =>
      have hrest := ih (List.cons_ne_nil _ _)
      rw [joined]
      split
      · exact .plus (Part.writes_iff.mpr rfl) ‹_› hrest
      · exact .blank (Part.writes_iff.mpr rfl) ‹_› hrest

theorem parts_ne_nil (v : Interval) : v.parts ≠ [] := by
  rw [parts]
  split
  · exact List.cons_ne_nil _ _
  · rename_i h
    exact fun hnil => h (List.isEmpty_iff.mpr hnil)

theorem isStandard_iff {v : Interval} {s : String} : v.IsStandard s ↔ s.toList = joined v.parts := by
  rw [IsStandard, joined_iff]
  exact and_iff_right v.parts_ne_nil

/-! ## 4. The plus signs -/

/-- The characters of numbers and of the clock. -/
def IsNumeral (c : Char) : Prop := c.isDigit ∨ c ∈ ['-', ':', '.']

instance (c : Char) : Decidable (IsNumeral c) := inferInstanceAs (Decidable (_ ∨ _))

theorem isNumeral_minus (n : Int) : ∀ c ∈ minus n, IsNumeral c := by
  rw [minus]
  split
  · exact List.forall_mem_singleton.mpr (by decide)
  · exact List.forall_mem_nil _

theorem isNumeral_digits {width n : Nat} {ds : List Char} (h : Digits.Writes width n ds) :
    ∀ c ∈ ds, IsNumeral c := fun c hc => Or.inl (h.digit c hc)

theorem isNumeral_fraction {places n : Nat} {cs : List Char}
    (h : Digits.WritesFraction places n cs) : ∀ c ∈ cs, IsNumeral c := by
  intro c hc
  rcases h.digit_or_point c hc with hdigit | rfl
  · exact Or.inl hdigit
  · decide

theorem isNumeral_clock {micros : Int} {cs : List Char} (h : (Part.clock micros).Writes cs) :
    ∀ c ∈ cs, IsNumeral c := by
  cases h with
  | clock _ _ _ _ hhh hmm hss hbehind =>
    simp only [List.forall_mem_append, List.forall_mem_cons]
    exact ⟨⟨isNumeral_minus _, isNumeral_digits hhh⟩, by decide, isNumeral_digits hmm, by decide,
      isNumeral_digits hss, isNumeral_fraction hbehind⟩

theorem isAlpha_unit (unit : CalendarUnit) (n : Int) :
    ∀ c ∈ unit.name.toList ++ if n = 1 then [] else ['s'], c.isAlpha := by
  refine List.all_eq_true.mp ?_
  cases unit <;> split <;> rfl

/-- The words of a part: a number and the word for its unit, or the clock. -/
def Part.words : Part → List (List Char)
  | .count n unit =>
    [minus n ++ (Digits.padded 1 n.natAbs).toList,
      unit.name.toList ++ if n = 1 then [] else ['s']]
  | .clock micros => [(clockText micros).toList]

theorem Part.intercalate_words (p : Part) : [' '].intercalate p.words = p.text := by
  cases p with
  | count n unit =>
    rw [words, List.intercalate_cons_cons, List.intercalate_singleton, text, toList_countText,
      List.append_assoc _ [' '], List.singleton_append]
  | clock micros => rw [words, List.intercalate_singleton, text]

/-- A word is a numeral or it has letters only. -/
theorem Part.mem_words {p : Part} {w : List Char} (h : w ∈ p.words) :
    (∀ c ∈ w, IsNumeral c) ∨ ∀ c ∈ w, c.isAlpha := by
  cases p with
  | count n unit =>
    rcases List.mem_pair.mp h with rfl | rfl
    · left
      exact List.forall_mem_append.mpr
        ⟨isNumeral_minus n, isNumeral_digits (Digits.padded_writes (by decide) _)⟩
    · exact Or.inr (isAlpha_unit unit n)
  | clock micros =>
    obtain rfl := List.mem_singleton.mp h
    exact Or.inl (isNumeral_clock (writes_iff.mpr rfl))

theorem Part.not_mem_of_mem_words {p : Part} {w : List Char} {c : Char} (hnumeral : ¬ IsNumeral c)
    (halpha : ¬ c.isAlpha) (h : w ∈ p.words) : c ∉ w := by
  intro hc
  rcases mem_words h with hw | hw
  · exact hnumeral (hw c hc)
  · exact halpha (hw c hc)

/-- No part is printed with a plus. -/
theorem Part.plus_not_mem (p : Part) : '+' ∉ p.text := by
  have hwords : ∀ w ∈ p.words, '+' ∉ w := fun w hw =>
    not_mem_of_mem_words (by decide) (by decide) hw
  rw [← intercalate_words]
  cases p with
  | count n unit =>
    obtain ⟨hnumber, hunit⟩ := List.forall_mem_cons.mp hwords
    rw [words, List.intercalate_cons_cons, List.intercalate_singleton, List.mem_append,
      List.mem_append, List.mem_singleton]
    rintro ((hmem | hblank) | hmem)
    · exact hnumber hmem
    · exact absurd hblank (by decide)
    · exact hunit _ (List.mem_singleton_self _) hmem
  | clock micros =>
    rw [words, List.intercalate_singleton]
    exact hwords _ (List.mem_singleton_self _)

theorem Part.filter_text (p : Part) : p.text.filter (· ≠ '+') = p.text := by
  refine List.filter_eq_self.mpr fun c hc => decide_eq_true ?_
  rintro rfl
  exact p.plus_not_mem hc

/-- **Without its plus signs the standard text has blanks alone between the parts.** -/
theorem filter_joined (ps : List Part) :
    (joined ps).filter (· ≠ '+') = [' '].intercalate (ps.map Part.text) := by
  induction ps using joined.induct with
  | case1 => rfl
  | case2 p => rw [joined, Part.filter_text, List.map_singleton, List.intercalate_singleton]
  | case3 p q ps ih =>
    have hplus : (if p.Turns q then ['+'] else []).filter (· ≠ '+') = [] := by split <;> rfl
    rw [joined, List.filter_append, Part.filter_text, List.filter_cons_of_pos (by decide),
      List.filter_append, hplus, ih, List.nil_append, List.map_cons, List.map_cons,
      List.map_cons, List.intercalate_cons_cons, List.append_assoc, List.singleton_append]

theorem plus_mem_joined_iff (ps : List Part) :
    '+' ∈ joined ps ↔ ¬ ps.IsChain fun p q => ¬ p.Turns q := by
  induction ps using joined.induct with
  | case1 => simp [joined]
  | case2 p => simp [joined, p.plus_not_mem]
  | case3 p q ps ih =>
    rw [joined, List.isChain_cons_cons, List.mem_append, List.mem_cons, List.mem_append, ih]
    by_cases hturn : p.Turns q <;> simp [hturn, p.plus_not_mem]

/-! ## 5. The printed text -/

/-- **The text has the parts of the standard style, with blanks alone between them.** -/
theorem text_eq_intercalate (v : Interval) :
    v.text.toList = [' '].intercalate (v.parts.map Part.text) := by
  have hblank : (" " : String).toList = [' '] := rfl
  rw [text, String.toList_intercalate, hblank, calendarParts, parts]
  -- a part that is zero is left out on both sides
  by_cases hyear : v.months.tdiv 12 = 0 <;> by_cases hmonth : v.months.tmod 12 = 0 <;>
    by_cases hday : v.days = 0 <;> by_cases hclock : v.micros = 0 <;>
      simp [hyear, hmonth, hday, hclock, Part.amount, Part.text, CalendarUnit.name]

/-- Years and months have the sign of the months that they come from. -/
theorem months_split (months : Int) :
    12 * months.tdiv 12 + months.tmod 12 = months ∧
      (0 ≤ months → 0 ≤ months.tdiv 12 ∧ 0 ≤ months.tmod 12) ∧
      (months ≤ 0 → months.tdiv 12 ≤ 0 ∧ months.tmod 12 ≤ 0) := by
  refine ⟨Int.mul_tdiv_add_tmod months 12, ?_, ?_⟩
  · intro h
    exact ⟨Int.tdiv_nonneg h (by decide), Int.tmod_nonneg 12 h⟩
  · intro h
    have hneg : 0 ≤ -months := by omega
    have hdiv := Int.tdiv_nonneg hneg (b := 12) (by decide)
    have hmod := Int.tmod_nonneg 12 hneg
    rw [Int.neg_tdiv] at hdiv
    rw [Int.neg_tmod] at hmod
    exact ⟨by omega, by omega⟩

theorem isChain_parts_iff (v : Interval) :
    (v.parts.IsChain fun p q => ¬ p.Turns q) ↔ ¬ v.TurnsPositive := by
  obtain ⟨hsplit, hpos, hneg⟩ := months_split v.months
  rw [parts]
  -- which parts are neighbours depends on those that are left out between them
  by_cases hyear : v.months.tdiv 12 = 0 <;> by_cases hmonth : v.months.tmod 12 = 0 <;>
    by_cases hday : v.days = 0 <;> by_cases hclock : v.micros = 0 <;>
      simp [hyear, hmonth, hday, hclock, Part.amount, Part.Turns, TurnsPositive] <;> omega

/-- **The text of an interval is in the standard style exactly if no part turns positive, and if one
does, only plus signs are missing.**  Every interval has one standard text. -/
theorem text_isStandard_iff (v : Interval) :
    (∃! s, v.IsStandard s) ∧
      (∀ s, v.IsStandard s → s.toList.filter (· ≠ '+') = v.text.toList) ∧
      (v.IsStandard v.text ↔ ¬ v.TurnsPositive) := by
  have hplain : (joined v.parts).filter (· ≠ '+') = v.text.toList := by
    rw [filter_joined, text_eq_intercalate]
  refine ⟨⟨String.ofList (joined v.parts), ?_, ?_⟩, ?_, ?_⟩
  · exact isStandard_iff.mpr String.toList_ofList
  · intro s hs
    rw [← isStandard_iff.mp hs, String.ofList_toList]
  · intro s hs
    rw [isStandard_iff.mp hs, hplain]
  · rw [isStandard_iff, ← hplain, List.filter_eq_self, ← isChain_parts_iff]
    constructor
    · intro hnone
      by_contra hturn
      exact absurd (hnone '+' ((plus_mem_joined_iff _).mpr hturn)) (by decide)
    · intro hchain c hc
      refine decide_eq_true ?_
      rintro rfl
      exact (plus_mem_joined_iff _).mp hc hchain

/-- One month back and a day on: the standard text has a plus that the printed one lacks. -/
theorem text_lacks_plus :
    (⟨-1, 1, 0⟩ : Interval).text = "-1 mons 1 day" ∧
      (⟨-1, 1, 0⟩ : Interval).IsStandard "-1 mons +1 day" ∧
      ¬ (⟨-1, 1, 0⟩ : Interval).IsStandard (⟨-1, 1, 0⟩ : Interval).text := by
  have htext : (⟨-1, 1, 0⟩ : Interval).text = "-1 mons 1 day" := by cbv
  have hjoined : joined (⟨-1, 1, 0⟩ : Interval).parts = "-1 mons +1 day".toList := by cbv
  refine ⟨htext, isStandard_iff.mpr hjoined.symm, ?_⟩
  rw [isStandard_iff, htext, hjoined]
  decide

end SqlGateway.Postgres.Interval
