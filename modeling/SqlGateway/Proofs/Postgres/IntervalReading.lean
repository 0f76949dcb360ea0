/-
# The text of an interval is read back

A reader of the printed format finds the interval again, so no two print the same text.  Parts that
are zero leave no trace, so the reader goes by the words for the units and not by their places; and
the clock, which alone has no unit, can only be the last.

* `read?_text`: what is printed for an interval is read as it;
* `Words.text_eq`: reckoned in machine words, where every step can overflow, the text is the same;
* `text_lossless`: so every interval that a store can send is to be had from its cell.
-/
import SqlGateway.Postgres.Value
import SqlGateway.Proofs.Postgres.Interval
import SqlGateway.Proofs.Postgres.Numeric

namespace SqlGateway.Postgres.Interval

/-! ## 1. The reader -/

/-- The number that digits write. -/
def readDigits? (ds : List Char) : Option Nat :=
  if ds.all Char.isDigit then some (Digits.value ds) else none

/-- A number with a minus in front or without one; `read?` reads what is behind it. -/
def readSigned? (read? : List Char → Option Nat) (cs : List Char) : Option Int :=
  if cs.head? = some '-' then (read? cs.tail).map fun n : Nat => -(n : Int)
  else (read? cs).map Nat.cast

/-- Seconds and their fraction, in microseconds. -/
def readSeconds? (cs : List Char) : Option Nat :=
  match cs.splitOn '.' with
  | [ss] => (readDigits? ss).map (· * 1000000)
  | [ss, places] => do
    let second ← readDigits? ss
    let fraction ← readDigits? places
    return second * 1000000 + fraction * 10 ^ (6 - places.length)
  | _ => none

/-- Hours, minutes and seconds, in microseconds. -/
def readClock? (cs : List Char) : Option Nat :=
  match cs.splitOn ':' with
  | [hh, mm, rest] => do
    let hour ← readDigits? hh
    let minute ← readDigits? mm
    let micros ← readSeconds? rest
    return (hour * 60 + minute) * 60000000 + micros
  | _ => none

/-- The word for a unit, with the plural or without. -/
def readUnit? (cs : List Char) : Option CalendarUnit :=
  [CalendarUnit.year, .month, .day].find? fun unit =>
    cs = unit.name.toList ∨ cs = unit.name.toList ++ ['s']

/-- Counts, two words each, and behind them the clock if there is one more word. -/
def readParts? : List (List Char) → Option (List Part)
  | [] => some []
  | [clock] => (readSigned? readClock? clock).map fun micros => [.clock micros]
  | number :: unit :: words => do
    let n ← readSigned? readDigits? number
    let unit ← readUnit? unit
    return .count n unit :: (← readParts? words)

/-- An interval with a part more. -/
def Part.addTo : Part → Interval → Interval
  | .count n .year, v => { v with months := v.months + 12 * n }
  | .count n .month, v => { v with months := v.months + n }
  | .count n .day, v => { v with days := v.days + n }
  | .clock micros, v => { v with micros := v.micros + micros }

/-- What parts come to. -/
def total (ps : List Part) : Interval := ps.foldr Part.addTo ⟨0, 0, 0⟩

/-- The interval that a text is of. -/
def read? (s : String) : Option Interval := (readParts? (s.toList.splitOn ' ')).map total

/-! ## 2. Words -/

theorem not_mem_of_digits {ds : List Char} {c : Char} (h : ∀ d ∈ ds, d.isDigit)
    (hc : ¬ c.isDigit) : c ∉ ds := fun hmem => hc (h c hmem)

theorem readDigits?_of_writes {width n : Nat} {ds : List Char} (h : Digits.Writes width n ds) :
    readDigits? ds = some n := by
  rw [readDigits?, if_pos (List.all_eq_true.mpr h.digit), h.value_eq]

theorem head?_append_ne_minus {width n : Nat} {ds : List Char} (h : Digits.Writes width n ds)
    (hwidth : 0 < width) (rest : List Char) : (ds ++ rest).head? ≠ some '-' := by
  have hle := h.width_le
  cases ds with
  | nil => exact absurd hle (Nat.not_le_of_lt hwidth)
  | cons d ds =>
    intro hhead
    have hd := h.digit d List.mem_cons_self
    rw [Option.some.inj hhead] at hd
    exact absurd hd (by decide)

theorem readSigned?_minus {read? : List Char → Option Nat} {n : Int} {cs : List Char}
    (hread : read? cs = some n.natAbs) (hhead : cs.head? ≠ some '-') :
    readSigned? read? (minus n ++ cs) = some n := by
  rw [readSigned?, minus]
  by_cases hneg : n < 0
  · have habs : -(n.natAbs : Int) = n := by omega
    rw [if_pos hneg, List.singleton_append, List.head?_cons, if_pos rfl, List.tail_cons, hread,
      Option.map_some, habs]
  · have habs : (n.natAbs : Int) = n := by omega
    rw [if_neg hneg, List.nil_append, if_neg hhead, hread, Option.map_some, habs]

theorem readUnit?_name (unit : CalendarUnit) (n : Int) :
    readUnit? (unit.name.toList ++ if n = 1 then [] else ['s']) = some unit := by
  cases unit <;> split <;> decide

/-! ## 3. The clock -/

theorem readSeconds?_of_writes {second fraction : Nat} {ss behind : List Char}
    (hss : Digits.Writes 2 second ss) (hbehind : Digits.WritesFraction 6 fraction behind) :
    readSeconds? (ss ++ behind) = some (second * 1000000 + fraction) := by
  have hpoint : '.' ∉ ss := not_mem_of_digits hss.digit (by decide)
  cases hbehind with
  | zero =>
    have hsplit := @List.splitOn_intercalate _ [ss] _ _ '.' (List.forall_mem_singleton.mpr hpoint)
      (List.cons_ne_nil _ _)
    rw [List.intercalate_singleton] at hsplit
    rw [List.append_nil, readSeconds?, hsplit]
    simp [readDigits?_of_writes hss]
  | @digits init last hdigit hlast hplaces =>
    have hpoint' : '.' ∉ init ++ [last] := not_mem_of_digits hdigit (by decide)
    have hsplit := @List.splitOn_intercalate _ [ss, init ++ [last]] _ _ '.'
      (List.forall_mem_cons.mpr ⟨hpoint, List.forall_mem_singleton.mpr hpoint'⟩)
      (List.cons_ne_nil _ _)
    rw [List.intercalate_cons_cons, List.intercalate_singleton, List.append_assoc,
      List.singleton_append] at hsplit
    have hread : readDigits? (init ++ [last]) = some (Digits.value (init ++ [last])) := by
      rw [readDigits?, if_pos (List.all_eq_true.mpr hdigit)]
    rw [readSeconds?, hsplit]
    simp only [readDigits?_of_writes hss, hread]
    rfl

/-- **The clock is read as the microseconds that it shows.** -/
theorem readSigned?_clock {micros : Int} {cs : List Char} (h : (Part.clock micros).Writes cs) :
    readSigned? readClock? cs = some micros := by
  cases h with
  | @clock _ hour minute second fraction hh mm ss behind hmicros _ _ _ hhh hmm hss hbehind =>
    have hseconds : ':' ∉ ss ++ behind := by
      intro hmem
      rcases List.mem_append.mp hmem with hmem | hmem
      · exact not_mem_of_digits hss.digit (by decide) hmem
      · exact absurd (hbehind.digit_or_point _ hmem) (by decide)
    have hcolon : ∀ cs ∈ [hh, mm, ss ++ behind], ':' ∉ cs := by
      refine List.forall_mem_cons.mpr ⟨not_mem_of_digits hhh.digit (by decide), ?_⟩
      refine List.forall_mem_cons.mpr ⟨not_mem_of_digits hmm.digit (by decide), ?_⟩
      exact List.forall_mem_singleton.mpr hseconds
    have hsplit := List.splitOn_intercalate ':' hcolon (List.cons_ne_nil _ _)
    rw [List.intercalate_cons_cons, List.intercalate_cons_cons, List.intercalate_singleton,
      List.append_assoc, List.append_assoc, List.singleton_append, List.singleton_append] at hsplit
    have hread : readClock? (hh ++ ':' :: (mm ++ ':' :: (ss ++ behind))) = some micros.natAbs := by
      rw [readClock?, hsplit, hmicros]
      simp only [readDigits?_of_writes hhh, readDigits?_of_writes hmm,
        readSeconds?_of_writes hss hbehind]
      refine congrArg some ?_
      omega
    rw [List.append_assoc]
    exact readSigned?_minus hread (head?_append_ne_minus hhh (by decide) _)

/-! ## 4. The parts -/

theorem Part.words_ne_nil (p : Part) : p.words ≠ [] := by
  cases p <;> exact List.cons_ne_nil _ _

section

variable {α β : Type} {sep : List β}

theorem intercalate_append {xs ys : List (List β)} (hxs : xs ≠ []) (hys : ys ≠ []) :
    sep.intercalate (xs ++ ys) = sep.intercalate xs ++ sep ++ sep.intercalate ys := by
  induction xs with
  | nil => exact absurd rfl hxs
  | cons x xs ih =>
    cases xs with
    | nil =>
      rw [List.singleton_append, List.intercalate_cons_of_ne_nil hys, List.intercalate_singleton]
    | cons x' xs =>
      rw [List.cons_append, List.intercalate_cons_of_ne_nil (by simp), ih (by simp),
        List.intercalate_cons_cons]
      simp only [List.append_assoc]

/-- Joined words that are joined again are the words joined at once. -/
theorem intercalate_flatMap {f : α → List (List β)} (hf : ∀ a, f a ≠ []) (l : List α) :
    sep.intercalate (l.flatMap f) = sep.intercalate (l.map fun a => sep.intercalate (f a)) := by
  induction l with
  | nil => rfl
  | cons a l ih =>
    cases l with
    | nil => simp
    | cons b l =>
      have hne : (b :: l).flatMap f ≠ [] := by
        rw [List.flatMap_cons]
        exact List.append_ne_nil_of_left_ne_nil (hf b) _
      rw [List.flatMap_cons, intercalate_append (hf a) hne, ih, List.map_cons, List.map_cons,
        List.map_cons, List.intercalate_cons_cons]

end

/-- Only the last part is the clock. -/
def ClockLast (ps : List Part) : Prop := ps.Pairwise fun p _ => ∃ n unit, p = .count n unit

theorem readParts?_words {ps : List Part} (h : ClockLast ps) :
    readParts? (ps.flatMap Part.words) = some ps := by
  induction ps with
  | nil => rfl
  | cons p ps ih =>
    obtain ⟨hhead, htail⟩ := List.pairwise_cons.mp h
    cases p with
    | count n unit =>
      have hdigits : Digits.Writes 1 n.natAbs _ := Digits.padded_writes (by decide) n.natAbs
      have hhead := head?_append_ne_minus hdigits (by decide) []
      rw [List.append_nil] at hhead
      have hn := readSigned?_minus (readDigits?_of_writes hdigits) hhead
      rw [List.flatMap_cons, Part.words, List.cons_append, List.singleton_append, readParts?, hn,
        readUnit?_name, ih htail]
      rfl
    | clock micros =>
      -- nothing is behind the clock
      cases ps with
      | nil =>
        have hclock := readSigned?_clock (Part.writes_iff (p := .clock micros).mpr rfl)
        rw [List.flatMap_cons, List.flatMap_nil, List.append_nil, Part.words, readParts?]
        rw [Part.text] at hclock
        rw [hclock]
        rfl
      | cons q ps =>
        obtain ⟨n, unit, hcount⟩ := hhead q List.mem_cons_self
        cases hcount

theorem clockLast_parts (v : Interval) : ClockLast v.parts := by
  rw [parts]
  split
  · exact List.pairwise_singleton _ _
  · refine List.Pairwise.sublist List.filter_sublist ?_
    simp

theorem Part.addTo_of_amount {p : Part} (h : p.amount = 0) (v : Interval) : p.addTo v = v := by
  cases p with
  | count n unit =>
    obtain rfl : n = 0 := h
    cases unit <;> simp [addTo]
  | clock micros =>
    obtain rfl : micros = 0 := h
    simp [addTo]

/-- Parts that are zero do not count. -/
theorem total_filter (ps : List Part) : total (ps.filter (·.amount ≠ 0)) = total ps := by
  induction ps with
  | nil => rfl
  | cons p ps ih =>
    by_cases hzero : p.amount = 0
    · rw [List.filter_cons_of_neg (by simpa using hzero), ih, total, total, List.foldr_cons,
        Part.addTo_of_amount hzero]
    · rw [List.filter_cons_of_pos (by simpa using hzero), total, total, List.foldr_cons,
        List.foldr_cons]
      exact congrArg p.addTo ih

/-- An interval is what its parts come to. -/
theorem total_parts (v : Interval) : total v.parts = v := by
  have hall : total [.count (v.months.tdiv 12) .year, .count (v.months.tmod 12) .month,
      .count v.days .day, .clock v.micros] = v := by
    simp [total, Part.addTo, Int.add_comm, (months_split v.months).1]
  rw [parts]
  split
  · rename_i hnone
    -- the clock at zero adds to nothing what no part at all does
    rw [← hall, ← total_filter [.count _ _, _, _, _], List.isEmpty_iff.mp hnone]
    rfl
  · rw [total_filter, hall]

theorem splitOn_text (v : Interval) : v.text.toList.splitOn ' ' = v.parts.flatMap Part.words := by
  have hwords : (v.parts.map fun p => [' '].intercalate p.words) = v.parts.map Part.text :=
    List.map_congr_left fun p _ => p.intercalate_words
  rw [text_eq_intercalate, ← hwords, ← intercalate_flatMap Part.words_ne_nil]
  refine List.splitOn_intercalate ' ' ?_ ?_
  · intro w hw
    obtain ⟨p, -, hp⟩ := List.mem_flatMap.mp hw
    exact Part.not_mem_of_mem_words (by decide) (by decide) hp
  · obtain ⟨p, ps, hps⟩ := List.exists_cons_of_ne_nil v.parts_ne_nil
    rw [hps, List.flatMap_cons]
    exact List.append_ne_nil_of_left_ne_nil p.words_ne_nil _

/-- **What is printed for an interval is read as it.** -/
theorem read?_text (v : Interval) : read? v.text = some v := by
  rw [read?, splitOn_text, readParts?_words v.clockLast_parts, Option.map_some, total_parts]

/-! ## 5. Machine words -/

/-- An interval as a store sends it. -/
structure Words where
  months : Int32
  days : Int32
  micros : Int64

namespace Words

/-- The interval of some words. -/
def interval (w : Words) : Interval := ⟨w.months.toInt, w.days.toInt, w.micros.toInt⟩

/-- The bytes of some words, the microseconds first. -/
def bytes (w : Words) : List UInt8 :=
  ByteOrder.bigEndian 8 (ByteOrder.twosComplement 8 w.micros.toInt) ++
    (ByteOrder.bigEndian 4 (ByteOrder.twosComplement 4 w.days.toInt) ++
      ByteOrder.bigEndian 4 (ByteOrder.twosComplement 4 w.months.toInt))

/-- A count of units. -/
def countText (n : Int32) (unit : String) : String :=
  if n = 1 then "1 " ++ unit else toString n.toInt ++ " " ++ unit ++ "s"

/-- The clock; the amount of the least number does not fit the signed words. -/
def clockText (micros : Int64) : String :=
  let total : UInt64 := micros.abs.toUInt64
  let seconds := total / 1000000
  (if micros < 0 then "-" else "") ++ Digits.padded 2 (seconds / 3600).toNat ++ ":" ++
    Digits.padded 2 (seconds / 60 % 60).toNat ++ ":" ++ Digits.padded 2 (seconds % 60).toNat ++
    fractionText (total % 1000000).toNat

/-- The words for years, months and days. -/
def calendarParts (w : Words) : List String :=
  let part (n : Int32) (unit : String) : List String := if n = 0 then [] else [countText n unit]
  part (w.months / 12) "year" ++ part (w.months % 12) "mon" ++ part w.days "day"

/-- The text, where every step is one of machine words. -/
def text (w : Words) : String :=
  let parts := w.calendarParts
  let clock := if w.micros ≠ 0 ∨ parts = [] then [clockText w.micros] else []
  String.intercalate " " (parts ++ clock)

theorem toNat_abs (micros : Int64) : micros.abs.toUInt64.toNat = micros.toInt.natAbs := by
  have hlt := micros.toBitVec.isLt
  have habs : micros.abs.toUInt64.toNat = micros.toBitVec.abs.toNat := rfl
  have hint : micros.toInt = micros.toBitVec.toInt := rfl
  rw [habs, hint, BitVec.toNat_abs, BitVec.toInt_eq_msb_cond]
  split <;> omega

theorem toInt_div_twelve (months : Int32) : (months / 12).toInt = months.toInt.tdiv 12 := by
  exact Int32.toInt_div_of_ne_right months 12 (by decide)

theorem toInt_mod_twelve (months : Int32) : (months % 12).toInt = months.toInt.tmod 12 :=
  Int32.toInt_mod months 12

theorem countText_eq (n : Int32) (unit : String) :
    countText n unit = Interval.countText n.toInt unit := by
  have hone : n = 1 ↔ n.toInt = 1 := by rw [← Int32.toInt_inj]; rfl
  simp only [countText, Interval.countText, hone]

theorem clockText_eq (micros : Int64) : clockText micros = Interval.clockText micros.toInt := by
  have hneg : micros < 0 ↔ micros.toInt < 0 := Int64.lt_iff_toInt_lt
  simp only [clockText, Interval.clockText, hneg, UInt64.toNat_div, UInt64.toNat_mod, toNat_abs]
  rfl

theorem calendarParts_eq (w : Words) : w.calendarParts = w.interval.calendarParts := by
  have hpart : ∀ (n : Int32) (unit : String), (if n = 0 then [] else [countText n unit]) =
      if n.toInt = 0 then [] else [Interval.countText n.toInt unit] := by
    intro n unit
    have hzero : n = 0 ↔ n.toInt = 0 := Int32.toInt_inj.symm
    by_cases h : n = 0
    · rw [if_pos h, if_pos (hzero.mp h)]
    · rw [if_neg h, if_neg fun h' => h (hzero.mpr h'), countText_eq]
  simp only [calendarParts, hpart, toInt_div_twelve, toInt_mod_twelve]
  rfl

/-- **No step overflows.** -/
theorem text_eq (w : Words) : w.text = w.interval.text := by
  have hzero : w.micros = 0 ↔ w.micros.toInt = 0 := Int64.toInt_inj.symm
  rw [text, Interval.text, calendarParts_eq, clockText_eq]
  by_cases h : w.micros ≠ 0 ∨ w.interval.calendarParts = []
  · have h' : w.interval.micros ≠ 0 ∨ w.interval.calendarParts = [] :=
      h.imp_left fun hne => mt hzero.mpr hne
    rw [if_pos h, if_pos h']
    rfl
  · have h' : ¬ (w.interval.micros ≠ 0 ∨ w.interval.calendarParts = []) :=
      fun h' => h (h'.imp_left fun hne => mt hzero.mp hne)
    rw [if_neg h, if_neg h']

theorem interval_injective : Function.Injective interval := by
  intro w w' h
  obtain ⟨months, days, micros⟩ := w
  obtain ⟨months', days', micros'⟩ := w'
  obtain ⟨hmonths, hdays, hmicros⟩ := Interval.mk.inj h
  rw [Words.mk.injEq]
  exact ⟨Int32.toInt_inj.mp hmonths, Int32.toInt_inj.mp hdays, Int64.toInt_inj.mp hmicros⟩

/-- Some words are read from their bytes. -/
theorem interval_bytes (w : Words) : Postgres.interval w.bytes = .ok w.interval := by
  have hspan8 : ByteOrder.span 8 = 2 ^ 64 := rfl
  have hspan4 : ByteOrder.span 4 = 2 ^ 32 := rfl
  have hmonths := takeInteger_twosComplement truncated (k := 4) (n := w.months.toInt) []
    (by have := w.months.le_toInt; omega) (by have := w.months.toInt_lt; omega)
  rw [List.append_nil] at hmonths
  refine bind_eq_ok_iff.mpr ⟨_, takeInteger_twosComplement _ _ ?_ ?_, ?_⟩
  · have := w.micros.le_toInt
    omega
  · have := w.micros.toInt_lt
    omega
  · refine bind_eq_ok_iff.mpr ⟨_, takeInteger_twosComplement _ _ ?_ ?_, ?_⟩
    · have := w.days.le_toInt
      omega
    · have := w.days.toInt_lt
      omega
    · exact bind_eq_ok_iff.mpr ⟨_, hmonths, rfl⟩

end Words

/-- **The text of an interval loses nothing.**  One reader finds every interval again, so no two have
one text; and for every interval of machine words the cell has that text, which machine words are
enough to reckon. -/
theorem text_lossless :
    (∀ v : Interval, read? v.text = some v) ∧ Function.Injective Interval.text ∧
      Function.Injective Words.text ∧
      ∀ w : Words, w.text = w.interval.text ∧ cellOfBytes .interval w.bytes = .ok (.text w.text) := by
  have hinjective : Function.Injective Interval.text := by
    intro v v' h
    have hread := read?_text v
    rw [h, read?_text v'] at hread
    exact (Option.some.inj hread).symm
  refine ⟨read?_text, hinjective, ?_, ?_⟩
  · intro w w' h
    rw [w.text_eq, w'.text_eq] at h
    exact Words.interval_injective (hinjective h)
  · intro w
    refine ⟨w.text_eq, ?_⟩
    rw [cellOfBytes, w.interval_bytes, w.text_eq]
    rfl

end SqlGateway.Postgres.Interval
