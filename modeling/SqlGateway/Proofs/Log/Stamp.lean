/-
# When two rotated logs have one name

The name of a rotated log is a moment to the millisecond.  Two logs get the same name exactly if
they were rotated within the same millisecond.  A leap second is no exception: its second is
written 60, which no other is.

* `Date.toNumber_ofNumber`: the date of a day has the number of that day, so no two days share one;
* `Date.yearText_injective`: a year can be told, though it alone has no fixed width, since it stands
  in front;
* `backupName_eq_iff`: a name determines the millisecond, and the millisecond the name.
-/
import SqlGateway.Log.Rotation
import SqlGateway.Proofs.Number.Digits

namespace SqlGateway

/-! ## 1. Days -/

/-- Every day of an era of 400 years is one of at most 366 days of one of its years, which begin
with March. -/
theorem Date.yearOfEra_bounds {day year : Int} (hlow : 0 ≤ day) (hhigh : day < 146097)
    (hyear : year = (day - day / 1460 + day / 36524 - day / 146096) / 365) :
    0 ≤ year ∧ year ≤ 399 ∧ 0 ≤ day - (365 * year + year / 4 - year / 100) ∧
      day - (365 * year + year / 4 - year / 100) ≤ 365 := by
  -- the century is known from the day alone, the last day of the era apart
  have hcentury : year / 100 = day / 36524 - day / 146096 := by
    have hcases : day / 36524 = 0 ∨ day / 36524 = 1 ∨ day / 36524 = 2 ∨ day / 36524 = 3 ∨
        day = 146096 := by omega
    rcases hcases with h | h | h | h | h <;> omega
  have hquarter : year = 4 * (day / 1460) - 1 ∨ year = 4 * (day / 1460) ∨
      year = 4 * (day / 1460) + 1 ∨ year = 4 * (day / 1460) + 2 ∨
      year = 4 * (day / 1460) + 3 := by omega
  rcases hquarter with h | h | h | h | h <;> omega

/-- The day of a year, its month and the day of the month, as `Date.ofNumber` has them. -/
theorem Date.exists_parts (n : Int) :
    ∃ era yearOfEra month day : Int, 0 ≤ yearOfEra ∧ yearOfEra ≤ 399 ∧ 0 ≤ month ∧ month ≤ 11 ∧
      1 ≤ day ∧ day ≤ 31 ∧
      n + 719468 = era * 146097 + (365 * yearOfEra + yearOfEra / 4 - yearOfEra / 100) +
        ((153 * month + 2) / 5 + day - 1) ∧
      ofNumber n =
        ⟨yearOfEra + era * 400 + (if (if month < 10 then month + 3 else month - 9) ≤ 2 then 1 else 0),
          (if month < 10 then month + 3 else month - 9).toNat, day.toNat⟩ := by
  obtain ⟨d, hd⟩ : ∃ d, d = n + 719468 - (n + 719468) / 146097 * 146097 := ⟨_, rfl⟩
  obtain ⟨y, hy⟩ : ∃ y, y = (d - d / 1460 + d / 36524 - d / 146096) / 365 := ⟨_, rfl⟩
  obtain ⟨hy0, hy1, hday0, hday1⟩ := yearOfEra_bounds (by omega) (by omega) hy
  obtain ⟨m, hm⟩ : ∃ m, m = (5 * (d - (365 * y + y / 4 - y / 100)) + 2) / 153 := ⟨_, rfl⟩
  refine ⟨(n + 719468) / 146097, y, m, d - (365 * y + y / 4 - y / 100) - (153 * m + 2) / 5 + 1,
    hy0, hy1, by omega, by omega, by omega, by omega, by omega, ?_⟩
  simp only [ofNumber, ← hd, ← hy, ← hm]

/-- **The date of a day has the number of that day.** -/
theorem Date.toNumber_ofNumber (n : Int) : (ofNumber n).toNumber = n := by
  obtain ⟨era, y, m, day, hy0, hy1, hm0, hm1, hday0, -, hn, hdate⟩ := exists_parts n
  have hday : (day.toNat : Int) = day := by omega
  rw [hdate]
  by_cases hlate : m < 10
  · have hback : ((m + 3).toNat + 9 : Int) % 12 = m := by omega
    have hera : (y + era * 400 + 0) / 400 = era := by omega
    have hyear : y + era * 400 + 0 - era * 400 = y := by omega
    simp only [hlate, if_true]
    rw [if_neg (by omega), toNumber]
    simp only [hback, hday]
    rw [if_neg (by omega), hera, hyear]
    omega
  · have hback : ((m - 9).toNat + 9 : Int) % 12 = m := by omega
    have hera : (y + era * 400 + 1 - 1) / 400 = era := by omega
    have hyear : y + era * 400 + 1 - 1 - era * 400 = y := by omega
    simp only [hlate, if_false]
    rw [if_pos (by omega), toNumber]
    simp only [hback, hday]
    rw [if_pos (by omega), hera, hyear]
    omega

theorem Date.ofNumber_injective : Function.Injective Date.ofNumber :=
  Function.LeftInverse.injective toNumber_ofNumber

theorem Date.ofNumber_lt (n : Int) : (ofNumber n).month < 100 ∧ (ofNumber n).day < 100 := by
  obtain ⟨era, y, m, day, -, -, hm0, hm1, hday0, hday1, -, hdate⟩ := exists_parts n
  rw [hdate]
  constructor
  · show (if m < 10 then m + 3 else m - 9).toNat < 100
    split <;> omega
  · show day.toNat < 100
    omega

/-! ## 2. Years -/

/-- A year without a sign is the shortest that there is, and of two years with one sign each, the
signs and the numbers can be told. -/
theorem Date.yearText_injective : Function.Injective Date.yearText := by
  intro y y' h
  have hsigned : ∀ y, ¬ (0 ≤ y ∧ y ≤ 9999) → 5 ≤ (yearText y).toList.length := by
    intro y hy
    have hlength := Digits.le_length_padded 4 y.natAbs
    rw [yearText, if_neg hy]
    split <;> simp only [String.toList_append, List.length_append] <;> simp <;> omega
  have hplain : ∀ y, (0 ≤ y ∧ y ≤ 9999) → (yearText y).toList.length = 4 := by
    intro y hy
    rw [yearText, if_pos hy, Digits.length_padded (by decide) (by omega)]
  by_cases hy : 0 ≤ y ∧ y ≤ 9999 <;> by_cases hy' : 0 ≤ y' ∧ y' ≤ 9999
  · rw [yearText, yearText, if_pos hy, if_pos hy'] at h
    have hnat := Digits.padded_injective 4 h
    omega
  · have hlength := hsigned y' hy'
    rw [← h, hplain y hy] at hlength
    omega
  · have hlength := hsigned y hy
    rw [h, hplain y' hy'] at hlength
    omega
  · rw [yearText, yearText, if_neg hy, if_neg hy'] at h
    have hlist := congrArg String.toList h
    by_cases hneg : y < 0 <;> by_cases hneg' : y' < 0 <;>
      simp only [hneg, hneg', if_true, if_false, String.toList_append] at hlist
    · have hnat := Digits.padded_injective 4 (String.toList_injective (List.append_cancel_left hlist))
      omega
    · simp at hlist
    · simp at hlist
    · have hnat := Digits.padded_injective 4 (String.toList_injective (List.append_cancel_left hlist))
      omega

/-! ## 3. Names -/

/-- The time is one that a clock can show; only behind a second 59 there may be a leap second. -/
structure TimeOfDay.IsValid (t : TimeOfDay) : Prop where
  second : t.second < secondsPerDay
  nano : t.nano < 2 * nanosPerSecond
  leap : t.nano < nanosPerSecond ∨ t.second % 60 = 59

/-- The number of a moment's millisecond. -/
def Moment.millisecond (m : Moment) : Int := m.rank / 1000000

namespace Log

/-- What is behind the year in the name of a rotated log. -/
def stampRest (m : Moment) : List Char :=
  '-' :: ((Digits.padded 2 (Date.ofNumber m.day).month).toList ++
    '-' :: ((Digits.padded 2 (Date.ofNumber m.day).day).toList ++
    'T' :: ((Digits.padded 2 (m.time.second / 3600)).toList ++
    '-' :: ((Digits.padded 2 (m.time.second / 60 % 60)).toList ++
    '-' :: ((Digits.padded 2 (m.time.second % 60 + m.time.nano / nanosPerSecond)).toList ++
    '.' :: ((Digits.padded 3 (m.time.nano % nanosPerSecond / 1000000)).toList ++
    backupTail.toList))))))

theorem toList_backupName (m : Moment) :
    (backupName m).toList =
      backupHead.toList ++ ((Date.yearText (Date.ofNumber m.day).year).toList ++ stampRest m) := by
  simp [backupName, stampText, Date.text, TimeOfDay.clockText, stampRest]

variable {m m' : Moment}

theorem length_stampRest (hm : m.time.IsValid) : (stampRest m).length = 23 := by
  obtain ⟨hsecond, hnano, hleap⟩ := hm
  simp only [secondsPerDay, nanosPerSecond] at hsecond hnano hleap
  obtain ⟨hmonth, hday⟩ := Date.ofNumber_lt m.day
  simp only [stampRest, nanosPerSecond, List.length_cons, List.length_append]
  rw [Digits.length_padded (by decide) hmonth, Digits.length_padded (by decide) hday,
    Digits.length_padded (by decide) (by omega), Digits.length_padded (by decide) (by omega),
    Digits.length_padded (by decide) (by omega), Digits.length_padded (by decide) (by omega)]
  rfl

/-- What is behind the year tells the month, the day, and the time to the millisecond. -/
theorem stampRest_inj (hm : m.time.IsValid) (hm' : m'.time.IsValid)
    (h : stampRest m = stampRest m') :
    (Date.ofNumber m.day).month = (Date.ofNumber m'.day).month ∧
      (Date.ofNumber m.day).day = (Date.ofNumber m'.day).day ∧
      m.time.second = m'.time.second ∧ m.time.nano / 1000000 = m'.time.nano / 1000000 := by
  obtain ⟨hsecond, hnano, hleap⟩ := hm
  obtain ⟨hsecond', hnano', hleap'⟩ := hm'
  simp only [secondsPerDay, nanosPerSecond] at hsecond hnano hleap hsecond' hnano' hleap'
  simp only [stampRest, nanosPerSecond] at h
  obtain ⟨hmonth, h⟩ := Digits.padded_append_inj (by decide) (Date.ofNumber_lt _).1
    (Date.ofNumber_lt _).1 (List.cons.inj h).2
  obtain ⟨hday, h⟩ := Digits.padded_append_inj (by decide) (Date.ofNumber_lt _).2
    (Date.ofNumber_lt _).2 (List.cons.inj h).2
  obtain ⟨hhour, h⟩ := Digits.padded_append_inj (by decide) (by omega) (by omega)
    (List.cons.inj h).2
  obtain ⟨hminute, h⟩ := Digits.padded_append_inj (by decide) (by omega) (by omega)
    (List.cons.inj h).2
  obtain ⟨hleapSecond, h⟩ := Digits.padded_append_inj (by decide) (by omega) (by omega)
    (List.cons.inj h).2
  obtain ⟨hmillis, -⟩ := Digits.padded_append_inj (by decide) (by omega) (by omega)
    (List.cons.inj h).2
  exact ⟨hmonth, hday, by omega, by omega⟩

theorem millisecond_eq (m : Moment) :
    m.millisecond = (m.day * secondsPerDay + m.time.second) * 2000 + (m.time.nano / 1000000 : Nat) := by
  simp only [Moment.millisecond, Moment.rank, nanosPerSecond]
  omega

/-- **Two logs get one name exactly if they are rotated within one millisecond.** -/
theorem backupName_eq_iff (hm : m.time.IsValid) (hm' : m'.time.IsValid) :
    backupName m = backupName m' ↔ m.millisecond = m'.millisecond := by
  constructor
  · intro h
    have hlist := congrArg String.toList h
    rw [toList_backupName, toList_backupName] at hlist
    obtain ⟨hyear, hrest⟩ := List.append_inj' (List.append_cancel_left hlist)
      ((length_stampRest hm).trans (length_stampRest hm').symm)
    obtain ⟨hmonth, hday, hsecond, hnano⟩ := stampRest_inj hm hm' hrest
    have hdate : Date.ofNumber m.day = Date.ofNumber m'.day := by
      rw [Date.mk.injEq]
      exact ⟨Date.yearText_injective (String.toList_injective hyear), hmonth, hday⟩
    rw [millisecond_eq, millisecond_eq, Date.ofNumber_injective hdate, hsecond, hnano]
  · intro h
    rw [millisecond_eq, millisecond_eq] at h
    obtain ⟨hsecond, hnano, -⟩ := hm
    obtain ⟨hsecond', hnano', -⟩ := hm'
    simp only [secondsPerDay, nanosPerSecond] at h hsecond hnano hsecond' hnano'
    have hday : m.day = m'.day := by omega
    have hseconds : m.time.second = m'.time.second := by omega
    have hleap : m.time.nano / 1000000000 = m'.time.nano / 1000000000 := by omega
    have hmillis : m.time.nano % 1000000000 / 1000000 = m'.time.nano % 1000000000 / 1000000 := by
      omega
    simp only [backupName, stampText, TimeOfDay.clockText, nanosPerSecond, hday, hseconds, hleap,
      hmillis]

/-- No rotated log has the name of the log. -/
theorem backupName_ne_fileName (m : Moment) : backupName m ≠ fileName := by
  intro h
  have hlist := congrArg String.toList h
  rw [toList_backupName] at hlist
  simp [backupHead, fileName] at hlist

end Log

end SqlGateway
