import Bootstrap.Instant
import Mathlib.Tactic.Common

/-!
# Days and dates

`CivilDate.ofDays` counts years from March in cycles of 400 years. Within a cycle the year of a day is found by one division,
after the leap days were taken out of the count. That this is the right year is checked at the first and at the last day of
every year; in between the year cannot change, since it never goes down (`CivilDate.yearOf_le_yearOf`).

* `CivilDate.toDays_ofDays` — a date tells its day, whatever the year.
* `CivilDate.month_ofDays_le`, `CivilDate.day_ofDays_le` — month and day have two digits.
-/

namespace Bootstrap.CivilDate

/-! ## Years of a cycle -/

/-- The days of a cycle in front of one of its years. -/
def daysBefore (year : Nat) : Nat := 365 * year + year / 4 - year / 100

/-- The year of a cycle in which a day of the cycle lies. -/
def yearOf (day : Nat) : Nat := (day - day / 1460 + day / 36524 - day / 146096) / 365

/-- The year never goes down as the days go on: the count of days, with the leap days taken out of it, never does. -/
theorem yearOf_le_yearOf {a b : Nat} (hab : a ≤ b) (hb : b < 146097) : yearOf a ≤ yearOf b := by
  unfold yearOf
  apply Nat.div_le_div_right
  omega

/-- The division is right at the first day of each of the 400 years. -/
theorem yearOf_firstDay : ∀ year < 400, yearOf (daysBefore year) = year := by decide +kernel

/-- And at the day before the next one starts. The last year has no next one in its cycle: `yearOf_lt`. -/
theorem yearOf_lastDay : ∀ year < 399, yearOf (daysBefore (year + 1) - 1) = year := by decide +kernel

theorem yearOf_lt {day : Nat} (h : day < 146097) : yearOf day < 400 := by
  have hlast : yearOf 146096 = 399 := by decide
  have hle : yearOf day ≤ yearOf 146096 := yearOf_le_yearOf (by omega) (by omega)
  omega

theorem daysBefore_succ_le (year : Nat) : daysBefore (year + 1) ≤ daysBefore year + 366 := by
  unfold daysBefore
  omega

/-- No day lies in front of its year. Otherwise it would lie in front of the last day of the year before, and its year
would be no later than that one, as years do not go back with later days. -/
theorem daysBefore_yearOf_le {day : Nat} (h : day < 146097) : daysBefore (yearOf day) ≤ day := by
  by_contra hlt
  have hyear := yearOf_lt h
  cases hy : yearOf day with
  | zero =>
      rw [hy] at hlt
      exact hlt (Nat.zero_le day)
  | succ year =>
      -- the day would be no later than the last day of the year before
      rw [hy] at hlt hyear
      have hcycle : daysBefore (year + 1) < 146097 := by
        unfold daysBefore
        omega
      have hle : yearOf day ≤ yearOf (daysBefore (year + 1) - 1) := yearOf_le_yearOf (by omega) (by omega)
      rw [yearOf_lastDay year (by omega), hy] at hle
      omega

/-- No day lies behind its year. With the lemma above, every day lies in exactly one year of the cycle. -/
theorem lt_daysBefore_yearOf_add {day : Nat} (h : day < 146097) : day < daysBefore (yearOf day) + 366 := by
  have hyear := yearOf_lt h
  by_cases hlast : yearOf day = 399
  · have hstart : daysBefore 399 = 145731 := by decide
    rw [hlast, hstart]
    omega
  · -- the day would be no earlier than the first day of the next year
    by_contra hge
    have hnext := daysBefore_succ_le (yearOf day)
    have hle : yearOf (daysBefore (yearOf day + 1)) ≤ yearOf day := yearOf_le_yearOf (by omega) h
    rw [yearOf_firstDay _ (by omega)] at hle
    omega

/-! ## Days and dates -/

/-- The days from 1 January 1970 to a date. -/
def toDays (date : CivilDate) : Int :=
  let year := if date.month ≤ 2 then date.year - 1 else date.year
  let shiftedMonth := if date.month ≤ 2 then date.month + 9 else date.month - 3
  year / 400 * 146097 + daysBefore (year % 400).toNat + ((153 * shiftedMonth + 2) / 5 + date.day - 1 : Nat) - 719468

/-- The date of a day in a year that starts with March. -/
def ofYear (year : Int) (dayOfYear : Nat) : CivilDate :=
  let shiftedMonth := (5 * dayOfYear + 2) / 153
  let month := if shiftedMonth < 10 then shiftedMonth + 3 else shiftedMonth - 9
  ⟨year + (if month ≤ 2 then 1 else 0), month, dayOfYear - (153 * shiftedMonth + 2) / 5 + 1⟩

/-- Where a day lies: in which cycle, in which year of it and on which day of the year. All three are found from the
count of days. -/
theorem exists_ofDays_eq (days : Int) :
    ∃ (cycle : Int) (year dayOfYear : Nat), year < 400 ∧ dayOfYear < 366 ∧
      days + 719468 = cycle * 146097 + (daysBefore year + dayOfYear : Nat) ∧
      ofDays days = ofYear (cycle * 400 + year) dayOfYear := by
  have hday : ((days + 719468) % 146097).toNat < 146097 := by omega
  have hstart := daysBefore_yearOf_le hday
  have hend := lt_daysBefore_yearOf_add hday
  exact ⟨(days + 719468) / 146097, yearOf ((days + 719468) % 146097).toNat,
    ((days + 719468) % 146097).toNat - daysBefore (yearOf ((days + 719468) % 146097).toNat),
    yearOf_lt hday, by omega, by omega, rfl⟩

/-- The first ten months of a year that starts with March. -/
theorem ofYear_of_lt {year : Int} {dayOfYear : Nat} (h : (5 * dayOfYear + 2) / 153 < 10) :
    ofYear year dayOfYear =
      ⟨year, (5 * dayOfYear + 2) / 153 + 3, dayOfYear - (153 * ((5 * dayOfYear + 2) / 153) + 2) / 5 + 1⟩ := by
  unfold ofYear
  simp only [h, if_true]
  rw [if_neg (by omega), Int.add_zero]

/-- Its last two months are January and February of the next year. -/
theorem ofYear_of_ge {year : Int} {dayOfYear : Nat} (hday : dayOfYear < 366) (h : ¬ (5 * dayOfYear + 2) / 153 < 10) :
    ofYear year dayOfYear =
      ⟨year + 1, (5 * dayOfYear + 2) / 153 - 9, dayOfYear - (153 * ((5 * dayOfYear + 2) / 153) + 2) / 5 + 1⟩ := by
  unfold ofYear
  simp only [h, if_false]
  rw [if_pos (by omega)]

/-- In both parts of the year the month is one of twelve. -/
theorem month_ofYear_le {year : Int} {dayOfYear : Nat} (hday : dayOfYear < 366) : (ofYear year dayOfYear).month ≤ 12 := by
  by_cases h : (5 * dayOfYear + 2) / 153 < 10
  · rw [ofYear_of_lt h]
    show (5 * dayOfYear + 2) / 153 + 3 ≤ 12
    omega
  · rw [ofYear_of_ge hday h]
    show (5 * dayOfYear + 2) / 153 - 9 ≤ 12
    omega

/-- A month has at most 31 days: 153 days are those of five months in a row, starting with March or August. -/
theorem day_ofYear_le (year : Int) (dayOfYear : Nat) : (ofYear year dayOfYear).day ≤ 31 := by
  show dayOfYear - (153 * ((5 * dayOfYear + 2) / 153) + 2) / 5 + 1 ≤ 31
  omega

/-- The days up to a date are those of the cycles and years in front of its year, and then those of the year. January
and February belong to the year before, which is added back. -/
theorem toDays_ofYear {cycle : Int} {year dayOfYear : Nat} (hyear : year < 400) (hday : dayOfYear < 366) :
    (ofYear (cycle * 400 + year) dayOfYear).toDays =
      cycle * 146097 + (daysBefore year + dayOfYear : Nat) - 719468 := by
  have hcycle : (cycle * 400 + year) / 400 = cycle := by omega
  have hrest : ((cycle * 400 + year) % 400).toNat = year := by omega
  by_cases h : (5 * dayOfYear + 2) / 153 < 10
  · rw [ofYear_of_lt h]
    simp only [toDays]
    rw [if_neg (by omega), if_neg (by omega), hcycle, hrest]
    omega
  · rw [ofYear_of_ge hday h]
    simp only [toDays]
    rw [if_pos (by omega), if_pos (by omega), Int.add_sub_cancel, hcycle, hrest]
    omega

theorem toDays_ofDays (days : Int) : (ofDays days).toDays = days := by
  obtain ⟨cycle, year, dayOfYear, hyear, hday, hdays, heq⟩ := exists_ofDays_eq days
  rw [heq, toDays_ofYear hyear hday]
  omega

theorem ofDays_inj {days days' : Int} (h : ofDays days = ofDays days') : days = days' := by
  rw [← toDays_ofDays days, h, toDays_ofDays]

/-- Month numbers have two digits, which makes the date text one of fixed length behind the year. -/
theorem month_ofDays_le (days : Int) : (ofDays days).month ≤ 12 := by
  obtain ⟨cycle, year, dayOfYear, -, hday, -, heq⟩ := exists_ofDays_eq days
  rw [heq]
  exact month_ofYear_le hday

theorem day_ofDays_le (days : Int) : (ofDays days).day ≤ 31 := by
  obtain ⟨cycle, year, dayOfYear, -, -, -, heq⟩ := exists_ofDays_eq days
  rw [heq]
  exact day_ofYear_le _ _

end Bootstrap.CivilDate
