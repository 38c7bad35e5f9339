import Bootstrap.Proofs.Instant.Calendar
import Mathlib.Algebra.Group.Nat.Defs

/-!
# Texts of instants

The text of an instant has no fixed length, since the year and the fraction have none, and its `-` and `+` may stand in front
of it too. It is read from the end: the clock behind the last `T`, then day and month, which have two digits each, then the
digits of the year and the sign in front of them.

* `Instant.append_text_inj` — behind a stem and a hyphen the text of an instant is found again, unless the stem itself ends
  in a hyphen, which could be the sign of a year.
* `Instant.text_inj` — two instants have different texts.
-/

namespace Bootstrap

attribute [ext] CivilDate Instant

/-! ## Runs of characters at the end -/

/-- Where the last characters are all of one kind, and the one in front of them is not, this place is found from the
end. Two texts that are equal have it at the same place. -/
theorem append_cons_inj_of_forall {α : Type} {P : α → Prop} {as bs as' bs' : List α} {x x' : α}
    (hbs : ∀ b ∈ bs, P b) (hbs' : ∀ b ∈ bs', P b) (hx : ¬ P x) (hx' : ¬ P x')
    (h : as ++ x :: bs = as' ++ x' :: bs') : as = as' ∧ x = x' ∧ bs = bs' := by
  rcases List.append_eq_append_iff.mp h with ⟨between, rfl, hrest⟩ | ⟨between, rfl, hrest⟩
  · cases between with
    | nil =>
        obtain ⟨rfl, rfl⟩ := List.cons.inj hrest
        exact ⟨(List.append_nil as).symm, rfl, rfl⟩
    | cons y between =>
        -- the other mark would be one of the last characters
        have hmem : x' ∈ bs := by
          rw [(List.cons.inj hrest).2]
          simp
        exact absurd (hbs x' hmem) hx'
  · cases between with
    | nil =>
        obtain ⟨rfl, rfl⟩ := List.cons.inj hrest
        exact ⟨List.append_nil as', rfl, rfl⟩
    | cons y between =>
        have hmem : x ∈ bs' := by
          rw [(List.cons.inj hrest).2]
          simp
        exact absurd (hbs' x hmem) hx

/-! ## Decimals -/

section Decimals

variable {width n n' : Nat}

/-- Zeros in front of the digits, up to the width; a longer number is written in full. -/
theorem toList_padDecimal (width n : Nat) :
    (padDecimal width n).toList =
      List.replicate (width - (Nat.toDigits 10 n).length) '0' ++ Nat.toDigits 10 n := by
  simp [padDecimal, Nat.repr_eq_ofList_toDigits]

/-- Nothing but digits. -/
theorem isDigit_of_mem_padDecimal {c : Char} (h : c ∈ (padDecimal width n).toList) : c.isDigit = true := by
  rw [toList_padDecimal] at h
  rcases List.mem_append.mp h with h | h
  · rw [List.eq_of_mem_replicate h]
    rfl
  · exact Nat.isDigit_of_mem_toDigits (by decide) (by decide) h

theorem length_padDecimal (hwidth : 0 < width) (h : n < 10 ^ width) : (padDecimal width n).toList.length = width := by
  have hlen : (Nat.toDigits 10 n).length ≤ width := (Nat.length_toDigits_le_iff (by decide) hwidth).mpr h
  rw [toList_padDecimal, List.length_append, List.length_replicate]
  omega

/-- Zeros in front do not change the number that the digits say. -/
theorem ofDigitChars_padDecimal (width n : Nat) : Nat.ofDigitChars 10 (padDecimal width n).toList 0 = n := by
  rw [toList_padDecimal, Nat.ofDigitChars_append, Nat.ofDigitChars_replicate_zero, Nat.mul_zero,
    Nat.ofDigitChars_ten_toDigits]

/-- A number is read back from its digits, however many zeros stand in front. -/
theorem padDecimal_inj (h : (padDecimal width n).toList = (padDecimal width n').toList) : n = n' := by
  rw [← ofDigitChars_padDecimal width n, h, ofDigitChars_padDecimal]

/-- Two decimals of one width are told apart by what follows them, however that goes on. -/
theorem padDecimal_append_inj {rest rest' : List Char} (hwidth : 0 < width) (hn : n < 10 ^ width) (hn' : n' < 10 ^ width)
    (h : (padDecimal width n).toList ++ rest = (padDecimal width n').toList ++ rest') : n = n' ∧ rest = rest' := by
  have hlen : (padDecimal width n).toList.length = (padDecimal width n').toList.length := by
    rw [length_padDecimal hwidth hn, length_padDecimal hwidth hn']
  obtain ⟨hdigits, hrest⟩ := List.append_inj h hlen
  exact ⟨padDecimal_inj hdigits, hrest⟩

end Decimals

namespace Instant

variable {t t' : Instant}

/-! ## Fractions -/

/-- A fraction is written with as many places as its number of nanoseconds needs: none, three, six or nine. -/
theorem fractionText_cases {nanos : Nat} (h : nanos < nanosPerSecond) :
    nanos = 0 ∧ (fractionText nanos).toList = [] ∨
      ∃ places n, 0 < places ∧ n < 10 ^ places ∧ nanos = n * 10 ^ (9 - places) ∧
        (fractionText nanos).toList = '.' :: (padDecimal places n).toList := by
  unfold nanosPerSecond at h
  unfold fractionText
  split_ifs with hzero hmilli hmicro
  · exact .inl ⟨hzero, rfl⟩
  · exact .inr ⟨3, nanos / 1000000, by decide, by omega, by omega, by simp⟩
  · exact .inr ⟨6, nanos / 1000, by decide, by omega, by omega, by simp⟩
  · exact .inr ⟨9, nanos, by decide, by omega, by omega, by simp⟩

/-- The fraction tells the nanoseconds. It has no, three, six or nine digits behind its point, and the lengths keep
these cases apart. -/
theorem fractionText_inj {nanos nanos' : Nat} (hnanos : nanos < nanosPerSecond) (hnanos' : nanos' < nanosPerSecond)
    (h : (fractionText nanos).toList = (fractionText nanos').toList) : nanos = nanos' := by
  rcases fractionText_cases hnanos with ⟨hzero, htext⟩ | ⟨places, n, hplaces, hn, hvalue, htext⟩
  · rcases fractionText_cases hnanos' with ⟨hzero', -⟩ | ⟨places', n', -, -, -, htext'⟩
    · rw [hzero, hzero']
    · rw [htext, htext'] at h
      cases h
  · rcases fractionText_cases hnanos' with ⟨-, htext'⟩ | ⟨places', n', hplaces', hn', hvalue', htext'⟩
    · rw [htext, htext'] at h
      cases h
    · -- the number of digits tells the number of places
      rw [htext, htext'] at h
      have hdigits := (List.cons.inj h).2
      have hlen := congrArg List.length hdigits
      rw [length_padDecimal hplaces hn, length_padDecimal hplaces' hn'] at hlen
      subst hlen
      rw [hvalue, hvalue', padDecimal_inj hdigits]

/-! ## The clock -/

/-- The part of the text behind the `T`. -/
def clockText (t : Instant) : String :=
  let second := (t.seconds % 86400).toNat
  padDecimal 2 (second / 3600) ++ ":" ++ padDecimal 2 (second / 60 % 60) ++ ":" ++
    padDecimal 2 (second % 60 + t.nanoseconds / nanosPerSecond) ++ fractionText (t.nanoseconds % nanosPerSecond) ++ "+00:00"

/-- The clock as characters: two digits, a colon, two digits, a colon, two digits, the fraction and the offset. -/
theorem toList_clockText (t : Instant) :
    t.clockText.toList =
      (padDecimal 2 ((t.seconds % 86400).toNat / 3600)).toList ++ ':' ::
        ((padDecimal 2 ((t.seconds % 86400).toNat / 60 % 60)).toList ++ ':' ::
          ((padDecimal 2 ((t.seconds % 86400).toNat % 60 + t.nanoseconds / nanosPerSecond)).toList ++
            ((fractionText (t.nanoseconds % nanosPerSecond)).toList ++ "+00:00".toList))) := by
  simp [clockText, String.toList_append]

/-- No `T` is in the text of a clock, so the one in front of it can be found from the end. -/
theorem not_mem_clockText (t : Instant) : 'T' ∉ t.clockText.toList := by
  have hpad : ∀ width n, 'T' ∉ (padDecimal width n).toList :=
    fun width n h => absurd (isDigit_of_mem_padDecimal h) (by decide)
  have hfraction : 'T' ∉ (fractionText (t.nanoseconds % nanosPerSecond)).toList := by
    rcases fractionText_cases (Nat.mod_lt _ (by decide)) with ⟨-, htext⟩ | ⟨places, n, -, -, -, htext⟩ <;> rw [htext]
    · exact List.not_mem_nil
    · simpa using hpad places n
  rw [toList_clockText]
  simp [hpad, hfraction]

/-- The clock tells the second of the day and, since only the last second of a minute can be a leap second, whether it is
one. -/
theorem clockText_inj (ht : t.IsValid) (ht' : t'.IsValid) (h : t.clockText.toList = t'.clockText.toList) :
    t.seconds % 86400 = t'.seconds % 86400 ∧ t.nanoseconds = t'.nanoseconds := by
  unfold IsValid nanosPerSecond at ht ht'
  rw [toList_clockText, toList_clockText] at h
  obtain ⟨hhour, h⟩ := padDecimal_append_inj (by decide) (by omega) (by omega) h
  obtain ⟨hminute, h⟩ := padDecimal_append_inj (by decide) (by omega) (by omega) (List.cons.inj h).2
  unfold nanosPerSecond at h
  obtain ⟨hsecond, h⟩ := padDecimal_append_inj (by decide) (by omega) (by omega) (List.cons.inj h).2
  have hfraction : t.nanoseconds % 1000000000 = t'.nanoseconds % 1000000000 :=
    fractionText_inj (Nat.mod_lt _ (by decide)) (Nat.mod_lt _ (by decide)) (List.append_cancel_right h)
  omega

/-! ## The date -/

/-- Month and day, each behind a hyphen. -/
def monthDayText (date : CivilDate) : String := "-" ++ padDecimal 2 date.month ++ "-" ++ padDecimal 2 date.day

theorem toList_monthDayText (date : CivilDate) :
    (monthDayText date).toList = '-' :: ((padDecimal 2 date.month).toList ++ '-' :: (padDecimal 2 date.day).toList) := by
  simp [monthDayText, String.toList_append]

/-- Behind the year come six characters, whatever the date. -/
theorem length_monthDayText (days : Int) : (monthDayText (CivilDate.ofDays days)).toList.length = 6 := by
  have hmonth := CivilDate.month_ofDays_le days
  have hday := CivilDate.day_ofDays_le days
  rw [toList_monthDayText, List.length_cons, List.length_append, List.length_cons,
    length_padDecimal (by decide) (by omega), length_padDecimal (by decide) (by omega)]

/-- The text of month and day tells both, having two digits for each. -/
theorem monthDayText_inj {days days' : Int}
    (h : (monthDayText (CivilDate.ofDays days)).toList = (monthDayText (CivilDate.ofDays days')).toList) :
    (CivilDate.ofDays days).month = (CivilDate.ofDays days').month ∧
      (CivilDate.ofDays days).day = (CivilDate.ofDays days').day := by
  have hmonth := CivilDate.month_ofDays_le days
  have hmonth' := CivilDate.month_ofDays_le days'
  rw [toList_monthDayText, toList_monthDayText] at h
  obtain ⟨heq, h⟩ := padDecimal_append_inj (by decide) (by omega) (by omega) (List.cons.inj h).2
  exact ⟨heq, padDecimal_inj (List.cons.inj h).2⟩

/-- The hyphen in front of a year that stands there beside the sign of the year. -/
def yearLead (year : Int) : List Char := if 0 ≤ year ∧ year ≤ 9999 then [] else ['-']

/-- The last character in front of the digits of a year: its sign, or the hyphen if it has none. -/
def yearMark (year : Int) : Char := if year ≤ 9999 then '-' else '+'

/-- A hyphen and a year: what stands in front of the digits is one mark, and before it perhaps one more hyphen. Reading
from the end, the digits stop at the mark, since it is no digit. -/
theorem hyphen_cons_yearText (year : Int) :
    '-' :: (yearText year).toList = yearLead year ++ yearMark year :: (padDecimal 4 year.natAbs).toList := by
  unfold yearText yearLead yearMark
  by_cases hshort : 0 ≤ year ∧ year ≤ 9999
  · have habs : year.toNat = year.natAbs := by omega
    rw [if_pos hshort, if_pos hshort, if_pos hshort.2, habs, List.nil_append]
  · rw [if_neg hshort, if_neg hshort]
    by_cases hnegative : year < 0
    · rw [if_pos hnegative, if_pos (by omega)]
      simp
    · rw [if_neg hnegative, if_neg (by omega)]
      simp

/-- The hyphen is the mark itself for a year of four digits. -/
theorem yearLead_eq_nil_iff {year : Int} : yearLead year = [] ↔ 0 ≤ year ∧ year ≤ 9999 := by
  unfold yearLead
  split_ifs with h
  · exact iff_of_true rfl h
  · exact iff_of_false (by simp) h

/-- Only a year of more digits has a plus sign. -/
theorem yearMark_eq_hyphen_iff {year : Int} : yearMark year = '-' ↔ year ≤ 9999 := by
  unfold yearMark
  split_ifs with h
  · exact iff_of_true rfl h
  · exact iff_of_false (by decide) h

/-- The two marks and the digits tell the year: with them it is known on which side of 0 and of 9999 it lies. -/
theorem eq_of_yearMark {year year' : Int} (hlead : yearLead year = yearLead year') (hmark : yearMark year = yearMark year')
    (habs : year.natAbs = year'.natAbs) : year = year' := by
  have hshort : (0 ≤ year ∧ year ≤ 9999) ↔ (0 ≤ year' ∧ year' ≤ 9999) := by
    rw [← yearLead_eq_nil_iff, ← yearLead_eq_nil_iff, hlead]
  have hlarge : year ≤ 9999 ↔ year' ≤ 9999 := by
    rw [← yearMark_eq_hyphen_iff, ← yearMark_eq_hyphen_iff, hmark]
  omega

theorem not_isDigit_yearMark (year : Int) : ¬ (yearMark year).isDigit = true := by
  unfold yearMark
  split_ifs <;> decide

/-- A stem that does not end in a hyphen is not taken for a part of what stands in front of a year. -/
theorem append_yearLead_inj {stem stem' : List Char} {year year' : Int} (hstem : stem.getLast? ≠ some '-')
    (hstem' : stem'.getLast? ≠ some '-') (h : stem ++ yearLead year = stem' ++ yearLead year') :
    stem = stem' ∧ yearLead year = yearLead year' := by
  unfold yearLead at h ⊢
  split_ifs at h ⊢
  · exact ⟨List.append_cancel_right h, rfl⟩
  · rw [List.append_nil] at h
    rw [h, List.getLast?_concat] at hstem
    exact absurd rfl hstem
  · rw [List.append_nil] at h
    rw [← h, List.getLast?_concat] at hstem'
    exact absurd rfl hstem'
  · exact ⟨List.append_cancel_right h, rfl⟩

/-- The year is found at the end of a text, and so is its sign. -/
theorem append_yearText_inj {stem stem' : List Char} {year year' : Int} (hstem : stem.getLast? ≠ some '-')
    (hstem' : stem'.getLast? ≠ some '-')
    (h : stem ++ '-' :: (yearText year).toList = stem' ++ '-' :: (yearText year').toList) : stem = stem' ∧ year = year' := by
  rw [hyphen_cons_yearText, hyphen_cons_yearText, ← List.append_assoc, ← List.append_assoc] at h
  obtain ⟨hlead, hmark, hdigits⟩ := append_cons_inj_of_forall (P := fun c => c.isDigit = true)
    (fun _ => isDigit_of_mem_padDecimal) (fun _ => isDigit_of_mem_padDecimal) (not_isDigit_yearMark year)
    (not_isDigit_yearMark year') h
  obtain ⟨rfl, hsame⟩ := append_yearLead_inj hstem hstem' hlead
  exact ⟨rfl, eq_of_yearMark hsame hmark (padDecimal_inj hdigits)⟩

/-! ## The whole text -/

theorem toList_text (t : Instant) :
    t.text.toList = (yearText (CivilDate.ofDays (t.seconds / 86400)).year).toList ++
      ((monthDayText (CivilDate.ofDays (t.seconds / 86400))).toList ++ 'T' :: t.clockText.toList) := by
  simp [text, clockText, monthDayText, String.toList_append]

/-- **The text of an instant is found at the end of a text**, and what stands in front of it too. The `T` between date
and time is the last one. A year before the year 0 starts with a sign, which is told from the hyphen in front because
the stem does not end in one. -/
theorem append_text_inj {stem stem' : List Char} (hstem : stem.getLast? ≠ some '-') (hstem' : stem'.getLast? ≠ some '-')
    (ht : t.IsValid) (ht' : t'.IsValid) (h : stem ++ '-' :: t.text.toList = stem' ++ '-' :: t'.text.toList) :
    stem = stem' ∧ t = t' := by
  rw [toList_text, toList_text, ← List.cons_append, ← List.cons_append, ← List.append_assoc, ← List.append_assoc,
    ← List.append_assoc, ← List.append_assoc] at h
  -- the last of the letters between date and time parts the text, for none stands behind it
  obtain ⟨hdate, -, hclock⟩ := append_cons_inj_of_forall (P := (· ≠ 'T'))
    (fun c hc heq => t.not_mem_clockText (heq ▸ hc)) (fun c hc heq => t'.not_mem_clockText (heq ▸ hc)) (by simp) (by simp) h
  have hlen : (monthDayText (CivilDate.ofDays (t.seconds / 86400))).toList.length =
      (monthDayText (CivilDate.ofDays (t'.seconds / 86400))).toList.length := by
    rw [length_monthDayText, length_monthDayText]
  obtain ⟨hyearText, hmonthDay⟩ := List.append_inj' hdate hlen
  obtain ⟨hstems, hyear⟩ := append_yearText_inj hstem hstem' hyearText
  obtain ⟨hmonth, hday⟩ := monthDayText_inj hmonthDay
  have hdays : t.seconds / 86400 = t'.seconds / 86400 := CivilDate.ofDays_inj (CivilDate.ext hyear hmonth hday)
  obtain ⟨hsecond, hnanos⟩ := clockText_inj ht ht' hclock
  exact ⟨hstems, Instant.ext (by omega) hnanos⟩

/-- Different instants have different texts. This is the case without a stem. -/
theorem text_inj (ht : t.IsValid) (ht' : t'.IsValid) (h : t.text = t'.text) : t = t' := by
  have hstem : ([] : List Char).getLast? ≠ some '-' := by simp
  have hsame : [] ++ '-' :: t.text.toList = [] ++ '-' :: t'.text.toList := by rw [h]
  exact (append_text_inj hstem hstem ht ht' hsame).2

end Instant

end Bootstrap
