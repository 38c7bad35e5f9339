/-!
# Instants

A point in time counts the seconds since the start of 1970 in UTC and the nanoseconds within the second; a leap
second is the second 59 of a minute with a billion nanoseconds or more. Its text is that of RFC 3339: a fraction
of three, six or nine digits only when it is not zero, and a sign in front of years that four digits cannot hold.
-/

namespace Bootstrap

structure Instant where
  seconds : Int
  nanoseconds : Nat
deriving DecidableEq, Inhabited

/-- A date of the Gregorian calendar, extended to all years. -/
structure CivilDate where
  year : Int
  month : Nat
  day : Nat
deriving DecidableEq

namespace CivilDate

/-- The date a number of days after 1 January 1970. The years are counted from March, so that a leap day ends
its year, and in cycles of 400 years. -/
def ofDays (days : Int) : CivilDate :=
  let shifted := days + 719468
  let cycle := shifted / 146097
  let dayOfCycle := (shifted % 146097).toNat
  let yearOfCycle :=
    (dayOfCycle - dayOfCycle / 1460 + dayOfCycle / 36524 - dayOfCycle / 146096) / 365
  let dayOfYear := dayOfCycle - (365 * yearOfCycle + yearOfCycle / 4 - yearOfCycle / 100)
  let shiftedMonth := (5 * dayOfYear + 2) / 153
  let month := if shiftedMonth < 10 then shiftedMonth + 3 else shiftedMonth - 9
  let year := cycle * 400 + (yearOfCycle : Int) + (if month ≤ 2 then 1 else 0)
  ⟨year, month, dayOfYear - (153 * shiftedMonth + 2) / 5 + 1⟩

end CivilDate

/-- A number in decimal digits, with zeros in front up to a width. -/
def padDecimal (width n : Nat) : String :=
  let digits := toString n
  String.ofList (List.replicate (width - digits.length) '0') ++ digits

namespace Instant

/-- A billion nanoseconds make a second. -/
def nanosPerSecond : Nat := 1000000000

/-- Whether there is such an instant: only the last second of a minute can be a leap second. -/
def IsValid (t : Instant) : Prop :=
  t.nanoseconds < nanosPerSecond ∨ (t.nanoseconds < 2 * nanosPerSecond ∧ t.seconds % 60 = 59)

instance (t : Instant) : Decidable t.IsValid := by unfold IsValid; infer_instance

/-- A year of four digits, or with a sign and four digits or more. -/
def yearText (year : Int) : String :=
  if 0 ≤ year ∧ year ≤ 9999 then padDecimal 4 year.toNat
  else if year < 0 then "-" ++ padDecimal 4 year.natAbs
  else "+" ++ padDecimal 4 year.natAbs

/-- The fraction of a second, in the fewest of three, six or nine digits; nothing for a whole second. -/
def fractionText (nanos : Nat) : String :=
  if nanos = 0 then ""
  else if nanos % 1000000 = 0 then "." ++ padDecimal 3 (nanos / 1000000)
  else if nanos % 1000 = 0 then "." ++ padDecimal 6 (nanos / 1000)
  else "." ++ padDecimal 9 nanos

/-- The text of an instant in UTC. -/
def text (t : Instant) : String :=
  let date := CivilDate.ofDays (t.seconds / 86400)
  let second := (t.seconds % 86400).toNat
  let leap := t.nanoseconds / nanosPerSecond
  yearText date.year ++ "-" ++ padDecimal 2 date.month ++ "-" ++ padDecimal 2 date.day ++ "T" ++
    padDecimal 2 (second / 3600) ++ ":" ++ padDecimal 2 (second / 60 % 60) ++ ":" ++
    padDecimal 2 (second % 60 + leap) ++ fractionText (t.nanoseconds % nanosPerSecond) ++ "+00:00"

end Instant

end Bootstrap
