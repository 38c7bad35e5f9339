import Bootstrap.Decimal.Binary

/-!
# Shortest decimals

The fewest decimal digits that identify a double among all doubles: any number between the two points halfway to its
neighbours is read back as the double, and the points themselves are if the mantissa is even.

* `Rounding.admits` is the test for one decimal.
* `shortest` tries one digit, two digits, and so on; of two decimals with as many digits it takes the nearer one.
-/

namespace Bootstrap.Decimal

/-- A decimal number `0.DIGITS * 10 ^ point`. -/
structure Digits where
  digits : List Char
  point : Int
deriving DecidableEq

/-- The decimals that are read back as one number, scaled by a common factor. -/
structure Rounding where
  low : Nat
  value : Nat
  high : Nat
  /-- What one unit of the last digit that is tried comes to. -/
  unit : Nat
  /-- Whether `low` and `high` themselves are read back too. -/
  closed : Bool

namespace Rounding

/-- Whether `n` units are read back as the number. -/
def admits (r : Rounding) (n : Nat) : Bool :=
  if r.closed then r.low ≤ n * r.unit && n * r.unit ≤ r.high else r.low < n * r.unit && n * r.unit < r.high

/-- The nearest number of units that is read back as the number, if there is one. -/
def nearest? (r : Rounding) : Option Nat :=
  let below := r.value / r.unit
  match r.admits below, r.admits (below + 1) with
  | true, true =>
    if 2 * (r.value % r.unit) ≤ r.unit then some below else some (below + 1)
  | true, false => some below
  | false, true => some (below + 1)
  | false, false => none

end Rounding

/-- The decimals around a number, with a unit of `10 ^ place`. -/
def Binary.rounding (b : Binary) (place : Int) : Rounding :=
  let (n, d) := b.fraction
  let gap := Nat.pow 2 b.exponent.toNat
  -- A power of two is twice as near to the number below it as to the one above it.
  let narrow := b.mantissa = Nat.pow 2 mantissaBits && leastExponent < b.exponent
  let scale := Nat.pow 10 (-place).toNat
  { low := (4 * n - (if narrow then gap else 2 * gap)) * scale
    value := 4 * n * scale
    high := (4 * n + 2 * gap) * scale
    unit := 4 * d * Nat.pow 10 place.toNat
    closed := b.mantissa % 2 = 0 }

/-- How many decimal digits a natural number has. -/
def digitCount (n : Nat) : Nat := (Nat.toDigits 10 n).length

/-- The place of the first digit of `n / d` counted from the point, or one place in front of it. -/
def leadingPlace (n d : Nat) : Int :=
  if d ≤ n then digitCount (n / d) else 1 - (digitCount (d / n) : Int)

/-- Decimal digits without the zeros at their end. -/
def withoutZeros (digits : List Char) : List Char := (digits.reverse.dropWhile (· = '0')).reverse

/-- The shortest decimal of a number other than zero. -/
def shortest (b : Binary) : Digits :=
  let (n, d) := b.fraction
  let point := leadingPlace n d
  let found := (List.range 17).findSome? fun (count : Nat) =>
    let place := point - (count + 1)
    (b.rounding place).nearest?.map fun units => (units, place)
  match found with
  | some (units, place) =>
    let digits := Nat.toDigits 10 units
    ⟨withoutZeros digits, digits.length + place⟩
  | none =>
    -- Seventeen digits identify every double; the exact decimal is one of them.
    let digits := Nat.toDigits 10 (n * Nat.pow 10 (digitCount d) / d)
    ⟨withoutZeros digits, (digits.length : Int) - digitCount d⟩

example : shortest (.ofFloat 0.1) = ⟨['1'], 0⟩ := by decide +kernel
example : shortest (.ofFloat 123.25) = ⟨['1', '2', '3', '2', '5'], 3⟩ := by decide +kernel
example : shortest (.ofFloat 5e-324) = ⟨['5'], -323⟩ := by decide +kernel

end Bootstrap.Decimal
