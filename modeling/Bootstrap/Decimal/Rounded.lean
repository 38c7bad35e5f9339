import Bootstrap.Decimal.Shortest

/-!
# Rounded decimals

Numbers with a set number of digits, of which the last one is rounded half to even. Signs are left out.

* `fixed` has a set number of places behind the point.
* `scientific` has one digit in front of the point, and an exponent.
* `compact` has a set number of digits, in the shorter one of these forms.
-/

namespace Bootstrap.Decimal

/-- The whole number nearest to `n / d`; a half goes to the even one. -/
def roundHalfEven (n d : Nat) : Nat :=
  let half := 2 * (n % d)
  n / d + (if d < half || (half = d && n / d % 2 = 1) then 1 else 0)

/-- Digits with a point in front of the last `places`. -/
def pointed (places : Nat) (digits : List Char) : List Char :=
  if places = 0 then digits
  else digits.take (digits.length - places) ++ '.' :: digits.drop (digits.length - places)

/-- A number with a set number of places behind the point. -/
def fixed (places : Nat) (x : Float) : List Char :=
  let (n, d) := (Binary.ofFloat x).fraction
  let digits := Nat.toDigits 10 (roundHalfEven (n * Nat.pow 10 places) d)
  pointed places (List.replicate (places + 1 - digits.length) '0' ++ digits)

/-- The digits of a number in scientific form, and its exponent. -/
def scientificParts (places : Nat) (x : Float) : List Char × Int :=
  let (n, d) := (Binary.ofFloat x).fraction
  if n = 0 then (List.replicate (places + 1) '0', 0)
  else
    -- The place of the last digit.
    let last := leadingPlace n d - 1 - places
    let units (last : Int) : Nat := roundHalfEven (n * Nat.pow 10 (-last).toNat) (d * Nat.pow 10 last.toNat)
    let digits := Nat.toDigits 10 (units last)
    if digits.length < places + 1 then (Nat.toDigits 10 (units (last - 1)), last - 1 + places)
    else if digits.length = places + 1 then (digits, last + places)
    else (Nat.toDigits 10 (units (last + 1)), last + 1 + places)

/-- An exponent of at least two digits. -/
def exponentText (e : Int) : List Char :=
  let digits := Nat.toDigits 10 e.natAbs
  'e' :: (if e < 0 then '-' else '+') :: (List.replicate (2 - digits.length) '0' ++ digits)

def scientific (places : Nat) (x : Float) : List Char :=
  let (digits, e) := scientificParts places x
  pointed places digits ++ exponentText e

/-- A number without the zeros at its end, and without a point that nothing follows. -/
def withoutIdleZeros (cs : List Char) : List Char :=
  if cs.contains '.' then (withoutZeros cs).reverse.dropWhile (· = '.') |>.reverse else cs

def compact (digits : Nat) (x : Float) : List Char :=
  let digits := max digits 1
  let (shown, e) := scientificParts (digits - 1) x
  if -4 ≤ e && e < digits then withoutIdleZeros (fixed (digits - 1 - e).toNat x)
  else withoutIdleZeros (pointed (digits - 1) shown) ++ exponentText e

example : fixed 2 2.675 = "2.67".toList := by decide +kernel
example : scientific 3 9999.9 = "1.000e+04".toList := by decide +kernel
example : compact 6 0.0001 = "0.0001".toList := by decide +kernel

end Bootstrap.Decimal
