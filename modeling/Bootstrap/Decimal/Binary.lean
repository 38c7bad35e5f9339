/-!
# Binary numbers

A double is a sign and a natural number times a power of two. This module takes doubles apart and puts them together
again, so that the rest of the library can calculate with natural numbers.

* `Binary.ofFloat` and `Binary.toFloat` are the passage.
* `Binary.truncate` drops what is behind the point, `Binary.remainder` is what is left by a division that keeps its sign.
-/

namespace Bootstrap.Decimal

/-- A finite number: `mantissa * 2 ^ exponent`, with a sign. -/
structure Binary where
  negative : Bool
  mantissa : Nat
  exponent : Int
deriving DecidableEq

namespace Binary

/-- How many bits a double has for the digits behind the leading one. -/
def mantissaBits : Nat := 52

/-- The exponent of the smallest double. -/
def leastExponent : Int := -1074

def ofFloat (x : Float) : Binary :=
  let bits := x.toBits.toNat
  let scale := bits / Nat.pow 2 mantissaBits % Nat.pow 2 11
  let digits := bits % Nat.pow 2 mantissaBits
  let negative := bits / Nat.pow 2 63 == 1
  if scale = 0 then ⟨negative, digits, leastExponent⟩
  else ⟨negative, digits + Nat.pow 2 mantissaBits, leastExponent + (Int.ofNat scale - 1)⟩

def toFloat (b : Binary) : Float :=
  let size := (Float.ofNat b.mantissa).scaleB b.exponent
  if b.negative then -size else size

/-- The number times a power of two that makes it whole, and that power. -/
def fraction (b : Binary) : Nat × Nat := (b.mantissa * Nat.pow 2 b.exponent.toNat, Nat.pow 2 (-b.exponent).toNat)

/-- The whole number towards zero. -/
def truncate (b : Binary) : Int :=
  let (n, d) := b.fraction
  if b.negative then -Int.ofNat (n / d) else Int.ofNat (n / d)

/-- What a division by `c` leaves; it has the sign of the number that is divided. -/
def remainder (b c : Binary) : Binary :=
  let exponent := min b.exponent c.exponent
  let whole (x : Binary) : Nat := x.mantissa * Nat.pow 2 (x.exponent - exponent).toNat
  ⟨b.negative, whole b % whole c, exponent⟩

end Binary

end Bootstrap.Decimal
