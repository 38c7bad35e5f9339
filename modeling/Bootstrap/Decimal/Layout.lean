import Bootstrap.Decimal.Shortest

/-!
# Layout of decimals

How the digits of a number are laid out: with a point among them, or with an exponent behind them. A `Layout` says where
one form ends and the other begins.
-/

namespace Bootstrap.Decimal

/-- Which numbers are written with a point alone; all others get an exponent. -/
structure Layout where
  /-- Whether a number `0.DIGITS * 10 ^ point` is written with a point alone. -/
  isPositional : (point : Int) → Bool

namespace Layout

/-- Every number is written with a point. -/
def positional : Layout := ⟨fun _ => true⟩

/-- Numbers below 0.0001, and those of more than sixteen digits in front of the point, get an exponent. -/
def general : Layout := ⟨fun point => -4 < point && point ≤ 16⟩

/-- Digits with a point among them, and with at least one digit on both sides of it. -/
def withPoint (d : Digits) : List Char :=
  let zeros := fun n : Int => List.replicate n.toNat '0'
  let front := (d.digits ++ zeros (d.point - d.digits.length)).take d.point.toNat
  let back := zeros (-d.point) ++ d.digits.drop d.point.toNat
  (if front.isEmpty then ['0'] else front) ++ '.' :: (if back.isEmpty then ['0'] else back)

/-- Digits with an exponent behind them. -/
def withExponent (d : Digits) : List Char :=
  let back := d.digits.drop 1
  d.digits.take 1 ++ (if back.isEmpty then [] else '.' :: back) ++ 'e' :: (toString (d.point - 1)).toList

/-- The text of a number, with the fewest digits that identify it. -/
def text (l : Layout) (x : Float) : List Char :=
  if x.isNaN then "NaN".toList
  else
    let b := Binary.ofFloat x
    let sign := if b.negative then ['-'] else []
    if x.isInf then sign ++ "inf".toList
    else if b.mantissa = 0 then sign ++ "0.0".toList
    else
      let d := shortest b
      sign ++ if l.isPositional d.point then withPoint d else withExponent d

example : positional.text 1e21 = "1000000000000000000000.0".toList := by decide +kernel
example : positional.text (-0.00001234) = "-0.00001234".toList := by decide +kernel
example : general.text 1.5e-7 = "1.5e-7".toList := by decide +kernel

end Layout

end Bootstrap.Decimal
