import Bootstrap.Decimal.Binary

/-!
# Reading decimals

Texts of numbers with a point and an exponent, as doubles. The double nearest to the number is taken.
-/

namespace Bootstrap.Decimal

/-- The value of decimal digits. -/
def digitsValue (digits : List Char) : Nat := digits.foldl (fun n c => n * 10 + (c.toNat - '0'.toNat)) 0

/-- Past this many places no double is left: numbers are zero or infinite. -/
def farthestPlace : Nat := 400

/-- The double nearest to `n * 10 ^ place`. -/
def scaled (n : Nat) (place : Int) : Float :=
  let size := (Nat.toDigits 10 n).length
  if n = 0 || place + size < -(farthestPlace : Int) then 0.0
  else if farthestPlace < place + size then 1.0 / 0.0
  else Float.ofScientific n (place < 0) place.natAbs

/-- The sign in front of a number, and what follows it. -/
def readSign : List Char → Bool × List Char
  | '-' :: rest => (true, rest)
  | '+' :: rest => (false, rest)
  | rest => (false, rest)

/-- An exponent at the end of a number. -/
def readExponent? : List Char → Option Int
  | [] => some 0
  | c :: rest =>
    let (negative, digits) := readSign rest
    if (c = 'e' || c = 'E') && !digits.isEmpty && digits.all Char.isDigit then
      let n := min (digitsValue digits) 100000
      some (if negative then -n else n)
    else none

/-- Reads a number without a sign. -/
def readUnsigned? (cs : List Char) : Option Float :=
  let lower := cs.map Char.toLower
  if lower = "inf".toList || lower = "infinity".toList then some (1.0 / 0.0)
  else if lower = "nan".toList then some (0.0 / 0.0)
  else
    let front := cs.takeWhile Char.isDigit
    let rest := cs.drop front.length
    let back := if rest.head? = some '.' then rest.tail.takeWhile Char.isDigit else []
    let rest := if rest.head? = some '.' then rest.drop (back.length + 1) else rest
    if front.isEmpty && back.isEmpty then none
    else (readExponent? rest).map fun e => scaled (digitsValue (front ++ back)) (e - back.length)

/-- Reads a number. -/
def read? (cs : List Char) : Option Float :=
  let (negative, rest) := readSign cs
  (readUnsigned? rest).map fun x => if negative then -x else x

example : (read? "1.5e3".toList).map Float.toBits = some (1500.0 : Float).toBits := by decide +kernel
example : (read? ".".toList).isNone = true := by decide +kernel

end Bootstrap.Decimal
