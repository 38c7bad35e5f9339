import Bootstrap.Template.Value

/-!
# Numbers in templates

Whole numbers have 128 bits with a sign: a result that does not fit is no result. Truth values count as 0 and 1. Where a
number with a point takes part, both become one.

* `Operands.of?` brings two values to a common kind of number.
* `add?` to `power?` are the operations on it.
-/

namespace Bootstrap.Template

/-- Whether a whole number fits. -/
def fits (n : Int) : Bool := -Int.pow 2 127 ≤ n && n < Int.pow 2 127

/-- A whole number, if it fits. -/
def int? (n : Int) : Option Value := if fits n then some (.int n) else none

namespace Value

/-- The whole number that a number with a point is equal to, as far as 64 bits reach. -/
def wholeOfFloat? (x : Float) : Option Int :=
  if x.isNaN || x.isInf then Option.none
  else
    let n := (Decimal.Binary.ofFloat x).truncate
    if n.natAbs ≤ Nat.pow 2 63 && Float.ofInt n == x then some n else Option.none

/-- The whole number that a value counts as. -/
def asInt? : Value → Option Int
  | .int n => if fits n then some n else Option.none
  | .bool b => some (if b then 1 else 0)
  | .float x => wholeOfFloat? x
  | _ => Option.none

/-- The whole number from zero on that a value counts as. -/
def asNat? (v : Value) : Option Nat := do
  let n ← v.asInt?
  if n < 0 || Int.pow 2 64 ≤ n then Option.none else some n.toNat

/-- The place in a list or a text that a value stands for, as far as 64 bits reach. -/
def asPlace? (v : Value) : Option Int := v.asInt?.filter fun n => -Int.pow 2 63 ≤ n && n < Int.pow 2 63

/-- Whether a whole number is one of the doubles. -/
def isDouble (n : Int) : Bool := (Decimal.Binary.ofFloat (Float.ofInt n)).truncate == n

/-- The number with a point that a value counts as; an `exact` one has to be equal. -/
def asFloat? (exact : Bool) : Value → Option Float
  | .int n => if exact && !isDouble n then Option.none else some (Float.ofInt n)
  | .bool b => some (if b then 1.0 else 0.0)
  | .float x => some x
  | _ => Option.none

end Value

/-- Two numbers of one kind. -/
inductive Operands where
  | ints (a b : Int)
  | floats (a b : Float)

/-- The numbers that two values count as. -/
def Operands.of? (exact : Bool) (a b : Value) : Option Operands :=
  match a, b with
  | .float x, _ => (b.asFloat? exact).map (.floats x)
  | _, .float y => (a.asFloat? exact).map fun x => .floats x y
  | _, _ => do some (.ints (← a.asInt?) (← b.asInt?))

/-- Combines two numbers by the operation for their kind. -/
def arithmetic (ints : Int → Int → Option Value) (floats : Float → Float → Float) (a b : Value) : Option Value :=
  match Operands.of? false a b with
  | some (.ints m n) => ints m n
  | some (.floats x y) => some (.float (floats x y))
  | none => none

/-- What a division of numbers with a point leaves. -/
def floatRemainder (x y : Float) : Float :=
  if x.isNaN || y.isNaN || x.isInf || y == 0.0 then 0.0 / 0.0
  else if y.isInf then x
  else ((Decimal.Binary.ofFloat x).remainder (.ofFloat y)).toFloat

/-- The whole quotient whose remainder is not negative. -/
def floatQuotient (x y : Float) : Float :=
  let q := x / y
  let whole := if q < 0.0 then q.ceil else q.floor
  if floatRemainder x y < 0.0 then (if y > 0.0 then whole - 1.0 else whole + 1.0) else whole

/-- A power of a whole number. Exponents are at most as large as 32 bits hold. -/
def intPower? (m n : Int) : Option Value :=
  if n < 0 || Int.pow 2 32 ≤ n then none
  else if m.natAbs ≤ 1 then int? (if n = 0 then 1 else if m < 0 && n % 2 = 0 then 1 else m)
  else if 128 ≤ n then none
  else int? (Int.pow m n.toNat)

def subtract? : Value → Value → Option Value := arithmetic (fun m n => int? (m - n)) (· - ·)

/-- The quotient of two numbers always has a point. -/
def divide? (a b : Value) : Option Value := do
  some (.float ((← a.asFloat? false) / (← b.asFloat? false)))

def quotient? : Value → Value → Option Value :=
  arithmetic (fun m n => if n = 0 then none else int? (m / n)) floatQuotient

def remainder? : Value → Value → Option Value :=
  arithmetic (fun m n => if n = 0 then none else int? (m % n)) floatRemainder

def power? : Value → Value → Option Value := arithmetic intPower? Float.pow

/-- Numbers are added, texts and lists are joined. -/
def add? (a b : Value) : Option Value :=
  match a, b with
  | .list f as, .list g bs =>
    some (.list (if f = .streamed || g = .streamed then .streamed else .computed) (as ++ bs))
  | .text s _, .text t _ => some (.plain (s ++ t))
  | _, _ => arithmetic (fun m n => int? (m + n)) (· + ·) a b

/-- Elements one after the other, several times. -/
def repeated (n : Nat) (xs : List α) : List α := (List.replicate n xs).flatten

/-- Numbers are multiplied; texts, and lists whose length is known, are repeated. -/
def multiply? (a b : Value) : Option Value :=
  match a, b with
  | .text s _, n | n, .text s _ => n.asNat?.map fun n => .plain (repeated n s)
  | .list .streamed _, _ | _, .list .streamed _ => none
  | .list _ vs, n | n, .list _ vs => n.asNat?.map fun n => .list .computed (repeated n vs)
  | _, _ => arithmetic (fun m n => int? (m * n)) (· * ·) a b

/-- The number with the other sign. -/
def negate? : Value → Option Value
  | .int n => int? (-n)
  | .float x => some (.float (-x))
  | _ => none

end Bootstrap.Template
