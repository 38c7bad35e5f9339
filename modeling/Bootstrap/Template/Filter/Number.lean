import Bootstrap.Template.Arguments

/-!
# Filters on numbers

Filters that make a number of a value, or change one.
-/

namespace Bootstrap.Template.Filter

/-- The whole number of a number with a point, towards zero and no further from it than whole numbers reach. -/
def wholeOf (x : Float) : Int :=
  if x.isNaN then 0
  else if x.isInf then (if x < 0.0 then -Int.pow 2 127 else Int.pow 2 127 - 1)
  else max (-Int.pow 2 127) (min (Int.pow 2 127 - 1) (Decimal.Binary.ofFloat x).truncate)

/-- A whole number from its digits, with a sign or without. -/
def readWhole? (cs : List Char) : Option Int :=
  let (negative, digits) := Decimal.readSign cs
  if digits.isEmpty || !digits.all Char.isDigit then none
  else
    let n := Int.ofNat (Decimal.digitsValue digits)
    let n := if negative then -n else n
    if fits n then some n else none

def toInt? : Value → Option Value
  | .undefined | .none => some (.int 0)
  | .bool b => some (.int (if b then 1 else 0))
  | .int n => some (.int n)
  | .float x => some (.int (wholeOf x))
  | .text s _ =>
    match readWhole? s with
    | some n => some (.int n)
    | none => (Decimal.read? s).map fun x => .int (wholeOf x)
  | _ => none

def toFloat? : Value → Option Value
  | .undefined | .none => some (.float 0.0)
  | .bool b => some (.float (if b then 1.0 else 0.0))
  | .int n => some (.float (Float.ofInt n))
  | .float x => some (.float x)
  | .text s _ => (Decimal.read? s).map .float
  | _ => none

def abs? : Value → Option Value
  | .int n => some (.int n.natAbs)
  | .float x => some (.float x.abs)
  | _ => none

/-- A number with at most so many places behind the point; a half goes away from zero. -/
def round? (v : Value) (places : Int) : Option Value :=
  match v with
  | .int n => some (.int n)
  | .float x =>
    let scale := Float.pow 10.0 (Float.ofInt places)
    some (.float ((scale * x).round / scale))
  | _ => none

/-- The filters of a number with arguments that have no names. -/
def number? (name : String) (v : Value) (as : List Value) : Option Value :=
  match name, as with
  | "int", [] => toInt? v
  | "float", [] => toFloat? v
  | "abs", [] => abs? v
  | "bool", [] => some (.bool v.holds)
  | "round", [] => round? v 0
  | "round", [places] => do
    let places ← option? (fun p => p.asPlace?.filter fun n => -Int.pow 2 31 ≤ n && n < Int.pow 2 31) (some places)
    round? v (places.getD 0)
  | _, _ => none

end Bootstrap.Template.Filter
