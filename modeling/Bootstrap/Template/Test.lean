import Bootstrap.Template.Arguments
import Bootstrap.Text.Cased

/-!
# Tests

What can stand behind `is`. `none` is a test that does not exist or does not take its arguments.
-/

namespace Bootstrap.Template

/-- The tests of a value by itself. -/
def plainTest? (v : Value) : String → Option Bool
  | "undefined" => some v.isUndefined
  | "defined" => some !v.isUndefined
  | "none" => some (v.rank == 1)
  | "boolean" => some (v.rank == 2)
  | "true" => some (truth? v == some true)
  | "false" => some (truth? v == some false)
  | "number" => some v.isNumber
  | "integer" | "int" => some (match v with | .int _ => true | _ => false)
  | "float" => some (match v with | .float _ => true | _ => false)
  | "odd" => some (v.asInt?.any fun n => n % 2 != 0)
  | "even" => some (v.asInt?.any fun n => n % 2 == 0)
  | "string" => some v.text?.isSome
  | "sequence" => some (v.rank == 6)
  | "mapping" => some (v.rank == 7)
  | "iterable" => some v.elements?.isSome
  | "safe" | "escaped" => some v.isSafe
  | "lower" => v.text?.map fun s => s.all Text.isLowercase
  | "upper" => v.text?.map fun s => s.all Text.isUppercase
  | _ => none

/-- Whether a number is a multiple of another. -/
def isMultiple? (v w : Value) : Option Bool :=
  match Operands.of? true v w with
  | some (.ints m n) => if n = 0 then none else some (m % n == 0)
  | some (.floats x y) => some (floatRemainder x y == 0.0)
  | none => some false

/-- Whether two values are the same and of the same kind. -/
def isSame (v w : Value) : Bool :=
  match v, w with
  | .int m, .int n => m == n
  | .float x, .float y => x == y
  | .int _, .float _ | .float _, .int _ => false
  | _, _ => v.rank == w.rank && v.equal w

/-- The tests of a value against another one. -/
def pairTest? (v w : Value) : String → Option Bool
  | "eq" | "equalto" | "==" => some (v.equal w)
  | "ne" | "!=" => some !(v.equal w)
  | "lt" | "lessthan" | "<" => some (v.before w)
  | "le" | "<=" => some !(w.before v)
  | "gt" | "greaterthan" | ">" => some (w.before v)
  | "ge" | ">=" => some !(v.before w)
  | "in" => v.isIn? w
  | "divisibleby" => isMultiple? v w
  | "startingwith" => some (w.display.isPrefixOf v.display)
  | "endingwith" => some (w.display.isSuffixOf v.display)
  | "sameas" => some (isSame v w)
  | _ => none

/-- The names of the tests. -/
def testNames : List String := [
  "undefined", "defined", "none", "boolean", "true", "false", "number", "integer", "int", "float", "odd", "even",
  "string", "sequence", "mapping", "iterable", "safe", "escaped", "lower", "upper", "eq", "equalto", "==", "ne", "!=",
  "lt", "lessthan", "<", "le", "<=", "gt", "greaterthan", ">", "ge", ">=", "in", "divisibleby", "startingwith",
  "endingwith", "sameas", "filter", "test"]

/-- The names of the filters. -/
def filterNames : List String := [
  "safe", "escape", "e", "lower", "upper", "title", "capitalize", "replace", "length", "count", "dictsort", "items",
  "reverse", "trim", "join", "split", "lines", "default", "d", "round", "abs", "int", "float", "attr", "first", "last",
  "min", "max", "sort", "list", "string", "bool", "batch", "slice", "sum", "indent", "select", "reject", "selectattr",
  "rejectattr", "map", "groupby", "unique", "chain", "zip", "format", "pprint"]

/-- Asks a value about a property. -/
def applyTest? (name : String) (v : Value) (as : Arguments) : Option Bool :=
  if !as.named.isEmpty then none
  else
    match as.plain with
    | [] =>
      if name = "filter" then v.text?.map fun s => filterNames.contains (String.ofList s)
      else if name = "test" then v.text?.map fun s => testNames.contains (String.ofList s)
      else plainTest? v name
    | [w] => pairTest? v w name
    | _ => none

end Bootstrap.Template
