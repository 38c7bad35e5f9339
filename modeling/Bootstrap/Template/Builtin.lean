import Bootstrap.Template.Arguments

/-!
# Functions of every template

Functions that only look at their arguments. `none` is a call that they do not admit.
-/

namespace Bootstrap.Template

namespace Arguments

/-- All arguments; those with names make up a record behind the others. -/
def all (as : Arguments) : List Value :=
  if as.named.isEmpty then as.plain
  else as.plain ++ [Value.recordOf (as.named.map fun a => (Value.ofString a.1, a.2))]

/-- The arguments with one more that has a name; it replaces another one of that name. -/
def adding (as : Arguments) (name : String) (v : Value) : Arguments :=
  { as with named := as.named.filter (fun a => a.1 ≠ name) ++ [(name, v)] }

end Arguments

/-- A whole number of 32 bits without a sign. -/
def word? (v : Value) : Option Nat := v.asNat?.filter (· < Nat.pow 2 32)

/-- The most elements that a range may have. -/
def longestRange : Nat := 100000

/-- Numbers from zero, or from the first of two arguments, up to the next argument; a third one is the step. -/
def range? (as : List Value) : Option Value := do
  if as.length > 3 then none
  else
    let first ← word? (← as[0]?)
    let second ← option? word? as[1]?
    let step ← option? word? as[2]?
    let (low, high) := match second with
      | some high => (first, high)
      | none => (0, first)
    let step := step.getD 1
    if step = 0 then none
    else
      let count := (high - low + (step - 1)) / step
      if count > longestRange then none
      else some (.list .computed ((List.range count).map fun i => .int (Int.ofNat (low + i * step))))

/-- The fields of an optional value. -/
def givenFields? : Option Value → Option (List (Value × Value))
  | none | some .undefined | some .none => some []
  | some v => v.fields?

/-- A record with the fields of another one and more. -/
def dict? (as : Arguments) : Option Value := do
  if as.plain.length > 1 then none
  else
    let more := as.named.map fun a => (Value.ofString a.1, a.2)
    some (Value.recordOf ((← givenFields? as.plain.head?) ++ more))

/-- The fields that a record which may change starts with; all their keys are texts. -/
def spaceFields? (as : List Value) : Option (List (Value × Value)) := do
  if as.length > 1 then none
  else
    let fields ← givenFields? as.head?
    if fields.all fun f => f.1.text?.isSome then some fields else none

/-- What a value looks like to whoever writes the template. -/
def debug? (as : List Value) : Option Value :=
  match as with
  | [] => none
  | [v] => some (.plain (v.spread 0))
  | vs => some (.plain ((Value.list .given vs).spread 0))

end Bootstrap.Template
