import Bootstrap.Decimal.Reader
import Bootstrap.Template.Order

/-!
# Parts of values

The elements, fields and slices of a value. A place counted from the end is written as a negative number. `none` of an
operation is a value that does not admit it; a part that is not there is undefined.
-/

namespace Bootstrap.Template

/-! ### Slices -/

/-- A place brought between two ends; a negative one is counted from behind the last element. -/
def clampPlace (low high size : Int) (place : Int) : Int :=
  let place := if place < 0 then place + size else place
  max low (min high place)

/-- The places of a slice in steps upwards. -/
def placesUp (size : Nat) (start stop : Option Int) (step : Nat) : List Nat :=
  let first := (clampPlace 0 size size (start.getD 0)).toNat
  let last := (clampPlace 0 size size (stop.getD size)).toNat
  (List.range ((last - first + (step - 1)) / step)).map fun i => first + i * step

/-- The places of a slice in steps downwards. -/
def placesDown (size : Nat) (start stop : Option Int) (step : Nat) : List Nat :=
  let first := clampPlace (-1) (size - 1) size (start.getD (size - 1))
  let last := match stop with
    | some stop => clampPlace (-1) (size - 1) size stop
    | none => -1
  (List.range (((first - last).toNat + (step - 1)) / step)).map fun (i : Nat) => (first - Int.ofNat (i * step)).toNat

/-- The elements of a slice; a step of zero makes none. -/
def sliceOf? (xs : List α) (start stop : Option Int) (step : Int) : Option (List α) :=
  if step = 0 then none
  else
    let places :=
      if 0 < step then placesUp xs.length start stop step.toNat else placesDown xs.length start stop step.natAbs
    some (places.filterMap fun i => xs[i]?)

namespace Value

/-! ### Fields -/

/-- What a turn of a loop knows about itself. One whose number of turns is not known never counts as the last. -/
def turnFields (index : Nat) (length : Option Nat) (depth : Nat) (previous next : Value) : List (String × Value) := [
  ("index0", .int index),
  ("index", .int (index + 1)),
  ("length", ofOption (length.map fun n => .int n)),
  ("revindex", ofOption (length.map fun n => .int (n - index : Nat))),
  ("revindex0", ofOption (length.map fun n => .int (n - index - 1 : Nat))),
  ("first", .bool (index == 0)),
  ("last", .bool (length.any fun n => n ≤ index + 1)),
  ("depth", .int (depth + 1)),
  ("depth0", .int depth),
  ("previtem", previous),
  ("nextitem", next)]

/-- What a routine knows about itself. -/
def routineFields (name : String) (parameters : List String) (takesCaller : Bool) : List (String × Value) := [
  ("name", ofString name),
  ("arguments", .list .given (parameters.map ofString)),
  ("caller", .bool takesCaller)]

/-- The fields of a value that has fields: a record, a turn of a loop or a routine. -/
def fields? : Value → Option (List (Value × Value))
  | .record _ fs => some fs
  | .loop _ index length depth previous next =>
    some ((turnFields index length depth previous next).map fun f => (ofString f.1, f.2))
  | .routine _ name parameters takesCaller =>
    some ((routineFields name parameters takesCaller).map fun f => (ofString f.1, f.2))
  | _ => Option.none

/-! ### Elements -/

/-- The elements of a list, or the keys of the fields of a value. -/
def members? : Value → Option (List Value)
  | .list _ vs => some vs
  | v => v.fields?.map fun fs => fs.map Prod.fst

/-- The values that a loop runs over. -/
def elements? : Value → Option (List Value)
  | .undefined | .none => some []
  | .text s _ => some (s.map fun c => .plain [c])
  | v => v.members?

/-- Whether it is known from the start how many elements a value has. The characters of a text are read one by one. -/
def isCounted : Value → Bool
  | .text s _ => s.isEmpty
  | .list .streamed _ => false
  | _ => true

def length? : Value → Option Nat
  | .list .streamed _ => Option.none
  | .text s _ => some s.length
  | v => v.members?.map List.length

/-- A field of a value by its name, undefined if there is none; what is undefined must not be asked. -/
def field? (v : Value) (name : String) : Option Value :=
  match v with
  | .undefined => Option.none
  | .list .group [key, members] =>
    some (if name = "grouper" then key else if name = "list" then members else .undefined)
  | v => some (ofOption (v.fields?.bind fun fs => findKey? fs (ofString name)))

/-- The element at a place, counted from the end if it is negative. -/
def elementAt? (xs : List α) (place : Int) : Option α :=
  let i := if place < 0 then place + xs.length else place
  if i < 0 then Option.none else xs[i.toNat]?

/-- An element of a list or a text by its place, or a field by its key. -/
def element? (v key : Value) : Option Value :=
  match v, key with
  | .undefined, _ => Option.none
  | .text s _, _ => some (ofOption ((key.asPlace?.bind (elementAt? s)).map fun c => .plain [c]))
  | .list .group _, .text name _ => v.field? (String.ofList name)
  | .list form vs, _ =>
    some (ofOption ((key.asPlace?.filter fun n => form ≠ .streamed || 0 ≤ n).bind (elementAt? vs)))
  | v, key => some (ofOption (v.fields?.bind fun fs => findKey? fs key))

/-- A field that is reached through several names and places with points between them. -/
def path? (v : Value) (path : List Char) : Option Value :=
  (path.splitOn '.').foldlM (fun v part =>
    if !part.isEmpty && part.all Char.isDigit then v.element? (.int (Decimal.digitsValue part))
    else v.field? (String.ofList part)) v

/-- A place that bounds a slice; `none` and what is left out do not bound it. -/
def bound? : Value → Option (Option Int)
  | .none => some Option.none
  | v => v.asPlace?.map some

/-- A slice in steps upwards of elements whose number is not known: none are counted from the end, and an end that is left out
is taken to be the start. -/
def streamedSlice (vs : List Value) (start stop : Option Int) (step : Nat) : Value :=
  let first := (start.getD 0).toNat
  let count := (stop.getD 0).toNat - first
  let places := (List.range ((count + (step - 1)) / step)).map fun i => first + i * step
  .list (if count = 0 then .computed else .streamed) (places.filterMap fun i => vs[i]?)

/-- A slice of a list or a text. Nothing is left of what is undefined. -/
def slice? (v start stop step : Value) : Option Value := do
  let start ← start.bound?
  let stop ← stop.bound?
  let step := (← step.bound?).getD 1
  match v with
  | .text s _ => (sliceOf? s start stop step).map .plain
  | .list .streamed vs =>
    if 0 < step then some (streamedSlice vs start stop step.toNat)
    else (sliceOf? vs start stop step).map (.list .computed)
  | .list _ vs => (sliceOf? vs start stop step).map (.list .computed)
  | .undefined | .none => if step = 0 then Option.none else some (.list .given [])
  | _ => Option.none

/-- Whether `sub` stands somewhere in a text. -/
def occursIn (sub : List Char) : List Char → Bool
  | [] => sub.isEmpty
  | c :: cs => sub.isPrefixOf (c :: cs) || occursIn sub cs

/-- Whether a value is an element of a list, a key of a record or a part of a text. -/
def isIn? (a b : Value) : Option Bool :=
  match b with
  | .undefined => some false
  | .text t _ => some (occursIn a.display t)
  | .list _ vs => some (vs.any (equal a))
  | .function _ => some false
  | b => b.fields?.map fun fs => (findKey? fs a).isSome

end Value

end Bootstrap.Template
