import Bootstrap.Template.Filter.Collection
import Bootstrap.Template.Filter.Number
import Bootstrap.Template.Filter.Text
import Bootstrap.Template.Test

/-!
# Filters

What can stand behind a bar. `applyFilter?` finds a filter by its name; `none` is a filter that does not exist or does not take
its arguments. Some filters apply other filters or tests to the elements of a list.
-/

namespace Bootstrap.Template.Filter

/-- The elements that a test accepts or, when `keeps` is off, rejects. Without a test they are asked for their truth. A
test may be asked about a field of the elements. -/
def select? (keeps : Bool) (fieldPath : Option (List Char)) (v : Value) (as : List Value) : Option Value := do
  let test ← textOption? as.head?
  let known := match test with
    | none => true
    | some name => testNames.contains (String.ofList name)
  let accepts (w : Value) : Option Bool := do
    let w ← match fieldPath with
      | none => some w
      | some path => w.path? path
    match test with
    | none => some w.holds
    | some name => applyTest? (String.ofList name) w ⟨as.drop 1, []⟩
  if !known then none
  else
    let vs ← (← v.elements?).filterMapM fun w => (accepts w).map fun b => if b = keeps then some w else none
    some (given vs)

/-- A field of an element, or a value in place of what is undefined. -/
def mapField? (fieldPath : Value) (fallback : Option Value) (v : Value) : Option Value :=
  let found := match fieldPath with
    | .text path _ => v.path? path
    | key => v.element? key
  match found, fallback with
  | some .undefined, some w | none, some w => some w
  | found, _ => found

/-- Applies a filter where markup is escaped or not. A filter that applies filters does so with less fuel. -/
def applyFilter? (escapes : Bool) : (fuel : Nat) → (name : String) → Value → Arguments → Option Value
  | 0, _, _, _ => none
  | fuel + 1, name, v, as =>
    match name with
    | "default" | "d" => default? v as
    | "sort" => sort? v as
    | "dictsort" => dictsort? v as
    | "unique" => unique? v as
    | "groupby" => groupby? v as
    | "format" => format? v as
    | "map" =>
      match as.named.lookup "attribute" with
      | some fieldPath =>
        if as.within 0 ["attribute", "default"] then do
          (← v.elements?).mapM (mapField? fieldPath (as.named.lookup "default")) |>.map given
        else none
      | none => do
        let inner := String.ofList (← (← as.plain.head?).text?)
        if !filterNames.contains inner then none
        else (← v.elements?).mapM (fun w => applyFilter? escapes fuel inner w ⟨as.plain.drop 1, as.named⟩) |>.map given
    | _ =>
      if !as.named.isEmpty then none
      else
        match name, as.plain with
        | "select", as => select? true none v as
        | "reject", as => select? false none v as
        | "selectattr", path :: as => select? true (some path.display) v as
        | "rejectattr", path :: as => select? false (some path.display) v as
        | name, as => (text? escapes name v as).or ((number? name v as).or (collection? escapes name v as))

end Bootstrap.Template.Filter
