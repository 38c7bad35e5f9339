import Bootstrap.Template.Machine
import Bootstrap.Template.Reader

/-!
# Rendering templates

A template is rendered with values for some names. A name without a value is undefined: it prints nothing and counts as
false, but has no fields. `none` stands for an operation on values that do not admit it, and for filters, tests,
functions and templates that do not exist.

Expressions and statements run with fuel, which only nesting uses up; `Document.render?` gives more than a template with
calls to the full depth needs.
-/

namespace Bootstrap.Template

/-- The result of an operator on two values that have both been worked out. -/
def applyOperator? (op : Operator) (a b : Value) : Option Value :=
  match op with
  | .or => some (if a.holds then a else b)
  | .and => some (if a.holds then b else a)
  | .add => add? a b
  | .subtract => subtract? a b
  | .concat => some (.plain (a.display ++ b.display))
  | .multiply => multiply? a b
  | .divide => divide? a b
  | .quotient => quotient? a b
  | .remainder => remainder? a b
  | .power => power? a b

/-- Whether two values compare as asked. -/
def applyComparison? (c : Comparison) (a b : Value) : Option Bool :=
  match c with
  | .equal => some (a.equal b)
  | .differ => some !(a.equal b)
  | .less => some (a.before b)
  | .lessEqual => some !(b.before a)
  | .greater => some (b.before a)
  | .greaterEqual => some !(a.before b)
  | .isIn => a.isIn? b
  | .notIn => (a.isIn? b).map fun r => !r

/-- Whether markup is escaped in a mode. -/
def escapesIn? (mode : Value) : Option Bool :=
  match mode with
  | .text s _ => if s = "html".toList then some true else if s = "none".toList then some false else none
  | v => some (v.equal (.bool true))

/-- Whether another template can be done without. No template has any other beside it. -/
def passesOver (name : Value) (ignoresMissing : Bool) : Bool :=
  let names := (name.members?).getD [name]
  names.isEmpty || (ignoresMissing && names.all fun v => v.text?.isSome)

open Run

mutual

/-- Works an expression out. -/
def eval : (fuel : Nat) → Expr → Run Value
  | 0, _ => failure
  | fuel + 1, e => do
    match e with
    | .literal v => return v
    | .variable x => return Value.ofOption ((← get).find? x)
    | .list es => return .list .given (← es.mapM (eval fuel))
    | .record fs =>
      let fields ← fs.mapM fun f => do return (← eval fuel f.1, ← eval fuel f.2)
      return Value.recordOf fields
    | .field e name => part ((← eval fuel e).field? name)
    | .element e key =>
      let v ← eval fuel e
      part (v.element? (← eval fuel key))
    | .slice e start stop step =>
      let v ← eval fuel e
      let start ← eval fuel start
      let stop ← eval fuel stop
      part (v.slice? start stop (← eval fuel step))
    | .call callee as => call fuel callee as none
    | .filter e name as =>
      let v ← eval fuel e
      let as ← arguments fuel as {}
      part (Filter.applyFilter? (← get).escapes (as.plain.length + 2) name v as)
    | .test e name as =>
      let v ← eval fuel e
      let known ← arguments fuel as {}
      let isKept := e.isReference && as.all Argument.isReference
      if name = "sameas" && known.plain.length = 1 && v.isCompound && !isKept then return .bool false
      else part ((applyTest? name v known).map .bool)
    | .not e => return .bool !(← eval fuel e).holds
    | .negate e => part (negate? (← eval fuel e))
    | .binary .or a b =>
      let v ← eval fuel a
      if v.holds then return v else eval fuel b
    | .binary .and a b =>
      let v ← eval fuel a
      if v.holds then eval fuel b else return v
    | .binary op a b =>
      let v ← eval fuel a
      part (applyOperator? op v (← eval fuel b))
    | .compare first rest =>
      let v ← eval fuel first
      return .bool (← comparisons fuel v rest)
    | .choose condition yes no =>
      if (← eval fuel condition).holds then eval fuel yes else eval fuel no
    | .captured => return (← get).capture

/-- Compares a value with others, each of them with the next. What follows a comparison that fails is not worked out. -/
def comparisons : (fuel : Nat) → Value → List (Comparison × Expr) → Run Bool
  | 0, _, _ => failure
  | _, _, [] => return true
  | fuel + 1, v, (c, e) :: rest => do
    let w ← eval fuel e
    match applyComparison? c v w with
    | none => failure
    | some false => return false
    | some true => comparisons fuel w rest

/-- Works arguments out. -/
def arguments : (fuel : Nat) → List Argument → Arguments → Run Arguments
  | 0, _, _ => failure
  | _, [], known => return known
  | fuel + 1, a :: as, known => do
    match a with
    | .plain e =>
      let v ← eval fuel e
      arguments fuel as { known with plain := known.plain ++ [v] }
    | .named x e =>
      let v ← eval fuel e
      arguments fuel as (known.adding x v)
    | .spread e =>
      match (← eval fuel e).elements? with
      | some vs => arguments fuel as { known with plain := known.plain ++ vs }
      | none => failure
    | .spreadNamed e =>
      match (← eval fuel e).fields? with
      | some fields =>
        match fields.mapM fun f => f.1.text?.map fun x => (String.ofList x, f.2) with
        | some named => arguments fuel as (named.foldl (fun known a => known.adding a.1 a.2) known)
        | none => failure
      | none => failure

/-- Carries a call out. A routine that is given besides the arguments is one more of them. -/
def call : (fuel : Nat) → Expr → List Argument → Option (Run Value) → Run Value
  | 0, _, _, _ => failure
  | fuel + 1, callee, as, caller => do
    let given : Run Arguments := do
      let as ← arguments fuel as {}
      match caller with
      | some r => return as.adding "caller" (← r)
      | none => return as
    match callee with
    | .variable "super" => failure
    | .variable "loop" =>
      let as ← given
      match as.all, (← get).currentLoop?.bind Turn.again with
      | [v], some (t, body) => captured do let _ ← loop fuel t v true body
      | _, _ => failure
    | .variable x =>
      let as ← given
      match (← get).find? x with
      | some f => apply fuel f as
      | none => failure
    | .field (.variable "self") name =>
      match (← get).blocks.lookup name with
      | some body => captured (inFrame {} (statements fuel body))
      | none => failure
    | .field e name =>
      let v ← eval fuel e
      let as ← given
      match v with
      | .loop id _ _ _ _ _ => turnMethod id name as.all
      | .record _ fields =>
        match Value.findKey? fields (.ofString name) with
        | some f => apply fuel f as
        | none => failure
      | _ => failure
    | e =>
      let f ← eval fuel e
      apply fuel f (← given)

/-- Applies a function or a routine to arguments. -/
def apply : (fuel : Nat) → Value → Arguments → Run Value
  | 0, _, _ => failure
  | fuel + 1, f, as => do
    match f with
    | .function f => builtin f as
    | .routine id _ _ _ =>
      let outer ← get
      match outer.routines[id]? with
      | none => failure
      | some r =>
        match parameterValues? r.parameters r.takesCaller as with
        | none => failure
        | some vs =>
          let depth := outer.totalDepth + callCost
          if maxFrames ≤ depth then failure
          else
            set { outer with
              frames := [{ outside := some r.closure }], depth := depth, blocks := [], output := [] }
            if r.takesCaller then store "caller" (Value.ofOption (as.named.lookup "caller"))
            let plain := vs.length - r.parameters.defaults.length
            let defaults := List.replicate plain none ++ r.parameters.defaults.map some
            ((r.parameters.names.zip vs).zip defaults).reverse.forM fun ((x, v), d) =>
              match d with
              | some e => if v.isUndefined then do store x (← eval fuel e) else store x v
              | none => store x v
            statements fuel r.body
            let inner ← get
            set { inner with
              frames := outer.frames, depth := outer.depth, blocks := outer.blocks, output := outer.output }
            return textOf outer inner.output
    | _ => failure

/-- Assigns a value to a target. -/
def assign : (fuel : Nat) → Target → Value → Run Unit
  | 0, _, _ => failure
  | fuel + 1, t, v => do
    match t with
    | .name x => store x v
    | .field e name =>
      match ← eval fuel e with
      | .record (some id) _ =>
        modify fun m => { m with spaces := m.spaces.modify id (Value.withKey (.ofString name) v) }
      | _ => failure
    | .all ts =>
      match v.members? with
      | some vs => if vs.length = ts.length then (ts.zip vs).forM fun (t, v) => assign fuel t v else failure
      | none => failure

/-- Runs a loop over the elements of a value, and tells whether there was a turn. -/
def loop : (fuel : Nat) → Target → Value → (recursive : Bool) → List Statement → Run Bool
  | 0, _, _, _, _ => failure
  | fuel + 1, t, v, recursive, body => do
    match v.elements? with
    | none => failure
    | some vs =>
      let length := if v.isCounted then some vs.length else none
      let id ← newLoop length true (if recursive then some (t, body) else none)
      let _ ← forTurns id vs fun v => do
        assign fuel t v
        statements fuel body
      return !vs.isEmpty

/-- Carries out a statement. -/
def statement : (fuel : Nat) → Statement → Run Unit
  | 0, _ => failure
  | fuel + 1, s => do
    match s with
    | .text cs => emit cs
    | .output e => print (← eval fuel e)
    | .choose condition yes no =>
      if (← eval fuel condition).holds then statements fuel yes else statements fuel no
    | .loop t elements condition recursive body otherwise =>
      let v ← eval fuel elements
      let v ← match condition with
        | none => pure v
        | some c =>
          match v.elements? with
          | none => failure
          | some vs =>
            let id ← newLoop (some vs.length) false none
            let kept ← forTurns id vs fun v => do
              assign fuel t v
              return if (← eval fuel c).holds then some v else none
            pure (.list .given (kept.filterMap fun v => v))
      unless ← loop fuel t v recursive body do statements fuel otherwise
    | .scope bindings body =>
      inFrame {} do
        bindings.forM fun b => do assign fuel b.1 (← eval fuel b.2)
        statements fuel body
    | .assign t e => assign fuel t (← eval fuel e)
    | .capture t e body =>
      let v ← captured (statements fuel body)
      modify fun m => { m with capture := v }
      assign fuel t (← eval fuel e)
    | .transform e body =>
      let v ← captured (statements fuel body)
      modify fun m => { m with capture := v }
      print (← eval fuel e)
    | .escape mode body =>
      match escapesIn? (← eval fuel mode) with
      | none => failure
      | some escapes =>
        let outer := (← get).escapes
        modify fun m => { m with escapes := escapes }
        statements fuel body
        modify fun m => { m with escapes := outer }
    | .block _ body => inFrame {} (statements fuel body)
    | .declare name ps mentioned body => store name (← declare name ps mentioned body)
    | .callWith callee as ps mentioned body =>
      print (← call fuel callee as (some (declare "caller" ps mentioned body)))
    | .perform e =>
      let _ ← eval fuel e
    | .include name ignoresMissing =>
      unless passesOver (← eval fuel name) ignoresMissing do failure
    | .require name =>
      let _ ← eval fuel name
      failure
    | .refuse => failure

/-- Carries out statements one after the other. -/
def statements : (fuel : Nat) → List Statement → Run Unit
  | 0, _ => failure
  | fuel + 1, ss => ss.forM (statement fuel)

end

namespace Document

/-- The machine before a template starts. -/
def start (d : Document) (names : Names) : Machine := { frames := [{ given := names }], blocks := d.blocks }

/-- Renders a template with values for some names. -/
def render? (d : Document) (names : Names) : Option String := do
  let (_, m) ← (statements (2 * (maxFrames + 1) * d.size) d.body).run (d.start names)
  some (String.ofList m.output.reverse.flatten)

end Document

end Bootstrap.Template
