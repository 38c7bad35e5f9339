import Bootstrap.Template.Builtin
import Bootstrap.Template.Filter
import Bootstrap.Template.Tree

/-!
# The state of a running template

Names are looked up in frames, from the innermost to the outermost. A loop, a scope, a block and a call each have a
frame. Loops, records that may change and routines are kept in tables, since values refer to them by number.

* `Machine.find?` looks a name up, `Run.store` gives one a value in the innermost frame.
* `Run.captured` keeps what is printed as a value.
-/

namespace Bootstrap.Template

/-- The values of names; the first one found counts. -/
abbrev Names := List (String × Value)

/-- Names with a value for one of them. -/
def Names.insert (names : Names) (x : String) (v : Value) : Names := (x, v) :: names.filter fun n => n.1 ≠ x

structure Frame where
  /-- What has been assigned in the frame. -/
  locals : Names := []
  /-- The table for the routines that are declared in the frame. -/
  closure : Option Nat := none
  /-- The loop that the frame is for. -/
  loop : Option Nat := none
  /-- The table that a routine looks names up in. -/
  outside : Option Nat := none
  /-- What was given from the start. -/
  given : Names := []

/-- A loop that runs or has run. -/
structure Turn where
  index : Nat
  length : Option Nat
  depth : Nat
  previous : Value
  next : Value
  /-- Whether the loop has a name in its body. -/
  named : Bool
  /-- What is done again when the loop is called. -/
  again : Option (Target × List Statement)
  /-- The values that were last asked about for a change. -/
  seen : Option (List Value)

structure Routine where
  parameters : Parameters
  takesCaller : Bool
  body : List Statement
  closure : Nat

structure Machine where
  /-- From the innermost to the outermost. -/
  frames : List Frame
  /-- How deep the call is nested that the frames belong to. -/
  depth : Nat := 0
  blocks : List (String × List Statement)
  /-- Whether markup is escaped. -/
  escapes : Bool := false
  /-- The pieces of the output, the last one first. -/
  output : List (List Char) := []
  /-- The text that was captured last. -/
  capture : Value := .undefined
  closures : Array Names := #[]
  spaces : Array (List (Value × Value)) := #[]
  loops : Array Turn := #[]
  routines : Array Routine := #[]

/-- How deeply frames may be nested. -/
def maxFrames : Nat := 500

/-- How many frames a call of a routine counts for besides its own. -/
def callCost : Nat := 4

namespace Machine

/-- The frames of all calls together. -/
def totalDepth (m : Machine) : Nat := m.depth + m.frames.length

/-- A value as it is now: loops and records may have changed since it was made. -/
def refresh (m : Machine) : Value → Value
  | .record (some id) fields => .record (some id) (m.spaces[id]?.getD fields)
  | .loop id index length depth previous next =>
    match m.loops[id]? with
    | some t => .loop id t.index t.length t.depth t.previous t.next
    | none => .loop id index length depth previous next
  | v => v

/-- The values that a frame was made with. -/
def given (m : Machine) (f : Frame) : Names :=
  match f.outside with
  | some id => m.closures[id]?.getD []
  | none => f.given

/-- What a name stands for in a frame. -/
def findIn? (m : Machine) (x : String) (f : Frame) : Option Value :=
  match f.locals.lookup x with
  | some v => some v
  | none =>
    match f.loop.bind fun id => (m.loops[id]?.filter fun t => t.named && x == "loop").map fun t =>
        Value.loop id t.index t.length t.depth t.previous t.next with
    | some v => some v
    | none => ((m.given f).lookup x).filter fun v => !v.isUndefined

def builtin? (x : String) : Option Value :=
  ([Builtin.range, .dict, .space, .debug].find? fun f => f.name = x).map .function

/-- What a name stands for. -/
def find? (m : Machine) (x : String) : Option Value :=
  ((m.frames.findSome? (m.findIn? x)).map m.refresh).or (builtin? x)

/-- The innermost loop. -/
def currentLoop? (m : Machine) : Option Turn := m.frames.findSome? fun f => f.loop.bind fun id => m.loops[id]?

/-- Changes the innermost frame. -/
def changeFrame (m : Machine) (change : Frame → Frame) : Machine :=
  match m.frames with
  | f :: fs => { m with frames := change f :: fs }
  | [] => m

/-- Gives a name a value in the innermost frame, and in the table of its routines. -/
def store (m : Machine) (x : String) (v : Value) : Machine :=
  let closures := match m.frames.head?.bind Frame.closure with
    | some id => m.closures.modify id fun names => names.insert x v
    | none => m.closures
  { m with closures := closures }.changeFrame fun f => { f with locals := f.locals.insert x v }

/-- Puts names into a table as they stand now; those that it has keep their values. -/
def enclose (m : Machine) (id : Nat) (mentioned : List String) : Machine :=
  let names := (m.closures[id]?.getD [])
  let missing := mentioned.eraseDups.filter fun x => (names.lookup x).isNone
  let added := missing.map fun x => (x, Value.ofOption (m.find? x))
  { m with closures := m.closures.modify id fun names => added ++ names }

end Machine

/-- A step of a running template. `none` is an operation on values that do not admit it. -/
abbrev Run (α : Type) := StateT Machine Option α

namespace Run

/-- What a value has to offer, as it is now. -/
def part (v : Option Value) : Run Value := do
  match v with
  | some v => return (← get).refresh v
  | none => failure

/-- Prints a text. -/
def emit (cs : List Char) : Run Unit := modify fun m => { m with output := cs :: m.output }

/-- Prints a value. -/
def print (v : Value) : Run Unit := do
  emit (if (← get).escapes then Filter.markup v else v.display)

/-- The text of some pieces; where markup is escaped it is safe. -/
def textOf (m : Machine) (pieces : List (List Char)) : Value := .text pieces.reverse.flatten m.escapes

/-- Keeps what a step prints as a text. -/
def captured (r : Run Unit) : Run Value := do
  let outer := (← get).output
  modify fun m => { m with output := [] }
  r
  let m ← get
  set { m with output := outer }
  return textOf m m.output

/-- Runs a step in a frame of its own. -/
def inFrame (f : Frame) (r : Run α) : Run α := do
  let m ← get
  if maxFrames ≤ m.totalDepth then failure
  else
    set { m with frames := f :: m.frames }
    let a ← r
    modify fun m => { m with frames := m.frames.tail }
    return a

def store (x : String) (v : Value) : Run Unit := modify fun m => m.store x v

/-- The table for the routines of the innermost frame, which is made when it is needed first. -/
def closure : Run Nat := do
  let m ← get
  match m.frames.head?.bind Frame.closure with
  | some id => return id
  | none =>
    let id := m.closures.size
    set ({ m with closures := m.closures.push [] }.changeFrame fun f => { f with closure := some id })
    return id

/-- Declares a routine, which sees the names that it mentions as they stand now. -/
def declare (name : String) (ps : Parameters) (mentioned : List String) (body : List Statement) : Run Value := do
  let id ← closure
  modify fun m => m.enclose id mentioned
  let m ← get
  let takesCaller := mentioned.contains "caller"
  set { m with routines := m.routines.push ⟨ps, takesCaller, body, id⟩ }
  return .routine m.routines.size name ps.names takesCaller

/-- Makes a record that may change. -/
def newSpace (fields : List (Value × Value)) : Run Value := do
  let m ← get
  set { m with spaces := m.spaces.push fields }
  return .record (some m.spaces.size) fields

/-- Calls a function that every template knows. -/
def builtin (f : Builtin) (as : Arguments) : Run Value := do
  match f with
  | .range => part (range? as.all)
  | .dict => part (dict? as)
  | .debug => part (debug? as.all)
  | .space =>
    match spaceFields? as.all with
    | some fields => match Value.recordOf fields with
      | .record _ fields => newSpace fields
      | _ => failure
    | none => failure

/-- The values of the parameters of a routine in a call; those that are left out are undefined. Every argument has to belong
to one parameter. -/
def parameterValues? (ps : Parameters) (takesCaller : Bool) (as : Arguments) : Option (List Value) :=
  let known := if takesCaller then "caller" :: ps.names else ps.names
  if as.plain.length > ps.names.length || as.named.any (fun a => !known.contains a.1)
      || as.named.any (fun a => (ps.names.take as.plain.length).contains a.1) then none
  else some (ps.names.zipIdx.map fun p => Value.ofOption (as.find? p.2 p.1))

/-- What a turn of a loop answers when it is called by a name. -/
def turnMethod (id : Nat) (name : String) (as : List Value) : Run Value := do
  let m ← get
  match m.loops[id]?, name with
  | some t, "cycle" =>
    if as.isEmpty then failure else return Value.ofOption as[t.index % as.length]?
  | some t, "changed" =>
    let same := match t.seen with
      | some vs => (Value.list .given vs).equal (.list .given as)
      | none => false
    set { m with loops := m.loops.modify id fun t => { t with seen := some as } }
    return .bool !same
  | _, _ => failure

/-- Starts a loop, of which no turn has begun. -/
def newLoop (length : Option Nat) (named : Bool) (again : Option (Target × List Statement)) : Run Nat := do
  let m ← get
  let depth := match m.currentLoop? with
    | some t => if t.again.isSome then t.depth + 1 else 0
    | none => 0
  set { m with loops := m.loops.push ⟨0, length, depth, .undefined, .undefined, named, again, none⟩ }
  return m.loops.size

/-- Begins a turn of a loop; what was assigned in the one before is forgotten. -/
def beginTurn (id index : Nat) (previous next : Value) : Run Unit := modify fun m =>
  { m with loops := m.loops.modify id fun t => { t with index := index, previous := previous, next := next } }.changeFrame
    fun f => { f with locals := [] }

/-- Values with their places and their neighbours. -/
def withNeighbours (vs : List Value) : List (Nat × Value × Value × Value) :=
  vs.zipIdx.zip ((Value.undefined :: vs).zip (vs.tail ++ [.undefined])) |>.map fun t => (t.1.2, t.1.1, t.2.1, t.2.2)

/-- Goes through values in a frame for a loop. -/
def forTurns (id : Nat) (vs : List Value) (turn : Value → Run α) : Run (List α) :=
  inFrame { loop := some id } ((withNeighbours vs).mapM fun (i, v, previous, next) => do
    beginTurn id i previous next
    turn v)

end Run

end Bootstrap.Template
