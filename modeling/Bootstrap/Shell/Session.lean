import Bootstrap.Disk.Change
import Bootstrap.Shell.Arithmetic

/-!
# Shell sessions

The state of a shell: its variables, its functions, its streams, and what it shares with every other process: the disk
and the files that are open.

A step of a session may stop it early, `Stop`. What the step did before that stays done.
-/

namespace Bootstrap.Shell

/-- How a process ended. -/
inductive End where
  | exited (code : Nat)
  | signaled (signal : Nat)
deriving DecidableEq

/-- The exit code that a shell sees. -/
def End.status : End → Nat
  | .exited code => code % 256
  | .signaled signal => 128 + signal

/-- What an open file leads to. -/
inductive Node where
  /-- Nothing to read; what is written is gone. -/
  | null
  /-- Bytes that have not been read yet. -/
  | input (bytes : List UInt8)
  /-- What has been written so far, the last piece first. -/
  | output (pieces : List (List UInt8))
  /-- A file on the disk, from some position on. -/
  | file (location : Location) (position : Nat) (reads writes appends : Bool)

structure Variable where
  /-- A variable without a value may still have the properties below. -/
  value : Option (List Char)
  exported : Bool := false
  readOnly : Bool := false

abbrev Variables := List (List Char × Variable)

/-- What every process has of its own. -/
structure Process where
  name : List Char
  arguments : List (List Char) := []
  /-- Variable values, the same name only once. -/
  bindings : Variables := []
  functions : List (List Char × Command) := []
  /-- Names that stand for other text at the start of a command. -/
  aliases : List (List Char × List Char) := []
  /-- The values that the variables of the functions at hand had before. -/
  saved : List Variables := []
  /-- Letters of the options that are on. -/
  options : List Char := []
  /-- The exit code of the last command. -/
  status : Nat := 0
  /-- The exit code of the last commands whose output was taken for a word. -/
  substituted : Option Nat := none
  /-- Streams by number, and the open files that they are. -/
  streams : List (Nat × Nat) := []
  /-- What is done when the shell exits or gets a signal. -/
  traps : List (Nat × List Char) := []
  /-- Signals that have come and are to be dealt with. -/
  pending : List Nat := []
  directory : List Char := ['/']
  mask : Nat := 0o022
  /-- The number that the shell gives as its own, which subshells keep. -/
  shellNumber : Nat := 1
  number : Nat := 1
  lastBackground : Option Nat := none
  /-- The exit codes of commands in the background, by number. -/
  finished : List (Nat × Nat) := []
  /-- The number of the word at which options are taken off, and how far that has come in it. -/
  optionPlace : Nat := 1
  optionOffset : Nat := 1
  /-- How many loops are around the command at hand. -/
  loops : Nat := 0
  line : Nat := 1
  /-- The command of the shell that is at work, for messages. -/
  command : List Char := []

structure Session extends Process where
  disk : Disk
  files : Array Node := #[]
  /-- The number for the next process. -/
  nextNumber : Nat := 2
  /-- Signals that were sent to processes that wait for others. -/
  killed : List (Nat × Nat) := []

/-- Why a step does not go on. -/
inductive Stop where
  /-- The shell exits. -/
  | exits (code : Nat)
  /-- Another program took the place of the shell and ended. -/
  | replaced (how : End)
  | signaled (signal : Nat)
  | returns (code : Nat)
  | breaks (loops : Nat)
  | continues (loops : Nat)
  /-- A step failed in a way that ends a shell, unless the step is a plain command. -/
  | fails (code : Nat)
  /-- The step did not come to an end. -/
  | exhausted

abbrev Run (α : Type) := ExceptT Stop (StateM Session) α

/-- A path from the bytes of a shell. -/
def pathOf (cs : List Char) : Path := ⟨toBytes cs⟩

namespace Session

/-! ### Variables -/

def findVariable? (s : Session) (name : List Char) : Option Variable := s.bindings.lookup name

/-- The number of a place among the arguments. -/
def place? (name : List Char) : Option Nat :=
  if !name.isEmpty && name.all Char.isDigit then some (name.foldl (fun n c => n * 10 + (c.toNat - 48)) 0) else none

/-- A number in decimal digits. -/
def decimal (n : Nat) : List Char := (toString n).toList

/-- The value of a variable or of a sign; not that of all arguments. -/
def value? (s : Session) (name : List Char) : Option (List Char) :=
  match place? name with
  | some 0 => some s.name
  | some n => s.arguments[n - 1]?
  | none =>
    if name = ['$'] then some (decimal s.shellNumber)
    else if name = ['#'] then some (decimal s.arguments.length)
    else if name = ['?'] then some (decimal s.status)
    else if name = ['-'] then some ("ubaCEVvxsnmiIfe".toList.filter s.options.contains)
    else if name = ['!'] then s.lastBackground.map decimal
    else (s.findVariable? name).bind Variable.value

def hasOption (s : Session) (letter : Char) : Bool := s.options.contains letter

/-- The characters at which words are split. -/
def separators (s : Session) : List Char := (s.value? "IFS".toList).getD [' ', '\t', '\n']

def putVariable (s : Session) (name : List Char) (v : Variable) : Session :=
  { s with bindings := (name, v) :: s.bindings.filter fun w => w.1 ≠ name }

def dropVariable (s : Session) (name : List Char) : Session :=
  { s with bindings := s.bindings.filter fun w => w.1 ≠ name }

/-- The variables that other programs get. -/
def exportedValues (s : Session) : List (List Char × List Char) :=
  s.bindings.filterMap fun v => if v.2.exported then v.2.value.map fun value => (v.1, value) else none

/-! ### Streams -/

def node? (s : Session) (stream : Nat) : Option Node := (s.streams.lookup stream).bind fun id => s.files[id]?

/-- Makes a stream an open file. -/
def connect (s : Session) (stream id : Nat) : Session :=
  { s with streams := (stream, id) :: s.streams.filter fun t => t.1 ≠ stream }

def close (s : Session) (stream : Nat) : Session := { s with streams := s.streams.filter fun t => t.1 ≠ stream }

/-- Opens a file and gives its number. -/
def openNode (s : Session) (n : Node) : Nat × Session := (s.files.size, { s with files := s.files.push n })

/-- The content of a file with some bytes written over what is there from a position on. -/
def overwritten (content : List UInt8) (position : Nat) (bytes : List UInt8) : List UInt8 :=
  content.take position ++ List.replicate (position - content.length) 0 ++ bytes ++
    content.drop (position + bytes.length)

/-- Writes to a stream, and tells whether that was possible. -/
def write (s : Session) (stream : Nat) (bytes : List UInt8) : Bool × Session :=
  match s.streams.lookup stream with
  | none => (false, s)
  | some id =>
    match s.files[id]? with
    | some .null => (true, s)
    | some (.output pieces) => (true, { s with files := s.files.set! id (.output (bytes :: pieces)) })
    | some (.file l position reads true appends) =>
      match s.disk.get? l with
      | some (.file mode content) =>
        let start := if appends then content.length else position
        (true, { s with
          disk := s.disk.set l (.file mode (overwritten content start bytes))
          files := s.files.set! id (.file l (start + bytes.length) reads true appends) })
      | _ => (true, s)
    | _ => (false, s)

/-- Takes bytes off a stream as far as `amount` says for those that are there; fails if it cannot be read. -/
def read? (s : Session) (stream : Nat) (amount : List UInt8 → Nat) : Option (List UInt8 × Session) := do
  let id ← s.streams.lookup stream
  match ← s.files[id]? with
  | .null => some ([], s)
  | .input bytes =>
    let n := amount bytes
    some (bytes.take n, { s with files := s.files.set! id (.input (bytes.drop n)) })
  | .file l position true writes appends =>
    match s.disk.get? l with
    | some (.file _ content) =>
      let left := content.drop position
      let bytes := left.take (amount left)
      some (bytes, { s with files := s.files.set! id (.file l (position + bytes.length) true writes appends) })
    | _ => some ([], s)
  | _ => none

/-- All that a stream has left. -/
def readAll? (s : Session) (stream : Nat) : Option (List UInt8 × Session) := s.read? stream List.length

/-- What has been written to an open file that keeps it. -/
def written (s : Session) (id : Nat) : List UInt8 :=
  match s.files[id]? with
  | some (.output pieces) => pieces.reverse.flatten
  | _ => []

end Session

namespace Run

/-- Prints characters on a stream, and tells whether that was possible. -/
def write (stream : Nat) (cs : List Char) : Run Bool := do
  let (done, s) := (← get).write stream (toBytes cs)
  set s
  return done

/-- Prints text. -/
def print (s : String) : Run Bool := write 1 s.toList

/-- Prints a message, which starts with the name of the shell, the line and the command. -/
def complain (message : List Char) : Run Unit := do
  let s ← get
  let about := if s.command.isEmpty then [] else s.command ++ [':', ' ']
  let _ ← write 2 (s.name ++ ":".toList ++ ' ' :: (Session.decimal s.line ++ ':' :: ' ' :: (about ++ message ++ ['\n'])))

/-- Prints a message and fails. -/
def fail (message : List Char) : Run α := do
  complain message
  throw (.fails 2)

/-- Sets a variable. One that is read-only keeps its value, and the step fails. -/
def assign (name value : List Char) : Run Unit := do
  let s ← get
  match s.findVariable? name with
  | some v =>
    if v.readOnly then fail (name ++ ": is read only".toList)
    else set (s.putVariable name { v with value := some value, exported := v.exported || s.hasOption 'a' })
  | none => set (s.putVariable name { value := some value, exported := s.hasOption 'a' })
  -- This variable tells where the next option is looked for.
  if name = "OPTIND".toList then
    modify fun s => { s with optionPlace := max 1 ((Session.place? value).getD 1), optionOffset := 1 }

/-- Why something on the disk is not to be had. -/
def reason (c : Cause) : List Char :=
  match c with
  | .system e => e.text.toList
  | _ => "Invalid argument".toList

end Run

end Bootstrap.Shell
