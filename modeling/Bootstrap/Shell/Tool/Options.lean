import Bootstrap.Shell.Session

/-!
# Options of tools

How the tools beside the shell take their options: letters behind a minus sign, some of which have a value, and long
names behind two. Options may stand anywhere among the words; two minus signs end them. A tool says what it has,
`Options`, and gets what is there, `Given`.
-/

namespace Bootstrap.Shell.Tool

/-- The options that a tool has. -/
structure Options where
  letters : List Char
  /-- Letters that have a value, which follows them or is the next word. -/
  valued : List Char := []
  /-- Long names for letters. -/
  names : List (String × Char) := []
  /-- Whether options end at the first other word. -/
  inFront : Bool := false

/-- The options that are there, with their values, and the other words. -/
structure Given where
  options : List (Char × List Char) := []
  words : List (List Char) := []

namespace Given

def has (g : Given) (letter : Char) : Bool := (g.options.lookup letter).isSome

/-- The last value of an option. -/
def value? (g : Given) (letter : Char) : Option (List Char) := g.options.reverse.lookup letter

end Given

/-- What is wrong with options. -/
inductive OptionFault where
  | unknown (letter : Char)
  | unknownName (word : List Char)
  | needsValue (letter : Char)

/-- A word in quotes, as messages show it. -/
def shown (w : List Char) : List Char := '\'' :: (w ++ ['\''])

def OptionFault.message : OptionFault → List Char
  | .unknown c => "invalid option -- ".toList ++ shown [c]
  | .unknownName w => "unrecognized option ".toList ++ shown w
  | .needsValue c => "option requires an argument -- ".toList ++ shown [c]

/-- Letters in one word, and the letter at the end that has its value in the next word. -/
def Options.cluster (o : Options) : List Char → Except OptionFault (List (Char × List Char) × Option Char)
  | [] => .ok ([], none)
  | c :: cs =>
    if o.valued.contains c then if cs.isEmpty then .ok ([], some c) else .ok ([(c, cs)], none)
    else if o.letters.contains c then (o.cluster cs).map fun r => ((c, []) :: r.1, r.2)
    else .error (.unknown c)

/-- Reads the words of a call. -/
def Options.read (o : Options) : List (List Char) → Except OptionFault Given
  | [] => .ok {}
  | ['-', '-'] :: ws => .ok { words := ws }
  | ('-' :: '-' :: name) :: ws => do
    let key := name.takeWhile (· ≠ '=')
    match o.names.lookup (String.ofList key) with
    | none => .error (.unknownName ('-' :: '-' :: name))
    | some c =>
      let g ← o.read ws
      return { g with options := (c, name.drop (key.length + 1)) :: g.options }
  | ('-' :: c :: cs) :: ws => do
    match ← o.cluster (c :: cs), ws with
    | (given, none), ws =>
      let g ← o.read ws
      return { g with options := given ++ g.options }
    | (given, some c), v :: ws =>
      let g ← o.read ws
      return { g with options := given ++ (c, v) :: g.options }
    | (_, some c), [] => .error (.needsValue c)
  | w :: ws =>
    if o.inFront then .ok { words := w :: ws }
    else do
      let g ← o.read ws
      return { g with words := w :: g.words }

/-- Prints a message of a tool. -/
def complain (tool : String) (message : List Char) : Run Unit := do
  let _ ← Run.write 2 (tool.toList ++ ':' :: ' ' :: (message ++ ['\n']))

/-- Refuses a call, and tells where help is. -/
def refuse (tool : String) (message : List Char) (code : Nat) : Run Nat := do
  complain tool message
  let _ ← Run.write 2 ("Try ".toList ++ shown (tool.toList ++ " --help".toList) ++ " for more information.\n".toList)
  return code

/-- Runs a tool on the words of its call; options that it does not have end it with an exit code. -/
def Options.run (o : Options) (tool : String) (code : Nat) (f : Given → Run Nat) (ws : List (List Char)) : Run Nat :=
  match o.read ws with
  | .ok g => f g
  | .error fault => refuse tool fault.message code

/-- Does something for each word; the exit code is 1 if it fails for one of them. -/
def forAll (ws : List (List Char)) (f : List Char → Run Bool) : Run Nat := do
  let done ← ws.mapM f
  return if done.all fun b => b then 0 else 1

end Bootstrap.Shell.Tool
