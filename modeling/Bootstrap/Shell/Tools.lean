import Bootstrap.Shell.Condition
import Bootstrap.Shell.Tool.Changing
import Bootstrap.Shell.Tool.Reading

/-!
# Tools beside the shell

Programs of the machine that scripts call. Each of them is a step of the session that it runs in and ends with an exit
code. `Tool.find?` knows them by name.
-/

namespace Bootstrap.Shell.Tool

/-- Conditions as a command; the message tells why a condition has no reading. -/
def test (ws : List (List Char)) : Run (Option (List Char) × Nat) := do
  match Condition.holds? (← get) ws with
  | .ok b => return (none, if b then 0 else 1)
  | .error message => return (some message, 2)

/-- Prints words as they are, unless an option says otherwise. -/
def echo (ws : List (List Char)) : Run Nat := do
  let isOption (w : List Char) : Bool := match w with
    | '-' :: c :: cs => (c :: cs).all fun o => o = 'n' || o = 'e' || o = 'E'
    | _ => false
  let os := (ws.takeWhile isOption).flatten
  let text := spaced (ws.dropWhile isOption)
  let (text, stops) := if os.contains 'e' then unescape (text.length + 1) text else (text, false)
  let _ ← Run.write 1 (if os.contains 'n' || stops then text else text ++ ['\n'])
  return 0

/-- Prints a format. -/
def printf (ws : List (List Char)) : Run Nat := do
  match ws with
  | format :: ws =>
    let p := filled format ws
    let _ ← Run.write 1 p.text
    return if p.refused then 1 else p.status
  | [] => refuse "printf" "missing operand".toList 1

/-- Whether a word is a length of time: a number, perhaps with a fraction and a unit. -/
def isInterval (w : List Char) : Bool :=
  let whole := w.takeWhile Char.isDigit
  let rest := w.drop whole.length
  let fraction := if rest.head? = some '.' then (rest.drop 1).takeWhile Char.isDigit else []
  let rest := if rest.head? = some '.' then rest.drop (1 + fraction.length) else rest
  !(whole.isEmpty && fraction.isEmpty) && [[], ['s'], ['m'], ['h'], ['d']].contains rest

/-- Waits, which takes no time here. -/
def sleep (ws : List (List Char)) : Run Nat := do
  match ws.find? fun w => !isInterval w with
  | some w => refuse "sleep" ("invalid time interval ".toList ++ shown w) 1
  | none => if ws.isEmpty then refuse "sleep" "missing operand".toList 1 else return 0

/-- Prints the values of variables that other programs get. -/
def printenv (ws : List (List Char)) : Run Nat := do
  let values := (← get).exportedValues
  if ws.isEmpty then
    let _ ← Run.write 1 (values.flatMap fun v => v.1 ++ '=' :: (v.2 ++ ['\n']))
    return 0
  else
    forAll ws fun name => do
      match values.lookup name with
      | some v => Run.write 1 (v ++ ['\n'])
      | none => return false

/-- The tools, by name. -/
def table : List (String × (List (List Char) → Run Nat)) := [
  ("cat", cat), ("head", portion "head" startShare? (.first 10)), ("tail", portion "tail" endShare? (.last 10)),
  ("wc", wc), ("seq", seq), ("basename", basename), ("dirname", dirname), ("readlink", readlink), ("tee", tee),
  ("chmod", chmod), ("mkdir", mkdir), ("rmdir", rmdir), ("rm", rm), ("touch", touch), ("ln", ln), ("cp", cp),
  ("mv", mv), ("ls", ls), ("echo", echo), ("printf", printf), ("true", fun _ => return 0), ("false", fun _ => return 1),
  ("sleep", sleep), ("printenv", printenv),
  ("test", fun ws => do return (← test ws).2),
  ("[", fun ws => do if ws.getLast? = some [']'] then return (← test ws.dropLast).2 else return 2),
  ("pwd", fun _ => do
    let _ ← Run.write 1 (ofBytes (← get).disk.workingDirectoryPath.bytes ++ ['\n'])
    return 0)]

/-- The tool of a name. -/
def find? (name : String) : Option (List (List Char) → Run Nat) := table.lookup name

/-- Where the tools are. -/
def directories : List (List Char) := ["/bin/", "/usr/bin/"].map String.toList

/-- The name of a tool that is called with its directory. -/
def nameAt? (program : List Char) : Option (List Char) :=
  (directories.find? fun d => d.isPrefixOf program).map fun d => program.drop d.length

end Bootstrap.Shell.Tool
