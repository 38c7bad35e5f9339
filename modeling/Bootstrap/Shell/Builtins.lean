import Bootstrap.Shell.Pattern
import Bootstrap.Shell.Tools

/-!
# Commands of the shell

The commands that are part of the shell and do not carry out other commands. Each ends with an exit code or stops the
shell. `Builtin.find?` knows them by name.
-/

namespace Bootstrap.Shell.Builtin

/-- Prints a message and ends with an exit code. -/
def refuse (message : List Char) (code : Nat) : Run Nat := do
  Run.complain message
  return code

/-- Prints on the standard output; the exit code is 1 if that is not possible. -/
def printed (cs : List Char) : Run Nat := do
  return if ← Run.write 1 cs then 0 else 1

/-- A number in digits that fits into 31 bits; anything else is an error. -/
def number (w : List Char) : Run Nat := do
  match (Session.place? w).filter (· < Nat.pow 2 31) with
  | some n => return n
  | none => Run.fail ("Illegal number: ".toList ++ w)

/-- A text in quotes that the shell can read. -/
def quoted (cs : List Char) : List Char :=
  '\'' :: (cs.flatMap fun c => if c = '\'' then ['\'', '"', '\'', '"', '\''] else [c]) ++ ['\'']

/-- The name and the value of a word that sets a variable; a word without a sign has no value. -/
def assignment (w : List Char) : List Char × Option (List Char) :=
  let name := w.takeWhile (· ≠ '=')
  (name, if name.length < w.length then some (w.drop (name.length + 1)) else none)

/-- Fails unless characters are a name. -/
def checkName (name : List Char) : Run Unit := do
  unless isName name do Run.fail (name ++ ": bad variable name".toList)

/-! ### Printing -/

def echo (ws : List (List Char)) : Run Nat := printed (echoed ws)

/-- Words behind options of one letter, of which any that the command does not have is an error. Two minus signs end the
options. -/
def withoutOptions (letters : List Char) : List (List Char) → Run (List Char × List (List Char))
  | ['-', '-'] :: ws => return ([], ws)
  | ('-' :: c :: cs) :: ws => do
    match (c :: cs).find? fun o => !letters.contains o with
    | some o => Run.fail ("Illegal option -".toList ++ [o])
    | none =>
      let (os, ws) ← withoutOptions letters ws
      return (c :: cs ++ os, ws)
  | ws => return ([], ws)

def printf (ws : List (List Char)) : Run Nat := do
  match (← withoutOptions [] ws).2 with
  | [] => refuse "usage: printf format [arg ...]".toList 2
  | format :: ws =>
    let p := filled format ws
    p.messages.reverse.forM Run.complain
    let status ← printed p.text
    return if p.refused then 2 else if p.status ≠ 0 then p.status else status

def test (ws : List (List Char)) : Run Nat := do
  let (message, status) ← Tool.test ws
  message.forM Run.complain
  return status

def bracket (ws : List (List Char)) : Run Nat :=
  if ws.getLast? = some [']'] then test ws.dropLast else refuse "missing ]".toList 2

/-! ### Directories -/

/-- The names of a path from the root, where the names of two dots are taken for the directory above. -/
def logicalNames (names : List (List Char)) : List (List Char) :=
  names.foldl (fun done n =>
    if n.isEmpty || n = ['.'] then done else if n = ['.', '.'] then done.dropLast else done ++ [n]) []

/-- A path, seen from a directory. -/
def logicalPath (directory cs : List Char) : List Char :=
  let whole := if cs.head? = some '/' then cs else directory ++ '/' :: cs
  '/' :: ['/'].intercalate (logicalNames (whole.splitOn '/'))

/-- The path of the working directory without links. -/
def physicalDirectory (s : Session) : List Char := ofBytes s.disk.workingDirectoryPath.bytes

/-- Where a directory is found that is not given from the root or from the one at hand, and whether that is shown. -/
def searched (s : Session) (target : List Char) : List Char × Bool :=
  let isDirect := [".".toList, "..".toList].contains (target.takeWhile (· ≠ '/')) || target.head? = some '/'
  let places := if isDirect then [] else ((s.value? "CDPATH".toList).getD []).splitOn ':'
  let path (place : List Char) : List Char := if place.isEmpty then target else place ++ '/' :: target
  match places.find? fun place => s.disk.isDirectory (pathOf (path place)) with
  | some place => (path place, !place.isEmpty)
  | none => (target, false)

/-- Gives a variable a value that other programs get. -/
def announce (name : String) (value : List Char) : Run Unit := do
  Run.assign name.toList value
  modify fun s => s.putVariable name.toList ⟨some value, true, false⟩

def cd (ws : List (List Char)) : Run Nat := do
  let (os, ws) ← withoutOptions ['L', 'P'] ws
  let physical := os.getLast? = some 'P'
  let s ← get
  let (target, shown) := match ws with
    | [] => ((s.value? "HOME".toList).getD [], false)
    | ['-'] :: _ => ((s.value? "OLDPWD".toList).getD [], true)
    | w :: _ => searched s w
  let path := if target.isEmpty then s.directory else logicalPath s.directory target
  match s.disk.status (pathOf path) with
  | .ok (l, .directory _) =>
    let s := { s with disk := { s.disk with workingDirectory := l } }
    let directory := if physical then physicalDirectory s else path
    let old := s.directory
    set { s with directory := directory }
    announce "OLDPWD" old
    announce "PWD" directory
    if shown then printed (directory ++ ['\n']) else return 0
  | _ => refuse ("can't cd to ".toList ++ target) 2

def pwd (ws : List (List Char)) : Run Nat := do
  let (os, _) ← withoutOptions ['L', 'P'] ws
  let s ← get
  printed ((if os.getLast? = some 'P' then physicalDirectory s else s.directory) ++ ['\n'])

/-! ### Variables -/

/-- A list of variables as commands that set them. -/
def listed (front : String) (vs : Variables) : List Char :=
  (vs.mergeSort fun v w => decide (toBytes v.1 ≤ toBytes w.1)).flatMap fun v =>
    front.toList ++ v.1 ++ (match v.2.value with | some cs => '=' :: quoted cs | none => []) ++ ['\n']

/-- Gives variables a property, and values where there are any. -/
def mark (command : String) (has : Variable → Bool) (give : Variable → Variable) (ws : List (List Char)) : Run Nat := do
  let ws := ws.dropWhile fun w => w = ['-', '-']
  if ws.isEmpty || ws.head? = some ['-', 'p'] then
    printed (listed (command ++ " ") ((← get).bindings.filter fun v => has v.2))
  else
    ws.forM fun w => do
      let (name, value) := assignment w
      checkName name
      value.forM (Run.assign name)
      modify fun s => s.putVariable name (give ((s.findVariable? name).getD { value := none }))
    return 0

def unset (ws : List (List Char)) : Run Nat := do
  let isFunction := ws.head? = some ['-', 'f']
  let ws := ws.dropWhile fun w => w = ['-', 'f'] || w = ['-', 'v'] || w = ['-', '-']
  ws.forM fun name => do
    if isFunction then modify fun s => { s with functions := s.functions.filter fun f => f.1 ≠ name }
    else
      checkName name
      if ((← get).findVariable? name).any Variable.readOnly then Run.fail (name ++ ": is read only".toList)
      modify fun s => s.dropVariable name
  return 0

/-- Keeps the values that variables have outside a function. -/
def localNames (ws : List (List Char)) : Run Nat := do
  if (← get).saved.isEmpty then Run.fail "not in a function".toList
  ws.forM fun w => do
    let (name, value) := assignment w
    checkName name
    modify fun s => match s.saved with
      | top :: rest =>
        if (top.lookup name).isSome then s
        else { s with saved := ((name, (s.findVariable? name).getD { value := none }) :: top) :: rest }
      | [] => s
    value.forM (Run.assign name)
  return 0

/-- The long names of options. -/
def optionNames : List (String × Char) := [
  ("errexit", 'e'), ("noglob", 'f'), ("ignoreeof", 'I'), ("interactive", 'i'), ("monitor", 'm'), ("noexec", 'n'),
  ("stdin", 's'), ("xtrace", 'x'), ("verbose", 'v'), ("vi", 'V'), ("emacs", 'E'), ("noclobber", 'C'),
  ("allexport", 'a'), ("notify", 'b'), ("nounset", 'u'), ("privileged", 'p'), ("nolog", 'l'), ("debug", 'D')]

/-- Shows which options are on: as a table, or as commands that set them. -/
def optionTable (asCommands : Bool) : Run Unit := do
  let s ← get
  let lines := optionNames.flatMap fun o =>
    let name := o.1.toList
    let on := s.hasOption o.2
    if asCommands then "set ".toList ++ (if on then '-' else '+') :: 'o' :: ' ' :: (name ++ ['\n'])
    else name ++ List.replicate (16 - name.length) ' ' ++ (if on then "on\n" else "off\n").toList
  let _ ← Run.write 1 (if asCommands then lines else "Current option settings\n".toList ++ lines)

/-- Switches an option on or off. -/
def switch (on : Bool) (letter : Char) : Run Unit :=
  modify fun s => { s with
    options := if on then (if s.options.contains letter then s.options else s.options ++ [letter])
      else s.options.filter (· ≠ letter) }

/-- Takes options off the front of words. Words that are left become arguments if there are any, or after two minus
signs. -/
def takeOptions : (fuel : Nat) → List (List Char) → Run (Option (List (List Char)))
  | 0, _ => throw .exhausted
  | _, [] => return none
  | fuel + 1, w :: ws => do
    match w with
    | ['-', '-'] => return some ws
    | ['-'] =>
      switch false 'x'
      switch false 'v'
      return if ws.isEmpty then none else some ws
    | sign :: letters =>
      if (sign = '-' || sign = '+') && !letters.isEmpty then
        let on := sign = '-'
        (letters.filter (· ≠ 'o')).forM fun c => do
          unless "aefImnsxvVECbulc".toList.contains c do Run.fail ("Illegal option ".toList ++ [sign, c])
          switch on c
        if letters.contains 'o' then
          match ws with
          | [] =>
            optionTable (!on)
            return none
          | name :: ws =>
            match optionNames.lookup (String.ofList name) with
            | some c => switch on c
            | none => Run.fail ("Illegal option -o ".toList ++ name)
            takeOptions fuel ws
        else takeOptions fuel ws
      else return some (w :: ws)
    | [] => return some (w :: ws)

def setOptions (ws : List (List Char)) : Run Nat := do
  if ws.isEmpty then printed (listed "" ((← get).bindings.filter fun v => v.2.value.isSome))
  else
    match ← takeOptions (ws.length + 1) ws with
    | some ws => modify fun s => { s with arguments := ws, optionPlace := 1, optionOffset := 1 }
    | none => pure ()
    return 0

def shift (ws : List (List Char)) : Run Nat := do
  let n ← match ws with
    | [] => pure 1
    | w :: _ => number w
  let s ← get
  if n > s.arguments.length then Run.fail "can't shift that many".toList
  set { s with arguments := s.arguments.drop n, optionPlace := 1, optionOffset := 1 }
  return 0

/-! ### Reading -/

/-- The bytes up to the first newline, which is one of them. -/
def lineLength (bytes : List UInt8) : Nat :=
  let n := (bytes.takeWhile (· ≠ 10)).length
  if n < bytes.length then n + 1 else n

/-- A line with its backslashes taken for marks, and whether another line goes on with it. -/
def marked : List Char → List (Char × Bool) × Bool
  | [] => ([], false)
  | ['\\'] => ([], true)
  | '\\' :: c :: cs => let (more, joins) := marked cs; ((c, true) :: more, joins)
  | c :: cs => let (more, joins) := marked cs; ((c, false) :: more, joins)

/-- Reads a line, and the lines that go on with it; tells whether it has an end. -/
def readLine (raw : Bool) : (fuel : Nat) → Run (List (Char × Bool) × Bool)
  | 0 => throw .exhausted
  | fuel + 1 => do
    match (← get).read? 0 lineLength with
    | none => return ([], false)
    | some (bytes, s) =>
      set s
      let cs := ofBytes bytes
      let ends := cs.getLast? = some '\n'
      let cs := if ends then cs.dropLast else cs
      if raw then return (cs.map fun c => (c, false), ends)
      else
        let (line, joins) := marked cs
        if joins && ends then
          let (more, ends) ← readLine raw fuel
          return (line ++ more, ends)
        else return (line, ends)

/-- Whether a character separates words, and whether it is a blank that does so. -/
def separates (separators : List Char) (c : Char × Bool) : Bool := !c.2 && separators.contains c.1

def separatesBlank (separators : List Char) (c : Char × Bool) : Bool :=
  separates separators c && (c.1 = ' ' || c.1 = '\t' || c.1 = '\n')

/-- The words of a line for so many variables; the last one gets all that is left. -/
def lineWords (separators : List Char) : (count : Nat) → List (Char × Bool) → List (List Char)
  | 0, _ => []
  | count + 1, cs =>
    let cs := cs.dropWhile (separatesBlank separators)
    let word := cs.takeWhile fun c => !separates separators c
    let rest := cs.drop word.length
    let rest := rest.dropWhile (separatesBlank separators)
    let rest := if rest.head?.any fun c => separates separators c && !separatesBlank separators c then rest.tail else rest
    let rest := rest.dropWhile (separatesBlank separators)
    if count = 0 then
      -- A separator behind the last word goes away, but not if another word follows it.
      if rest.isEmpty then [word.map Prod.fst]
      else [((cs.reverse.dropWhile (separatesBlank separators)).reverse).map Prod.fst]
    else word.map Prod.fst :: lineWords separators count rest

def read (ws : List (List Char)) : Run Nat := do
  let (os, names) ← withoutOptions ['r', 'p'] ws
  let raw := os.contains 'r'
  -- A text that asks for the line is for those who read along.
  let (more, names) ← if os.contains 'p' then withoutOptions ['r'] names.tail else pure ([], names)
  let raw := raw || more.contains 'r'
  if names.isEmpty then refuse "arg count".toList 2
  else
    names.forM checkName
    let s ← get
    let amount := match s.node? 0 with
      | some (.input bytes) => bytes.length
      | some (.file l _ _ _ _) => match s.disk.get? l with
        | some (.file _ content) => content.length
        | _ => 0
      | _ => 0
    let (line, ends) ← readLine raw (amount + 1)
    let words := lineWords (← get).separators names.length line
    (names.zip words).forM fun (x, v) => Run.assign x v
    return if ends then 0 else 1

/-- Takes the next option off the arguments. -/
def getopts (ws : List (List Char)) : Run Nat := do
  match ws with
  | letters :: name :: given =>
    let s ← get
    let arguments := if given.isEmpty then s.arguments else given
    let place := s.optionPlace
    let setIndex (n offset : Nat) : Run Unit := do
      Run.assign "OPTIND".toList (Session.decimal n)
      modify fun s => { s with optionPlace := n, optionOffset := offset }
    let finish (n : Nat) : Run Nat := do
      setIndex n 1
      Run.assign name ['?']
      modify fun s => s.dropVariable "OPTARG".toList
      return 1
    match arguments[place - 1]? with
    | some ('-' :: c :: cs) =>
      if c = '-' && cs.isEmpty then finish (place + 1)
      else
        let word := c :: cs
        let letter := word.getD (s.optionOffset - 1) c
        let left := word.drop s.optionOffset
        let silent := letters.head? = some ':'
        let next : Run Unit := if left.isEmpty then setIndex (place + 1) 1 else setIndex place (s.optionOffset + 1)
        let found := if letter = ':' then [] else letters.dropWhile (· ≠ letter)
        if found.isEmpty then
          next
          Run.assign name ['?']
          if silent then Run.assign "OPTARG".toList [letter]
          else
            modify fun s => s.dropVariable "OPTARG".toList
            let _ ← Run.write 2 ("Illegal option -".toList ++ [letter, '\n'])
          return 0
        else if found[1]? = some ':' then
          let value := if left.isEmpty then arguments[place]? else some left
          setIndex (if left.isEmpty then place + 2 else place + 1) 1
          match value with
          | some v =>
            Run.assign name [letter]
            Run.assign "OPTARG".toList v
          | none =>
            setIndex (place + 1) 1
            if silent then
              Run.assign name [':']
              Run.assign "OPTARG".toList [letter]
            else
              Run.assign name ['?']
              modify fun s => s.dropVariable "OPTARG".toList
              let _ ← Run.write 2 ("No arg for -".toList ++ [letter] ++ " option\n".toList)
          return 0
        else
          next
          Run.assign name [letter]
          Run.assign "OPTARG".toList []
          return 0
    | _ => finish place
  | _ => refuse "Usage: getopts optstring var [arg...]".toList 2

/-! ### Processes and signals -/

/-- The names of signals. -/
def signalNames : List (String × Nat) := [
  ("EXIT", 0), ("HUP", 1), ("INT", 2), ("QUIT", 3), ("ILL", 4), ("TRAP", 5), ("ABRT", 6), ("BUS", 7), ("FPE", 8),
  ("KILL", 9), ("USR1", 10), ("SEGV", 11), ("USR2", 12), ("PIPE", 13), ("ALRM", 14), ("TERM", 15), ("STKFLT", 16),
  ("CHLD", 17), ("CONT", 18), ("STOP", 19), ("TSTP", 20), ("TTIN", 21), ("TTOU", 22), ("URG", 23), ("XCPU", 24),
  ("XFSZ", 25), ("VTALRM", 26), ("PROF", 27), ("WINCH", 28), ("IO", 29), ("PWR", 30), ("SYS", 31)]

/-- The number of a signal that is given by its number or its name. -/
def signal? (w : List Char) : Option Nat :=
  match Session.place? w with
  | some n => if n < 65 then some n else none
  | none => signalNames.lookup (String.ofList (w.map Char.toUpper))

/-- The name of a signal. -/
def signalName (n : Nat) : List Char :=
  match signalNames.find? fun s => s.2 = n with
  | some s => s.1.toList
  | none => Session.decimal n

/-- Signals that end no process. -/
def idleSignals : List Nat := [17, 18, 23, 28]

/-- Sends a signal to a process by its number. -/
def send (signal : Nat) (target : List Char) : Run Bool := do
  let s ← get
  match Session.place? target with
  | none =>
    Run.complain ("Illegal number: ".toList ++ target)
    return false
  | some n =>
    if n = s.number then
      match if signal = 9 then none else s.traps.lookup signal with
      | some action =>
        unless action.isEmpty do set { s with pending := s.pending ++ [signal] }
        return true
      | none =>
        if signal = 0 || idleSignals.contains signal then return true else throw (.signaled signal)
    else if n = s.shellNumber then
      unless signal = 0 do set { s with killed := s.killed ++ [(n, signal)] }
      return true
    else
      Run.complain "No such process\n".toList
      return false

def kill (ws : List (List Char)) : Run Nat := do
  let (signal, targets) := match ws with
    | ['-', 's'] :: name :: targets => (signal? name, targets)
    | ['-', 'l'] :: rest => (some 0, ['-', 'l'] :: rest)
    | ['-', '-'] :: targets => (some 15, targets)
    | ('-' :: c :: cs) :: targets => (signal? (c :: cs), targets)
    | targets => (some 15, targets)
  match signal, targets with
  | _, [['-', 'l']] => printed (((signalNames.drop 1).flatMap fun s => s.1.toList ++ ['\n']))
  | _, ['-', 'l'] :: n :: _ =>
    match Session.place? n with
    | some n => printed (signalName (n % 128) ++ ['\n'])
    | none => refuse ("Illegal number: ".toList ++ n) 2
  | none, _ => refuse "invalid signal number or name".toList 2
  | _, [] => refuse "Usage: kill [-s sigspec | -signum | -sigspec] [pid | job]... or\nkill -l [exitstatus]".toList 2
  | some signal, targets =>
    if targets.any fun t => (Session.place? t).isNone then
      refuse ("Illegal number: ".toList ++ targets.headD []) 2
    else
      let done ← targets.mapM (send signal)
      return if done.all fun b => b then 0 else 1

def trap (ws : List (List Char)) : Run Nat := do
  let ws := ws.dropWhile (· = ['-', '-'])
  match ws with
  | [] =>
    let traps := (← get).traps.mergeSort fun a b => a.1 ≤ b.1
    printed (traps.flatMap fun t => "trap -- ".toList ++ quoted t.2 ++ ' ' :: (signalName t.1 ++ ['\n']))
  | action :: signals =>
    let (action, signals) := if signals.isEmpty then (['-'], [action])
      else if (Session.place? action).isSome then (['-'], action :: signals)
      else (action, signals)
    let done ← signals.mapM fun w => do
      match signal? w with
      | none =>
        let _ ← Run.write 2 ("trap: ".toList ++ w ++ ": bad trap\n".toList)
        return false
      | some n =>
        modify fun s =>
          let others := s.traps.filter fun t => t.1 ≠ n
          { s with traps := if action = ['-'] then others else (n, action) :: others }
        return true
    return if done.all fun b => b then 0 else 1

def wait (ws : List (List Char)) : Run Nat := do
  let s ← get
  match ws.find? fun w => (Session.place? w).isNone with
  | some w => refuse ("Illegal number: ".toList ++ w) 2
  | none =>
    match ws.getLast? with
    | none => return 0
    | some w => return ((Session.place? w).bind fun n => s.finished.lookup n).getD 127

/-- The mask in octal digits. -/
def maskText (n : Nat) : List Char :=
  let ds := Nat.toDigits 8 n
  List.replicate (4 - ds.length) '0' ++ ds

def umask (ws : List (List Char)) : Run Nat := do
  let s ← get
  let (os, ws) ← withoutOptions ['S'] ws
  match ws with
  | [] =>
    if os.isEmpty then printed (maskText s.mask ++ ['\n']) else
    let letters (shift : Nat) : List Char :=
      let bits := ((0o777 - s.mask) >>> shift) % 8
      (if bits &&& 4 ≠ 0 then ['r'] else []) ++ (if bits &&& 2 ≠ 0 then ['w'] else []) ++
        (if bits &&& 1 ≠ 0 then ['x'] else [])
    printed ("u=".toList ++ letters 6 ++ ",g=".toList ++ letters 3 ++ ",o=".toList ++ letters 0 ++ ['\n'])
  | w :: _ =>
    if w.head?.any Char.isDigit then
      if w.all fun (c : Char) => '0' ≤ c && c ≤ '7' then
        set { s with mask := (w.foldl (fun n (c : Char) => n * 8 + (c.toNat - 48)) 0) % 512 }
        return 0
      else refuse ("Illegal number: ".toList ++ w) 2
    else
      match Tool.newMode? 0 false w (0o777 - s.mask) with
      | some m =>
        set { s with mask := 0o777 - m % 512 }
        return 0
      | none => refuse ("Illegal mode: ".toList ++ w) 2

/-! ### Ways out -/

def exit (ws : List (List Char)) : Run Nat := do
  match ws with
  | [] => throw (.exits (← get).status)
  | w :: _ => throw (.exits ((← number w) % 256))

def leaveFunction (ws : List (List Char)) : Run Nat := do
  match ws with
  | [] => throw (.returns (← get).status)
  | w :: _ => throw (.returns ((← number w) % 256))

/-- Leaves loops, or goes on with the next turn of one. Outside of loops nothing happens. -/
def leave (stop : Nat → Stop) (ws : List (List Char)) : Run Nat := do
  let n ← match ws with
    | [] => pure 1
    | w :: _ => number w
  if n = 0 then Run.fail ("Illegal number: ".toList ++ ws.headD [])
  let loops := (← get).loops
  if loops = 0 then return 0 else throw (stop (min n loops))

/-! ### Other names for text -/

/-- Lets names stand for text, or shows what they stand for. -/
def aliasNames (ws : List (List Char)) : Run Nat := do
  let shown (a : List Char × List Char) : List Char := a.1 ++ '=' :: (quoted a.2 ++ ['\n'])
  if ws.isEmpty then printed ((← get).aliases.reverse.flatMap shown)
  else
    Tool.forAll ws fun w => do
      let s ← get
      match assignment w with
      | (name, some text) =>
        set { s with aliases := (name, text) :: s.aliases.filter fun a => a.1 ≠ name }
        return true
      | (name, none) =>
        match s.aliases.lookup name with
        | some text => Run.write 1 (shown (name, text))
        | none =>
          let _ ← Run.write 2 ("alias: ".toList ++ name ++ " not found\n".toList)
          return false

def unaliasNames (ws : List (List Char)) : Run Nat := do
  let (os, ws) ← withoutOptions ['a'] ws
  if os.isEmpty then
    Tool.forAll ws fun name => do
      let s ← get
      if (s.aliases.lookup name).isSome then
        set { s with aliases := s.aliases.filter fun a => a.1 ≠ name }
        return true
      else
        let _ ← Run.write 2 ("unalias: ".toList ++ name ++ " not found\n".toList)
        return false
  else
    modify fun s => { s with aliases := [] }
    return 0

/-! ### All commands -/

/-- The commands, by name. -/
def table : List (String × (List (List Char) → Run Nat)) := [
  (":", fun _ => return 0), ("true", fun _ => return 0), ("false", fun _ => return 1), ("echo", echo),
  ("printf", printf), ("test", test), ("[", bracket), ("cd", cd), ("chdir", cd), ("pwd", pwd),
  ("export", mark "export" Variable.exported fun v => { v with exported := true }),
  ("readonly", mark "readonly" Variable.readOnly fun v => { v with readOnly := true }),
  ("unset", unset), ("local", localNames), ("set", setOptions), ("shift", shift), ("read", read),
  ("getopts", getopts), ("kill", kill), ("trap", trap), ("wait", wait), ("umask", umask), ("exit", exit),
  ("return", leaveFunction), ("break", leave Stop.breaks), ("continue", leave Stop.continues),
  ("hash", fun _ => return 0), ("jobs", fun _ => return 0), ("alias", aliasNames),
  ("unalias", unaliasNames), ("times", fun _ => printed "0m0.000000s 0m0.000000s\n0m0.000000s 0m0.000000s\n".toList), ("ulimit", fun _ => printed "unlimited\n".toList)]

def find? (name : List Char) : Option (List (List Char) → Run Nat) := table.lookup (String.ofList name)

/-- Commands that carry out other commands. -/
def carriers : List (List Char) := ["eval", ".", "exec", "command", "type"].map String.toList

/-- Commands whose arguments may set variables, so that their values are one word each. -/
def assigns (name : List Char) : Bool :=
  (["export", "readonly", "local", "alias"].map String.toList).contains name

end Bootstrap.Shell.Builtin
