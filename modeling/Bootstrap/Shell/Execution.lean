import Bootstrap.Shell.Builtins
import Bootstrap.Shell.Fields
import Bootstrap.Shell.Program

/-!
# Running shell scripts

Commands are carried out in a session. Words are expanded first: variables, what commands print and arithmetic take
their places; what is not quoted is split into fields, and fields that are patterns are replaced by the names of files.

Processes run one after the other: a pipeline runs each command to its end before the next one starts, and a command in
the background ends before the next one begins. Everything runs with fuel, which nesting and the turns of loops use up.
-/

namespace Bootstrap.Shell

/-! ### Steps of a session -/

/-- Whether a loop is left, and not only its turn. -/
def Stop.isBreak : Stop → Bool
  | .breaks _ => true
  | _ => false

namespace Run

def setStatus (code : Nat) : Run Unit := modify fun s => { s with status := code }

/-- The result of a step, or why it stopped. Steps that never end are not caught. -/
def attempt (r : Run Unit) : Run (Option Stop) :=
  tryCatch (do r; return none) fun stop => match stop with
    | .exhausted => throw .exhausted
    | stop => return some stop

/-- Runs a step, and puts the streams back afterwards. -/
def keepingStreams (r : Run α) : Run α := do
  let streams := (← get).streams
  let a ← tryCatch r fun stop => do
    modify fun s => { s with streams := streams }
    throw stop
  modify fun s => { s with streams := streams }
  return a

/-- Runs a part of a loop that tells whether the loop goes on. -/
def turn (r : Run Bool) : Run Bool := do
  modify fun s => { s with loops := s.loops + 1 }
  let goesOn ← tryCatch r fun stop => do
    match stop with
    | .breaks n | .continues n =>
      setStatus 0
      if n ≤ 1 then return !stop.isBreak
      else
        modify fun s => { s with loops := s.loops - 1 }
        throw (if stop.isBreak then .breaks (n - 1) else .continues (n - 1))
    | stop => throw stop
  modify fun s => { s with loops := s.loops - 1 }
  return goesOn

/-- Ends the shell after a command that failed, if that is asked for. -/
def checkFailure (tested : Bool) : Run Unit := do
  let s ← get
  if s.status ≠ 0 && !tested && s.hasOption 'e' then throw (.exits s.status)

/-- Fails because of a variable that is not set, if that is an error. -/
def checkSet (name : List Char) : Run Unit := do
  if (← get).hasOption 'u' then fail (name ++ ": parameter not set".toList)

/-- Connects a stream with what is opened anew. -/
def openAs (stream : Nat) (n : Node) : Run Unit := modify fun s =>
  let (id, s) := s.openNode n
  s.connect stream id

/-- Connects a stream with what another one is connected with. -/
def duplicate (stream source : Nat) : Run Unit := do
  let s ← get
  match s.streams.lookup source with
  | some id => set (s.connect stream id)
  | none => fail (Session.decimal source ++ ": Bad file descriptor".toList)

/-- Streams that have paths of their own. -/
def streamAt? (path : List Char) : Option Nat :=
  match String.ofList path with
  | "/dev/stdin" => some 0
  | "/dev/stdout" => some 1
  | "/dev/stderr" => some 2
  | _ => if "/dev/fd/".toList.isPrefixOf path then Session.place? (path.drop 8) else none

/-- Why a file cannot be opened. -/
def openReason (creates : Bool) (c : Cause) : List Char :=
  match c with
  | .system .notFound | .system .notDirectory => (if creates then "Directory nonexistent" else "No such file").toList
  | c => reason c

/-- Connects a stream with a file. -/
def openFile (stream : Nat) (channel : Channel) (path : List Char) : Run Unit := do
  let s ← get
  let p := pathOf path
  match streamAt? path with
  | some n => duplicate stream n
  | none =>
    if path = Tool.nullDevice then openAs stream .null
    else if channel = .read then
      match s.disk.status p with
      | .ok (l, .file _ _) => openAs stream (.file l 0 true false false)
      | .ok _ => openAs stream (.input [])
      | .error c => fail ("cannot open ".toList ++ path ++ ':' :: ' ' :: openReason false c)
    else
      let there := (s.disk.readFile p).toOption
      let refuse (why : List Char) : Run Unit := fail ("cannot create ".toList ++ path ++ ':' :: ' ' :: why)
      if channel = .write && s.hasOption 'C' && there.isSome then refuse "File exists".toList
      else
        let kept := if channel = .append || channel = .readWrite then there.getD [] else []
        match s.disk.putFile p 0o666 kept with
        | .error c => refuse (openReason true c)
        | .ok d =>
          let d := if there.isSome || s.mask = 0o022 then d
            else ((d.setMode p (0o666 &&& (0o777 - s.mask))).toOption).getD d
          set { s with disk := d }
          match d.status p with
          | .ok (l, _) => openAs stream (.file l 0 (channel = .readWrite) true (channel = .append))
          | .error _ => pure ()

end Run

/-- A process that starts as a copy of another one. Signals that are not ignored have their usual effect again. -/
def Process.subshell (p : Process) : Process :=
  { p with traps := p.traps.filter fun t => t.2.isEmpty && t.1 ≠ 0, pending := [] }

/-- Variables that start with given values. -/
def importedVariables (values : List (List Char × List Char)) : Variables :=
  (values.filter fun v => isName v.1).map fun v => (v.1, ⟨some v.2, true, false⟩)

/-- The variables that every shell starts with. -/
def shellVariables (directory : List Char) (imported : Variables) : Variables :=
  let imported := if (imported.lookup "PATH".toList).isSome then imported
    else ("PATH".toList, ⟨some usualPath, false, false⟩) :: imported
  let own : List (String × List Char) := [("IFS", [' ', '\t', '\n']), ("OPTIND", ['1']), ("PWD", directory)]
  own.foldl (fun vs v =>
    (v.1.toList, ⟨some v.2, v.1 = "PWD" || (vs.lookup v.1.toList).any Variable.exported, false⟩) ::
      vs.filter fun w => w.1 ≠ v.1.toList) imported

/-- How a shell is called. -/
structure ShellCall where
  options : List Char := []
  hasText : Bool := false
  fromInput : Bool := false
  arguments : List (List Char) := []

/-- Reads the arguments of a shell; the letter of an option that does not exist is an error. -/
def ShellCall.read : (fuel : Nat) → ShellCall → List (List Char) → Except Char ShellCall
  | 0, c, ws => .ok { c with arguments := ws }
  | _, c, [] => .ok { c with arguments := [] }
  | fuel + 1, c, w :: ws =>
    match w with
    | ['-', '-'] | ['-'] => .ok { c with arguments := ws }
    | sign :: letter :: letters =>
      if sign = '-' || sign = '+' then
        let letters := letter :: letters
        match letters.find? fun l => !("aefImnsxvVECbulcoip".toList.contains l) with
        | some l => .error l
        | none =>
          let on := letters.filter fun l => !(['c', 's', 'o'].contains l)
          let named := if letters.contains 'o' then
              ((ws.head?.bind fun n => Builtin.optionNames.lookup (String.ofList n))).toList
            else []
          let options := if sign = '-' then c.options ++ on ++ named
            else c.options.filter fun l => !(on ++ named).contains l
          read fuel { c with
            options := options
            hasText := c.hasText || letters.contains 'c'
            fromInput := c.fromInput || letters.contains 's' }
            (if letters.contains 'o' then ws.drop 1 else ws)
      else .ok { c with arguments := w :: ws }
    | w => .ok { c with arguments := w :: ws }

open Run

/-- Shows a command before it is carried out: the variables that are set for it, and its words. -/
def trace (streams : List (Nat × Nat)) (names : List (List Char)) (ws : List (List Char)) : Run Unit := do
  let s ← get
  let values := names.map fun x => x ++ '=' :: (s.value? x).getD []
  let (_, t) := { s with streams := streams }.write 2 (toBytes ('+' :: ' ' :: (spaced (values ++ ws) ++ ['\n'])))
  set { t with streams := s.streams }

/-- Parts with the home directory in place of a tilde in front. -/
def withHome (s : Session) : List Part → List Part
  | .text false ('~' :: cs) :: rest =>
    if (cs.isEmpty && rest.isEmpty) || cs.head? = some '/' then
      match s.value? "HOME".toList with
      | some home => .text true home :: .text false cs :: rest
      | none => .text false ('~' :: cs) :: rest
    else .text false ('~' :: cs) :: rest
  | ps => ps

/-- A value of a variable as it is written, with the home directory also behind a colon. -/
def withHomes (s : Session) (ps : List Part) : List Part :=
  match s.value? "HOME".toList with
  | none => ps
  | some home =>
    let inText (last : Bool) (cs : List Char) : List Part :=
      let pieces := cs.splitOn ':'
      (pieces.zipIdx.map fun (piece, i) =>
        let colon : List Part := if i = 0 then [] else [.text false [':']]
        -- Behind the last piece of a text the word may go on with another part.
        match piece with
        | '~' :: rest =>
          if 0 < i && (rest.head? = some '/' || (rest.isEmpty && (last || i + 1 < pieces.length))) then
            colon ++ [.text true home, .text false rest]
          else colon ++ [.text false piece]
        | _ => colon ++ [.text false piece]).flatten
    withHome s ((ps.zipIdx.map fun (p, i) => match p with
      | .text false cs => if cs.contains '~' && cs.contains ':' then inText (i + 1 = ps.length) cs else [p]
      | p => [p]).flatten)

/-- All arguments of a shell as one word, or as words of their own. -/
def argumentMarks (s : Session) (quoted splits joins : Bool) : List Mark :=
  if joins && (quoted || !splits) then
    Mark.ofText quoted splits (((s.separators.head?).toList).intercalate s.arguments)
  else [Mark.border].intercalate (s.arguments.map (Mark.ofText quoted splits))

/-- A word without the newlines at its end and without zero bytes. -/
def asSubstitute (bytes : List UInt8) : List Char :=
  (((ofBytes bytes).filter (· ≠ '\x00')).reverse.dropWhile (· = '\n')).reverse

/-- Works an arithmetic expression out. -/
def calculate (text : List Char) : Run (List Char) := do
  let s ← get
  let refuse (why : String) : Run (List Char) :=
    fail ("arithmetic expression: ".toList ++ why.toList ++ ':' :: ' ' :: '"' :: (text ++ ['"']))
  let known (x : List Char) : Except Formula.Fault Int := match s.value? x with
    | none => .ok 0
    | some cs => if (cs.all fun c => c = ' ') then .ok 0 else
      match Formula.signedNumber? cs with
      | some n => .ok n
      | none => .error (.notNumber cs)
  match (do ((← Formula.read text).value known).run [] : Except Formula.Fault _) with
  | .ok (n, changes) =>
    changes.reverse.forM fun (x, v) => assign x (toString v).toList
    return (toString n).toList
  | .error (.expected what) => refuse ("expecting " ++ what)
  | .error .divisionByZero => refuse "division by zero"
  | .error (.notNumber cs) => fail ("Illegal number: ".toList ++ cs)

/-! ### Expansion, commands and processes -/

/-- Tells what commands are. -/
def describe (names : List (List Char)) (full : Bool) : Run Nat := do
  let s ← get
  let known ← names.mapM fun name => do
    let print (short long : List Char) : Run Bool := do
      let _ ← write 1 ((if full then name ++ ' ' :: long else short) ++ ['\n'])
      return true
    if reservedWords.contains name then print name "is a shell keyword".toList
    else if (s.functions.lookup name).isSome then print name "is a shell function".toList
    else if isSpecialCommand name then print name "is a special shell builtin".toList
    else if Builtin.carriers.contains name || (Builtin.find? name).isSome then print name "is a shell builtin".toList
    else
      let path := if name.contains '/' then
          if s.disk.leadsSomewhere (pathOf name) || (Tool.nameAt? name).isSome then some name else none
        else found? s.disk s.bindings name
      match path with
      | some path => print path ("is ".toList ++ path)
      | none =>
        if full then
          let _ ← write 1 (name ++ ": not found\n".toList)
        return false
  return if known.all fun b => b then 0 else 127

mutual

/-- Expands parts. `splits` tells whether what takes the place of variables may be split, `literal` whether other text
may be split too. -/
def parts : (fuel : Nat) → (splits literal : Bool) → List Part → Run (List Mark)
  | 0, _, _, _ => throw .exhausted
  | fuel + 1, splits, literal, ps => do
    let ms ← ps.mapM fun p => do
      match p with
      | .text quoted cs => return Mark.ofText quoted literal cs
      | .commands quoted body => return Mark.ofText quoted splits (← substitute fuel body)
      | .arithmetic quoted e =>
        let n ← calculate (Mark.text (← parts fuel false false e))
        return Mark.ofText quoted splits n
      | .parameter quoted name use => parameter fuel splits quoted name use
    return ms.flatten

/-- What takes the place of a variable. -/
def parameter : (fuel : Nat) → (splits quoted : Bool) → List Char → Use → Run (List Mark)
  | 0, _, _, _, _ => throw .exhausted
  | fuel + 1, splits, quoted, name, use => do
    let s ← get
    let isList := name = ['@'] || name = ['*']
    let value := if isList then (if s.arguments.isEmpty then none else some (spaced s.arguments)) else s.value? name
    let shown (v : List Char) : List Mark :=
      if isList then argumentMarks s quoted splits (name = ['*']) else Mark.ofText quoted splits v
    let nothing : List Mark := if quoted && name ≠ ['@'] then [.quote] else []
    match use with
    | .plain =>
      match value with
      | some v => return shown v
      | none =>
        unless isList do checkSet name
        return nothing
    | .length =>
      if value.isNone && !isList then checkSet name
      return Mark.ofText quoted splits (Session.decimal (value.getD []).length)
    | .fallback kind ifEmpty word =>
      let present := value.filter fun v => !(ifEmpty && v.isEmpty)
      let other : Run (List Mark) := do
        return (if quoted then [Mark.quote] else []) ++ (← parts fuel splits splits (withHome s word))
      match kind, present with
      | .replace, some _ => other
      | .replace, none => return nothing
      | _, some v => return shown v
      | .other, none => other
      | .assign, none =>
        let v := Mark.text (← parts fuel false false (withHome s word))
        unless isName name do fail (name ++ ": bad variable name".toList)
        assign name v
        return Mark.ofText quoted splits v
      | .refuse, none =>
        let message := Mark.text (← parts fuel false false word)
        let message := if message.isEmpty then
            (if ifEmpty then "parameter not set or null" else "parameter not set").toList
          else message
        fail (name ++ ':' :: ' ' :: message)
    | .cut atEnd longest pattern =>
      if value.isNone && !isList then checkSet name
      let p := Pattern.ofMarked (Mark.pattern (← parts fuel false false pattern))
      let v := value.getD []
      return Mark.ofText quoted splits (if atEnd then p.cutEnd longest v else p.cutStart longest v)
    | .unknown => fail "Bad substitution".toList

/-- What commands print, to take their place in a word. -/
def substitute : (fuel : Nat) → List Command → Run (List Char)
  | 0, _ => throw .exhausted
  | fuel + 1, body => do
    let (id, s) := (← get).openNode (.output [])
    set s
    let ending ← inProcess fuel Process.subshell (do
      modify fun s => s.connect 1 id
      setStatus 0
      run fuel false (.sequence body))
    modify fun s => { s with substituted := some ending.status }
    return asSubstitute ((← get).written id)

/-- The text that a word comes to where it is not split. -/
def text : (fuel : Nat) → Word → Run (List Char)
  | 0, _ => throw .exhausted
  | fuel + 1, w => do return Mark.text (← parts fuel false false (withHome (← get) w))

/-- The fields that a word comes to. -/
def fields : (fuel : Nat) → Word → Run (List (List Char))
  | 0, _ => throw .exhausted
  | fuel + 1, w => do
    let ms ← parts fuel true false (withHome (← get) w)
    let s ← get
    let found := Splitter.fields s.separators ms
    return found.flatMap fun f => if s.hasOption 'f' then [f.map Prod.fst] else filesFor s.disk f

/-- The fields of the words of a command. Words that set variables are not split where the command is one that does so. -/
def commandFields : (fuel : Nat) → List Word → Run (List (List Char))
  | 0, _ => throw .exhausted
  | fuel + 1, ws => do
    match ws with
    | [] => return []
    | w :: ws =>
      let first ← fields fuel w
      let assigns := first.head?.any Builtin.assigns
      let rest ← ws.mapM fun w => do
        let isAssignment := match w with
          | .text false cs :: _ => isName (cs.takeWhile (· ≠ '=')) && cs.contains '='
          | _ => false
        if assigns && isAssignment then return [← text fuel w] else fields fuel w
      return first ++ rest.flatten

def redirect : (fuel : Nat) → Redirection → Run Unit
  | 0, _ => throw .exhausted
  | fuel + 1, r => do
    match r with
    | .file stream channel target => openFile stream channel (← text fuel target)
    | .copy stream target =>
      match ← text fuel target with
      | ['-'] => modify fun s => s.close stream
      | w => match Session.place? w with
        | some n => duplicate stream n
        | none => fail (w ++ ": Bad fd number".toList)
    | .document stream content =>
      let cs := Mark.text (← parts fuel false false content)
      openAs stream (.input (toBytes cs))

/-- Carries out a command. A `tested` command may fail without ending the shell. -/
def run : (fuel : Nat) → (tested : Bool) → Command → Run Unit
  | 0, _, _ => throw .exhausted
  | fuel + 1, tested, c => do
    if (← get).hasOption 'n' then return
    match c with
    | .simple line as ws rs =>
      simple fuel tested line as ws rs
      runTraps fuel
      checkFailure tested
    | .pipeline cs =>
      let status ← pipeline fuel tested cs
      setStatus status
      checkFailure tested
    | .not c =>
      run fuel true c
      modify fun s => { s with status := if s.status = 0 then 1 else 0 }
    | .both a b =>
      run fuel true a
      if (← get).status = 0 then run fuel tested b
    | .either a b =>
      run fuel true a
      if (← get).status ≠ 0 then run fuel tested b
    | .sequence cs =>
      if cs.isEmpty then setStatus 0
      cs.forM (run fuel tested)
    | .background c =>
      let number := (← get).nextNumber
      let ending ← inProcess fuel Process.subshell (do
        openAs 0 .null
        run fuel false c)
      modify fun s => { s with
        lastBackground := some number, finished := (number, ending.status) :: s.finished, status := 0 }
    | .subshell c =>
      let ending ← inProcess fuel Process.subshell (run fuel tested c)
      setStatus ending.status
      checkFailure tested
    | .redirected c rs =>
      keepingStreams do
        match ← attempt (rs.forM (redirect fuel)) with
        | none => run fuel tested c
        | some (.fails code) => setStatus code
        | some stop => throw stop
    | .choice condition yes no =>
      run fuel true condition
      if (← get).status = 0 then run fuel tested yes else run fuel tested no
    | .loop negated condition body => loop fuel tested negated condition body 0
    | .each name ws body =>
      let values ← match ws with
        | some ws => do pure (← ws.mapM (fields fuel)).flatten
        | none => do pure (← get).arguments
      setStatus 0
      each fuel tested name values body
    | .select subject branches =>
      let cs ← text fuel subject
      select fuel tested cs branches
    | .define name body =>
      modify fun s => { s with functions := (name, body) :: s.functions.filter fun f => f.1 ≠ name, status := 0 }

/-- Runs a loop; `last` is the exit code of its body so far. -/
def loop : (fuel : Nat) → (tested negated : Bool) → Command → Command → (last : Nat) → Run Unit
  | 0, _, _, _, _, _ => throw .exhausted
  | fuel + 1, tested, negated, condition, body, last => do
    let goesOn ← turn do
      run fuel true condition
      if ((← get).status = 0) != negated then
        run fuel tested body
        return true
      else
        setStatus last
        return false
    if goesOn then loop fuel tested negated condition body (← get).status

/-- Runs a loop over values. -/
def each : (fuel : Nat) → (tested : Bool) → List Char → List (List Char) → Command → Run Unit
  | 0, _, _, _, _ => throw .exhausted
  | _, _, _, [], _ => return
  | fuel + 1, tested, name, v :: vs, body => do
    assign name v
    let goesOn ← turn do
      run fuel tested body
      return true
    if goesOn then each fuel tested name vs body

/-- Runs the first branch of which a pattern stands for a text. -/
def select : (fuel : Nat) → (tested : Bool) → List Char → List (List Word × Command) → Run Unit
  | 0, _, _, _ => throw .exhausted
  | _, _, _, [] => setStatus 0
  | fuel + 1, tested, cs, (patterns, body) :: rest => do
    let matches? ← patterns.mapM fun w => do
      let p := Pattern.ofMarked (Mark.pattern (← parts fuel false false (withHome (← get) w)))
      return p.isMatch cs
    if matches?.any fun b => b then run fuel tested body else select fuel tested cs rest

/-- Runs commands each of which reads what the one before it prints; the exit code is that of the last one. -/
def pipeline : (fuel : Nat) → (tested : Bool) → List Command → Run Nat
  | 0, _, _ => throw .exhausted
  | _, _, [] => return 0
  | fuel + 1, tested, c :: cs => do
    let (id, s) := (← get).openNode (.output [])
    set s
    let ending ← inProcess fuel Process.subshell (do
      unless cs.isEmpty do modify fun s => s.connect 1 id
      run fuel tested c)
    if cs.isEmpty then return ending.status
    else
      let bytes := (← get).written id
      keepingStreams do
        openAs 0 (.input bytes)
        pipeline fuel tested cs

/-- Runs what waits for signals that have come. -/
def runTraps : (fuel : Nat) → Run Unit
  | 0 => throw .exhausted
  | fuel + 1 => do
    let s ← get
    match s.pending with
    | [] => return
    | signal :: rest =>
      set { s with pending := rest }
      match s.traps.lookup signal with
      | some action => script fuel false { rest := action }
      | none => pure ()
      setStatus s.status
      runTraps fuel

/-- Carries out a simple command. -/
def simple : (fuel : Nat) → (tested : Bool) → (line : Nat) → List (List Char × Word) → List Word → List Redirection →
    Run Unit
  | 0, _, _, _, _, _ => throw .exhausted
  | fuel + 1, tested, line, as, ws, rs => do
    let command := (← get).command
    modify fun s => { s with line := line, substituted := none }
    match ← commandFields fuel ws with
    | [] =>
      let stop ← keepingStreams (attempt (rs.forM (redirect fuel)))
      match stop with
      | none =>
        as.forM fun (x, w) => do assign x (← text fuel (withHomes (← get) w))
        if (← get).hasOption 'x' then trace (← get).streams (as.map Prod.fst) []
        modify fun s => { s with status := s.substituted.getD 0 }
      | some (.fails code) => setStatus code
      | some stop => throw stop
    | name :: arguments =>
      let s ← get
      let isFunction := (s.functions.lookup name).isSome
      let isSpecial := isSpecialCommand name && !isFunction
      -- What a command opens without redirections of its own stays open.
      let opensFiles := rs.isEmpty || (name = "exec".toList && arguments.isEmpty)
      let streams := s.streams
      let restore : Run Unit := unless opensFiles do modify fun s => { s with streams := streams }
      match ← attempt (rs.forM (redirect fuel)) with
      | some (.fails code) =>
        modify fun s => { s with streams := streams }
        if isSpecial then throw (.fails code) else setStatus code
      | some stop => throw stop
      | none =>
        let before := (← get).bindings
        as.forM fun (x, w) => do
          assign x (← text fuel (withHomes (← get) w))
          unless isSpecial && name ≠ "exec".toList do
            modify fun s => s.putVariable x { (s.findVariable? x).getD { value := none } with exported := true }
        if s.hasOption 'x' then trace streams (as.map Prod.fst) (name :: arguments)
        let stop ← attempt (do setStatus (← perform fuel tested true name arguments))
        restore
        unless isSpecial do
          modify fun s => as.foldl (fun s a => match before.lookup a.1 with
            | some v => s.putVariable a.1 v
            | none => s.dropVariable a.1) s
        modify fun s => { s with command := command }
        match stop with
        | none => pure ()
        | some (.fails code) => if isSpecial || isFunction then throw (.fails code) else setStatus code
        | some stop => throw stop

/-- Carries out a command that is given by its fields; `functions` tells whether it may be a function. -/
def perform : (fuel : Nat) → (tested functions : Bool) → List Char → List (List Char) → Run Nat
  | 0, _, _, _, _ => throw .exhausted
  | fuel + 1, tested, functions, name, arguments => do
    let s ← get
    match if functions then s.functions.lookup name else none with
    | some body => callFunction fuel tested body arguments
    | none =>
      match String.ofList name with
      | "eval" =>
        set { s with command := name, status := 0 }
        script fuel tested { rest := spaced arguments, line := s.line }
        return (← get).status
      | "." =>
        set { s with command := name }
        includeFile fuel arguments
      | "exec" =>
        match arguments.dropWhile (· = ['-', '-']) with
        | [] => return 0
        | program :: arguments =>
          set { s with command := name }
          throw (.replaced (← external fuel program arguments))
      | "command" =>
        match arguments with
        | ['-', 'v'] :: names => describe names false
        | ['-', 'V'] :: names => describe names true
        | ['-', 'p'] :: program :: arguments | ['-', '-'] :: program :: arguments | program :: arguments =>
          tryCatch (perform fuel tested false program arguments) fun stop => match stop with
            | .fails code => return code
            | stop => throw stop
        | [] => return 0
      | "type" => describe arguments true
      | _ =>
        match Builtin.find? name with
        | some builtin =>
          set { s with command := name }
          builtin arguments
        | none => return (← external fuel name arguments).status

/-- Calls a function. -/
def callFunction : (fuel : Nat) → (tested : Bool) → Command → List (List Char) → Run Nat
  | 0, _, _, _ => throw .exhausted
  | fuel + 1, tested, body, arguments => do
    let s ← get
    set { s with arguments := arguments, saved := [] :: s.saved, loops := 0, optionPlace := 1, optionOffset := 1 }
    let stop ← attempt (run fuel tested body)
    modify fun t =>
      let t := (t.saved.headD []).foldl (fun t v =>
        if v.2.value.isNone && !v.2.exported && !v.2.readOnly then t.dropVariable v.1 else t.putVariable v.1 v.2) t
      { t with
        arguments := s.arguments, saved := s.saved, loops := s.loops
        optionPlace := s.optionPlace, optionOffset := s.optionOffset }
    match stop with
    | none => return (← get).status
    | some (.returns code) => return code
    | some stop => throw stop

/-- Carries out the commands of a file. -/
def includeFile : (fuel : Nat) → List (List Char) → Run Nat
  | 0, _ => throw .exhausted
  | fuel + 1, arguments => do
    match arguments.dropWhile (· = ['-', '-']) with
    | [] => return 0
    | file :: _ =>
      let s ← get
      let path := if file.contains '/' then some file
        else ((searchPath s.bindings).map fun d => if d.isEmpty then file else d ++ '/' :: file).find? fun path =>
          s.disk.isFile (pathOf path)
      match path with
      | none => fail (file ++ ": not found".toList)
      | some path =>
        if path = Tool.nullDevice then return 0
        else
          match s.disk.readFile (pathOf path) with
          | .error (.system .isDirectory) => return 0
          | .error c => fail ("cannot open ".toList ++ path ++ ':' :: ' ' :: openReason false c)
          | .ok bytes =>
            set { s with command := path, status := 0, loops := 0 }
            let stop ← attempt (script fuel false { rest := ofBytes bytes })
            modify fun t => { t with loops := s.loops }
            match stop with
            | none => return (← get).status
            | some (.returns code) => return code
            | some stop => throw stop

/-- Carries out the lines of a script one by one. -/
def script : (fuel : Nat) → (tested : Bool) → Source → Run Unit
  | 0, _, _ => throw .exhausted
  | fuel + 1, tested, source => do
    match nextCommands { source with aliases := (← get).aliases } with
    | .finished => return
    | .malformed line fault =>
      modify fun s => { s with line := line }
      fail ("Syntax error: ".toList ++ fault.message.toList)
    | .commands cs rest =>
      cs.forM (run fuel tested)
      script fuel tested rest

/-- Runs a step in a process of its own, which shares the disk and the open files. -/
def inProcess : (fuel : Nat) → (Process → Process) → Run Unit → Run End
  | 0, _, _ => throw .exhausted
  | fuel + 1, enter, r => do
    let outer ← get
    let number := outer.nextNumber
    set { outer with toProcess := { enter outer.toProcess with number := number }, nextNumber := number + 1 }
    let ending ← finish fuel (← attempt r)
    let inner ← get
    let mine := inner.killed.filter fun k => k.1 = outer.number
    set { inner with
      toProcess := outer.toProcess
      disk := { inner.disk with workingDirectory := outer.disk.workingDirectory }
      killed := inner.killed.filter fun k => k.1 ≠ outer.number }
    mine.forM fun k => do
      let _ ← Builtin.send k.2 (Session.decimal outer.number)
    return ending

/-- How a process ends that stops; what waits for its end runs first. -/
def finish : (fuel : Nat) → Option Stop → Run End
  | 0, _ => throw .exhausted
  | fuel + 1, stop => do
    match stop with
    | some (.replaced ending) => return ending
    | some (.signaled signal) => return .signaled signal
    | stop =>
      let s ← get
      let code := match stop with
        | some (.exits code) | some (.fails code) | some (.returns code) => code
        | _ => s.status
      match s.traps.lookup 0 with
      | none => return .exited code
      | some action =>
        set { s with traps := s.traps.filter (fun t => t.1 ≠ 0), status := code, pending := [] }
        match ← attempt (script fuel false { rest := action }) with
        | some (.exits other) | some (.fails other) => return .exited other
        | some (.signaled signal) => return .signaled signal
        | some (.replaced ending) => return ending
        | _ => return .exited code

/-- Starts a program, unless it cannot be started. -/
def start : (fuel : Nat) → (program : List Char) → List (List Char) → Run (Except Trouble End)
  | 0, _, _ => throw .exhausted
  | fuel + 1, program, arguments => do
    let s ← get
    let path := if program.contains '/' then some program else found? s.disk s.bindings program
    match path with
    | none => return .error .missing
    | some path =>
      match programAt s.disk path with
      | .trouble t => return .error t
      | .tool f => return .ok (.exited (← f arguments))
      | .shell => return .ok (← shell fuel program arguments)
      | .environment => environment fuel arguments
      | .file content =>
        match interpreter? content with
        | none => return .error (if isText content then .unfit else .other "Exec format error".toList)
        | some (interpreter, more) => start fuel interpreter (more ++ path :: arguments)

/-- Starts a program for a command of the shell; a file that is no program is taken for a script. -/
def external : (fuel : Nat) → (program : List Char) → List (List Char) → Run End
  | 0, _, _ => throw .exhausted
  | fuel + 1, program, arguments => do
    let refuse (why : List Char) (code : Nat) : Run End := do
      complain (program ++ ':' :: ' ' :: why)
      return .exited code
    match ← start fuel program arguments with
    | .ok ending => return ending
    | .error .missing => refuse "not found".toList 127
    | .error .denied => refuse "Permission denied".toList 126
    | .error (.other why) => refuse why 126
    | .error .unfit =>
      let s ← get
      let path := if program.contains '/' then program else (found? s.disk s.bindings program).getD program
      shell fuel path (path :: arguments)

/-- Starts a program with other variables. -/
def environment : (fuel : Nat) → List (List Char) → Run (Except Trouble End)
  | 0, _ => throw .exhausted
  | fuel + 1, ws => do
    let s ← get
    let (bindings, ws) := match ws with
      | ['-', 'i'] :: ws | ['-'] :: ws => ([], ws)
      | ws => (s.bindings, ws)
    let (sets, ws) := (ws.takeWhile (·.contains '='), ws.dropWhile (·.contains '='))
    let values := sets.map Builtin.assignment
    let bindings := values.foldl (fun (vs : Variables) v =>
      (v.1, ⟨v.2, true, false⟩) :: vs.filter fun w => w.1 ≠ v.1) bindings
    set { s with bindings := bindings }
    match ws with
    | [] =>
      let shown := (← get).exportedValues
      let _ ← write 1 (shown.flatMap fun v => v.1 ++ '=' :: (v.2 ++ ['\n']))
      modify fun t => { t with bindings := s.bindings }
      return .ok (.exited 0)
    | program :: arguments =>
      let search := if (bindings.lookup "PATH".toList).isSome then bindings
        else ("PATH".toList, ⟨some usualPath, true, false⟩) :: bindings
      let path := if program.contains '/' then program else (found? s.disk search program).getD program
      let result ← start fuel path arguments
      modify fun t => { t with bindings := s.bindings }
      match result with
      | .ok ending => return .ok ending
      | .error .missing => return .ok (.exited 127)
      | .error _ => return .ok (.exited 126)

/-- Runs a shell with arguments: on a text, on a file, or on what it reads. -/
def shell : (fuel : Nat) → (program : List Char) → List (List Char) → Run End
  | 0, _, _ => throw .exhausted
  | fuel + 1, program, arguments => do
    let s ← get
    let directory := Builtin.physicalDirectory s
    let bindings := shellVariables directory (importedVariables s.exportedValues)
    let enter (options : List Char) (name : List Char) (arguments : List (List Char)) (p : Process) : Process := {
      name := name, arguments := arguments, bindings := bindings, options := options, streams := p.streams
      directory := directory, mask := p.mask, shellNumber := s.nextNumber }
    let refuse (name message : List Char) : Run End := inProcess fuel (enter [] name []) (do
      modify fun s => { s with line := 0 }
      fail message)
    match ShellCall.read (arguments.length + 1) {} arguments with
    | .error letter => refuse program ("Illegal option -".toList ++ [letter])
    | .ok c =>
      if c.hasText then
        match c.arguments with
        | [] => refuse program "-c requires an argument".toList
        | source :: rest =>
          inProcess fuel (enter c.options (rest.headD program) rest.tail) (script fuel false { rest := source })
      else if c.fromInput || c.arguments.isEmpty then
        let (bytes, s) := (s.readAll? 0).getD ([], s)
        set s
        inProcess fuel (enter c.options program c.arguments) (script fuel false { rest := ofBytes bytes })
      else
        let file := c.arguments.headD []
        if file = Tool.nullDevice then return .exited 0
        else
          match s.disk.readFile (pathOf file) with
          | .ok bytes =>
            inProcess fuel (enter c.options file c.arguments.tail) (script fuel false { rest := ofBytes bytes })
          | .error (.system .isDirectory) => return .exited 0
          | .error cause => refuse program ("cannot open ".toList ++ file ++ ':' :: ' ' :: openReason false cause)

end

end Bootstrap.Shell
