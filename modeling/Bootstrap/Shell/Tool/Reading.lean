import Bootstrap.Shell.Printing
import Bootstrap.Shell.Tool.Options

/-!
# Tools that read and print

Programs of the machine that print files, parts of them, what is to be counted in them, and names. Lines keep their
ends, so that a file without a newline at its end is printed as it is.
-/

namespace Bootstrap.Shell.Tool

/-- The file that is empty and swallows what is written to it. -/
def nullDevice : List Char := "/dev/null".toList

/-- The bytes of a file, or of the standard input for a minus sign; or why they are not to be had. -/
def bytesOf (w : List Char) : Run (Except (List Char) (List UInt8)) := do
  let s ← get
  if w = ['-'] then
    match s.readAll? 0 with
    | some (bytes, s) =>
      set s
      return .ok bytes
    | none => return .error "Bad file descriptor".toList
  else if w = nullDevice then return .ok []
  else
    match s.disk.readFile (pathOf w) with
    | .ok bytes => return .ok bytes
    | .error c => return .error (Run.reason c)

/-- The characters of a file; if there are none to be had, a message tells why. -/
def content? (tool : String) (w : List Char) : Run (Option (List Char)) := do
  match ← bytesOf w with
  | .ok bytes => return some (ofBytes bytes)
  | .error why =>
    complain tool (w ++ ':' :: ' ' :: why)
    return none

/-- The files of a call, which are the standard input if there are none. -/
def files (ws : List (List Char)) : List (List Char) := if ws.isEmpty then [['-']] else ws

/-- Lines with their ends; the last one may have none. -/
def linesOf : List Char → List (List Char)
  | [] => []
  | c :: cs =>
    if c = '\n' then [c] :: linesOf cs
    else
      match linesOf cs with
      | [] => [[c]]
      | line :: lines => (c :: line) :: lines

/-- A number at the right end of a field. -/
def rightAligned (width n : Nat) : List Char :=
  let ds := Session.decimal n
  List.replicate (width - ds.length) ' ' ++ ds

/-! ### Whole files -/

/-- How a byte is shown that is not to be printed as it is. -/
def visible (tabs : Bool) (c : Char) : List Char :=
  let n := c.toNat
  if c = '\n' || (c = '\t' && !tabs) then [c]
  else if n < 32 then ['^', Char.ofNat (n + 64)]
  else if n = 127 then ['^', '?']
  else if n < 128 then [c]
  else if n < 160 then ['M', '-', '^', Char.ofNat (n - 64)]
  else if n = 255 then ['M', '-', '^', '?']
  else ['M', '-', Char.ofNat (n - 128)]

/-- How lines are to be shown. -/
structure Show where
  numbers : Bool
  /-- Only lines that are not empty have numbers. -/
  numbersFull : Bool
  /-- Of empty lines in a row only the first is shown. -/
  squeezes : Bool
  ends : Bool
  tabs : Bool
  marks : Bool

/-- Shows lines; `count` lines have numbers already, and `blank` tells whether the last line was empty. -/
def Show.lines (how : Show) : (count : Nat) → (blank : Bool) → List (List Char) → List Char
  | _, _, [] => []
  | count, blank, line :: lines =>
    let isBlank := line = ['\n']
    if isBlank && blank && how.squeezes then how.lines count true lines
    else
      let numbered := if how.numbersFull then !isBlank else how.numbers
      let front := if numbered then rightAligned 6 (count + 1) ++ ['\t'] else []
      let body := line.flatMap fun c =>
        if c = '\n' then (if how.ends then ['$', '\n'] else ['\n'])
        else if how.marks then visible how.tabs c
        else if c = '\t' && how.tabs then ['^', 'I']
        else [c]
      front ++ body ++ how.lines (if numbered then count + 1 else count) isBlank lines

/-- Prints files one after the other. -/
def cat : List (List Char) → Run Nat :=
  ({ letters := "nbsETAvetu".toList
     names := [("number", 'n'), ("number-nonblank", 'b'), ("squeeze-blank", 's'), ("show-ends", 'E'),
       ("show-tabs", 'T'), ("show-all", 'A'), ("show-nonprinting", 'v')] } : Options).run "cat" 1 fun g => do
  let contents ← (files g.words).mapM (content? "cat")
  let text := (contents.filterMap fun c => c).flatten
  let any (letters : String) : Bool := letters.toList.any g.has
  let how : Show := {
    numbers := g.has 'n', numbersFull := g.has 'b', squeezes := g.has 's', ends := any "EeA", tabs := any "TtA"
    marks := any "vetA" }
  let written ← Run.write 1 (if any "nbsETAvet" then how.lines 0 false (linesOf text) else text)
  unless written do complain "cat" "write error: Bad file descriptor".toList
  return if contents.all Option.isSome && written then 0 else 1

/-! ### Parts of files -/

/-- A part of a list: so many elements at the start or at the end, or all but so many. -/
inductive Share where
  | first (n : Nat)
  | allButLast (n : Nat)
  | last (n : Nat)
  | allButFirst (n : Nat)

def Share.of : Share → List α → List α
  | .first n, as => as.take n
  | .allButLast n, as => as.take (as.length - n)
  | .last n, as => as.drop (as.length - n)
  | .allButFirst n, as => as.drop n

/-- How much of each file a call asks for, in front of or behind the place that a count names. -/
def startShare? : List Char → Option Share
  | '-' :: n => (Session.place? n).map Share.allButLast
  | '+' :: n | n => (Session.place? n).map Share.first

def endShare? : List Char → Option Share
  | '+' :: n => (Session.place? n).map fun n => Share.allButFirst (n - 1)
  | '-' :: n | n => (Session.place? n).map Share.last

/-- A count behind a minus sign as the value of an option. -/
def withCount : List (List Char) → List (List Char)
  | ('-' :: n) :: ws => if (Session.place? n).isSome then ['-', 'n'] :: n :: ws else ('-' :: n) :: ws
  | ws => ws

/-- Prints a part of each file. -/
def portion (tool : String) (share? : List Char → Option Share) (usual : Share) (ws : List (List Char)) : Run Nat :=
  ({ letters := "qv".toList, valued := "nc".toList
     names := [("lines", 'n'), ("bytes", 'c'), ("quiet", 'q'), ("silent", 'q'), ("verbose", 'v')] } : Options).run
    tool 1 (fun g => do
  let byBytes := g.has 'c'
  let amount := if byBytes then g.value? 'c' else g.value? 'n'
  match amount.map fun w => (w, share? w) with
  | some (w, none) =>
    complain tool ("invalid number of ".toList ++ (if byBytes then "bytes: " else "lines: ").toList ++ shown w)
    return 1
  | found =>
    let share := (found.bind Prod.snd).getD usual
    let names := files g.words
    let headed := g.has 'v' || (1 < names.length && !g.has 'q')
    -- The first heading has no empty line above it.
    let step (state : Bool × Bool) (w : List Char) : Run (Bool × Bool) := do
      let heading : Run Unit := do
        let name := if w = ['-'] then "standard input".toList else w
        if headed then
          let _ ← Run.write 1 ((if state.1 then ['\n'] else []) ++ "==> ".toList ++ name ++ " <==\n".toList)
      match ← bytesOf w with
      | .ok bytes =>
        heading
        let cs := ofBytes bytes
        let _ ← Run.write 1 (if byBytes then share.of cs else (share.of (linesOf cs)).flatten)
        return (true, state.2)
      | .error why =>
        if (← get).disk.isDirectory (pathOf w) then
          heading
          complain tool ("error reading ".toList ++ shown w ++ ':' :: ' ' :: why)
          return (true, false)
        else
          complain tool ("cannot open ".toList ++ shown w ++ " for reading: ".toList ++ why)
          return (state.1, false)
    let state ← names.foldlM step (false, true)
    return if state.2 then 0 else 1) (withCount ws)

/-! ### Counts and numbers -/

/-- Counts lines, words and bytes. -/
def wc : List (List Char) → Run Nat :=
  ({ letters := "lwcm".toList
     names := [("lines", 'l'), ("words", 'w'), ("bytes", 'c'), ("chars", 'm')] } : Options).run "wc" 1 fun g => do
  let asked := "lwmc".toList.filter g.has
  let asked := if asked.isEmpty then ['l', 'w', 'c'] else asked
  let isSpace (c : Char) : Bool := [' ', '\t', '\n', '\r', '\x0b', '\x0c'].contains c
  let countsOf (cs : List Char) : List Nat := asked.map fun c =>
    if c = 'l' then cs.count '\n'
    else if c = 'w' then ((cs.splitOnP isSpace).filter fun w => !w.isEmpty).length
    else cs.length
  let s ← get
  let names := files g.words
  -- The sizes of all files tell how wide the columns are; what is no file makes them wide.
  let sizes := names.map fun w =>
    if w = ['-'] then
      match s.node? 0 with
      | some (.file l _ _ _ _) => (s.disk.get? l).bind fun o => match o with
        | .file _ content => some content.length
        | _ => none
      | _ => none
    else if s.disk.leadsSomewhere (pathOf w) then (s.disk.readFile (pathOf w)).toOption.map List.length
    else some 0
  let total := sizes.foldl (fun sum n => sum + n.getD 0) 0
  let width := if names.length = 1 && asked.length = 1 then 1
    else max (Session.decimal total).length (if sizes.all Option.isSome then 1 else 7)
  let print (counts : List Nat) (name : List Char) : Run Unit := do
    let name := if g.words.isEmpty then [] else [name]
    let _ ← Run.write 1 (spaced (counts.map (rightAligned width) ++ name) ++ ['\n'])
  let contents ← names.mapM fun w => do
    match ← content? "wc" w with
    | some cs =>
      print (countsOf cs) w
      return some (countsOf cs)
    | none =>
      if s.disk.isDirectory (pathOf w) then print (asked.map fun _ => 0) w
      return none
  let known := contents.filterMap fun c => c
  let totals := asked.zipIdx.map fun (_, i) => known.foldl (fun sum c => sum + c.getD i 0) 0
  if 1 < names.length then print totals "total".toList
  return if contents.all Option.isSome then 0 else 1

/-- A number, or digits with zeros in front of them up to some width. -/
def padded (width : Nat) (n : Int) : List Char :=
  let ds := Session.decimal n.natAbs
  let sign := if n < 0 then ['-'] else []
  sign ++ List.replicate (width - ds.length - sign.length) '0' ++ ds

/-- Prints numbers in a row. -/
def seq (ws : List (List Char)) : Run Nat :=
  let isNumber (w : List Char) : Bool := match w with
    | '-' :: c :: _ => c.isDigit
    | _ => false
  -- A number below zero is no option.
  let (front, numbers) := (ws.takeWhile fun w => !isNumber w, ws.dropWhile fun w => !isNumber w)
  let ws := if numbers.isEmpty then front else front ++ ['-', '-'] :: numbers
  ({ letters := ['w'], valued := ['s'], inFront := true
     names := [("separator", 's'), ("equal-width", 'w')] } : Options).run "seq" 1 (fun g => do
  let ws := g.words.filter (· ≠ ['-', '-'])
  match ws.find? fun w => (Formula.signedNumber? w).isNone with
  | some w => refuse "seq" ("invalid floating point argument: ".toList ++ shown w) 1
  | none =>
    let print (first step last : Int) : Run Nat := do
      if step = 0 then refuse "seq" ("invalid Zero increment value: ".toList ++ shown (ws.getD 1 [])) 1
      else
        let numbers := (List.range ((last - first) / step + 1).toNat).map fun i => first + step * Int.ofNat i
        let width := if g.has 'w' then ((numbers.map fun n => (toString n).length).max?).getD 0 else 0
        unless numbers.isEmpty do
          let _ ← Run.write 1 (((g.value? 's').getD ['\n']).intercalate (numbers.map (padded width)) ++ ['\n'])
        return 0
    match ws.filterMap Formula.signedNumber? with
    | [] => refuse "seq" "missing operand".toList 1
    | [last] => print 1 1 last
    | [first, last] => print first 1 last
    | [first, step, last] => print first step last
    | _ => refuse "seq" ("extra operand ".toList ++ shown (ws.getD 3 [])) 1) ws

/-! ### Names -/

/-- The last name of a path, without an ending. -/
def lastName (ending w : List Char) : List Char :=
  let cut := (w.reverse.dropWhile (· = '/')).reverse
  let name := (cut.reverse.takeWhile (· ≠ '/')).reverse
  let name := if name.isEmpty && !w.isEmpty then ['/'] else name
  if ending.isSuffixOf name && ending ≠ name then name.take (name.length - ending.length) else name

/-- A path without its last name. -/
def parentName (w : List Char) : List Char :=
  let cut := (w.reverse.dropWhile (· = '/')).dropWhile (· ≠ '/')
  let parent := (cut.dropWhile (· = '/')).reverse
  if parent.isEmpty then (if w.head? = some '/' then ['/'] else ['.']) else parent

/-- Prints the last names of paths. -/
def basename : List (List Char) → Run Nat :=
  ({ letters := ['a'], valued := ['s'], inFront := true
     names := [("multiple", 'a'), ("suffix", 's')] } : Options).run "basename" 1 fun g => do
  let print (ending : List Char) (w : List Char) : Run Bool := Run.write 1 (lastName ending w ++ ['\n'])
  if g.words.isEmpty then refuse "basename" "missing operand".toList 1
  else if g.has 'a' || g.has 's' then forAll g.words (print ((g.value? 's').getD []))
  else
    match g.words with
    | [w] => forAll [w] (print [])
    | [w, ending] => forAll [w] (print ending)
    | _ => refuse "basename" ("extra operand ".toList ++ shown (g.words.getD 2 [])) 1

/-- Prints paths without their last names. -/
def dirname : List (List Char) → Run Nat :=
  ({ letters := [], inFront := true } : Options).run "dirname" 1 fun g => do
  if g.words.isEmpty then refuse "dirname" "missing operand".toList 1
  else forAll g.words fun w => Run.write 1 (parentName w ++ ['\n'])

/-- Copies the standard input to the standard output and to files. -/
def tee : List (List Char) → Run Nat :=
  ({ letters := ['a', 'i', 'p'], names := [("append", 'a')] } : Options).run "tee" 1 fun g => do
  let s ← get
  match s.readAll? 0 with
  | none => return 1
  | some (bytes, s) =>
    set s
    let _ ← Run.write 1 (ofBytes bytes)
    forAll (g.words.filter (· ≠ nullDevice)) fun w => do
      let s ← get
      let old := if g.has 'a' then (s.disk.readFile (pathOf w)).toOption.getD [] else []
      match s.disk.putFile (pathOf w) 0o666 (old ++ bytes) with
      | .ok d =>
        set { s with disk := d }
        return true
      | .error c =>
        complain "tee" (w ++ ':' :: ' ' :: Run.reason c)
        return false

/-- Prints where links lead to. -/
def readlink : List (List Char) → Run Nat :=
  ({ letters := ['n', 'f', 'e', 'm'] } : Options).run "readlink" 1 fun g => do
  if g.words.isEmpty then refuse "readlink" "missing operand".toList 1
  else
    forAll g.words fun w => do
      let s ← get
      let target := if g.has 'f' || g.has 'e' || g.has 'm' then
          match s.disk.status (pathOf w) with
          | .ok (l, _) => some (if l.isEmpty then ['/'] else l.flatMap fun n => '/' :: ofBytes n)
          | .error _ => none
        else
          match s.disk.linkStatus (pathOf w) with
          | .ok (_, .link target) => some (ofBytes target.bytes)
          | _ => none
      match target with
      | some cs => Run.write 1 (cs ++ (if g.has 'n' then [] else ['\n']))
      | none => return false

end Bootstrap.Shell.Tool
