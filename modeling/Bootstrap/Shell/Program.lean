import Bootstrap.Shell.Tools

/-!
# Programs

What is started by a name: a tool of the machine, the shell, or a file on the disk, which may name its interpreter in
its first line.
-/

namespace Bootstrap.Shell

/-- Whether a file that names no interpreter may be a script: its first line is text, as far as the shell looks. -/
def isText (content : List Char) : Bool :=
  ((content.take 128).takeWhile (· ≠ '\n')).all fun c =>
    [9, 11, 12, 13, 27].contains c.toNat || (32 ≤ c.toNat && c.toNat ≠ 127)

/-- Why a program cannot be started. -/
inductive Trouble where
  | missing
  | denied
  /-- It is no program, though it may be a script. -/
  | unfit
  | other (reason : List Char)

/-- What a path leads to that is to be started. -/
inductive Program where
  | tool (run : List (List Char) → Run Nat)
  | shell
  /-- Starts another program with other variables. -/
  | environment
  | file (content : List Char)
  | trouble (t : Trouble)

/-- The shell under its names. -/
def shellNames : List (List Char) := ["sh", "dash", "bash"].map String.toList

/-- The program of the machine with a name. -/
def machineProgram (name : List Char) : Program :=
  if shellNames.contains name then .shell
  else if name = "env".toList then .environment
  else
    match Tool.find? (String.ofList name) with
    | some run => .tool run
    | none => .trouble .missing

/-- The program at a path. -/
def programAt (d : Disk) (path : List Char) : Program :=
  match Tool.nameAt? path with
  | some name => machineProgram name
  | none =>
    match d.status (pathOf path) with
    | .ok (_, .file mode content) => if mode &&& 0o111 ≠ 0 then .file (ofBytes content) else .trouble .denied
    | .ok _ => .trouble .denied
    | .error (.system .notFound) | .error (.system .notDirectory) => .trouble .missing
    | .error c => .trouble (.other (Run.reason c))

/-- Where programs are looked for, as the variable for it says. -/
def searchPath (bindings : Variables) : List (List Char) :=
  match (bindings.lookup "PATH".toList).bind Variable.value with
  | some cs => cs.splitOn ':'
  | none => []

/-- Where programs are looked for if nothing else is said. -/
def usualPath : List Char := "/usr/local/sbin:/usr/local/bin:/usr/sbin:/usr/bin:/sbin:/bin".toList

/-- The path of a program that is called by a name. -/
def found? (d : Disk) (bindings : Variables) (name : List Char) : Option (List Char) :=
  ((searchPath bindings).map fun directory => if directory.isEmpty then name else directory ++ '/' :: name).find?
    fun path => match programAt d path with
      | .trouble _ => false
      | _ => true

/-- The interpreter that a script names in its first line, and the word behind it. -/
def interpreter? : List Char → Option (List Char × List (List Char))
  | '#' :: '!' :: rest =>
    let isBlank (c : Char) : Bool := c = ' ' || c = '\t'
    let line := (rest.takeWhile (· ≠ '\n')).dropWhile isBlank
    let path := line.takeWhile fun c => !isBlank c
    let more := ((line.drop path.length).dropWhile isBlank).reverse.dropWhile isBlank |>.reverse
    if path.isEmpty then none else some (path, if more.isEmpty then [] else [more])
  | _ => none

end Bootstrap.Shell
