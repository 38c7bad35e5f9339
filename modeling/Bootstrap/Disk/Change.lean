import Bootstrap.Disk.Walk

/-!
# Changes of a disk

The operations of which everything that this library does to a disk is made. Each of them finds its location
with one walk and then either fails and changes nothing, or changes the object at that location and nothing
else; only `eraseTree` reaches further, to what lies below its location.

New directories and files get their mode without the write bits for group and others. A new directory takes the
set-group-ID bit from the directory it stands in, whatever was asked for; `setMode` sets a mode as it is.
-/

namespace Bootstrap.Disk

/-- The mode of a new directory for which `mode` was asked, in a directory of the mode `above`: the set-group-ID bit is
inherited and cannot be asked for. -/
def newDirectoryMode (above mode : Nat) : Nat := mode &&& 0o1755 ||| above &&& 0o2000

/-- The mode of the directory at a location. -/
def modeAt (d : Disk) (l : Location) : Nat :=
  match d.get? l with
  | some (.directory mode) => mode
  | _ => 0

/-- The mode of a new file for which `mode` was asked. -/
def newFileMode (mode : Nat) : Nat := mode &&& 0o7755

/-- Puts a new object at a free name. -/
def place (d : Disk) (parent : Location) (name : List UInt8) (o : Object) : Except Cause Disk :=
  if d.isDirectoryAt parent then .ok (d.set (parent ++ [name]) o)
  else .error (.system .notFound)

def makeDirectory (d : Disk) (p : Path) (mode : Nat) : Except Cause Disk := do
  match ← d.walk .never p with
  | .directory _ _ => .error (.system .alreadyExists)
  | .name parent n _ =>
    if (d.get? (parent ++ [n])).isSome then .error (.system .alreadyExists)
    else d.place parent n (.directory (newDirectoryMode (d.modeAt parent) mode))

/-- Makes a file hold `content`. A file that is there keeps its mode; links are followed, also to a name at
which nothing is yet. -/
def putFile (d : Disk) (p : Path) (mode : Nat) (content : List UInt8) : Except Cause Disk := do
  match ← d.walk .unlessSlash p with
  | .directory _ _ | .name _ _ true => .error (.system .isDirectory)
  | .name parent n false =>
    match d.get? (parent ++ [n]) with
    | none => d.place parent n (.file (newFileMode mode) content)
    | some (.file oldMode _) => .ok (d.set (parent ++ [n]) (.file oldMode content))
    | some (.directory _) => .error (.system .isDirectory)
    | some (.link _) => .error (.system .tooManyLinks)

/-- Makes a file where nothing is, not even a link that leads nowhere. -/
def addFile (d : Disk) (p : Path) (mode : Nat) (content : List UInt8) : Except Cause Disk := do
  match ← d.walk .never p with
  | .directory _ _ => .error (.system .alreadyExists)
  | .name _ _ true => .error (.system .isDirectory)
  | .name parent n false =>
    if (d.get? (parent ++ [n])).isSome then .error (.system .alreadyExists)
    else d.place parent n (.file (newFileMode mode) content)

def addLink (d : Disk) (p target : Path) : Except Cause Disk :=
  if target.bytes.contains 0 || p.bytes.contains 0 then .error .unreadable
  else if target.bytes.isEmpty then .error (.system .notFound)
  else if target.bytes.length ≥ maxPath then .error (.system .nameTooLong)
  else do
    match ← d.walk .never p with
    | .directory _ _ => .error (.system .alreadyExists)
    | .name parent n slash =>
      if (d.get? (parent ++ [n])).isSome then .error (.system .alreadyExists)
      else if slash then .error (.system .notFound)
      else d.place parent n (.link target)

/-- Sets the mode of what the path leads to. -/
def setMode (d : Disk) (p : Path) (mode : Nat) : Except Cause Disk := do
  match ← d.status p with
  | (l, .directory _) => .ok (d.set l (.directory (mode &&& 0o7777)))
  | (l, .file _ content) => .ok (d.set l (.file (mode &&& 0o7777) content))
  | (_, .link _) => .error (.system .tooManyLinks)

/-- The content of the file that the path leads to. -/
def readFile (d : Disk) (p : Path) : Except Cause (List UInt8) := do
  match ← d.status p with
  | (_, .file _ content) => .ok content
  | _ => .error (.system .isDirectory)

/-- The content of the file that the path leads to, if it is text. -/
def readText (d : Disk) (p : Path) : Except Cause String := do
  match Text.decode? (← d.readFile p) with
  | some s => .ok s
  | none => .error .unreadable

/-- The names in the directory that the path leads to, in byte order. -/
def listDirectory (d : Disk) (p : Path) : Except Cause (List (List UInt8)) := do
  match ← d.status p with
  | (l, .directory _) => .ok (d.namesIn l)
  | _ => .error (.system .notDirectory)

/-! ### Removal -/

/-- Removes an object that is no directory; a link is removed itself. -/
def removeFile (d : Disk) (p : Path) : Except Cause Disk := do
  match ← d.walk .never p with
  | .directory _ _ => .error (.system .isDirectory)
  | .name parent n slash =>
    match d.get? (parent ++ [n]) with
    | none => .error (.system .notFound)
    | some (.directory _) => .error (.system .isDirectory)
    | some _ => if slash then .error (.system .notDirectory) else .ok (d.erase (parent ++ [n]))

def removeEmptyDirectory (d : Disk) (p : Path) : Except Cause Disk := do
  match ← d.walk .never p with
  | .directory _ .root => .error (.system .busy)
  | .directory _ .dot => .error (.system .invalidArgument)
  | .directory _ .dotDot => .error (.system .notEmpty)
  | .name parent n _ =>
    match d.get? (parent ++ [n]) with
    | none => .error (.system .notFound)
    | some (.directory _) =>
      if d.hasBelow (parent ++ [n]) then .error (.system .notEmpty) else .ok (d.erase (parent ++ [n]))
    | some _ => .error (.system .notDirectory)

/-- Empties the directory that a path stands for and then removes it; a link is removed itself. What was in
the directory is gone even if the directory itself cannot be removed by this path, and it is no failure if
the path leads nowhere once the directory is empty. -/
def removeTree (d : Disk) (p : Path) : Except Cause Unit × Disk :=
  match d.linkStatus p with
  | .error c => (.error c, d)
  | .ok (_, .link _) =>
    match d.removeFile p with
    | .ok d' => (.ok (), d')
    | .error c => (.error c, d)
  | .ok (_, .file _ _) => (.error (.system .notDirectory), d)
  | .ok (l, .directory _) =>
    -- The directory is found once, then emptied, then removed by its path.
    match (d.eraseBelow l).removeEmptyDirectory p with
    | .ok d' => (.ok (), d')
    | .error (.system .notFound) => (.ok (), d.eraseBelow l)
    | .error c => (.error c, d.eraseBelow l)

end Bootstrap.Disk
