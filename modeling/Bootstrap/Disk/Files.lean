import Bootstrap.Disk.Action

/-!
# Files and directories with fixed modes

* `createDirectory` makes a directory and the missing ones above it, and pins its mode.
* `createDirectoryIfMissing` leaves a directory that is there as it is.
* `writeFile` makes a path hold some content with a fixed mode, whatever file was there before.
* `writeNewFile` does so only where nothing is yet.

Directories above a file that are missing are made for owner and group only.

A file is opened and emptied, then its content is stored, then its mode is set. Once it is open, what may still go wrong
lies with the device and not with the path: `Faults` says when it does. What was done until then stays.
-/

namespace Bootstrap

/-- The mode of the directories that are made on the way to a file. -/
def parentMode : Nat := 0o750

/-- Where storing a content or setting a mode breaks off although the path leads to a file: the device is full, the file
is another user's. This depends on the disk as it is at that moment, which is all that a run that ends with its first
failure can tell apart. -/
structure Faults where
  /-- How many bytes of a content are stored at a path, and then the error. -/
  store? : Disk → Path → List UInt8 → Option (Nat × Errno)
  /-- The error with which the mode of what a path leads to is not set. -/
  setMode? : Disk → Path → Nat → Option Errno

/-- Nothing breaks off. -/
def Faults.none : Faults := ⟨fun _ _ _ => Option.none, fun _ _ _ => Option.none⟩

namespace Action

/-- Makes the directory at the head of a list of paths, each of which is the parent of the one before it. -/
def makeDirectories (mode : Nat) : List Path → Action Unit
  | [] => throw (.of .unreadable)
  | p :: above => do
    if p.bytes.isEmpty then return
    match (← get).makeDirectory p mode with
    | .ok d => set d
    | .error (.system .notFound) =>
      -- A directory above is missing: make it and try once more.
      makeDirectories mode above
      match (← get).makeDirectory p mode with
      | .ok d => set d
      | .error c => if (← get).isDirectory p then pure () else throw (.of c)
    | .error c => if (← get).isDirectory p then pure () else throw (.of c)

/-- Makes a directory and the missing ones above it. A directory that is there stays as it is. -/
def makeDirectoryTree (p : Path) (mode : Nat) : Action Unit := makeDirectories mode (p :: p.parents)

/-- Sets the mode of what a path leads to. -/
def pinMode (p : Path) (mode : Nat) (faults : Faults := .none) : Action Unit :=
  during (.setPermissions p) do
    match faults.setMode? (← get) p mode with
    | some errno => throw (.ofErrno errno)
    | none => change (·.setMode p mode)

def createDirectory (p : Path) (mode : Nat) (faults : Faults := .none) : Action Unit := do
  during (.createDirectory p) (makeDirectoryTree p mode)
  pinMode p mode faults

/-- Tells whether the directory was made. -/
def createDirectoryIfMissing (p : Path) (mode : Nat) : Action Bool := do
  if (← get).isDirectory p then return false
  createDirectory p mode
  return true

/-- Makes the missing directories above a path. -/
def ensureParent (p : Path) : Action Unit := do
  match p.parent? with
  | some parent =>
    if !parent.bytes.isEmpty && !(← get).leadsSomewhere parent then
      during (.createDirectory parent) (makeDirectoryTree parent parentMode)
  | none => pure ()

/-- Stores the content of a file that was opened at a path. Of a content that is not stored as a whole the first bytes
are. Between the opening and the storing the disk does not change, so the path still leads to the open file. -/
def storeContent (p : Path) (content : List UInt8) (mode : Nat) (faults : Faults := .none) : Action Unit :=
  during (.writeFile p) do
    match faults.store? (← get) p content with
    | some (stored, errno) =>
      change (·.putFile p mode (content.take stored))
      throw (.ofErrno errno)
    | none => change (·.putFile p mode content)

/-- Stores the content of a file that was opened at a path, and sets its mode. -/
def fillFile (p : Path) (content : List UInt8) (mode : Nat) (faults : Faults := .none) : Action Unit := do
  storeContent p content mode faults
  pinMode p mode faults

def writeFile (p : Path) (content : List UInt8) (mode : Nat) (faults : Faults := .none) : Action Unit := do
  ensureParent p
  during (.openFile p) (change (·.putFile p mode []))
  fillFile p content mode faults

/-- Tells whether the file was made. -/
def writeNewFile (p : Path) (content : List UInt8) (mode : Nat) (faults : Faults := .none) : Action Bool := do
  ensureParent p
  match (← get).addFile p mode [] with
  | .ok d => set d
  | .error (.system .alreadyExists) => return false
  | .error c => throw ((Failure.of c).within (.createFile p))
  fillFile p content mode faults
  return true

def createLink (link target : Path) : Action Unit := change (·.addLink link target)

end Action

end Bootstrap
