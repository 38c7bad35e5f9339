import Bootstrap.Disk.Files
import Bootstrap.Program

/-!
# Workspaces

Each run works in a directory of its own, which is made under a name that nothing bears yet. At the end it is removed or
left to the operator; a removal that fails does no harm.
-/

namespace Bootstrap

structure Workspace where
  path : Path
deriving DecidableEq

namespace Workspace

/-- The mode that is asked for when a workspace is made. -/
def mode : Nat := 0o777

/-- The name of the `n`-th workspace. -/
def name (draw : Nat → String) (n : Nat) : String := "gascan-" ++ draw n

/-- The path of a workspace in a directory; a relative directory is taken from the working directory. -/
def pathIn (workingDirectory base : Path) (name : String) : Path := (workingDirectory.join base).joinText name

/-- Makes a directory under the first free name of those drawn from the `n`-th on, of which at most `tries` are tried.
Gives the number of the name behind the one taken. Why no directory can be made is not told. -/
def make (base : Path) (draw : Nat → String) : (tries n : Nat) → Action (Workspace × Nat)
  | 0, _ => throw (.of .unreadable)
  | tries + 1, n => do
    let d ← get
    let path := pathIn d.workingDirectoryPath base (name draw n)
    match d.makeDirectory path mode with
    | .ok d' =>
      set d'
      return (⟨path⟩, n + 1)
    | .error (.system .alreadyExists) => make base draw tries (n + 1)
    | .error _ => throw (.of .unreadable)

/-- Makes a workspace in a directory, which is made too if it is missing. -/
def openIn (base : Option Path) : Program Workspace := do
  let w ← get
  let base := base.getD w.temporary
  Program.during (.createWorkspaceParent base) (Program.onDisk (Action.makeDirectoryTree base 0o777))
  let w ← get
  let (workspace, drawn) ← Program.during (.createWorkspace base)
    (Program.onDisk (make base w.draw (w.disk.objects.length + 1) w.drawn))
  modify fun w => { w with drawn := drawn }
  return workspace

/-- What became of a workspace. -/
inductive Fate where
  | removed
  /-- It could not be removed and is left to the operating system. -/
  | removalFailed
  | preserved
deriving DecidableEq

def finalize (workspace : Workspace) (remove : Bool) : Program Fate := do
  if !remove then return .preserved
  let w ← get
  let (result, d) := w.disk.removeTree workspace.path
  set { w with disk := d }
  return if result.isOk then .removed else .removalFailed

end Workspace

end Bootstrap
