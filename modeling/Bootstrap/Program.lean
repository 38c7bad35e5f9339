import Bootstrap.Disk.Action
import Bootstrap.Launch.Launcher

/-!
# Programs

A program is what an invocation does: it acts on the disk, prints lines, starts children and makes workspaces, and may
fail on the way. All of it is recorded in a `World`, and stays recorded when the program fails.
-/

namespace Bootstrap

structure World where
  disk : Disk
  /-- The directory for temporary files. -/
  temporary : Path
  /-- The names for workspaces, in the order in which they are drawn. -/
  draw : Nat → String
  /-- How many names are drawn so far. -/
  drawn : Nat := 0
  /-- What was printed so far. -/
  printed : String := ""
  /-- The children started so far, in order, each with the disk as it was found. -/
  launches : List (Launch.Request × Disk) := []

abbrev Program (α : Type) := ExceptT Failure (StateM World) α

namespace Program

def runOn (x : Program α) (w : World) : Except Failure α × World := x.run.run w

/-- Runs an action on the disk. -/
def onDisk (x : Action α) : Program α := do
  let w ← get
  let (result, d) := x.runOn w.disk
  set { w with disk := d }
  match result with
  | .ok a => pure a
  | .error f => throw f

/-- A question to the disk that has an answer in every case. -/
def look (question : Disk → α) : Program α := do return question (← get).disk

def print (line : String) : Program Unit :=
  modify fun w => { w with printed := w.printed ++ line ++ "\n" }

/-- Starts a child and waits for it. -/
def launch (launcher : Launch.Launcher) (request : Launch.Request) : Program Launch.Outcome := do
  let w ← get
  let ending := launcher w.launches.length request w.disk
  set { w with
    disk := ending.disk
    printed := w.printed ++ ending.printed
    launches := w.launches ++ [(request, w.disk)] }
  return ending.outcome

/-- Names the activity that a failure of `x` interrupts. -/
def during (activity : Activity) (x : Program α) : Program α :=
  tryCatch x fun f => throw (f.within activity)

def refuse (r : Refusal) : Program α := throw (.ofRefusal r)

end Program

end Bootstrap
