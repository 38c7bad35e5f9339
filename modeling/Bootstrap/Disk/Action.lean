import Bootstrap.Disk.Change

/-!
# Actions on a disk

An action reads and changes a disk and may fail on the way. What it did before it failed stays done: the disk
after a failure is part of the result.
-/

namespace Bootstrap

abbrev Action (α : Type) := ExceptT Failure (StateM Disk) α

namespace Action

/-- Runs an action on a disk. -/
def runOn (x : Action α) (d : Disk) : Except Failure α × Disk := x.run.run d

/-- A question to the disk. -/
def ask (question : Disk → Except Cause α) : Action α := do
  match question (← get) with
  | .ok a => pure a
  | .error c => throw (.of c)

/-- A change that happens as a whole or not at all. -/
def change (step : Disk → Except Cause Disk) : Action Unit := do
  match step (← get) with
  | .ok d => set d
  | .error c => throw (.of c)

/-- Names the activity that a failure of `x` interrupts. -/
def during (activity : Activity) (x : Action α) : Action α :=
  tryCatch x fun f => throw (f.within activity)

def refuse (r : Refusal) : Action α := throw (.ofRefusal r)

end Action

end Bootstrap
