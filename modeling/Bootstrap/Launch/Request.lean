import Bootstrap.Path

/-!
# Children

A child is a program that the invocation starts and waits for. `Launch.Request` says what to start, `Launch.Outcome`
how it ended. A child that never starts ends like one that fails.
-/

namespace Bootstrap.Launch

structure Request where
  program : Path
  arguments : List String
  /-- Variables that the child gets besides those of the invocation. -/
  environment : List (String × List UInt8)
deriving DecidableEq

structure Outcome where
  succeeded : Bool
  exitCode : Int
deriving DecidableEq, Inhabited

namespace Outcome

def success : Outcome := ⟨true, 0⟩

def failure (code : Int) : Outcome := ⟨false, code⟩

/-- The outcome of a child that could not be started. -/
def notStarted : Outcome := failure 1

/-- The outcome that a wait status of the operating system tells: the exit code of a child that ended by itself, and
128 more than the signal for one that was killed. -/
def ofWaitStatus (status : Int) : Outcome :=
  let signal := status % 128
  if status = 0 then success
  else if signal = 0 then failure (status / 256 % 256)
  else if signal = 127 then notStarted
  else failure (128 + signal)

/-- Whether an outcome is one that a child can have: it exits with zero exactly if it succeeds. -/
def IsSound (o : Outcome) : Prop := o.succeeded = true ↔ o.exitCode = 0

instance (o : Outcome) : Decidable o.IsSound := by unfold IsSound; infer_instance

end Outcome

end Bootstrap.Launch
