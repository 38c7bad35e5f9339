import Bootstrap.Disk.Basic
import Bootstrap.Launch.Request

/-!
# Launchers

A launcher starts children. What a child does to the rest of the world is all that others see of it: how it ended, the
disk it left and what it printed.

* `Launcher.scripted` plays a list of outcomes; its children touch nothing.
* `Launch.Local` has the launcher that starts programs from the disk.
-/

namespace Bootstrap.Launch

/-- What is left of a child that has ended. -/
structure Ending where
  outcome : Outcome
  disk : Disk
  printed : String

/-- Starts the `n`-th child, counted from zero, on a disk, and waits for it. -/
abbrev Launcher := (n : Nat) → Request → Disk → Ending

namespace Ending

/-- A child that touches nothing. -/
def quiet (outcome : Outcome) (d : Disk) : Ending := ⟨outcome, d, ""⟩

end Ending

namespace Launcher

/-- The outcome that a list has for the `n`-th child. Children behind its end succeed. -/
def scriptedOutcome (outcomes : List Outcome) (n : Nat) : Outcome := outcomes[n]?.getD .success

/-- Plays a list of outcomes. -/
def scripted (outcomes : List Outcome) : Launcher :=
  fun n _ d => .quiet (scriptedOutcome outcomes n) d

@[simp] theorem outcome_scripted (outcomes : List Outcome) (n : Nat) (r : Request) (d : Disk) :
    (scripted outcomes n r d).outcome = scriptedOutcome outcomes n := rfl

end Launcher

end Bootstrap.Launch
