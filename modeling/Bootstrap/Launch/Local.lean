import Bootstrap.Launch.Launcher
import Bootstrap.Shell.Execution

/-!
# Children on the disk

The launcher that starts programs for real. A name without a slash is looked for among the tools of the machine; a path
leads to a file on the disk, which has to be executable and to name an interpreter in its first line. What cannot be
started counts as failed.

A child has nothing to read, and its messages go nowhere.
-/

namespace Bootstrap.Launch.Local

/-- Whether the request can be handed to the operating system: no part of it holds a NUL. -/
def isProper (r : Request) : Bool :=
  !r.program.bytes.contains 0 && !(r.arguments.any fun a => a.toList.contains '\x00') &&
    !(r.environment.any fun v => v.1.toList.contains '\x00' || v.2.contains 0)

/-- The bytes of a text, as a shell sees them. -/
def bytesOf (s : String) : List Char := Shell.ofBytes (Text.encode s)

/-- The variables of a request, beside the one for the places of programs. Of two values for one variable the later one
counts. -/
def variablesOf (r : Request) : Shell.Variables :=
  r.environment.foldl (fun vs v =>
    let name := bytesOf v.1
    (name, ⟨some (Shell.ofBytes v.2), true, false⟩) :: vs.filter fun w => w.1 ≠ name)
    [(bytesOf "PATH", ⟨some Shell.usualPath, true, false⟩)]

/-- The number of the open file that keeps what a child prints. -/
def printedFile : Nat := 1

/-- The session that a child starts in. -/
def start (r : Request) (d : Disk) : Shell.Session := {
  name := bytesOf r.program.display, bindings := variablesOf r
  streams := [(0, 0), (1, printedFile), (2, 0)], files := #[.null, .output []], disk := d }

/-- How deeply the steps of a child may be nested, turns of loops included. -/
def maxDepth : Nat := 20000

/-- How the end of a process is reported. -/
def outcomeOf : Shell.End → Outcome
  | .exited code => if code % 256 = 0 then .success else .failure (code % 256)
  | .signaled signal => .failure (128 + signal)

/-- Starts a program, waits for it and tells how it ended. -/
def launcher : Launcher := fun _ r d =>
  if !isProper r then .quiet .notStarted d
  else
    let (result, s) :=
      (Shell.start maxDepth (Shell.ofBytes r.program.bytes) (r.arguments.map bytesOf)).run.run (start r d)
    let outcome := match result with
      | .ok (.ok ending) => outcomeOf ending
      | .ok (.error _) => .notStarted
      | .error _ => .failure 2
    ⟨outcome, { s.disk with workingDirectory := d.workingDirectory }, Text.display (s.written printedFile)⟩

end Bootstrap.Launch.Local
