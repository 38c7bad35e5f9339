import Bootstrap.CommandLine.Reader
import Bootstrap.Invocation.Run

/-!
# Response of the program

What the operator gets from a command line: an exit code, what is printed, and the message of a failure. A command line
that is not accepted is told by its exit code alone.
-/

namespace Bootstrap.Invocation

structure Response where
  exitCode : Int
  printed : String
  /-- The message of a failure. -/
  complaint : Option String := none
deriving DecidableEq

/-- The exit code of an invocation that failed. -/
def failureExitCode : Int := 1

/-- What the program is built and started with. -/
structure Setup where
  payload : Payload
  launcher : Launch.Launcher
  now : Instant

/-- Runs the invocation that some options describe, on the host that the environment shows. -/
def runOptions (setup : Setup) (options : CommandLine.Options) (lookup : String → Option String) : Program Int := do
  match Host.ofEnvironment lookup with
  | .error f => throw f
  | .ok host => run ⟨setup.payload, host, setup.launcher, setup.now⟩ options

/-- Answers a command line in an environment. -/
def respond (setup : Setup) (arguments : List String) (lookup : String → Option String) (w : World) :
    Response × World :=
  match CommandLine.read arguments lookup with
  | .error problem => (⟨problem.exitCode, "", none⟩, w)
  | .ok options =>
    match (runOptions setup options lookup).runOn w with
    | (.ok code, w) => (⟨code, w.printed, none⟩, w)
    | (.error f, w) => (⟨failureExitCode, w.printed, some f.message⟩, w)

end Bootstrap.Invocation
