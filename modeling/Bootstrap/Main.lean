import Bootstrap.Invocation.Response
import Bootstrap.Launch.Local
import Std.Time.DateTime.Timestamp

/-!
# The program

Reads the command line, the environment, the clock and the identity of the machine, answers, and prints the answer. The
invocation works on a disk in memory that holds the identity of the machine and the operator's home directory.
-/

namespace Bootstrap

/-- The characters of which names for workspaces are drawn. -/
def nameChars : List Char := "abcdefghijklmnopqrstuvwxyz0123456789".toList

/-- Six characters for a number. -/
def nameOf (n : Nat) : String :=
  String.ofList ((Tar.digitsOf nameChars.length 6 n).map fun digit => nameChars.getD digit 'a')

/-- A disk with a directory and the identity of the machine. -/
def startDisk (home : Path) (machineId : List UInt8) : Disk :=
  let files : Action Unit := do
    Action.makeDirectoryTree home 0o755
    Action.writeFile Host.machineIdPath machineId 0o444
  (files.runOn Disk.blank).2

/-- The value of a variable in a list. -/
def readEnvironment (names : List String) : IO (List (String × String)) :=
  names.filterMapM fun name => do return (← IO.getEnv name).map fun value => (name, value)

/-- The variables that the program looks at. -/
def relevantVariables : List String :=
  "HOME" :: "TMPDIR" :: Host.defaultInventoryVariable ::
    (Host.becomePasswordVariables ++ CommandLine.itemVariables.map Prod.fst)

def readMachineId : IO (List UInt8) := do
  try return Text.encode (← IO.FS.readFile Host.machineIdPath.display)
  catch _ => return []

/-- Answers a command line and gives the exit code. -/
def answer (arguments : List String) : IO UInt32 := do
  let environment ← readEnvironment relevantVariables
  let lookup (name : String) := List.lookup name environment
  let elapsed := (← Std.Time.Timestamp.now).val
  let seed ← IO.rand 0 (Nat.pow nameChars.length 6)
  let world : World := {
    disk := startDisk (Path.ofText ((lookup "HOME").getD "/")) (← readMachineId)
    temporary := Path.ofText ((lookup "TMPDIR").getD "/tmp")
    draw := fun n => nameOf (seed + n) }
  let setup : Invocation.Setup :=
    ⟨Payload.bare, Launch.Local.launcher, ⟨elapsed.second.val, elapsed.nano.val.toNat⟩⟩
  let (response, _) := Invocation.respond setup arguments lookup world
  IO.print response.printed
  if let some complaint := response.complaint then IO.eprintln complaint
  return UInt32.ofNat (response.exitCode % 256).toNat

end Bootstrap

def main (arguments : List String) : IO UInt32 := Bootstrap.answer arguments
