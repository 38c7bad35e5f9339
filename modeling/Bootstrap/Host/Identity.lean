import Bootstrap.Digest.Sha256
import Bootstrap.Disk.Action
import Bootstrap.Instant
import Bootstrap.Text.Blank

/-!
# Identifiers of a machine

Identifiers and keys are digests over the identity of the machine, a label and the time. The label keeps apart what
is made in the same instant. Without a readable identity that is not blank there is no identifier.
-/

namespace Bootstrap.Host

/-- The text that an identifier is the digest of. -/
def identityText (machineId label : String) (now : Instant) : String :=
  machineId ++ "-" ++ label ++ "-" ++ now.text

/-- The identity of the machine in a file. -/
def readMachineId (p : Path) : Action String := do
  let id := Text.trimText (← Action.during (.locate p) (Action.ask (·.readText p)))
  if id.isEmpty then Action.refuse (.emptyIdentity p) else return id

def machineHash (machineIdPath : Path) (label : String) (now : Instant) : Action String := do
  let id ← readMachineId machineIdPath
  return Digest.hex (Digest.sha256 (Text.encode (identityText id label now)))

end Bootstrap.Host
