import Bootstrap.Failure

/-!
# The host

What an invocation has to know about the machine and the operator's account, read once at the start.
-/

namespace Bootstrap

structure Host where
  /-- The operator's home directory. -/
  home : Path
  /-- The file that holds the identity of the machine. -/
  machineId : Path
  /-- The toggle for configuring the default inventory, unset or as it was given. -/
  defaultInventory : Option String := none
  /-- Whether the runner finds the password for becoming root by itself. -/
  becomePasswordProvided : Bool := false
deriving DecidableEq

namespace Host

def machineIdPath : Path := Path.ofText "/etc/machine-id"

/-- The variable with the toggle for configuring the default inventory. -/
def defaultInventoryVariable : String := "GASCAN_DEFAULT_INVENTORY"

/-- The variables by which the runner gets a password for becoming root. -/
def becomePasswordVariables : List String := ["ANSIBLE_BECOME_PASSWORD_FILE", "ANSIBLE_BECOME_PASS"]

/-- The host as the environment shows it; there is none without a home directory. -/
def ofEnvironment (lookup : String → Option String) : Except Failure Host :=
  match lookup "HOME" with
  | none | some "" => .error (.ofRefusal .noHome)
  | some home =>
    .ok {
      home := Path.ofText home
      machineId := machineIdPath
      defaultInventory := lookup defaultInventoryVariable
      becomePasswordProvided :=
        becomePasswordVariables.any fun name => (lookup name).any fun value => !value.isEmpty }

/-- The directory for the operator's commands. -/
def binDirectory (h : Host) : Path := h.home.joinText "bin"

/-- The directory for the operator's settings. -/
def configDirectory (h : Host) : Path := (h.home.joinText ".config").joinText "gascan"

end Host

end Bootstrap
