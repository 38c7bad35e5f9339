import Bootstrap.Launch.Request

/-!
# The bundled runner

One executable with several tools in it. Which tool it is on a call is told by an environment variable, and another one
points it at its configuration.
-/

namespace Bootstrap.Runner

/-- A tool of the runner. -/
inductive Persona where
  | playbook
  | adhoc
  | inventory
deriving DecidableEq

namespace Persona

def all : List Persona := [.playbook, .adhoc, .inventory]

/-- The name by which the runner knows the tool. -/
def script : Persona → String
  | .playbook => "ansible-playbook"
  | .adhoc => "ansible"
  | .inventory => "ansible-inventory"

end Persona

/-- The variable that selects the tool. -/
def personaVariable : String := "PEX_SCRIPT"

/-- The variable that names the configuration. -/
def configVariable : String := "ANSIBLE_CONFIG"

/-- The runner in a workspace. -/
structure Bundled where
  executable : Path
  config : Path
deriving DecidableEq

namespace Bundled

/-- A call of one tool. -/
def request (r : Bundled) (persona : Persona) (arguments : List String) : Launch.Request where
  program := r.executable
  arguments := arguments
  environment :=
    [(personaVariable, Text.encode persona.script), (configVariable, r.config.bytes)]

/-- A run of a playbook. -/
def playbookRequest (r : Bundled) (playbook : Path) (arguments : List String) : Launch.Request :=
  r.request .playbook (playbook.display :: arguments)

end Bundled

/-- Opens some files in an editor. -/
def editRequest (editor : String) (files : List String) : Launch.Request := ⟨Path.ofText editor, files, []⟩

end Bootstrap.Runner
