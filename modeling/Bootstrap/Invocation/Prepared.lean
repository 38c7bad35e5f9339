import Bootstrap.Bundle.Extract
import Bootstrap.Cache
import Bootstrap.Inventory.Resolved
import Bootstrap.Invocation.Surroundings
import Bootstrap.Runner.Arguments
import Bootstrap.Runner.Bundled
import Bootstrap.Runner.ConfigPaths

/-!
# Preparing a workspace

Before anything runs, the bundle is extracted into the workspace, the runner is put beside it, the runner configuration
gets absolute paths and the inventory is resolved. Clearing the inventory cache comes last and never ends an
invocation.
-/

namespace Bootstrap.Invocation

/-- The runner in a workspace. -/
def runnerName : String := "ansible.pex"

def runnerMode : Nat := 0o550

/-- The runner configuration that a bundle ships. -/
def shippedConfigName : String := "default.cfg"

/-- The runner configuration with absolute paths. -/
def absoluteConfigName : String := "gascan.cfg"

def absoluteConfigMode : Nat := 0o640

/-- The playbook that tests whether all hosts can be reached. -/
def testPlaybookName : String := "ping.yaml"

/-- The dynamic inventory script that a bundle may ship. -/
def dynamicInventoryName : String := "dynamic-inventory.py"

/-- A workspace in which the runner can be started. -/
structure Prepared where
  workspace : Path
  runner : Runner.Bundled
  /-- The runner configuration with absolute paths, if the bundle ships a configuration. -/
  runnerConfig : Option String
  inventory : Inventory.Resolved
deriving DecidableEq

/-- Writes the runner configuration of the bundle with absolute paths. Gives the path of the configuration to use, and
the text that was written. -/
def prepareConfig (workspace home : Path) : Action (Path × Option String) := do
  let shipped := workspace.joinText shippedConfigName
  if !(← get).isFile shipped then return (shipped, none)
  let text ← Action.during (.readFile shipped) (Action.ask (·.readText shipped))
  let absolute := Runner.absolutePaths text workspace.display home.display
  let p := workspace.joinText absoluteConfigName
  Action.writeFile p (Text.encode absolute) absoluteConfigMode
  return (p, some absolute)

/-- Clears the inventory cache as far as that is possible. -/
def clearCache (paths : String) (home : Path) : Action Unit :=
  modify fun d => ((Cache.clear paths home).runOn d).2

def prepare (surroundings : Surroundings) (config : Configuration) (workspace : Path) : Action Prepared := do
  let payload := surroundings.payload
  let home := surroundings.host.home
  let _ ← payload.bundle.extract workspace (config.mode.contains (.branch .adhoc))
  let executable := workspace.joinText runnerName
  Action.writeFile executable payload.runner runnerMode
  let (configPath, runnerConfig) ← prepareConfig workspace home
  let template ← Inventory.Template.ofWorkspace workspace
  let inventory ← Inventory.resolve config.inventory workspace config template
  if config.clearInventoryCache then clearCache payload.cachePaths home
  return ⟨workspace, ⟨executable, configPath⟩, runnerConfig, inventory⟩

/-- Whether the runner asks for the password for becoming root. -/
def asksPassword (host : Host) (config : Configuration) : Bool :=
  !config.passwordlessSudo && !host.becomePasswordProvided

namespace Prepared

/-- The arguments of every playbook run in the workspace. -/
def playbookArguments (p : Prepared) (host : Host) (config : Configuration) : List String :=
  Runner.playbookArguments config (asksPassword host config) p.inventory.effective

/-- The run of a playbook of the bundle. -/
def playbookRequest (p : Prepared) (host : Host) (config : Configuration) (playbook : String) : Launch.Request :=
  p.runner.playbookRequest (p.workspace.joinText playbook) (p.playbookArguments host config)

end Prepared

end Bootstrap.Invocation
