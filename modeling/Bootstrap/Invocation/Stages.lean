import Bootstrap.Invocation.Prepared
import Bootstrap.Program

/-!
# Stages and branches

What happens in a prepared workspace.

* The stages run in order: the operator edits the inventory, the hosts are tested, the playbook is deployed. An editor
  that fails ends the invocation; a test that fails ends the stages.
* A query of the inventory and an ad-hoc command start the runner once.
-/

namespace Bootstrap.Invocation

/-- Lets the operator edit the inventory. -/
def configure (launcher : Launch.Launcher) (config : Configuration) (p : Prepared) : Program Unit := do
  let outcome ← Program.launch launcher (Runner.editRequest config.editor p.inventory.paths)
  if !outcome.succeeded then Program.refuse (.editorFailed config.editor outcome.exitCode)

/-- Runs one playbook of the bundle. -/
def runPlaybook (surroundings : Surroundings) (config : Configuration) (p : Prepared) (playbook : String) :
    Program Launch.Outcome :=
  Program.launch surroundings.launcher (p.playbookRequest surroundings.host config playbook)

/-- Runs the playbook of the deploy stage if the mode has that stage. -/
def deploy (surroundings : Surroundings) (config : Configuration) (p : Prepared) : Program Launch.Outcome := do
  if config.mode.contains (.stage .deploy) then runPlaybook surroundings config p config.playbook
  else return .success

/-- Runs the stages of the mode. -/
def runStages (surroundings : Surroundings) (config : Configuration) (p : Prepared) : Program Launch.Outcome := do
  if config.mode.contains (.stage .config) then configure surroundings.launcher config p
  if config.mode.contains (.stage .test) then
    let outcome ← runPlaybook surroundings config p testPlaybookName
    -- Nothing is deployed to hosts that cannot be reached.
    if !outcome.succeeded then return outcome
  deploy surroundings config p

def queryRequest (config : Configuration) (p : Prepared) : Launch.Request :=
  p.runner.request .inventory (Runner.inventoryQueryArguments config p.inventory.effective)

def adhocRequest (config : Configuration) (p : Prepared) : Launch.Request :=
  p.runner.request .adhoc (Runner.adhocArguments config p.inventory.effective)

end Bootstrap.Invocation
