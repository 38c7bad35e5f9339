import Bootstrap.CommandLine.Options
import Bootstrap.Host.Install
import Bootstrap.Invocation.Recovery
import Bootstrap.Invocation.Stages
import Bootstrap.Workspace

/-!
# Running an invocation

From the options to the exit code: decide, open a workspace, prepare it, do what the mode asks for, and finish. A runner
that fails is no failure of the invocation: its exit code is passed on, the workspace stays, and the operator is told
how to go on. A workspace is not removed when the invocation fails.
-/

namespace Bootstrap.Invocation

/-- What the operator gets when the bundle is extracted for keeps. -/
def sources (surroundings : Surroundings) (config : Configuration) (p : Prepared) (d : Disk) : Host.Sources :=
  let payload := surroundings.payload
  let script := p.workspace.joinText dynamicInventoryName
  { runner := payload.runner
    helper := payload.helper
    runnerConfig := if payload.installsRunnerConfig then p.runnerConfig else none
    dynamicInventory := if payload.installsDynamicInventory && d.isFile script then some script else none
    seedInventory := p.inventory.paths.head?.map Path.ofText
    monitor := config.monitor }

/-- Installs helpers and settings from a prepared workspace. -/
def installHost (surroundings : Surroundings) (config : Configuration) (p : Prepared) : Program Unit := do
  Program.print s!"Extracting bundle to: {p.workspace.display}"
  let d ← Program.look id
  let report ← Host.install surroundings.host surroundings.now (sources surroundings config p d)
  Program.print report.display

/-- Does in a prepared workspace what the mode asks for. -/
def act (surroundings : Surroundings) (config : Configuration) (p : Prepared) : Program Launch.Outcome :=
  match config.mode.terminal? with
  | some .extract => do
    installHost surroundings config p
    return .success
  | some .inventoryQuery => Program.launch surroundings.launcher (queryRequest config p)
  | some .adhoc => Program.launch surroundings.launcher (adhocRequest config p)
  | none => runStages surroundings config p

/-- Removes the workspace or leaves it to the operator, and gives the exit code. -/
def finish (host : Host) (config : Configuration) (workspace : Workspace) (p : Prepared)
    (outcome : Launch.Outcome) : Program Int := do
  if outcome.succeeded then
    if (← workspace.finalize config.mode.removesWorkspace) = .preserved then
      Program.print s!"Workspace: {p.workspace.display}"
    return 0
  else
    Program.print (p.recoveryRecipe host config)
    return outcome.exitCode

/-- Runs in a fresh workspace. -/
def runInWorkspace (surroundings : Surroundings) (config : Configuration) : Program Int := do
  -- From here on a failure leaves the workspace as it is.
  let workspace ← Workspace.openIn config.extractPath
  let p ← Program.onDisk (prepare surroundings config workspace.path)
  let outcome ← act surroundings config p
  finish surroundings.host config workspace p outcome

/-- Prints the digest that the operator may use as a password. -/
def printHash (surroundings : Surroundings) : Program Unit := do
  let hash ← Program.during .generateHash
    (Program.onDisk (Host.machineHash surroundings.host.machineId "hash" surroundings.now))
  Program.print hash

/-- Runs an invocation and gives its exit code. -/
def run (surroundings : Surroundings) (options : CommandLine.Options) : Program Int := do
  match (options.request surroundings.host).decision surroundings.payload.playbooks with
  | .error f => throw f
  | .ok .showVersion =>
    Program.print surroundings.payload.versions.display
    return 0
  | .ok .listPlaybooks =>
    Program.print surroundings.payload.playbooks.listing
    return 0
  | .ok .generateHash =>
    printHash surroundings
    return 0
  | .ok (.run mode) => runInWorkspace surroundings (options.configuration mode)

end Bootstrap.Invocation
