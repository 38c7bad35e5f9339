import Bootstrap.Invocation.Prepared
import Bootstrap.Shell.Quote

/-!
# Recovery from a failed run

When the runner fails, the workspace stays and the operator is told how to go on: by two command lines that repeat the
test stage and the deploy stage. They are quoted for the shell, so pasting one of them starts the runner as the
invocation would.
-/

namespace Bootstrap.Invocation.Prepared

/-- A variable with its value, in front of a command line. -/
def assignment (name value : String) : String := name ++ "=" ++ Shell.quote value

/-- The command line that runs a playbook of the bundle. -/
def recoveryCommand (p : Prepared) (host : Host) (config : Configuration) (playbook : String) : String :=
  assignment Runner.configVariable p.runner.config.display ++ " " ++
    Runner.personaVariable ++ "=" ++ Runner.Persona.script .playbook ++ " " ++
    Shell.join (p.runner.executable.display :: (p.workspace.joinText playbook).display ::
      p.playbookArguments host config)

/-- What is printed when the runner failed. -/
def recoveryRecipe (p : Prepared) (host : Host) (config : Configuration) : String :=
  String.intercalate "\n" [
    s!"Your workspace has been left in place: {p.workspace.display}",
    s!"Run ping test: {p.recoveryCommand host config testPlaybookName}",
    s!"Run deploy: {p.recoveryCommand host config config.playbook}"]

end Bootstrap.Invocation.Prepared
