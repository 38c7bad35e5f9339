import Bootstrap.Runner.Configuration
import Bootstrap.Text.Items

/-!
# Arguments for the runner

The runner reads a comma inside one `--inventory` value as a list of hosts, so every inventory path gets an
option of its own.
-/

namespace Bootstrap.Runner

/-- One `--inventory` option for each path of a comma list. -/
def inventoryArguments (inventory : String) : List String :=
  (Text.items inventory).flatMap fun path => ["--inventory", path]

/-- An option with its value, left out when there is no value or an empty one. -/
def optionArguments (option : String) : Option String → List String
  | none => []
  | some value => if value.isEmpty then [] else [option, value]

/-- The arguments of a playbook run, behind the playbook itself. -/
def playbookArguments (config : Configuration) (askPassword : Bool) (inventory : String) : List String :=
  optionArguments "--tags" config.tags ++
    optionArguments "--skip-tags" config.skipTags ++
    optionArguments "--limit" config.limit ++
    (if askPassword then ["--ask-become-pass"] else []) ++
    inventoryArguments inventory ++
    config.extraArguments

def adhocArguments (config : Configuration) (inventory : String) : List String :=
  inventoryArguments inventory ++ config.extraArguments

/-- The whole inventory is listed unless the operator passes a query of their own. -/
def inventoryQueryArguments (config : Configuration) (inventory : String) : List String :=
  inventoryArguments inventory ++
    (if config.extraArguments.isEmpty then ["--list"] else config.extraArguments)

end Bootstrap.Runner
