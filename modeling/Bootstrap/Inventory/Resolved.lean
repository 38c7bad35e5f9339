import Bootstrap.Disk.Files
import Bootstrap.Inventory.Template
import Bootstrap.Text.Items

/-!
# Resolving the inventory

The operator names inventories in a comma list. Those that exist are used, in order; if none does, an inventory is made
in the workspace and used alone. When what is used is not what was asked for, there is a warning.
-/

namespace Bootstrap.Inventory

/-- The candidates of a comma list that satisfy a test, in order. -/
def keptItems (spec : String) (keeps : Path → Bool) : List String :=
  (Text.items spec).filter fun item => keeps (Path.ofText item)

structure Resolved where
  /-- A comma list of the paths in use. -/
  effective : String
  /-- The path of the inventory that was made. -/
  synthesized : Option Path
  warning : Option String
deriving DecidableEq

namespace Resolved

/-- The paths in use. -/
def paths (r : Resolved) : List String := Text.items r.effective

end Resolved

/-- The name of the inventory that is made in a workspace. -/
def synthesizedName : String := "temp-inventory.yaml"

/-- The mode of the inventory that is made. -/
def synthesizedMode : Nat := 0o640

/-- The warning when `effective` is used for `spec`. -/
def warning? (spec effective : String) : Option String :=
  if effective = Text.joinItems (Text.items spec) then none
  else some s!"unable to use '{spec}' as the inventory, using '{effective}'"

/-- Makes an inventory in a workspace. -/
def synthesize (workspace : Path) (config : Configuration) (template : Template) : Action Path := do
  let p := workspace.joinText synthesizedName
  let content ← match template.render config with
    | .ok s => pure s
    | .error f => throw f
  Action.writeFile p (Text.encode content) synthesizedMode
  return p

/-- Finds the inventories to use for a comma list. -/
def resolve (spec : String) (workspace : Path) (config : Configuration) (template : Template) :
    Action Resolved := do
  let d ← get
  match keptItems spec d.leadsSomewhere with
  | [] =>
    let p ← synthesize workspace config template
    return ⟨p.display, some p, warning? spec p.display⟩
  | kept =>
    let effective := Text.joinItems kept
    return ⟨effective, none, warning? spec effective⟩

end Bootstrap.Inventory
