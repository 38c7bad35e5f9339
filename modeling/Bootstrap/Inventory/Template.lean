import Bootstrap.Disk.Action
import Bootstrap.Runner.Configuration
import Bootstrap.Template.Render

/-!
# Inventory templates

The inventory that is made when the operator has none is rendered from a template, which the bundle may ship and which
is built in otherwise. The configuration gives the values of the names in it.
-/

namespace Bootstrap.Inventory

structure Template where
  /-- How failures call the template. -/
  name : String
  body : String
deriving DecidableEq

namespace Template

/-- Where a bundle ships a template, below the workspace. -/
def bundledName : String := "templates/defaultInventory.j2"

/-- The template for bundles that ship none. -/
def builtin : Template where
  name := "default-inventory"
  body :=
    "---
# Generated by gascan. Edit the connection details before deploying.
all:
  children:
    monitors:
      hosts:
        \x7b\x7b monitor \x7d\x7d:
          ansible_host: 127.0.0.1
          ansible_connection: local
\x7b%- if limit %\x7d
  vars:
    gascan_limit: \"\x7b\x7b limit \x7d\x7d\"
\x7b%- endif %\x7d
"

/-- The template of the bundle in a workspace, or the one that is built in. -/
def ofWorkspace (workspace : Path) : Action Template := do
  let p := workspace.joinText bundledName
  if (← get).isFile p then
    return ⟨bundledName, ← Action.during (.loadTemplate p) (Action.ask (·.readText p))⟩
  else return builtin

/-- A text, or `None` for none. -/
def optionalValue : Option String → Bootstrap.Template.Value
  | some s => .ofString s
  | none => .none

/-- The values that a configuration gives to names. -/
def names (config : Configuration) : Bootstrap.Template.Names := [
  ("editor", .ofString config.editor),
  ("inventory", .ofString config.inventory),
  ("automation", .ofString config.playbook),
  ("tags", optionalValue config.tags),
  ("skip_tags", optionalValue config.skipTags),
  ("passwordless_sudo", .bool config.passwordlessSudo),
  ("limit", optionalValue config.limit),
  ("monitor", .ofString config.monitor),
  ("extra_args", .list .given (config.extraArguments.map .ofString)),
  ("extract_path", optionalValue (config.extractPath.map Path.display)),
  ("clear_inventory_cache", .bool config.clearInventoryCache)]

/-- A text with a newline at its end. -/
def withNewline (s : String) : String := if s.toList.getLast? = some '\n' then s else s ++ "\n"

/-- The inventory that the template describes. -/
def render (t : Template) (config : Configuration) : Except Failure String :=
  match Bootstrap.Template.Document.read? t.body with
  | none => .error ⟨[.parseTemplate t.name], .template⟩
  | some document =>
    match document.render? (names config) with
    | none => .error ⟨[.renderTemplate t.name], .template⟩
    | some s => .ok (withNewline s)

end Template

end Bootstrap.Inventory
