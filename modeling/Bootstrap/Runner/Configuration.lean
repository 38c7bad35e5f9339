import Bootstrap.Mode.Basic
import Bootstrap.Path

/-!
# Configuration of an invocation

The settings that every stage reads, fixed once from flags and environment.
-/

namespace Bootstrap

structure Configuration where
  editor : String := "vi"
  /-- A comma list of inventory paths, empty when the operator named none. -/
  inventory : String := ""
  /-- The playbook that the deploy stage runs. -/
  playbook : String := "site.yaml"
  tags : Option String := none
  skipTags : Option String := none
  /-- Whether becoming root on the managed hosts needs no password. -/
  passwordlessSudo : Bool := false
  /-- The pattern of hosts that the run is limited to. -/
  limit : Option String := none
  /-- The name of the monitoring host. -/
  monitor : String := "monitor"
  /-- Arguments that the runner gets as they are. -/
  extraArguments : List String := []
  /-- Where workspaces are made, if not in the directory for temporary files. -/
  extractPath : Option Path := none
  clearInventoryCache : Bool := false
  mode : Mode := .empty
deriving DecidableEq, Inhabited

end Bootstrap
