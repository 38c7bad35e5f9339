import Bootstrap.Bundle.Playbooks
import Bootstrap.Toggle

/-!
# Payload

What is built into the executable: the bundle, the runner, the helper command, and a few facts. An executable that is
built without a bundle and a runner has empty ones.
-/

namespace Bootstrap

/-- The versions of what the executable carries. -/
structure Versions where
  tool : String
  bundle : String
  runner : String
  interpreter : String
deriving DecidableEq

namespace Versions

/-- One version a line. -/
def display (v : Versions) : String :=
  String.intercalate "\n" [
    s!"gascan version: {v.tool}",
    s!"bundle version: {v.bundle}",
    s!"ansible version: {v.runner}",
    s!"python version: {v.interpreter}"]

end Versions

structure Payload where
  bundle : Bundle
  runner : List UInt8
  /-- The command that hands over to the installed runner. -/
  helper : List UInt8
  playbooks : Playbook.Registry
  versions : Versions
  /-- A comma list of inventory caches. -/
  cachePaths : String
  /-- Whether an install gives the operator the runner configuration. -/
  installsRunnerConfig : Bool
  /-- Whether an install gives the operator the dynamic inventory script. -/
  installsDynamicInventory : Bool
deriving DecidableEq

namespace Payload

/-- The helper command: it tells the runner by its own name which tool to be. -/
def helperScript : String :=
  "#!/bin/sh
# Dispatches to the persistent runner, selecting the tool by invocation name.
set -eu

GASCAN_CONFIG_DIR=\"$\x7bGASCAN_CONFIG_DIR:-$\x7bHOME\x7d/.config/gascan\x7d\"

PEX_SCRIPT=\"$(basename \"$0\")\"
if [ \"$\x7bPEX_SCRIPT\x7d\" = \"ansible.sh\" ]; then
    PEX_SCRIPT=\"ansible\"
fi
export PEX_SCRIPT

exec \"$\x7bGASCAN_CONFIG_DIR\x7d/ansible.pex\" \"$@\"
"

/-- The caches that are cleared unless the build names others. -/
def defaultCachePaths : String :=
  "/tmp/.gascan/inventory.cache,~/.config/gascan/cache/gas_inventory_dynamic_inventory_plugin*"

/-- The payload of an executable that is built without a bundle and a runner. -/
def bare : Payload where
  bundle := .compressed []
  runner := []
  helper := Text.encode helperScript
  playbooks := .ofList (Text.joinItems ((Bundle.compressed []).playbookNames?.getD []))
  versions := ⟨"0.1.0", "unknown", "unknown", "unknown"⟩
  cachePaths := defaultCachePaths
  installsRunnerConfig := Toggle.isOn (some "")
  installsDynamicInventory := Toggle.isOn (some "")

end Payload

end Bootstrap
