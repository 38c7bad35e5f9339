import Bootstrap.Path

/-!
# The report of an install

What an install made or kept, and the values that the operator needs next. `Report.display` is what is printed.
-/

namespace Bootstrap.Host

/-- The name of the inventory that the operator may edit. -/
def secretsName : String := "secrets.yaml"

structure Report where
  binDirectory : Path
  configDirectory : Path
  vaultKey : Path
  inventorySettings : Path
  dynamicInventory : Path
  identifier : String := ""
  token : String := ""
  created : List Path := []
  kept : List Path := []
deriving DecidableEq

namespace Report

/-- Notes what became of one artifact. -/
def record (r : Report) (p : Path) (created : Bool) : Report :=
  if created then { r with created := r.created ++ [p] } else { r with kept := r.kept ++ [p] }

def display (r : Report) : String :=
  String.intercalate "\n" [
    s!"Helpers created in: {r.binDirectory.display}",
    s!"Configuration stored in: {r.configDirectory.display}",
    "",
    "Add the following to your shell profile:",
    s!"  export PATH=\"{r.binDirectory.display}:$PATH\"",
    s!"  export ANSIBLE_VAULT_PASSWORD_FILE=\"{r.vaultKey.display}\"",
    "",
    "Register this host with the inventory service using:",
    s!"  Auth-Id: {r.identifier}",
    s!"  Auth-Token: {r.token}",
    "",
    "Example commands:",
    s!"  ansible-inventory --inventory {r.dynamicInventory.display} --list",
    s!"  ansible-vault edit {(r.configDirectory.joinText secretsName).display}",
    s!"  (inventory service settings: {r.inventorySettings.display})"]

end Report

end Bootstrap.Host
