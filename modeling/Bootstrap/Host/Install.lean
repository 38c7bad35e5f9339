import Bootstrap.Disk.Files
import Bootstrap.Host.Environment
import Bootstrap.Host.Identity
import Bootstrap.Host.Report
import Bootstrap.Host.Settings
import Bootstrap.Program

/-!
# Installing helpers and settings on a host

An install leaves the operator a key, a helper command with its links, the runner and sample settings below the home
directory. The first install wins: whatever stands at the place of an artifact is kept, be it a link that leads
nowhere, so that a second install changes nothing. A dynamic inventory script and a seed inventory that cannot be read
are left out; any other artifact that cannot be made ends the install.
-/

namespace Bootstrap.Host

/-- What an install takes from the invocation. -/
structure Sources where
  runner : List UInt8
  /-- The command that hands over to the runner. -/
  helper : List UInt8
  /-- The runner configuration with absolute paths, if the operator gets one. -/
  runnerConfig : Option String
  /-- The dynamic inventory script, if the operator gets one. -/
  dynamicInventory : Option Path
  /-- The inventory that the operator starts from. -/
  seedInventory : Option Path
  monitor : String
deriving DecidableEq

def configDirectoryMode : Nat := 0o700

def binDirectoryMode : Nat := 0o750

def helperName : String := "ansible.sh"

/-- The commands that are links to the helper. -/
def helperLinks : List String :=
  ["ansible", "ansible-playbook", "ansible-vault", "ansible-config", "ansible-inventory"]

/-- The report of an install that has done nothing yet. -/
def Report.start (h : Host) : Report where
  binDirectory := h.binDirectory
  configDirectory := h.configDirectory
  vaultKey := h.configDirectory.joinText ".vault-key"
  inventorySettings := h.configDirectory.joinText "inventory-config.json"
  dynamicInventory := h.binDirectory.joinText "dynamic-inventory.py"

def makeDirectories (h : Host) : Action Unit := do
  let _ ← Action.during (.createConfigDirectory h.configDirectory)
    (Action.createDirectoryIfMissing h.configDirectory configDirectoryMode)
  let _ ← Action.during (.createBinDirectory h.binDirectory)
    (Action.createDirectoryIfMissing h.binDirectory binDirectoryMode)

/-- Writes a file where nothing stands and notes what became of it. -/
def installFile (p : Path) (content : List UInt8) (mode : Nat) (r : Report) : Action Report := do
  return r.record p (← Action.writeNewFile p content mode)

def installVaultKey (h : Host) (now : Instant) (r : Report) : Action Report := do
  if (← get).occupied r.vaultKey then return r.record r.vaultKey false
  let key ← Action.during .generateVaultKey (machineHash h.machineId "vault" now)
  Action.during (.createVaultKey r.vaultKey) (installFile r.vaultKey (Text.encode key) 0o400 r)

def installLink (helper link : Path) (r : Report) : Action Report := do
  if (← get).occupied link then return r.record link false
  Action.during (.createLink link helper) (Action.createLink link helper)
  return r.record link true

def installHelper (content : List UInt8) (r : Report) : Action Report := do
  let helper := r.binDirectory.joinText helperName
  let r ← installFile helper content 0o750 r
  helperLinks.foldlM (fun r name => installLink helper (r.binDirectory.joinText name) r) r

/-- Installs a copy of a file under a new name; a file that cannot be read is left out. -/
def installCopy (script p : Path) (mode : Nat) (r : Report) : Action Report := do
  match (← get).readFile script with
  | .ok content => installFile p content mode r
  | .error _ => return r

def installSeed (seed : Path) (r : Report) : Program Report := do
  let secrets := r.configDirectory.joinText secretsName
  if ← Program.look (·.occupied secrets) then return r.record secrets false
  match ← Program.look (·.readFile seed) with
  | .ok content =>
    -- The announcement comes before the attempt.
    Program.print s!"Copying inventory '{seed.display}' to '{secrets.display}'"
    Program.onDisk (installFile secrets content 0o600 r)
  | .error _ => return r

/-- Settings for the inventory service: those that are there, or new ones. -/
def installSettings (h : Host) (now : Instant) (monitor : String) (r : Report) : Action Report := do
  if (← get).occupied r.inventorySettings then
    let settings ← FetchSettings.load r.inventorySettings
    let r := { r with identifier := settings.identifier?.getD "", token := settings.token?.getD "" }
    return r.record r.inventorySettings false
  let identifier ← machineHash h.machineId "identifier" now
  let token ← machineHash h.machineId "token" now
  let settings := FetchSettings.sample identifier token monitor r.vaultKey.display
  installFile r.inventorySettings (Text.encode settings.toJson.document) 0o640
    { r with identifier := identifier, token := token }

/-- Makes every artifact that is missing. -/
def install (h : Host) (now : Instant) (sources : Sources) : Program Report := do
  Program.onDisk (makeDirectories h)
  let r ← Program.onDisk (installVaultKey h now (Report.start h))
  let r ← Program.onDisk (installHelper sources.helper r)
  let r ← Program.onDisk (installFile (h.configDirectory.joinText "ansible.pex") sources.runner 0o550 r)
  let r ← match sources.runnerConfig with
    | some text => Program.onDisk (installFile (h.home.joinText ".ansible.cfg") (Text.encode text) 0o640 r)
    | none => pure r
  let r ← match sources.dynamicInventory with
    | some script => Program.onDisk (installCopy script r.dynamicInventory 0o550 r)
    | none => pure r
  let r ← match sources.seedInventory with
    | some seed => installSeed seed r
    | none => pure r
  let r ← Program.onDisk (installSettings h now sources.monitor r)
  Program.onDisk (installFile (h.configDirectory.joinText "connect-py.json")
    (Text.encode (connectSample sources.monitor).document) 0o640 r)

end Bootstrap.Host
