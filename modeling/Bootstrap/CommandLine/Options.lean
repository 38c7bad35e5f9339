import Bootstrap.Host.Environment
import Bootstrap.Mode.Decision
import Bootstrap.Runner.Configuration
import Bootstrap.Text.Blank

/-!
# Options of the command line

What the operator can say on the command line or by the environment, and what it comes to: a `Request`, from which the
decision is made, and a `Configuration` for the run. An inventory of blank characters is no inventory, and an empty list
of tags or hosts is none.
-/

namespace Bootstrap.CommandLine

inductive LogLevel where
  | debug
  | info
  | warn
  | error
deriving DecidableEq

namespace LogLevel

def all : List LogLevel := [.debug, .info, .warn, .error]

def name : LogLevel → String
  | .debug => "debug"
  | .info => "info"
  | .warn => "warn"
  | .error => "error"

def ofName? (s : String) : Option LogLevel := all.find? fun l => l.name == s

end LogLevel

structure Options where
  skipConfigure : Bool := false
  skipDeploy : Bool := false
  test : Bool := false
  extractBundle : Bool := false
  extractPath : Option String := none
  passwordlessSudo : Bool := false
  editor : String := "vi"
  inventory : Option String := none
  playbook : String := "site.yaml"
  tags : Option String := none
  skipTags : Option String := none
  limit : Option String := none
  monitor : String := "monitor"
  logLevel : LogLevel := .error
  version : Bool := false
  listPlaybooks : Bool := false
  generateHash : Bool := false
  showInventory : Bool := false
  adhoc : Bool := false
  clearInventoryCache : Bool := false
  extraArguments : List String := []
deriving DecidableEq

namespace Options

/-- The text unless it is empty. -/
def nonEmpty (s : Option String) : Option String := s.filter fun s => !s.isEmpty

/-- The inventory that the operator named, if any. -/
def explicitInventory (o : Options) : Option String := nonEmpty (o.inventory.map Text.trimText)

def request (o : Options) (host : Host) : Request where
  showVersion := o.version
  listPlaybooks := o.listPlaybooks
  generateHash := o.generateHash
  test := o.test
  skipConfigure := o.skipConfigure
  skipDeploy := o.skipDeploy
  inventoryQuery := o.showInventory
  extract := o.extractBundle
  adhoc := o.adhoc
  explicitInventory := o.explicitInventory.isSome
  playbook := o.playbook
  passedArguments := o.extraArguments.length
  defaultInventory := host.defaultInventory

def configuration (o : Options) (mode : Mode) : Configuration where
  editor := o.editor
  inventory := o.explicitInventory.getD ""
  playbook := o.playbook
  tags := nonEmpty o.tags
  skipTags := nonEmpty o.skipTags
  passwordlessSudo := o.passwordlessSudo
  limit := nonEmpty o.limit
  monitor := o.monitor
  extraArguments := o.extraArguments
  extractPath := o.extractPath.map Path.ofText
  clearInventoryCache := o.clearInventoryCache
  mode := mode

end Options

end Bootstrap.CommandLine
