import Bootstrap.Failure
import Bootstrap.Mode.Basic
import Bootstrap.Playbook.Registry
import Bootstrap.Toggle

/-!
# What an invocation decides to do

`Request.decision` goes through the flags in a fixed order. The queries that only print come first; then the
selected playbook has to be in the registry, unless an ad-hoc command needs none; then the stages are
collected, and a requested branch replaces them, the last of inventory query, extract and ad-hoc winning.
-/

namespace Bootstrap

/-- What the operator asks for, by flags and environment. -/
structure Request where
  showVersion : Bool := false
  listPlaybooks : Bool := false
  generateHash : Bool := false
  test : Bool := false
  skipConfigure : Bool := false
  skipDeploy : Bool := false
  inventoryQuery : Bool := false
  extract : Bool := false
  adhoc : Bool := false
  /-- The operator named an inventory. -/
  explicitInventory : Bool := false
  playbook : String := ""
  /-- How many arguments are passed through to the runner. -/
  passedArguments : Nat := 0
  /-- The toggle that lets the default inventory be configured. -/
  defaultInventory : Option String := none
deriving DecidableEq, Inhabited

inductive Decision where
  | showVersion
  | listPlaybooks
  | generateHash
  | run (mode : Mode)
deriving DecidableEq

namespace Request

/-- Whether the operator is offered to edit the inventory first. -/
def configures (r : Request) : Bool :=
  !r.skipConfigure && !r.explicitInventory && Toggle.isOn r.defaultInventory

/-- The stages that the flags leave on. -/
def stages (r : Request) : Mode := .stages r.configures r.test (!r.skipDeploy)

/-- The branch that the flags ask for, the last one named here winning. -/
def branch? (r : Request) : Option Branch :=
  if r.adhoc then some .adhoc
  else if r.extract then some .extract
  else if r.inventoryQuery then some .inventoryQuery
  else none

def decision (r : Request) (registry : Playbook.Registry) : Except Failure Decision :=
  if r.showVersion then .ok .showVersion
  else if r.listPlaybooks then .ok .listPlaybooks
  else if !r.adhoc && !registry.contains r.playbook then
    .error (.ofRefusal (.unknownPlaybook r.playbook))
  else if r.generateHash then .ok .generateHash
  else if r.adhoc && r.passedArguments == 0 then .error (.ofRefusal .adhocWithoutArguments)
  else
    match r.branch? with
    | some b => .ok (.run (.branch b))
    | none => .ok (.run r.stages)

end Request

end Bootstrap
