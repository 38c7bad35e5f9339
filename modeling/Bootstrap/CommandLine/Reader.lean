import Bootstrap.CommandLine.Options

/-!
# Reading the command line

`read` goes through the arguments from left to right and then takes from the environment what the arguments left open.

* A flag stands alone; a setting has its value behind an equals sign or as the next argument, which then must not look
  like an option.
* No flag and no setting may be given twice.
* What follows `--` is passed through. No other argument may stand alone.
* The value of a setting is looked at once the next option is reached, so an option that does not exist is reported before
  a bad value in front of it.
* Most options have a variable of their own in the environment. Flags take the usual words for yes and no there.
-/

namespace Bootstrap.CommandLine

/-- Why a command line is not accepted. A request for help is one of the reasons. -/
inductive Problem where
  | unknownArgument
  | invalidValue
  | valueValidation
  | argumentConflict
  | tooManyValues
  | help
deriving DecidableEq

namespace Problem

def exitCode : Problem → Int
  | .help => 0
  | _ => 2

end Problem

inductive Flag where
  | skipConfigure
  | skipDeploy
  | test
  | extractBundle
  | passwordlessSudo
  | version
  | listPlaybooks
  | generateHash
  | showInventory
  | adhoc
  | clearInventoryCache
deriving DecidableEq

inductive Setting where
  | extractPath
  | editor
  | inventory
  | playbook
  | tags
  | skipTags
  | limit
  | monitor
  | logLevel
deriving DecidableEq

/-- Anything that is written with two dashes. -/
inductive Item where
  | flag (flag : Flag)
  | setting (setting : Setting)
  | help
deriving DecidableEq

/-- The name of an item behind the two dashes. -/
def itemNames : List (String × Item) := [
  ("skip-configure", .flag .skipConfigure),
  ("skip-deploy", .flag .skipDeploy),
  ("test", .flag .test),
  ("extract-bundle", .flag .extractBundle),
  ("extract-path", .setting .extractPath),
  ("passwordless-sudo", .flag .passwordlessSudo),
  ("editor", .setting .editor),
  ("inventory", .setting .inventory),
  ("playbook", .setting .playbook),
  ("tags", .setting .tags),
  ("skip-tags", .setting .skipTags),
  ("limit", .setting .limit),
  ("monitor", .setting .monitor),
  ("log-level", .setting .logLevel),
  ("version", .flag .version),
  ("list-playbooks", .flag .listPlaybooks),
  ("generate-hash", .flag .generateHash),
  ("show-inventory", .flag .showInventory),
  ("adhoc", .flag .adhoc),
  ("clear-inventory-cache", .flag .clearInventoryCache),
  ("help", .help)]

/-- The variables that stand for items, in the order in which they are read. -/
def itemVariables : List (String × Item) := [
  ("GASCAN_FLAG_SKIP_CONFIGURE", .flag .skipConfigure),
  ("GASCAN_FLAG_SKIP_DEPLOY", .flag .skipDeploy),
  ("GASCAN_FLAG_TEST", .flag .test),
  ("GASCAN_FLAG_EXTRACT_BUNDLE", .flag .extractBundle),
  ("GASCAN_FLAG_EXTRACT_PATH", .setting .extractPath),
  ("GASCAN_FLAG_PASSWORDLESS_SUDO", .flag .passwordlessSudo),
  ("EDITOR", .setting .editor),
  ("GASCAN_FLAG_INVENTORY", .setting .inventory),
  ("GASCAN_FLAG_PLAYBOOK", .setting .playbook),
  ("GASCAN_FLAG_TAGS", .setting .tags),
  ("GASCAN_FLAG_SKIP_TAGS", .setting .skipTags),
  ("GASCAN_FLAG_LIMIT", .setting .limit),
  ("GASCAN_FLAG_MONITOR", .setting .monitor),
  ("GASCAN_FLAG_LOG_LEVEL", .setting .logLevel),
  ("GASCAN_FLAG_SHOW_INVENTORY", .flag .showInventory),
  ("GASCAN_FLAG_ADHOC", .flag .adhoc),
  ("GASCAN_FLAG_CLEAR_INVENTORY_CACHE", .flag .clearInventoryCache)]

namespace Options

def withFlag (o : Options) (on : Bool) : Flag → Options
  | .skipConfigure => { o with skipConfigure := on }
  | .skipDeploy => { o with skipDeploy := on }
  | .test => { o with test := on }
  | .extractBundle => { o with extractBundle := on }
  | .passwordlessSudo => { o with passwordlessSudo := on }
  | .version => { o with version := on }
  | .listPlaybooks => { o with listPlaybooks := on }
  | .generateHash => { o with generateHash := on }
  | .showInventory => { o with showInventory := on }
  | .adhoc => { o with adhoc := on }
  | .clearInventoryCache => { o with clearInventoryCache := on }

/-- Gives a setting a value. Only levels with a name are log levels, and the empty path is no path. -/
def withSetting? (o : Options) (value : String) : Setting → Option Options
  | .extractPath => if value.isEmpty then none else some { o with extractPath := some value }
  | .editor => some { o with editor := value }
  | .inventory => some { o with inventory := some value }
  | .playbook => some { o with playbook := value }
  | .tags => some { o with tags := some value }
  | .skipTags => some { o with skipTags := some value }
  | .limit => some { o with limit := some value }
  | .monitor => some { o with monitor := value }
  | .logLevel => (LogLevel.ofName? value).map fun l => { o with logLevel := l }

end Options

/-- What has been read of a command line. -/
structure Progress where
  options : Options := {}
  /-- The items that were given. -/
  given : List Item := []
  /-- A setting that was named last, and its value once that is read. -/
  pending : Option (Setting × Option String) := none
deriving DecidableEq

namespace Progress

/-- Notes that an item is given, which must happen only once. -/
def give (p : Progress) (item : Item) : Except Problem Progress :=
  if p.given.contains item then .error .argumentConflict else .ok { p with given := item :: p.given }

def takeSetting (p : Progress) (s : Setting) (value : String) : Except Problem Progress := do
  let p ← p.give (.setting s)
  match p.options.withSetting? value s with
  | some o => .ok { p with options := o }
  | none => .error .invalidValue

/-- Takes the pending setting in; it must have its value by now. -/
def settle (p : Progress) : Except Problem Progress :=
  match p.pending with
  | none => .ok p
  | some (_, none) => .error .invalidValue
  | some (s, some value) => takeSetting { p with pending := none } s value

def takeFlag (p : Progress) (f : Flag) : Except Problem Progress := do
  let p ← (← p.settle).give (.flag f)
  .ok { p with options := p.options.withFlag true f }

/-- Takes an item in, with the value behind its equals sign if it has one. -/
def takeItem (p : Progress) (value : Option String) : Item → Except Problem Progress
  | .setting s => do
    let p ← p.settle
    match value with
    | some v => p.takeSetting s v
    | none => .ok { p with pending := some (s, none) }
  | .flag f => if value.isSome then .error .tooManyValues else p.takeFlag f
  | .help => do
    if value.isSome then .error .tooManyValues
    else
      let _ ← p.settle
      .error .help

end Progress

/-- What stands in front of the first equals sign, and what stands behind it. -/
def splitEquals (cs : List Char) : String × Option String :=
  let name := cs.takeWhile (· != '=')
  (String.ofList name, (cs.drop name.length).tail?.map String.ofList)

/-- Reads one argument in front of `--`. -/
def readArgument (p : Progress) (argument : String) : Except Problem Progress :=
  match argument.toList with
  | '-' :: '-' :: rest =>
    let (name, value) := splitEquals rest
    match itemNames.lookup name with
    | some item => p.takeItem value item
    | none => .error .unknownArgument
  | '-' :: 'h' :: _ => p.takeItem none .help
  | '-' :: _ :: _ => .error .unknownArgument
  | _ =>
    match p.pending with
    | some (s, none) => .ok { p with pending := some (s, some argument) }
    | _ => .error .unknownArgument

/-- Reads arguments from left to right. -/
def readArguments (p : Progress) : List String → Except Problem Progress
  | [] => p.settle
  | argument :: rest =>
    if argument = "--" then do
      -- What follows is not looked at, but a setting in front must have its value.
      let p ← p.settle
      .ok { p with options := { p.options with extraArguments := rest } }
    else do
      let p ← readArgument p argument
      readArguments p rest

/-! ### The environment -/

def yesWords : List String := ["y", "yes", "t", "true", "on", "1"]

def noWords : List String := ["n", "no", "f", "false", "off", "0"]

/-- What a word for yes or no says, in any letter case. -/
def wordValue? (s : String) : Option Bool :=
  let word := String.ofList (s.toList.map Char.toLower)
  if yesWords.contains word then some true
  else if noWords.contains word then some false
  else none

/-- Takes an item from the environment. -/
def takeVariable (o : Options) (value : String) : Item → Except Problem Options
  | .flag f =>
    match wordValue? value with
    | some on => .ok (o.withFlag on f)
    | none => .error .valueValidation
  | .setting s =>
    match o.withSetting? value s with
    | some o => .ok o
    | none => .error .invalidValue
  | .help => .ok o

/-- Takes the items that were not given from the environment. -/
def readVariables (lookup : String → Option String) (given : List Item) (o : Options) :
    List (String × Item) → Except Problem Options
  | [] => .ok o
  | (name, item) :: rest =>
    match if given.contains item then none else lookup name with
    | some value => do readVariables lookup given (← takeVariable o value item) rest
    | none => readVariables lookup given o rest

/-- Reads a command line in an environment. -/
def read (arguments : List String) (lookup : String → Option String) : Except Problem Options := do
  let p ← readArguments {} arguments
  readVariables lookup p.given p.options itemVariables

end Bootstrap.CommandLine
