/-!
# Run modes

What an invocation does with its workspace. The stages (configure, test, deploy) combine freely; a
branch (inventory query, extract, ad-hoc) is taken alone.

* `Mode.add` puts a facet into a mode: a stage joins the other stages and is ignored once a branch is
  taken, a branch discards all else.
* `Mode.only` keeps one facet and discards all else.
-/

namespace Bootstrap

/-- A step of an ordinary run. -/
inductive Stage where
  | config
  | test
  | deploy
deriving DecidableEq

/-- A way to use the workspace that takes the place of the ordinary stages. -/
inductive Branch where
  | inventoryQuery
  | extract
  | adhoc
deriving DecidableEq

/-- One thing that an invocation may do. -/
inductive Facet where
  | stage (stage : Stage)
  | branch (branch : Branch)
deriving DecidableEq

namespace Facet

/-- All facets, in the order in which they are listed and run. -/
def all : List Facet :=
  [.stage .config, .stage .test, .stage .deploy,
    .branch .inventoryQuery, .branch .extract, .branch .adhoc]

def name : Facet → String
  | .stage .config => "config"
  | .stage .test => "test"
  | .stage .deploy => "deploy"
  | .branch .inventoryQuery => "inventory-query"
  | .branch .extract => "extract"
  | .branch .adhoc => "adhoc"

/-- Whether the facet is a branch. -/
def isTerminal : Facet → Bool
  | .stage _ => false
  | .branch _ => true

end Facet

/-- Either some stages or one branch. No stage at all is a mode too: the bundle is extracted and nothing
runs. -/
inductive Mode where
  | stages (config test deploy : Bool)
  | branch (branch : Branch)
deriving DecidableEq

namespace Mode

def empty : Mode := .stages false false false

/-- The mode with this facet alone. -/
def only : Facet → Mode
  | .stage .config => .stages true false false
  | .stage .test => .stages false true false
  | .stage .deploy => .stages false false true
  | .branch b => .branch b

def add : Mode → Facet → Mode
  | _, .branch b => .branch b
  | .branch b, .stage _ => .branch b
  | .stages _ t d, .stage .config => .stages true t d
  | .stages c _ d, .stage .test => .stages c true d
  | .stages c t _, .stage .deploy => .stages c t true

def contains : Mode → Facet → Bool
  | .stages c _ _, .stage .config => c
  | .stages _ t _, .stage .test => t
  | .stages _ _ d, .stage .deploy => d
  | .branch b, .branch b' => b = b'
  | _, _ => false

/-- The facets of a mode, in the order of `Facet.all`. -/
def facets (m : Mode) : List Facet := Facet.all.filter m.contains

def isEmpty (m : Mode) : Bool := m.facets.isEmpty

/-- The branch that the mode takes, if any. -/
def terminal? : Mode → Option Branch
  | .stages _ _ _ => none
  | .branch b => some b

/-- Whether a successful run removes its workspace: one that extracts or runs ad-hoc commands leaves it to
the operator. -/
def removesWorkspace : Mode → Bool
  | .branch .extract | .branch .adhoc => false
  | _ => true

def display (m : Mode) : String :=
  if m.isEmpty then "none" else String.intercalate "+" (m.facets.map Facet.name)

end Mode

end Bootstrap
