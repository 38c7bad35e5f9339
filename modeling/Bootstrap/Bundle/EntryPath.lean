import Bootstrap.Path

/-!
# Where a bundle entry lands

Decided from the entry's name and link target alone. An entry whose name or target starts at the root or
climbs with `..` is unsafe. The others lose a leading `automation` and every `.`, and for ad-hoc use only
those below an allow-list are kept.

The decision depends on what the paths say (`Path.components`), not on how they are spelled.
-/

namespace Bootstrap.Bundle

open Bootstrap.Path (Component)

/-- The directory that every entry of a bundle lives in. -/
def topDirectory : String := "automation"

/-- A file of this name carries metadata of the archive and no content. -/
def reservedName : String := "pax_global_header"

/-- The first names that are kept for ad-hoc use. -/
def adhocNames : List String := ["plugins", "templates", "default.cfg"]

/-- Where an entry is written, below the destination. -/
structure Placement where
  /-- Empty for the destination itself. -/
  relative : Path
  linkTarget : Option Path
deriving DecidableEq

inductive Disposition where
  /-- The name or the link target may lead out of the destination. -/
  | outside
  /-- Not on the allow-list for ad-hoc use. -/
  | notNeeded
  | place (placement : Placement)
deriving DecidableEq

/-- Whether a path starts at the root or has a `..`. -/
def escapes (p : Path) : Bool := p.components.any fun c => c == .root || c == .parent

/-- Takes one leading `automation` off. -/
def dropTop : List Component → List Component
  | [] => []
  | c :: rest => if c.bytes = Text.encode topDirectory then rest else c :: rest

/-- The components of a path below the top directory: no `.`, and no leading `automation`. -/
def innerComponents (p : Path) : List Component := dropTop (p.components.filter (· ≠ .current))

/-- A path below the top directory. -/
def inner (p : Path) : Path := Path.ofComponents (innerComponents p)

/-- Whether a path below the destination is kept for ad-hoc use; the destination itself is. -/
def keptForAdhoc (relative : Path) : Bool :=
  match relative.components with
  | [] => true
  | first :: _ => adhocNames.any fun name => Text.encode name == first.bytes

def isReserved (relative : Path) : Bool := relative.bytes == Text.encode reservedName

def classify (name : Path) (link : Option Path) (adhoc : Bool) : Disposition :=
  if escapes name || link.any escapes then .outside
  else if adhoc && !keptForAdhoc (inner name) then .notNeeded
  else .place ⟨inner name, link.map inner⟩

example : classify (Path.ofText "./automation/ping.yaml") none false
    = .place ⟨Path.ofText "ping.yaml", none⟩ := by decide +kernel
example : classify (Path.ofText "automation/up") (some (Path.ofText "../../etc")) false = .outside := by
  decide +kernel

end Bootstrap.Bundle
