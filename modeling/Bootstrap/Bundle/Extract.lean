import Bootstrap.Bundle.Basic
import Bootstrap.Bundle.EntryPath
import Bootstrap.Disk.Files

/-!
# Extraction

The members of a bundle are written below a destination in the order of the archive. Each is classified by name
and link target before anything is written, so that no member leads out of the destination. Directories, files
and links are made; other members, members that an ad-hoc use does not need and the reserved metadata file are
passed over. A member whose data is cut off and a link that cannot be made end the extraction, and so does a fault of the
device; what is written by then stays.
-/

namespace Bootstrap.Bundle

/-- The mode of extracted directories: owner and group only. -/
def directoryMode : Nat := 0o750

/-- The mode of extracted files: the owner may write, the group may read. -/
def fileMode : Nat := 0o640

/-- How many members had which fate. -/
structure Tally where
  directories : Nat := 0
  files : Nat := 0
  links : Nat := 0
  /-- Members that would have led out of the destination. -/
  outside : Nat := 0
  skipped : Nat := 0
deriving DecidableEq

namespace Tally

/-- The number of members counted. -/
def total (t : Tally) : Nat := t.directories + t.files + t.links + t.outside + t.skipped

def countDirectory (t : Tally) : Tally := { t with directories := t.directories + 1 }
def countFile (t : Tally) : Tally := { t with files := t.files + 1 }
def countLink (t : Tally) : Tally := { t with links := t.links + 1 }
def countOutside (t : Tally) : Tally := { t with outside := t.outside + 1 }
def countSkipped (t : Tally) : Tally := { t with skipped := t.skipped + 1 }

end Tally

/-- Makes a link and the directory it stands in. -/
def placeLink (path target : Path) (faults : Faults := .none) : Action Unit := do
  match path.parent? with
  | some parent =>
    if !(← get).leadsSomewhere parent then Action.createDirectory parent directoryMode faults
  | none => pure ()
  Action.during (.createLink path target) (Action.createLink path target)

/-- The failure of a member whose data is not all there. -/
def missingData (m : Tar.Member) : Failure :=
  if m.cut then ⟨[.readMember m.name], .unreadable⟩
  else .ofRefusal (.shortEntry m.name m.data.length m.size)

/-- Writes a member at its place below a destination. -/
def placeMember (destination : Path) (m : Tar.Member) (at_ : Placement) (t : Tally) (faults : Faults := .none) :
    Action Tally :=
  let path := destination.join at_.relative
  match m.kind with
  | .directory => do
    Action.createDirectory path directoryMode faults
    return t.countDirectory
  | .file => do
    -- The data is checked before it is known to be wanted.
    if m.data.length ≠ m.size then throw (missingData m)
    else if isReserved at_.relative then return t.countSkipped
    else
      Action.writeFile path m.data fileMode faults
      return t.countFile
  | .link =>
    match at_.linkTarget with
    | none => Action.refuse (.linkWithoutTarget m.name)
    | some target => do
      placeLink path target faults
      return t.countLink
  | .other => return t.countSkipped

/-- Handles one member. -/
def extractMember (destination : Path) (adhoc : Bool) (t : Tally) (m : Tar.Member) (faults : Faults := .none) :
    Action Tally :=
  match classify m.name m.link adhoc with
  | .outside => return t.countOutside
  | .notNeeded => return t.countSkipped
  | .place at_ => placeMember destination m at_ t faults

/-- Writes an archive below a destination. -/
def extractArchive (archive : Tar.Archive) (destination : Path) (adhoc : Bool) (faults : Faults := .none) :
    Action Tally := do
  let t ← archive.members.foldlM (fun t m => extractMember destination adhoc t m faults) {}
  if archive.broken then throw ⟨[.readBundleEntry], .unreadable⟩ else return t

def size : Bundle → Nat
  | .compressed contents | .cut contents => contents.length
  | .raw bytes => bytes.length

/-- Writes a bundle below a destination; for ad-hoc use only what is on the allow-list. -/
def extract (b : Bundle) (destination : Path) (adhoc : Bool) (faults : Faults := .none) : Action Tally :=
  if b.looksCompressed then extractArchive b.archive destination adhoc faults
  else Action.refuse (.notCompressed b.size)

end Bootstrap.Bundle
