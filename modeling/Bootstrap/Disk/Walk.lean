import Bootstrap.Disk.Basic
import Bootstrap.Failure

/-!
# Walks along paths

How a path leads to a location. A walk starts at the root or in the working directory and takes one name at a
time. A link on the way is replaced by its target; whether a link in the last place is replaced too depends on
the operation, `LastLink`. No more than 40 links are followed.

All operations on paths find their location through `Disk.walk`, so what links can do is said here and nowhere
else.
-/

namespace Bootstrap

/-- When a link in the last place of a path is followed. -/
inductive LastLink where
  | never
  /-- Only if a slash follows it. -/
  | beforeSlash
  | always
  /-- Unless a slash follows it. -/
  | unlessSlash
deriving DecidableEq

def LastLink.follows : LastLink → (slash : Bool) → Bool
  | .never, _ => false
  | .beforeSlash, slash => slash
  | .always, _ => true
  | .unlessSlash, slash => !slash

/-- What a path has in its last place when that is no name of an object. -/
inductive Here where
  /-- Nothing: the path is the root. -/
  | root
  | dot
  | dotDot
deriving DecidableEq

/-- Where a walk ends. -/
inductive Spot where
  /-- In a directory that is reached without a name for it. -/
  | directory (location : Location) (here : Here)
  /-- At a name in a directory; `slash` tells whether a slash follows it. -/
  | name (parent : Location) (name : List UInt8) (slash : Bool)
deriving DecidableEq

def Spot.location : Spot → Location
  | .directory l _ => l
  | .name parent n _ => parent ++ [n]

namespace Disk

/-- The longest name that a directory can hold. -/
def maxName : Nat := 255

/-- The length that a path has to stay under. -/
def maxPath : Nat := 4096

/-- The most links that one walk follows. -/
def maxLinks : Nat := 40

/-- Where the names of a path start, seen from the directory `current`. -/
def startFrom (current : Location) (p : Path) : Location := if p.isAbsolute then [] else current

/-- Takes the names one by one, starting in the directory `current`. At a link that is to be followed, `follow` goes on with
the names of its target. -/
def walkUpTo (d : Disk) (last : LastLink)
    (follow : (current : Location) → (names : List (List UInt8)) → (slash : Bool) → Except Errno Spot)
    (current : Location) (names : List (List UInt8)) (slash : Bool) : Except Errno Spot :=
  match names with
  | [] => .ok (.directory current .root)
  | n :: rest =>
    if n = Path.dot then
      if rest.isEmpty then .ok (.directory current .dot)
      else walkUpTo d last follow current rest slash
    else if n = Path.dotDot then
      if rest.isEmpty then .ok (.directory current.dropLast .dotDot)
      else walkUpTo d last follow current.dropLast rest slash
    else if n.length > maxName then .error .nameTooLong
    else
      match d.get? (current ++ [n]) with
      | some (.link target) =>
        -- In the last place the operation decides; on the way every link is followed.
        if rest.isEmpty && !last.follows slash then .ok (.name current n slash)
        else
          follow (startFrom current target) (target.names ++ rest)
            (if rest.isEmpty then slash || target.endsInSlash else slash)
      | found =>
        if rest.isEmpty then .ok (.name current n slash)
        else
          match found with
          | none => .error .notFound
          | some (.directory _) => walkUpTo d last follow (current ++ [n]) rest slash
          | some _ => .error .notDirectory

/-- Takes the names of a path, of which `links` may be links that are followed. -/
def walkNames (d : Disk) (last : LastLink) :
    (links : Nat) → (current : Location) → (names : List (List UInt8)) → (slash : Bool) → Except Errno Spot
  | 0 => d.walkUpTo last fun _ _ _ => .error .tooManyLinks
  | links + 1 => d.walkUpTo last (d.walkNames last links)

/-- A walk that is out of names ends where it is. -/
theorem walkNames_nil (d : Disk) (last : LastLink) (links : Nat) (current : Location) (slash : Bool) :
    d.walkNames last links current [] slash = .ok (.directory current .root) := by
  cases links with
  | zero => rfl
  | succ links => rfl

/-- What a walk does with its first name. Only here does it matter how many links are left. -/
theorem walkNames_cons (d : Disk) (last : LastLink) (links : Nat) (current : Location) (n : List UInt8)
    (rest : List (List UInt8)) (slash : Bool) :
    d.walkNames last links current (n :: rest) slash =
      if n = Path.dot then
        if rest.isEmpty then .ok (.directory current .dot) else d.walkNames last links current rest slash
      else if n = Path.dotDot then
        if rest.isEmpty then .ok (.directory current.dropLast .dotDot)
        else d.walkNames last links current.dropLast rest slash
      else if n.length > maxName then .error .nameTooLong
      else
        match d.get? (current ++ [n]) with
        | some (.link target) =>
          if rest.isEmpty && !last.follows slash then .ok (.name current n slash)
          else
            match links with
            | 0 => .error .tooManyLinks
            | links + 1 =>
              d.walkNames last links (startFrom current target) (target.names ++ rest)
                (if rest.isEmpty then slash || target.endsInSlash else slash)
        | found =>
          if rest.isEmpty then .ok (.name current n slash)
          else
            match found with
            | none => .error .notFound
            | some (.directory _) => d.walkNames last links (current ++ [n]) rest slash
            | some _ => .error .notDirectory := by
  cases links with
  | zero => rfl
  | succ links => rfl

-- What a walk does is said by the two equations, so that no unification goes through the forty links of a walk.
attribute [irreducible] walkNames

/-- Where a path leads. The empty path leads nowhere, and a NUL byte cannot be part of a path. -/
def walk (d : Disk) (last : LastLink) (p : Path) : Except Cause Spot :=
  if p.bytes.contains 0 then .error .unreadable
  else if p.bytes.isEmpty then .error (.system .notFound)
  else if p.bytes.length ≥ maxPath then .error (.system .nameTooLong)
  else
    match d.walkNames last maxLinks (startFrom d.workingDirectory p) p.names p.endsInSlash with
    | .ok spot => .ok spot
    | .error e => .error (.system e)

/-- The object that a path leads to and its location. -/
def find (d : Disk) (last : LastLink) (p : Path) : Except Cause (Location × Object) := do
  let spot ← d.walk last p
  match d.get? spot.location, spot with
  | none, _ => .error (.system .notFound)
  -- A slash behind the last name asks for a directory.
  | some o@(.directory _), _ => .ok (spot.location, o)
  | some _, .name _ _ true => .error (.system .notDirectory)
  | some o, _ => .ok (spot.location, o)

/-- What a path leads to, a link in the last place being followed. -/
def status (d : Disk) (p : Path) : Except Cause (Location × Object) := d.find .always p

/-- What a path leads to, without following a link in the last place. -/
def linkStatus (d : Disk) (p : Path) : Except Cause (Location × Object) := d.find .beforeSlash p

/-- Whether the path leads to anything, links being followed. -/
def leadsSomewhere (d : Disk) (p : Path) : Bool := (d.status p).isOk

def isDirectory (d : Disk) (p : Path) : Bool :=
  match d.status p with
  | .ok (_, o) => o.isDirectory
  | .error _ => false

def isFile (d : Disk) (p : Path) : Bool :=
  match d.status p with
  | .ok (_, o) => o.isFile
  | .error _ => false

/-- Whether anything stands at the path, be it a link that leads nowhere. -/
def occupied (d : Disk) (p : Path) : Bool := (d.linkStatus p).isOk

end Disk

end Bootstrap
