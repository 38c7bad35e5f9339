import Bootstrap.Text.Utf8

/-!
# Paths

A path is a sequence of bytes in which `/` separates names. The bytes are kept as they were written: two
spellings of one place are two paths, and messages show the spelling.

* `Path.components` is what a path says: repeated and trailing slashes say nothing, nor does a `.` that is
  not in front.
* `Path.join` writes one path below another, `Path.parents` lists the paths above one, nearest first.
* `Path.names` is what a walk through directories reads: every name between slashes, `.` included.
-/

namespace Bootstrap

structure Path where
  bytes : List UInt8
deriving DecidableEq, Inhabited

namespace Path

/-- The byte that separates names. -/
def slash : UInt8 := 0x2F

/-- The name of the directory itself. -/
def dot : List UInt8 := [0x2E]

/-- The name of the directory above. -/
def dotDot : List UInt8 := [0x2E, 0x2E]

def ofText (s : String) : Path := ⟨Text.encode s⟩

/-- The path as text, with U+FFFD for what is not UTF-8. -/
def display (p : Path) : String := Text.display p.bytes

def empty : Path := ⟨[]⟩

@[simp] theorem display_ofText (s : String) : (ofText s).display = s := by simp [display, ofText]

/-- A path from the root. -/
def isAbsolute (p : Path) : Bool := p.bytes.head? == some slash

/-- What stands between the slashes, empty pieces included. -/
def pieces (p : Path) : List (List UInt8) := p.bytes.splitOn slash

/-- The names between the slashes, in order. -/
def names (p : Path) : List (List UInt8) := p.pieces.filter fun piece => !piece.isEmpty

/-- Whether the last name has a slash after it. -/
def endsInSlash (p : Path) : Bool := p.bytes.getLast? == some slash

/-! ### Components -/

inductive Component where
  | root
  | current
  | parent
  | normal (name : List UInt8)
deriving DecidableEq

namespace Component

def bytes : Component → List UInt8
  | .root => [slash]
  | .current => dot
  | .parent => dotDot
  | .normal name => name

end Component

/-- A piece that says nothing: no name, or `.`. -/
def isIdle (piece : List UInt8) : Bool := piece.isEmpty || piece == dot

/-- The component of a piece behind the first. -/
def Component.ofPiece? (piece : List UInt8) : Option Component :=
  if isIdle piece then none
  else if piece = dotDot then some .parent
  else some (.normal piece)

/-- What a path says, in order. A `.` counts only in front. -/
def components (p : Path) : List Component :=
  let front : List Component :=
    if p.isAbsolute then [.root]
    else if p.pieces.head? = some dot then [.current]
    else []
  front ++ p.pieces.filterMap Component.ofPiece?

/-! ### Building -/

/-- `q` below `p`; an absolute `q` stands alone. -/
def join (p q : Path) : Path :=
  if q.isAbsolute then q
  else if p.bytes.isEmpty || p.endsInSlash then ⟨p.bytes ++ q.bytes⟩
  else ⟨p.bytes ++ slash :: q.bytes⟩

def joinText (p : Path) (name : String) : Path := p.join (ofText name)

/-- The path that says `cs`. -/
def ofComponents (cs : List Component) : Path :=
  cs.foldl (fun p c => p.join ⟨c.bytes⟩) empty

/-! ### Parents and last names -/

/-- The bytes in front of the first piece that a parent may drop: the root, or a leading `.`. -/
def front (p : Path) : List UInt8 :=
  if p.isAbsolute then [slash]
  else if p.pieces.head? = some dot then dot
  else []

/-- The pieces behind `front`, last first, without the idle ones at the end. -/
def backwards (p : Path) : List (List UInt8) :=
  (((p.bytes.drop p.front.length).splitOn slash).reverse).dropWhile isIdle

/-- The parents of the path that has `front` and then the pieces `above` (last first). -/
def parentsFrom (front : List UInt8) : List (List UInt8) → List Path
  | [] => if front = dot then [empty] else []
  | piece :: above =>
    if isIdle piece then parentsFrom front above
    else
      ⟨front ++ [slash].intercalate (above.dropWhile isIdle).reverse⟩ :: parentsFrom front above

/-- All paths above a path, nearest first. The root and the empty path have none. -/
def parents (p : Path) : List Path := parentsFrom p.front p.backwards

def parent? (p : Path) : Option Path := p.parents.head?

/-- The last name, unless the path ends in the root, in `..` or in a `.` of its own. -/
def fileName? (p : Path) : Option (List UInt8) :=
  match p.backwards with
  | [] => none
  | piece :: _ => if piece = dotDot then none else some piece

example : (ofText "/a//b/").parents = [ofText "/a", ofText "/"] := by decide +kernel
example : (ofText "./a").parents = [ofText ".", empty] := by decide +kernel
example : (ofText "a/../b").parents = [ofText "a/..", ofText "a", empty] := by decide +kernel
example : (ofText "a/./").fileName? = some (Text.encode "a") := by decide +kernel

end Path

end Bootstrap
