import Bootstrap.Path

/-!
# Disks

A disk holds directories, files and links, each at a location: the names that lead to it from the root. The
view of a disk is `Disk.get?`; every change is a `set`, an `erase` or an `eraseBelow`, and for each of them
there is one lemma that says what it does to the view.
-/

namespace Bootstrap

/-- The names that lead to an object from the root. -/
abbrev Location := List (List UInt8)

inductive Object where
  | directory (mode : Nat)
  | file (mode : Nat) (content : List UInt8)
  | link (target : Path)
deriving DecidableEq

namespace Object

def isDirectory : Object → Bool
  | .directory _ => true
  | _ => false

def isFile : Object → Bool
  | .file _ _ => true
  | _ => false

end Object

structure Disk where
  /-- Where relative paths start. -/
  workingDirectory : Location
  objects : List (Location × Object)
deriving DecidableEq, Inhabited

namespace Disk

/-- The object at a location. -/
def get? (d : Disk) (l : Location) : Option Object := d.objects.lookup l

/-- Puts an object at a location, in place of one that is there. -/
def set (d : Disk) (l : Location) (o : Object) : Disk :=
  { d with objects := (l, o) :: d.objects.filter fun entry => entry.1 != l }

/-- Takes one object away. -/
def erase (d : Disk) (l : Location) : Disk :=
  { d with objects := d.objects.filter fun entry => entry.1 != l }

/-- Whether `l` lies strictly below `top`. -/
def isBelow (top l : Location) : Bool := top.isPrefixOf l && top != l

/-- Takes everything away that lies strictly below a location. -/
def eraseBelow (d : Disk) (top : Location) : Disk :=
  { d with objects := d.objects.filter fun entry => !isBelow top entry.1 }

/-- The path of the working directory, spelled from the root. -/
def workingDirectoryPath (d : Disk) : Path :=
  if d.workingDirectory.isEmpty then ⟨[Path.slash]⟩
  else ⟨d.workingDirectory.flatMap fun n => Path.slash :: n⟩

def isDirectoryAt (d : Disk) (l : Location) : Bool := (d.get? l).any Object.isDirectory

/-- Whether anything lies strictly below a location. -/
def hasBelow (d : Disk) (top : Location) : Bool := d.objects.any fun entry => isBelow top entry.1

/-- Byte by byte, and a shorter name before the longer one that it starts. -/
def nameBefore (a b : List UInt8) : Bool := decide (a ≤ b)

/-- The names in a directory, in byte order. -/
def namesIn (d : Disk) (top : Location) : List (List UInt8) :=
  (d.objects.filterMap fun entry =>
    if entry.1.dropLast == top && isBelow top entry.1 then entry.1.getLast? else none).mergeSort nameBefore

/-- A disk with an empty root directory. -/
def blank : Disk := ⟨[], [([], .directory 0o755)]⟩

/-! ### The view -/

theorem lookup_filter_ne {l l' : Location} (h : l' ≠ l) (entries : List (Location × Object)) :
    (entries.filter fun entry => entry.1 != l).lookup l' = entries.lookup l' := by
  induction entries with
  | nil => rfl
  | cons e es ih =>
    obtain ⟨k, o⟩ := e
    by_cases hk : k = l
    · subst hk
      have : (l' == k) = false := by simpa using h
      simp [List.lookup_cons, ih, this]
    · simp [hk, List.lookup_cons, ih]

theorem lookup_filter_self (l : Location) (entries : List (Location × Object)) :
    (entries.filter fun entry => entry.1 != l).lookup l = none := by
  induction entries with
  | nil => rfl
  | cons e es ih =>
    obtain ⟨k, o⟩ := e
    by_cases hk : k = l
    · simp [hk, ih]
    · have : (l == k) = false := by simpa using fun h => hk h.symm
      simp [hk, List.lookup_cons, ih, this]

theorem get?_set (d : Disk) (l l' : Location) (o : Object) :
    (d.set l o).get? l' = if l' = l then some o else d.get? l' := by
  by_cases h : l' = l
  · simp [get?, set, h]
  · have : (l' == l) = false := by simpa using h
    simp [get?, set, h, List.lookup_cons, this, lookup_filter_ne h]

/-- Of two objects put at one location the second one stays. -/
@[simp] theorem set_set (d : Disk) (l : Location) (o o' : Object) : (d.set l o).set l o' = d.set l o' := by
  simp [set]

theorem get?_erase (d : Disk) (l l' : Location) :
    (d.erase l).get? l' = if l' = l then none else d.get? l' := by
  by_cases h : l' = l
  · subst h; simp [get?, erase, lookup_filter_self]
  · simp [get?, erase, h, lookup_filter_ne h]

theorem get?_eraseBelow (d : Disk) (top l : Location) :
    (d.eraseBelow top).get? l = if isBelow top l then none else d.get? l := by
  simp only [get?, eraseBelow]
  induction d.objects with
  | nil => simp
  | cons e es ih =>
    obtain ⟨k, o⟩ := e
    by_cases hk : isBelow top k = true
    · rw [List.filter_cons_of_neg (by simp [hk]), ih]
      by_cases hl : l = k
      · simp [hl, hk]
      · have : (l == k) = false := by simpa using hl
        simp [List.lookup_cons, this]
    · rw [List.filter_cons_of_pos (by simp [hk])]
      by_cases hl : l = k
      · simp [hl, hk]
      · have : (l == k) = false := by simpa using hl
        simp [List.lookup_cons, this, ih]

@[simp] theorem workingDirectory_set (d : Disk) (l : Location) (o : Object) :
    (d.set l o).workingDirectory = d.workingDirectory := rfl

@[simp] theorem workingDirectory_erase (d : Disk) (l : Location) :
    (d.erase l).workingDirectory = d.workingDirectory := rfl

@[simp] theorem workingDirectory_eraseBelow (d : Disk) (l : Location) :
    (d.eraseBelow l).workingDirectory = d.workingDirectory := rfl

end Disk

end Bootstrap
