import Bootstrap.Disk.Change
import Bootstrap.Proofs.Disk.Walk
import Mathlib.Data.List.Induction
import Mathlib.Data.Nat.Bitwise

/-!
# What one change can do

Each operation on a disk that succeeds sets one object at the end of one walk. The lemmas `Disk.*_eq_ok` say which
object and where, guards included; nothing behind this module unfolds an operation. A directory that was made has the mode
that was asked for and the set-group-ID bit of the directory above it, `Disk.AsMade`.

`Disk.Admits` sums them up: an operation makes something new in a directory, gives a file new content or a new mode, or
gives a directory a new mode. What survives these three survives every operation: `Carries`, `IsTree`, `LinksDescend`.
-/

namespace Bootstrap

/-- A path that the operating system looks at. -/
structure Path.IsUsable (p : Path) : Prop where
  noNul : (0 : UInt8) ∉ p.bytes
  ne_nil : p.bytes ≠ []
  short : p.bytes.length < Disk.maxPath

instance (p : Path) : Decidable p.IsUsable :=
  decidable_of_iff (0 ∉ p.bytes ∧ p.bytes ≠ [] ∧ p.bytes.length < Disk.maxPath)
    ⟨fun h => ⟨h.1, h.2.1, h.2.2⟩, fun h => ⟨h.noNul, h.ne_nil, h.short⟩⟩

/-- What passes the test is a directory of some mode. -/
theorem Object.eq_directory_of_isDirectory {o : Object} (h : o.isDirectory = true) : ∃ mode, o = .directory mode := by
  cases o with
  | directory mode => exact ⟨mode, rfl⟩
  | file mode content => cases h
  | link target => cases h

namespace Disk

/-- What succeeds went through a first part that succeeded. -/
theorem exists_of_bind_eq_ok {α β : Type} {x : Except Cause α} {f : α → Except Cause β} {b : β}
    (h : x >>= f = .ok b) : ∃ a, x = .ok a ∧ f a = .ok b := by
  cases x with
  | error c => cases h
  | ok a => exact ⟨a, rfl, h⟩

/-! ## Walks along paths -/

/-- A walk along a path succeeds if and only if the operating system takes the path at all and the walk relation allows
it. From here on proofs go by induction on `WalksTo` instead of the recursion of the walk. -/
theorem walk_eq_ok_iff {d : Disk} {last : LastLink} {p : Path} {spot : Spot} :
    d.walk last p = .ok spot ↔
      p.IsUsable ∧
        WalksTo d last maxLinks (startFrom d.workingDirectory p) p.names p.endsInSlash spot := by
  unfold walk
  constructor
  · intro h
    split_ifs at h with hnul hnil hshort
    split at h
    · next hwalk =>
      cases h
      refine ⟨⟨by simpa using hnul, by simpa using hnil, by omega⟩, walksTo_of_walkNames hwalk⟩
    · cases h
  · rintro ⟨hp, hwalk⟩
    have hshort := hp.short
    rw [if_neg (by simpa using hp.noNul), if_neg (by simpa using hp.ne_nil), if_neg (by omega), hwalk.walkNames]

/-- What is found at a path stands where the walk along the path ends. -/
theorem find_eq_ok {d : Disk} {last : LastLink} {p : Path} {l : Location} {o : Object}
    (h : d.find last p = .ok (l, o)) :
    ∃ spot, d.walk last p = .ok spot ∧ l = spot.location ∧ d.get? l = some o := by
  unfold find at h
  obtain ⟨spot, hwalk, h⟩ := exists_of_bind_eq_ok h
  refine ⟨spot, hwalk, ?_⟩
  split at h
  · cases h
  · next hget => cases h; exact ⟨rfl, hget⟩
  · cases h
  · next hget => cases h; exact ⟨rfl, by assumption⟩

theorem get?_of_find {d : Disk} {last : LastLink} {p : Path} {l : Location} {o : Object}
    (h : d.find last p = .ok (l, o)) : d.get? l = some o := by
  obtain ⟨spot, -, rfl, hget⟩ := find_eq_ok h
  exact hget

/-- A directory is found also behind a slash. -/
theorem find_of_directory {d : Disk} {last : LastLink} {p : Path} {spot : Spot} {mode : Nat}
    (hwalk : d.walk last p = .ok spot) (hdir : d.get? spot.location = some (.directory mode)) :
    d.find last p = .ok (spot.location, .directory mode) := by
  unfold find
  rw [hwalk]
  simp only [bind, Except.bind, hdir]

/-- A path leads to a directory, links being followed. -/
def LeadsTo (d : Disk) (p : Path) (top : Location) : Prop := ∃ mode, d.status p = .ok (top, .directory mode)

/-- A path leads to a directory if and only if a walk that follows every link ends at it. This opens the definition for
proofs about walks. -/
theorem leadsTo_iff {d : Disk} {p : Path} {top : Location} :
    d.LeadsTo p top ↔ p.IsUsable ∧ ∃ spot mode,
      WalksTo d .always maxLinks (startFrom d.workingDirectory p) p.names p.endsInSlash spot ∧
        spot.location = top ∧ d.get? top = some (.directory mode) := by
  constructor
  · rintro ⟨mode, h⟩
    obtain ⟨spot, hwalk, rfl, hget⟩ := find_eq_ok h
    obtain ⟨hp, hwalk⟩ := walk_eq_ok_iff.mp hwalk
    exact ⟨hp, spot, mode, hwalk, rfl, hget⟩
  · rintro ⟨hp, spot, mode, hwalk, rfl, hget⟩
    exact ⟨mode, find_of_directory (walk_eq_ok_iff.mpr ⟨hp, hwalk⟩) hget⟩

/-- What a path leads to is a directory. -/
theorem LeadsTo.isDirectoryAt {d : Disk} {p : Path} {top : Location} (h : d.LeadsTo p top) :
    d.isDirectoryAt top = true := by
  obtain ⟨-, _, _, -, -, hget⟩ := leadsTo_iff.mp h
  rw [Disk.isDirectoryAt, hget]
  rfl

/-- The test of the model says that the path leads somewhere where a directory is. Proofs use `LeadsTo`, which names the
place. -/
theorem isDirectory_iff {d : Disk} {p : Path} : d.isDirectory p = true ↔ ∃ top, d.LeadsTo p top := by
  unfold isDirectory
  constructor
  · intro h
    split at h
    · next l o hstatus =>
      cases o with
      | directory mode => exact ⟨l, mode, hstatus⟩
      | file mode content => cases h
      | link target => cases h
    · cases h
  · rintro ⟨top, mode, hstatus⟩
    rw [hstatus]
    rfl

/-- A path leads to one directory only. -/
theorem LeadsTo.unique {d : Disk} {p : Path} {top top' : Location} (h : d.LeadsTo p top) (h' : d.LeadsTo p top') :
    top = top' := by
  obtain ⟨_, h⟩ := h
  obtain ⟨_, h'⟩ := h'
  rw [h] at h'
  cases h'
  rfl

/-- A path that leads to a directory still leads there on a disk that has the same directories and links. No action of
an extraction takes either away. -/
theorem LeadsTo.carry {d d' : Disk} {p : Path} {top : Location} (h : d.LeadsTo p top) (hcarry : d.Carries d') :
    d'.LeadsTo p top := by
  obtain ⟨hp, spot, mode, hwalk, rfl, hget⟩ := leadsTo_iff.mp h
  obtain ⟨mode', hget'⟩ := hcarry.directory _ _ hget
  refine leadsTo_iff.mpr ⟨hp, spot, mode', ?_, rfl, hget'⟩
  rw [hcarry.workingDirectory]
  refine hwalk.carry hcarry fun target ht => ?_
  rw [hget'] at ht
  cases ht

/-- A location that is a directory has an entry with a mode. -/
theorem eq_directory_of_isDirectoryAt {d : Disk} {l : Location} (h : d.isDirectoryAt l = true) :
    ∃ mode, d.get? l = some (.directory mode) := by
  unfold isDirectoryAt at h
  cases hget : d.get? l with
  | none =>
      rw [hget] at h
      cases h
  | some o =>
      rw [hget] at h
      have ho : o.isDirectory = true := h
      obtain ⟨mode, rfl⟩ := Object.eq_directory_of_isDirectory ho
      exact ⟨mode, rfl⟩

/-! ## Operations that succeed -/

/-- A path is the name of nothing yet, in a directory. -/
structure IsFree (d : Disk) (last : LastLink) (p : Path) (parent : Location) (n : List UInt8) (slash : Bool) :
    Prop where
  walk : d.walk last p = .ok (.name parent n slash)
  free : d.get? (parent ++ [n]) = none
  home : d.isDirectoryAt parent = true

/-- A name is only given in a directory, and this is all that changes. -/
theorem place_eq_ok {d d' : Disk} {parent : Location} {n : List UInt8} {o : Object}
    (h : d.place parent n o = .ok d') : d.isDirectoryAt parent = true ∧ d' = d.set (parent ++ [n]) o := by
  unfold place at h
  split at h
  · next hdir => cases h; exact ⟨hdir, rfl⟩
  · cases h

/-- A directory that is made gets a name that was free; nothing else is changed. The mode takes the directory above into
account: `newDirectoryMode`. -/
theorem makeDirectory_eq_ok {d d' : Disk} {p : Path} {mode : Nat} (h : d.makeDirectory p mode = .ok d') :
    ∃ parent n slash, d.IsFree .never p parent n slash ∧
      d' = d.set (parent ++ [n]) (.directory (newDirectoryMode (d.modeAt parent) mode)) := by
  unfold makeDirectory at h
  obtain ⟨spot, hwalk, h⟩ := exists_of_bind_eq_ok h
  cases spot with
  | directory l here => cases h
  | name parent n slash =>
      dsimp only at h
      split at h
      · cases h
      · next hfree =>
        obtain ⟨hdir, rfl⟩ := place_eq_ok h
        exact ⟨parent, n, slash, ⟨hwalk, by simpa using hfree, hdir⟩, rfl⟩

/-- The other way round: once the walk is known to end at a name in a directory, making a directory there depends on
nothing but whether the name is taken. -/
theorem makeDirectory_of_walk {d : Disk} {p : Path} {parent : Location} {n : List UInt8} {slash : Bool} {mode : Nat}
    (hwalk : d.walk .never p = .ok (.name parent n slash)) (hdir : d.isDirectoryAt parent = true) :
    d.makeDirectory p mode =
      if (d.get? (parent ++ [n])).isSome then .error (.system .alreadyExists)
      else .ok (d.set (parent ++ [n]) (.directory (newDirectoryMode (d.modeAt parent) mode))) := by
  simp only [makeDirectory, hwalk, bind, Except.bind, place, hdir, if_true]

/-- A file that is added gets a name that was free, without a slash behind it. Links at the last name are not followed,
so a dangling one makes the name taken. -/
theorem addFile_eq_ok {d d' : Disk} {p : Path} {mode : Nat} {content : List UInt8}
    (h : d.addFile p mode content = .ok d') :
    ∃ parent n, d.IsFree .never p parent n false ∧
      d' = d.set (parent ++ [n]) (.file (newFileMode mode) content) := by
  unfold addFile at h
  obtain ⟨spot, hwalk, h⟩ := exists_of_bind_eq_ok h
  cases spot with
  | directory l here => cases h
  | name parent n slash =>
      -- a name with a slash behind it is refused
      cases slash with
      | true => cases h
      | false =>
          dsimp only at h
          split at h
          · cases h
          · next hfree =>
            obtain ⟨hdir, rfl⟩ := place_eq_ok h
            exact ⟨parent, n, ⟨hwalk, by simpa using hfree, hdir⟩, rfl⟩

theorem IsFree.addFile {d : Disk} {p : Path} {parent : Location} {n : List UInt8} (h : d.IsFree .never p parent n false)
    (mode : Nat) (content : List UInt8) :
    d.addFile p mode content = .ok (d.set (parent ++ [n]) (.file (newFileMode mode) content)) := by
  simp [Disk.addFile, place, h.walk, h.free, h.home, bind, Except.bind]

/-- A link that is added gets a name that was free. The target is not looked at, it may lead nowhere. -/
theorem addLink_eq_ok {d d' : Disk} {p target : Path} (h : d.addLink p target = .ok d') :
    ∃ parent n, d.IsFree .never p parent n false ∧ d' = d.set (parent ++ [n]) (.link target) := by
  unfold addLink at h
  -- the target and the path are checked before anything is looked at
  split_ifs at h
  obtain ⟨spot, hwalk, h⟩ := exists_of_bind_eq_ok h
  cases spot with
  | directory l here => cases h
  | name parent n slash =>
      dsimp only at h
      split at h
      · cases h
      · next hfree =>
        split at h
        · cases h
        · next hslash =>
          simp only [Bool.not_eq_true] at hslash
          subst hslash
          obtain ⟨hdir, rfl⟩ := place_eq_ok h
          exact ⟨parent, n, ⟨hwalk, by simpa using hfree, hdir⟩, rfl⟩

/-- The other way round, a free name is enough for a target that the operating system takes: one that is not empty,
holds no NUL and is not too long. -/
theorem IsFree.addLink {d : Disk} {p target : Path} {parent : Location} {n : List UInt8}
    (h : d.IsFree .never p parent n false) (htarget : target.IsUsable) :
    d.addLink p target = .ok (d.set (parent ++ [n]) (.link target)) := by
  have hnul : p.bytes.contains 0 = false := by simpa using (walk_eq_ok_iff.mp h.walk).1.noNul
  have hnul' : target.bytes.contains 0 = false := by simpa using htarget.noNul
  rw [Disk.addLink, hnul, hnul', if_neg (by simp), if_neg (by simpa using htarget.ne_nil),
    if_neg (Nat.not_le.mpr htarget.short)]
  simp [place, h.walk, h.free, h.home, bind, Except.bind]

theorem ne_nil_of_addLink {d d' : Disk} {p target : Path} (h : d.addLink p target = .ok d') : target.bytes ≠ [] := by
  unfold addLink at h
  split_ifs at h with _ hnil
  simpa using hnil

/-- A file is put under a free name, or the content of a file that is there is replaced; then it keeps its mode. Links
are followed, unless there is a slash behind the name. -/
theorem putFile_eq_ok {d d' : Disk} {p : Path} {mode : Nat} {content : List UInt8}
    (h : d.putFile p mode content = .ok d') :
    ∃ parent n,
      d.IsFree .unlessSlash p parent n false ∧
          d' = d.set (parent ++ [n]) (.file (newFileMode mode) content) ∨
        ∃ oldMode old, d.walk .unlessSlash p = .ok (.name parent n false) ∧
          d.get? (parent ++ [n]) = some (.file oldMode old) ∧
          d' = d.set (parent ++ [n]) (.file oldMode content) := by
  unfold putFile at h
  obtain ⟨spot, hwalk, h⟩ := exists_of_bind_eq_ok h
  cases spot with
  | directory l here => cases h
  | name parent n slash =>
      cases slash with
      | true => cases h
      | false =>
          refine ⟨parent, n, ?_⟩
          -- the name is free, or a file has it; every other object is refused
          dsimp only at h
          split at h
          · next hfree =>
            obtain ⟨hdir, rfl⟩ := place_eq_ok h
            exact .inl ⟨⟨hwalk, hfree, hdir⟩, rfl⟩
          · next oldMode old hget =>
            -- a file that is there keeps its mode
            cases h
            exact .inr ⟨oldMode, old, hwalk, hget, rfl⟩
          · cases h
          · cases h

/-- The other way round: once the walk is known to end at a name in a directory, it depends on what has the name whether
a file can be put there. -/
theorem putFile_of_walk {d : Disk} {p : Path} {parent : Location} {n : List UInt8} {mode : Nat} {content : List UInt8}
    (hwalk : d.walk .unlessSlash p = .ok (.name parent n false)) (hdir : d.isDirectoryAt parent = true) :
    d.putFile p mode content =
      match d.get? (parent ++ [n]) with
      | none => .ok (d.set (parent ++ [n]) (.file (newFileMode mode) content))
      | some (.file old _) => .ok (d.set (parent ++ [n]) (.file old content))
      | some (.directory _) => .error (.system .isDirectory)
      | some (.link _) => .error (.system .tooManyLinks) := by
  cases hget : d.get? (parent ++ [n]) with
  | none => simp only [putFile, hwalk, bind, Except.bind, hget, place, hdir, if_true]
  | some o => cases o <;> simp only [putFile, hwalk, bind, Except.bind, hget]

/-- A mode is set of a directory or of a file, at the end of all links. No link is ever changed. -/
theorem setMode_eq_ok {d d' : Disk} {p : Path} {mode : Nat} (h : d.setMode p mode = .ok d') :
    ∃ l,
      (∃ oldMode, d.status p = .ok (l, .directory oldMode) ∧ d' = d.set l (.directory (mode &&& 0o7777))) ∨
        ∃ oldMode content, d.status p = .ok (l, .file oldMode content) ∧
          d' = d.set l (.file (mode &&& 0o7777) content) := by
  unfold setMode at h
  obtain ⟨⟨l, o⟩, hstatus, h⟩ := exists_of_bind_eq_ok h
  refine ⟨l, ?_⟩
  cases o with
  | directory oldMode => cases h; exact .inl ⟨oldMode, hstatus, rfl⟩
  | file oldMode content => cases h; exact .inr ⟨oldMode, content, hstatus, rfl⟩
  | link target => cases h

/-! ## Modes of new directories -/

theorem modeAt_of_get? {d : Disk} {l : Location} {mode : Nat} (h : d.get? l = some (.directory mode)) :
    d.modeAt l = mode := by
  rw [modeAt, h]

/-- The set-group-ID bit of the directory above is all that a new directory takes from it. -/
theorem newDirectoryMode_eq (above mode : Nat) :
    newDirectoryMode above mode = if above.testBit 10 then mode &&& 0o1755 ||| 0o2000 else mode &&& 0o1755 := by
  have hbit : above &&& 0o2000 = (above.testBit 10).toNat * 2 ^ 10 := Nat.and_two_pow above 10
  rw [newDirectoryMode, hbit]
  cases above.testBit 10 <;> simp

/-- At `l` stands a directory as it is made there if `mode` is asked for. -/
def AsMade (d : Disk) (mode : Nat) (l : Location) : Prop :=
  ∃ above, d.get? l.dropLast = some (.directory above) ∧ d.get? l = some (.directory (newDirectoryMode above mode))

/-- A directory that was just made has the mode that it was made with. -/
theorem IsFree.asMade_set {d : Disk} {last : LastLink} {p : Path} {parent : Location} {n : List UInt8} {slash : Bool}
    (h : d.IsFree last p parent n slash) (mode : Nat) :
    (d.set (parent ++ [n]) (.directory (newDirectoryMode (d.modeAt parent) mode))).AsMade mode (parent ++ [n]) := by
  obtain ⟨above, hparent⟩ := eq_directory_of_isDirectoryAt h.home
  refine ⟨above, ?_, ?_⟩
  · rw [List.dropLast_concat, get?_set, if_neg (by simp), hparent]
  · rw [get?_set, if_pos rfl, modeAt_of_get? hparent]

/-! ## The three kinds of change -/

/-- What an operation may set: something new in a directory, a file where a file was, a directory where a directory
was. -/
inductive Admits (d : Disk) : Location → Object → Prop where
  | create {parent : Location} {n : List UInt8} {o : Object} (free : d.get? (parent ++ [n]) = none)
      (home : d.isDirectoryAt parent = true) : d.Admits (parent ++ [n]) o
  | rewrite {l : Location} {mode mode' : Nat} {old content : List UInt8}
      (was : d.get? l = some (.file mode old)) : d.Admits l (.file mode' content)
  | remode {l : Location} {mode mode' : Nat} (was : d.get? l = some (.directory mode)) :
      d.Admits l (.directory mode')

theorem IsFree.admits {d : Disk} {last : LastLink} {p : Path} {parent : Location} {n : List UInt8} {slash : Bool}
    (h : d.IsFree last p parent n slash) (o : Object) : d.Admits (parent ++ [n]) o := .create h.free h.home

/-- No change that an operation makes takes a directory or a link away, so walks that go through directories and links
go the same way behind it. -/
theorem Admits.carries {d : Disk} {l : Location} {o : Object} (h : d.Admits l o) : d.Carries (d.set l o) where
  workingDirectory := rfl
  directory l' mode hget := by
    -- at the location itself a directory only gets another mode
    rw [get?_set]
    split
    · next heq =>
      subst heq
      cases h with
      | create free _ => rw [free] at hget; cases hget
      | rewrite was => rw [was] at hget; cases hget
      | remode was => exact ⟨_, rfl⟩
    · exact ⟨mode, hget⟩
  link l' target hget := by
    -- and a link is never replaced
    rw [get?_set]
    split
    · next heq =>
      subst heq
      cases h with
      | create free _ => rw [free] at hget; cases hget
      | rewrite was => rw [was] at hget; cases hget
      | remode was => rw [was] at hget; cases hget
    · exact hget

/-- A file is no directory: where one may be set, neither the made directory stands nor the one above it. -/
theorem AsMade.set_file {d : Disk} {l l' : Location} {mode fileMode : Nat} {content : List UInt8} (h : d.AsMade mode l)
    (hadm : d.Admits l' (.file fileMode content)) : (d.set l' (.file fileMode content)).AsMade mode l := by
  have hkept : ∀ k m, d.get? k = some (.directory m) → (d.set l' (.file fileMode content)).get? k = some (.directory m) := by
    intro k m hget
    have hne : k ≠ l' := by
      rintro rfl
      cases hadm with
      | create free _ => rw [free] at hget; cases hget
      | rewrite was => rw [was] at hget; cases hget
    rw [get?_set, if_neg hne, hget]
  obtain ⟨above, habove, hget⟩ := h
  exact ⟨above, hkept _ _ habove, hkept _ _ hget⟩

/-- What is there stays of its kind. -/
theorem Admits.isFile_eq {d : Disk} {l : Location} {o old : Object} (h : d.Admits l o) (hget : d.get? l = some old) :
    o.isFile = old.isFile := by
  cases h with
  | create free _ => rw [free] at hget; cases hget
  | rewrite was => rw [was] at hget; cases hget; rfl
  | remode was => rw [was] at hget; cases hget; rfl

/-- The walk to a name that was free goes the same way wherever no link stands at the name. So a file that has just been
made is found again by its path. -/
theorem IsFree.walk_of_carries {d d' : Disk} {p : Path} {parent : Location} {n : List UInt8} {slash : Bool}
    (hfree : d.IsFree .never p parent n slash) (hcarries : d.Carries d')
    (hlink : ∀ target, d'.get? (parent ++ [n]) ≠ some (.link target)) (last : LastLink) :
    d'.walk last p = .ok (.name parent n slash) := by
  obtain ⟨hp, hwalk⟩ := walk_eq_ok_iff.mp hfree.walk
  refine walk_eq_ok_iff.mpr ⟨hp, ?_⟩
  rw [hcarries.workingDirectory]
  refine (hwalk.of_never (fun target hget => ?_) last).carry hcarries fun target hget => absurd hget (hlink target)
  rw [Spot.location, hfree.free] at hget
  cases hget

/-- Whatever stands on a disk stands in a directory, up to the root. -/
structure IsTree (d : Disk) : Prop where
  root : d.isDirectoryAt [] = true
  parent : ∀ l n o, d.get? (l ++ [n]) = some o → d.isDirectoryAt l = true

/-- It is enough to look at every object once. -/
theorem isTree_of_forall_mem {d : Disk} (hroot : d.isDirectoryAt [] = true)
    (h : ∀ entry ∈ d.objects, d.isDirectoryAt entry.1.dropLast = true) : d.IsTree where
  root := hroot
  parent l n o hget := by
    obtain ⟨before, after, hobjects, -⟩ := List.lookup_eq_some_iff.mp hget
    have hdir := h (l ++ [n], o) (by rw [hobjects]; simp)
    rwa [List.dropLast_concat] at hdir

/-- A directory stays a directory. -/
theorem Carries.isDirectoryAt {d d' : Disk} (h : d.Carries d') {l : Location} (hdir : d.isDirectoryAt l = true) :
    d'.isDirectoryAt l = true := by
  obtain ⟨mode, hget⟩ := eq_directory_of_isDirectoryAt hdir
  obtain ⟨mode', hget'⟩ := h.directory l mode hget
  rw [Disk.isDirectoryAt, hget']
  rfl

/-- The disk stays a tree: what is made stands in a directory, and a directory is replaced by a directory only. -/
theorem IsTree.set {d : Disk} {l : Location} {o : Object} (ht : d.IsTree) (h : d.Admits l o) : (d.set l o).IsTree where
  root := h.carries.isDirectoryAt ht.root
  parent l' n o' hget := by
    refine h.carries.isDirectoryAt ?_
    rw [get?_set] at hget
    split at hget
    · next heq =>
      subst heq
      -- the three kinds of change name the location each in its own way
      generalize hl : l' ++ [n] = l at h
      cases h with
      | create _ home =>
          rw [(List.append_inj' hl rfl).1]
          exact home
      | rewrite was => exact ht.parent _ _ _ (hl ▸ was)
      | remode was => exact ht.parent _ _ _ (hl ▸ was)
    · exact ht.parent _ _ _ hget

/-- Nothing lies below what is no directory. Induction on what is below, one name after the other. -/
theorem IsTree.get?_eq_none_of_not_isDirectoryAt {d : Disk} (ht : d.IsTree) {top l : Location}
    (hno : d.isDirectoryAt top = false) (hbelow : isBelow top l = true) : d.get? l = none := by
  obtain ⟨⟨more, rfl⟩, hne⟩ := isBelow_iff.mp hbelow
  clear hbelow
  -- from the top downwards: what is at a location stands in a directory one name nearer to the top
  induction more using List.reverseRecOn with
  | nil => exact absurd (List.append_nil top).symm hne
  | append_singleton more n ih =>
      by_contra hget
      obtain ⟨o, hget⟩ := Option.ne_none_iff_exists'.mp hget
      rw [← List.append_assoc] at hget
      have hdir := ht.parent _ _ _ hget
      by_cases hmore : more = []
      · rw [hmore, List.append_nil, hno] at hdir
        cases hdir
      · rw [isDirectoryAt, ih fun h => hmore (by simpa using h)] at hdir
        cases hdir

theorem IsTree.get?_eq_none_of_isBelow {d : Disk} (ht : d.IsTree) {top l : Location} (hfree : d.get? top = none)
    (hbelow : isBelow top l = true) : d.get? l = none :=
  ht.get?_eq_none_of_not_isDirectoryAt (by rw [isDirectoryAt, hfree]; rfl) hbelow

/-- Links still descend when the object that is set is no link or one that descends. -/
theorem LinksDescend.set {d : Disk} {top l : Location} {o : Object} (h : d.LinksDescend top)
    (ho : ∀ target, o = .link target → target.Descends) : (d.set l o).LinksDescend top := by
  intro l' target hbelow hget
  rw [get?_set] at hget
  split at hget
  · exact ho target (Option.some.inj hget)
  · exact h l' target hbelow hget

end Disk

end Bootstrap
