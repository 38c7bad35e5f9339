import Bootstrap.Disk.Files
import Bootstrap.Proofs.Disk.Change
import Bootstrap.Proofs.Effect

/-!
# Files that are open

A file is written in three steps, each of which looks its path up: it is opened and emptied, its content is stored, its mode
is set. All three reach one file. The first step ends at a name where a file may be, `Disk.OpensAt`; with a file there, be its
mode and its content what they may, the walks of the others end at the same name.

* `Disk.exists_of_putFile`, `Disk.IsFree.opensAt` — a file that was opened or newly made is open in this sense.
* `Action.runFrom_fillFile` — what becomes of an open file, *for every way in which the device breaks off*: storing the content
  and setting the mode never fail for a reason that lies with the path.
* `Action.BreaksOff` — the failures that this leaves, and of each the content that the file is left with.
-/

namespace Bootstrap

namespace Disk

variable {d d' : Disk} {p : Path} {parent : Location} {n : List UInt8} {mode : Nat} {content : List UInt8}

/-- A walk that follows a last link unless a slash stands behind it ends without a slash only if it met none. So it is
the walk that follows every link, which is how a mode is set. -/
theorem WalksTo.always_of_unlessSlash {links : Nat} {current : Location} {names : List (List UInt8)} {slash : Bool}
    (h : WalksTo d .unlessSlash links current names slash (.name parent n false)) :
    WalksTo d .always links current names slash (.name parent n false) := by
  generalize hspot : Spot.name parent n false = spot at h
  induction h with
  | nil => cases hspot
  | dot => cases hspot
  | dotDot => cases hspot
  | name links current slash hn hlink =>
      cases hspot
      -- without a slash the link would have been followed
      exact .name _ _ _ hn fun target hget => absurd (hlink target hget) (by decide)
  | passDot hrest _ ih => exact .passDot hrest (ih hspot)
  | passDotDot hrest _ ih => exact .passDotDot hrest (ih hspot)
  | pass hn hrest hdir _ ih => exact .pass hn hrest hdir (ih hspot)
  | follow hn hget _ _ ih => exact .follow hn hget (fun _ => rfl) (ih hspot)

/-- To write a file, a path is followed to a name at which a file is, or nothing yet in a directory. -/
structure OpensAt (d : Disk) (p : Path) (parent : Location) (n : List UInt8) : Prop where
  walk : d.walk .unlessSlash p = .ok (.name parent n false)
  admits : ∀ mode content, d.Admits (parent ++ [n]) (.file mode content)

/-- A name that is free opens by a path that ends in it. -/
theorem IsFree.opensAt (h : d.IsFree .never p parent n false) : d.OpensAt p parent n where
  walk := by
    refine h.walk_of_carries ⟨rfl, fun _ mode hget => ⟨mode, hget⟩, fun _ _ hget => hget⟩ (fun target hget => ?_) _
    rw [h.free] at hget
    cases hget
  admits _ _ := h.admits _

/-- A file is put where one may be. Only a new one gets a new mode. -/
theorem exists_of_putFile (h : d.putFile p mode content = .ok d') :
    ∃ parent n fileMode, d.OpensAt p parent n ∧ d' = d.set (parent ++ [n]) (.file fileMode content) ∧
      (d.get? (parent ++ [n]) = none ∧ fileMode = newFileMode mode ∨
        ∃ old, d.get? (parent ++ [n]) = some (.file fileMode old)) := by
  obtain ⟨parent, n, ⟨hfree, rfl⟩ | ⟨oldMode, old, hwalk, hget, rfl⟩⟩ := putFile_eq_ok h
  · exact ⟨parent, n, _, ⟨hfree.walk, fun _ _ => hfree.admits _⟩, rfl, .inl ⟨hfree.free, rfl⟩⟩
  · exact ⟨parent, n, oldMode, ⟨hwalk, fun _ _ => .rewrite hget⟩, rfl, .inr ⟨old, hget⟩⟩

namespace OpensAt

/-- With a file where it ends, a walk goes the same way, whether it is the one that opens the file or the one that sets
its mode. -/
theorem walk_set (h : d.OpensAt p parent n) (mode : Nat) (content : List UInt8) :
    (d.set (parent ++ [n]) (.file mode content)).walk .unlessSlash p = .ok (.name parent n false) ∧
      (d.set (parent ++ [n]) (.file mode content)).walk .always p = .ok (.name parent n false) := by
  obtain ⟨hp, hwalk⟩ := walk_eq_ok_iff.mp h.walk
  have hnolink : ∀ target,
      (d.set (parent ++ [n]) (.file mode content)).get? (Spot.name parent n false).location ≠ some (.link target) := by
    intro target hlink
    rw [Spot.location, get?_set, if_pos rfl] at hlink
    cases hlink
  have hcarries := (h.admits mode content).carries
  exact ⟨walk_eq_ok_iff.mpr ⟨hp, hwalk.carry hcarries fun target hlink => absurd hlink (hnolink target)⟩,
    walk_eq_ok_iff.mpr ⟨hp, hwalk.always_of_unlessSlash.carry hcarries fun target hlink => absurd hlink (hnolink target)⟩⟩

/-- What is put at the path of an open file is put into it, and its mode stays. -/
theorem putFile_set (h : d.OpensAt p parent n) (fileMode : Nat) (old : List UInt8) :
    (d.set (parent ++ [n]) (.file fileMode old)).putFile p mode content =
      .ok (d.set (parent ++ [n]) (.file fileMode content)) := by
  simp only [putFile, (h.walk_set fileMode old).1, bind, Except.bind, get?_set, if_true, set_set]

theorem status_set (h : d.OpensAt p parent n) (fileMode : Nat) (content : List UInt8) :
    (d.set (parent ++ [n]) (.file fileMode content)).status p = .ok (parent ++ [n], .file fileMode content) := by
  simp only [status, find, (h.walk_set fileMode content).2, bind, Except.bind, Spot.location, get?_set, if_true]

theorem setMode_set (h : d.OpensAt p parent n) (fileMode mode : Nat) (content : List UInt8) :
    (d.set (parent ++ [n]) (.file fileMode content)).setMode p mode =
      .ok (d.set (parent ++ [n]) (.file (mode &&& 0o7777) content)) := by
  simp only [setMode, h.status_set, bind, Except.bind, set_set]

end OpensAt

end Disk

namespace Action

open Effect Disk

variable {d d' : Disk} {p : Path} {parent : Location} {n : List UInt8} {mode : Nat} {content : List UInt8} {faults : Faults}

/-! ## The last two steps -/

/-- Setting a mode either meets a fault of the device or is the change that the disk makes of it. -/
theorem runFrom_pinMode (d : Disk) :
    runFrom (pinMode p mode faults) d =
      match faults.setMode? d p mode with
      | some errno => (.error ⟨[.setPermissions p], .system errno⟩, d)
      | none => runFrom (during (.setPermissions p) (change (·.setMode p mode))) d := by
  rw [pinMode, runFrom_during, runFrom_get_bind]
  cases faults.setMode? d p mode with
  | some errno => rfl
  | none => rw [runFrom_during]

/-- A mode that is set without faults is set by one change of the disk. -/
theorem pinMode_none (p : Path) (mode : Nat) :
    pinMode p mode = during (.setPermissions p) (change (·.setMode p mode)) := rfl

/-- A content that is stored without faults is stored by one change of the disk. -/
theorem storeContent_none (p : Path) (content : List UInt8) (mode : Nat) :
    storeContent p content mode = during (.writeFile p) (change (·.putFile p mode content)) := rfl

/-- A mode is set by one change of the disk, or nothing changes and it is a failure. Invariants need no more than
this. -/
theorem pinMode_cases (d : Disk) (p : Path) (mode : Nat) (faults : Faults) :
    (∃ d', d.setMode p mode = .ok d' ∧ runFrom (pinMode p mode faults) d = (.ok (), d')) ∨
      ∃ e, runFrom (pinMode p mode faults) d = (.error e, d) := by
  rw [runFrom_pinMode]
  split
  · exact .inr ⟨_, rfl⟩
  · rw [runFrom_during, runFrom_change]
    cases hset : d.setMode p mode with
    | ok d' => exact .inl ⟨d', rfl, rfl⟩
    | error c => exact .inr ⟨_, rfl⟩

/-- A mode that was pinned without a failure was set. -/
theorem setMode_of_pinMode (h : runFrom (pinMode p mode faults) d = (.ok (), d')) : d.setMode p mode = .ok d' := by
  obtain ⟨d₁, hset, hrun⟩ | ⟨e, hrun⟩ := pinMode_cases d p mode faults
  · rw [hrun] at h
    cases h
    exact hset
  · rw [hrun] at h
    cases h

/-- **What becomes of an open file.** It has the content and the mode; or storing the content breaks off, and it has the first
bytes of it; or setting the mode breaks off, and it keeps the one it has. -/
theorem runFrom_fillFile (h : d.OpensAt p parent n) (fileMode : Nat) :
    runFrom (fillFile p content mode faults) (d.set (parent ++ [n]) (.file fileMode [])) =
      match faults.store? (d.set (parent ++ [n]) (.file fileMode [])) p content with
      | some (stored, errno) =>
          (.error ⟨[.writeFile p], .system errno⟩, d.set (parent ++ [n]) (.file fileMode (content.take stored)))
      | none =>
          match faults.setMode? (d.set (parent ++ [n]) (.file fileMode content)) p mode with
          | some errno => (.error ⟨[.setPermissions p], .system errno⟩, d.set (parent ++ [n]) (.file fileMode content))
          | none => (.ok (), d.set (parent ++ [n]) (.file (mode &&& 0o7777) content)) := by
  rw [fillFile]
  cases hstore : faults.store? (d.set (parent ++ [n]) (.file fileMode [])) p content with
  | some fault =>
      obtain ⟨stored, errno⟩ := fault
      refine runFrom_bind_error ?_ _
      rw [storeContent, runFrom_during, runFrom_get_bind, hstore]
      simp only [runFrom_bind, runFrom_change, h.putFile_set, runFrom_throw]
      rfl
  | none =>
      have hstored : runFrom (storeContent p content mode faults) (d.set (parent ++ [n]) (.file fileMode [])) =
          (.ok (), d.set (parent ++ [n]) (.file fileMode content)) := by
        rw [storeContent, runFrom_during, runFrom_get_bind, hstore]
        simp only [runFrom_change, h.putFile_set]
        rfl
      rw [runFrom_bind_ok hstored, runFrom_pinMode, runFrom_during, runFrom_change, h.setMode_set]
      rfl

/-- The failures of writing an open file: the device breaks off, in one of two places. The file is left with the first bytes
of the content, or with all of it. -/
inductive BreaksOff (faults : Faults) (p : Path) (content : List UInt8) (mode : Nat) : Failure → List UInt8 → Prop where
  | storing {d : Disk} {stored : Nat} {errno : Errno} (fault : faults.store? d p content = some (stored, errno)) :
      BreaksOff faults p content mode ⟨[.writeFile p], .system errno⟩ (content.take stored)
  | settingMode {d : Disk} {errno : Errno} (fault : faults.setMode? d p mode = some errno) :
      BreaksOff faults p content mode ⟨[.setPermissions p], .system errno⟩ content

theorem BreaksOff.elim_none {e : Failure} {left : List UInt8} (h : BreaksOff .none p content mode e left) : False := by
  cases h with
  | storing fault => cases fault
  | settingMode fault => cases fault

/-- An open file is written, or writing it breaks off. Nothing but the file is touched in any case, which is what most
proofs need of `runFrom_fillFile`. -/
theorem fillFile_cases (h : d.OpensAt p parent n) (fileMode : Nat) (content : List UInt8) (mode : Nat) (faults : Faults) :
    runFrom (fillFile p content mode faults) (d.set (parent ++ [n]) (.file fileMode [])) =
        (.ok (), d.set (parent ++ [n]) (.file (mode &&& 0o7777) content)) ∨
      ∃ e left, BreaksOff faults p content mode e left ∧
        runFrom (fillFile p content mode faults) (d.set (parent ++ [n]) (.file fileMode [])) =
          (.error e, d.set (parent ++ [n]) (.file fileMode left)) := by
  rw [runFrom_fillFile h]
  split
  · next stored errno fault => exact .inr ⟨_, _, .storing fault, rfl⟩
  · split
    · next errno fault => exact .inr ⟨_, _, .settingMode fault, rfl⟩
    · exact .inl rfl

/-- Without faults an open file is written. -/
theorem runFrom_fillFile_none (h : d.OpensAt p parent n) (fileMode : Nat) (content : List UInt8) (mode : Nat) :
    runFrom (fillFile p content mode) (d.set (parent ++ [n]) (.file fileMode [])) =
      (.ok (), d.set (parent ++ [n]) (.file (mode &&& 0o7777) content)) := by
  obtain hwritten | ⟨e, left, hbreaks, -⟩ := fillFile_cases h fileMode content mode .none
  · exact hwritten
  · exact hbreaks.elim_none.elim

/-! ## Writing a file -/

/-- **How a file is written** behind `ensureParent`: it cannot be opened, and nothing is changed; or it is opened and written; or
it is opened, and writing it breaks off. -/
theorem writeFile_cases (h : runFrom (ensureParent p) d = (.ok (), d')) (content : List UInt8) (mode : Nat)
    (faults : Faults) :
    (∃ c, runFrom (writeFile p content mode faults) d = (.error ⟨[.openFile p], c⟩, d')) ∨
      ∃ parent n, d'.OpensAt p parent n ∧
        (runFrom (writeFile p content mode faults) d =
            (.ok (), d'.set (parent ++ [n]) (.file (mode &&& 0o7777) content)) ∨
          ∃ e left fileMode, BreaksOff faults p content mode e left ∧
            (d'.get? (parent ++ [n]) = none ∧ fileMode = newFileMode mode ∨
              ∃ old, d'.get? (parent ++ [n]) = some (.file fileMode old)) ∧
            runFrom (writeFile p content mode faults) d =
              (.error e, d'.set (parent ++ [n]) (.file fileMode left))) := by
  rw [writeFile, runFrom_bind_ok h]
  cases hput : d'.putFile p mode [] with
  | error c =>
      refine .inl ⟨c, runFrom_bind_error ?_ _⟩
      rw [runFrom_during, runFrom_change, hput]
      rfl
  | ok d₁ =>
      obtain ⟨parent, n, fileMode, hopens, rfl, hmode⟩ := exists_of_putFile hput
      have hopen : runFrom (during (.openFile p) (change (·.putFile p mode []))) d' =
          (.ok (), d'.set (parent ++ [n]) (.file fileMode [])) :=
        runFrom_during_eq_ok.mpr (runFrom_change_eq_ok.mpr hput)
      refine .inr ⟨parent, n, hopens, ?_⟩
      rw [runFrom_bind_ok hopen]
      rcases fillFile_cases hopens fileMode content mode faults with hwritten | ⟨e, left, hbreaks, hfails⟩
      · exact .inl hwritten
      · exact .inr ⟨e, left, fileMode, hbreaks, hmode, hfails⟩

end Action

end Bootstrap
