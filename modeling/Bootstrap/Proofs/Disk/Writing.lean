import Bootstrap.Proofs.Disk.Presence
import Mathlib.Tactic.Common

/-!
# Writing one file

To write a file a path is looked up again and again: to see whether the directory above it is there, to make it and the ones
above that, to open the file, to store its content and to set its mode. Each time links are followed in another manner, and the
disk has changed in between. All the same one file is written and nothing else: `Action.writeFile_changes`.

* `Disk.MadeAbove` — a directory that was made on the way. Before, its path led nowhere; what it inherits from the directory
  above it is the set-group-ID bit, `Disk.AsMade`.
* `Action.ensureParent_makes` — such directories are all that is new before the file is opened.
* `Action.BreaksOff` — once the file is open, only a fault of the device ends the writing. Then this one file may be left with
  the first bytes of the content, or without the mode; `Action.writeFile_cases` says that nothing else can happen.
-/

namespace Bootstrap

namespace Disk

variable {d d' : Disk} {p q : Path} {l : Location}

/-! ## Directories on the way -/

/-- At `l` a directory was made that was missing above `p`. -/
structure MadeAbove (d : Disk) (p : Path) (d' : Disk) (l : Location) : Prop where
  free : d.get? l = none
  /-- Owner and group may use it, and the set-group-ID bit is that of the directory above. -/
  made : d'.AsMade 0o750 l
  /-- The path above `p` led nowhere, and so did the path for which the directory was made. -/
  missing : ∃ parent q, p.parent? = some parent ∧ d.leadsSomewhere parent = false ∧
    q ∈ parent :: parent.parents ∧ d.leadsSomewhere q = false ∧ d'.LeadsTo q l

/-- A path that leads to something new led nowhere before. It would still lead to what it led to, as nothing was
lost. -/
theorem Grows.leadsSomewhere_eq_false (h : d.Grows d') (hleads : d'.LeadsTo q l) (hfree : d.get? l = none) :
    d.leadsSomewhere q = false := by
  cases hthere : d.leadsSomewhere q with
  | false => rfl
  | true =>
      obtain ⟨l', o, hstatus⟩ := exists_of_isOk_find hthere
      have hget := get?_of_find hstatus
      obtain ⟨mode, hstatus'⟩ := hleads
      have hsame : d'.status q = .ok (l', o) := h.find hstatus
      rw [hstatus'] at hsame
      cases hsame
      rw [hfree] at hget
      cases hget

/-- A file that is set elsewhere leaves the directories that were made. -/
theorem MadeAbove.set_file {l' : Location} {mode : Nat} {content : List UInt8} (h : MadeAbove d p d' l)
    (hadm : d'.Admits l' (.file mode content)) : MadeAbove d p (d'.set l' (.file mode content)) l where
  free := h.free
  made := h.made.set_file hadm
  missing := by
    obtain ⟨parent, q, hparent, hmissing, hq, hnowhere, hleads⟩ := h.missing
    exact ⟨parent, q, hparent, hmissing, hq, hnowhere, hleads.carry hadm.carries⟩

/-- Wherever the disks differ, a directory was made that was missing above `p`. -/
def OnlyMakesAbove (d : Disk) (p : Path) (d' : Disk) : Prop := ∀ l, d'.get? l = d.get? l ∨ d.MadeAbove p d' l

/-- With one file set, the disks differ at this file and in the directories above it. -/
theorem OnlyMakesAbove.set_file {l l' : Location} {mode : Nat} {content : List UInt8} (h : d.OnlyMakesAbove p d')
    (hadm : d'.Admits l (.file mode content)) (hne : l' ≠ l) :
    (d'.set l (.file mode content)).get? l' = d.get? l' ∨ d.MadeAbove p (d'.set l (.file mode content)) l' := by
  rcases h l' with hsame | hmade
  · rw [get?_set, if_neg hne]
    exact .inl hsame
  · exact .inr (hmade.set_file hadm)

end Disk

namespace Action

open Effect Disk

variable {d d₁ d' : Disk} {p : Path} {mode : Nat} {content : List UInt8} {faults : Faults}

/-- Whatever becomes of it, `ensureParent` makes directories that are missing above the path and changes nothing else.
Each of them leads somewhere only now, and the same holds of the parent of the path. -/
theorem ensureParent_makes (d : Disk) (p : Path) : d.OnlyMakesAbove p (runFrom (ensureParent p) d).2 := by
  intro l
  unfold ensureParent
  split
  · next parent hparent =>
    rw [runFrom_get_bind]
    split
    · next hmissing =>
      -- only if the parent leads nowhere is anything made, and this is what `MadeAbove` records
      have hnowhere : d.leadsSomewhere parent = false := by simp_all
      rw [runFrom_during]
      have hmakes := onlyMakes_makeDirectoryTree d parent parentMode
      rcases hmakes.get? l with hsame | ⟨hfree, hmade, q, hq, hleads⟩
      · exact .inl hsame
      · exact .inr ⟨hfree, hmade, parent, q, hparent, hnowhere, hq,
          hmakes.grows.leadsSomewhere_eq_false hleads hfree, hleads⟩
    · exact .inl rfl
  · exact .inl rfl

/-- Where a file opens behind `ensureParent`, nothing was before, or the file that is there now. The directories that
were made stand elsewhere. -/
theorem get?_of_ensureParent {parent : Location} {n : List UInt8} {o : Object}
    (hensure : runFrom (ensureParent p) d = (.ok (), d₁)) (hopens : d₁.OpensAt p parent n)
    (hget : d.get? (parent ++ [n]) = some o) : d₁.get? (parent ++ [n]) = some o ∧ o.isFile = true := by
  have hgrows : d.Grows d₁ := keeps_ensureParent_grows.of_runFrom hensure (.refl d)
  have hget₁ := hgrows.get? _ o hget
  refine ⟨hget₁, ?_⟩
  rw [← (hopens.admits 0 []).isFile_eq hget₁]
  rfl

/-- **What writing a file does.** Its path leads to a file with the content and the mode. Where this file stands there was
nothing or a file. Everywhere else the disk is as before, but for directories that were missing above the path. -/
theorem writeFile_eq_ok (h : runFrom (writeFile p content mode faults) d = (.ok (), d')) :
    ∃ l, d'.status p = .ok (l, .file (mode &&& 0o7777) content) ∧ (∀ old, d.get? l = some old → old.isFile = true) ∧
      ∀ l', l' ≠ l → d'.get? l' = d.get? l' ∨ d.MadeAbove p d' l' := by
  obtain ⟨⟨⟩, d₁, hensure, -⟩ := exists_of_runFrom_bind h
  have hmakes := ensureParent_makes d p
  rw [hensure] at hmakes
  -- of the three ways in which writing ends only one is without a failure
  obtain ⟨c, hfails⟩ | ⟨parent, n, hopens, hwritten | ⟨e, left, fileMode, -, -, hfails⟩⟩ :=
    writeFile_cases hensure content mode faults
  · rw [hfails] at h
    cases h
  · rw [hwritten] at h
    cases h
    exact ⟨parent ++ [n], hopens.status_set _ _, fun old hold => (get?_of_ensureParent hensure hopens hold).2,
      fun l' hne => hmakes.set_file (hopens.admits _ _) hne⟩
  · rw [hfails] at h
    cases h

/-- Whether a file was free when it was opened, and the mode it had otherwise, can be said of the disk in front of
`ensureParent`: the directories that were made on the way are elsewhere. -/
theorem mode_of_ensureParent {parent : Location} {n : List UInt8} {fileMode : Nat}
    (hensure : runFrom (ensureParent p) d = (.ok (), d₁)) (hopens : d₁.OpensAt p parent n)
    (hmode : d₁.get? (parent ++ [n]) = none ∧ fileMode = newFileMode mode ∨
      ∃ old, d₁.get? (parent ++ [n]) = some (.file fileMode old)) :
    d.get? (parent ++ [n]) = none ∧ fileMode = newFileMode mode ∨
      ∃ old, d.get? (parent ++ [n]) = some (.file fileMode old) := by
  have hmakes := ensureParent_makes d p
  rw [hensure] at hmakes
  cases hold : d.get? (parent ++ [n]) with
  | none =>
      rcases hmode with ⟨-, hmode⟩ | ⟨old, hget₁⟩
      · exact .inl ⟨rfl, hmode⟩
      · -- a file is none of the directories that were made
        rcases hmakes (parent ++ [n]) with hsame | hmade
        · rw [hget₁, hold] at hsame
          cases hsame
        · obtain ⟨_, _, hdir⟩ := hmade.made
          rw [hget₁] at hdir
          cases hdir
  | some old =>
      obtain ⟨hget₁, -⟩ := get?_of_ensureParent hensure hopens hold
      rcases hmode with ⟨hfree, -⟩ | ⟨content', hfile⟩
      · rw [hget₁] at hfree
        cases hfree
      · rw [hget₁] at hfile
        cases hfile
        exact .inr ⟨content', rfl⟩

/-- **What a failure to write a file leaves.** Directories that were missing above the path are all that is new; unless the
file was opened and the device broke off. Then the path leads to this file, with as much of the content as the failure tells;
its mode is as before, or that of a new file. -/
theorem writeFile_eq_error {e : Failure} (h : runFrom (writeFile p content mode faults) d = (.error e, d')) :
    d.OnlyMakesAbove p d' ∨
      ∃ l left fileMode, BreaksOff faults p content mode e left ∧ d'.status p = .ok (l, .file fileMode left) ∧
        (d.get? l = none ∧ fileMode = newFileMode mode ∨ ∃ old, d.get? l = some (.file fileMode old)) ∧
        ∀ l', l' ≠ l → d'.get? l' = d.get? l' ∨ d.MadeAbove p d' l' := by
  have hmakes := ensureParent_makes d p
  rcases hensure : runFrom (ensureParent p) d with ⟨e' | ⟨⟩, d₁⟩
  · rw [writeFile, runFrom_bind_error hensure] at h
    cases h
    rw [hensure] at hmakes
    exact .inl hmakes
  · rw [hensure] at hmakes
    obtain ⟨c, hfails⟩ | ⟨parent, n, hopens, hwritten | ⟨e', left, fileMode, hbreaks, hmode, hfails⟩⟩ :=
      writeFile_cases hensure content mode faults
    · rw [hfails] at h
      cases h
      exact .inl hmakes
    · rw [hwritten] at h
      cases h
    · rw [hfails] at h
      cases h
      exact .inr ⟨parent ++ [n], left, fileMode, hbreaks, hopens.status_set _ _, mode_of_ensureParent hensure hopens hmode,
        fun l' hne => hmakes.set_file (hopens.admits _ _) hne⟩

/-- **Writing changes one file, on every device.** If it succeeds, the path leads to a file with the content and the permission
bits of the mode. Where this file stands there was nothing or a file. Everywhere else the disk is as before, but for
directories that were missing above the path: they have mode 750, with the set-group-ID bit of the directory above. If it fails,
these are all that is new and no file has changed, unless the device broke off after the file was opened; then this file is the
only one that has. -/
theorem writeFile_changes (d : Disk) (p : Path) (content : List UInt8) (mode : Nat) (faults : Faults) :
    (∀ d', runFrom (writeFile p content mode faults) d = (.ok (), d') →
      ∃ l fileMode, d'.readFile p = .ok content ∧ d'.status p = .ok (l, .file fileMode content) ∧
        fileMode = mode &&& 0o7777 ∧ (mode ≤ 0o7777 → fileMode = mode) ∧
        (∀ old, d.get? l = some old → old.isFile = true) ∧
        ∀ l', l' ≠ l → d'.get? l' = d.get? l' ∨ d.MadeAbove p d' l') ∧
    ∀ e d', runFrom (writeFile p content mode faults) d = (.error e, d') →
      (∀ l, d'.get? l = d.get? l ∨ d.MadeAbove p d' l) ∨
        ∃ l left fileMode, BreaksOff faults p content mode e left ∧ d'.status p = .ok (l, .file fileMode left) ∧
          (d.get? l = none ∧ fileMode = newFileMode mode ∨ ∃ old, d.get? l = some (.file fileMode old)) ∧
          ∀ l', l' ≠ l → d'.get? l' = d.get? l' ∨ d.MadeAbove p d' l' := by
  constructor
  · intro d' hwrite
    obtain ⟨l, hstatus, hold, hothers⟩ := writeFile_eq_ok hwrite
    have hmode : mode ≤ 0o7777 → mode &&& 0o7777 = mode := fun hle =>
      Nat.and_two_pow_sub_one_of_lt_two_pow (n := 12) (Nat.lt_succ_of_le hle)
    exact ⟨l, mode &&& 0o7777, readFile_of_status hstatus, hstatus, rfl, hmode, hold, hothers⟩
  · intro e d' hwrite
    exact writeFile_eq_error hwrite

/-- A link in the directory `w` that leads nowhere yet. -/
def danglingDisk : Disk where
  workingDirectory := []
  objects := [([], .directory 0o755), ([Text.encode "w"], .directory 0o755),
    ([Text.encode "w", Text.encode "out"], .link (.ofText "far"))]

/-- A device with room for so many bytes of each content. -/
def roomFor (room : Nat) : Faults where
  store? _ _ content := if room < content.length then some (room, .noSpace) else none
  setMode? _ _ _ := none

/-- The directory that the first path turns back from is missing, and its last name is the link; the second path asks for a
directory, so the one above it is made in vain; the third content has no room. -/
theorem writeFile_changes_danglingDisk :
    (runFrom (writeFile (.ofText "/w/gone/../out") [0x78] 0o640) danglingDisk =
        (.ok (), (danglingDisk.set [Text.encode "w", Text.encode "gone"] (.directory 0o750)).set
          [Text.encode "w", Text.encode "far"] (.file 0o640 [0x78])) ∧
      runFrom (writeFile (.ofText "/a/b/") [0x78] 0o640) danglingDisk =
        (.error ⟨[.openFile (.ofText "/a/b/")], .system .isDirectory⟩,
          danglingDisk.set [Text.encode "a"] (.directory 0o750)) ∧
      runFrom (writeFile (.ofText "/w/out") [0x78, 0x79] 0o640 (roomFor 1)) danglingDisk =
        (.error ⟨[.writeFile (.ofText "/w/out")], .system .noSpace⟩,
          danglingDisk.set [Text.encode "w", Text.encode "far"] (.file 0o640 [0x78]))) ∧
    (∃ l fileMode, ((danglingDisk.set [Text.encode "w", Text.encode "gone"] (.directory 0o750)).set
        [Text.encode "w", Text.encode "far"] (.file 0o640 [0x78])).status (.ofText "/w/gone/../out") =
          .ok (l, .file fileMode [0x78]) ∧ fileMode = 0o640) ∧
      danglingDisk.MadeAbove (.ofText "/a/b/") (danglingDisk.set [Text.encode "a"] (.directory 0o750))
        [Text.encode "a"] ∧
      ∃ l left fileMode, (danglingDisk.set [Text.encode "w", Text.encode "far"] (.file 0o640 [0x78])).status
        (.ofText "/w/out") = .ok (l, .file fileMode left) ∧ ∀ l', l' ≠ l →
          (danglingDisk.set [Text.encode "w", Text.encode "far"] (.file 0o640 [0x78])).get? l' = danglingDisk.get? l' ∨
            danglingDisk.MadeAbove (.ofText "/w/out")
              (danglingDisk.set [Text.encode "w", Text.encode "far"] (.file 0o640 [0x78])) l' := by
  have hwritten : runFrom (writeFile (.ofText "/w/gone/../out") [0x78] 0o640) danglingDisk =
      (.ok (), (danglingDisk.set [Text.encode "w", Text.encode "gone"] (.directory 0o750)).set
        [Text.encode "w", Text.encode "far"] (.file 0o640 [0x78])) := by decide +kernel
  have hrefused : runFrom (writeFile (.ofText "/a/b/") [0x78] 0o640) danglingDisk =
      (.error ⟨[.openFile (.ofText "/a/b/")], .system .isDirectory⟩,
        danglingDisk.set [Text.encode "a"] (.directory 0o750)) := by decide +kernel
  have hfull : runFrom (writeFile (.ofText "/w/out") [0x78, 0x79] 0o640 (roomFor 1)) danglingDisk =
      (.error ⟨[.writeFile (.ofText "/w/out")], .system .noSpace⟩,
        danglingDisk.set [Text.encode "w", Text.encode "far"] (.file 0o640 [0x78])) := by decide +kernel
  obtain ⟨l, fileMode, -, hstatus, -, hmode, -⟩ := (writeFile_changes _ _ _ _ _).1 _ hwritten
  refine ⟨⟨hwritten, hrefused, hfull⟩, ⟨l, fileMode, hstatus, hmode (by decide)⟩, ?_, ?_⟩
  · rcases (writeFile_changes _ _ _ _ _).2 _ _ hrefused with hnone | ⟨_, _, _, hbreaks, -⟩
    · exact (hnone [Text.encode "a"]).resolve_left (by decide)
    · exact hbreaks.elim_none.elim
  · rcases (writeFile_changes _ _ _ _ _).2 _ _ hfull with hnone | ⟨l, left, fileMode, -, hstatus, -, hothers⟩
    · -- the file is new
      rcases hnone [Text.encode "w", Text.encode "far"] with hsame | ⟨-, ⟨_, _, hdir⟩, -⟩
      · exact absurd hsame (by decide)
      · cases hdir
    · exact ⟨l, left, fileMode, hstatus, hothers⟩

/-- A directory with the set-group-ID bit. -/
def groupDisk : Disk where
  workingDirectory := []
  objects := [([], .directory 0o755), ([Text.encode "ws"], .directory 0o2755)]

/-- A directory that is missing above a file is not made with mode 750 where the directory above has the set-group-ID bit. -/
theorem writeFile_inherits_groupDisk :
    ∃ d', runFrom (writeFile (.ofText "/ws/a/f") [0x78] 0o640) groupDisk = (.ok (), d') ∧
      groupDisk.get? [Text.encode "ws", Text.encode "a"] = none ∧
      d'.get? [Text.encode "ws", Text.encode "a"] = some (.directory 0o2750) := by
  have hwritten : runFrom (writeFile (.ofText "/ws/a/f") [0x78] 0o640) groupDisk =
      (.ok (), (groupDisk.set [Text.encode "ws", Text.encode "a"] (.directory 0o2750)).set
        [Text.encode "ws", Text.encode "a", Text.encode "f"] (.file 0o640 [0x78])) := by decide +kernel
  exact ⟨_, hwritten, by decide, by decide⟩

end Action

end Bootstrap
