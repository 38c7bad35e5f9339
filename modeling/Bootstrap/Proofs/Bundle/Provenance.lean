import Bootstrap.Bundle.Extract
import Bootstrap.Proofs.Bundle.Extraction
import Bootstrap.Proofs.Bundle.Placement
import Bootstrap.Proofs.Disk.Writing
import Bootstrap.Proofs.Tar.RoundTrip
import Mathlib.Tactic.Common

/-!
# Where everything extracted comes from

Whatever an extraction leaves behind comes from one member of the bundle, and as a whole: `Bundle.IsSource` says which objects
a bundle is the source of. `Bundle.Sourced` is the invariant that every written member keeps: what stands below the destination
comes from the bundle. The destination belongs to it, since the directories that are made in it inherit its set-group-ID bit.

* `Bundle.ends_extract` — any bundle on any device, be it that the archive breaks off in the middle of a member. Only when the
  device breaks off in the middle of a write, one file is left with the first bytes of a member, `Bundle.BrokenOff`.
* `Bundle.extract_provenance` — what this says of an empty destination.
-/

namespace Bootstrap.Bundle

open Effect Disk

/-- The objects that come from a bundle. Directories may have been made on the way to a member; if the destination is `grouped`,
that is, if it had the set-group-ID bit, they may have the bit too. -/
inductive IsSource (b : Bundle) (grouped : Bool) : Object → Prop where
  | directory : IsSource b grouped (.directory 0o750)
  | inherited (bit : grouped = true) : IsSource b grouped (.directory 0o2750)
  | file {m : Tar.Member} (mem : m ∈ b.archive.members) (kind : m.kind = .file) (whole : m.data.length = m.size) :
      IsSource b grouped (.file 0o640 m.data)
  | link {m : Tar.Member} {target : Path} (mem : m ∈ b.archive.members) (kind : m.kind = .link)
      (link : m.link = some target) : IsSource b grouped (.link (inner target))

/-- What may be put at a location: a directory at the destination, something from the bundle below it, anything elsewhere. -/
structure Fits (b : Bundle) (grouped : Bool) (top l : Location) (o : Object) : Prop where
  destination : l = top → ∃ mode, o = .directory mode ∧ (mode.testBit 10 = true → grouped = true)
  below : isBelow top l = true → b.IsSource grouped o

/-- Whatever stands below the destination comes from the bundle. -/
structure Sourced (b : Bundle) (grouped : Bool) (top : Location) (d : Disk) : Prop where
  destination : ∃ mode, d.get? top = some (.directory mode) ∧ (mode.testBit 10 = true → grouped = true)
  below : ∀ l o, isBelow top l = true → d.get? l = some o → b.IsSource grouped o

/-- A write broke off: one file below the destination holds the first bytes of a member, and the failure tells of it. All the
rest comes from the bundle. -/
def BrokenOff (b : Bundle) (grouped : Bool) (dest : Path) (top : Location) (faults : Faults) (e : Failure) (d : Disk) :
    Prop :=
  ∃ m l stored errno, m ∈ b.archive.members ∧ m.kind = .file ∧ m.data.length = m.size ∧
    (∃ d₁, faults.store? d₁ (dest.join (inner m.name)) m.data = some (stored, errno)) ∧
    e = ⟨[.writeFile (dest.join (inner m.name))], .system errno⟩ ∧
    isBelow top l = true ∧ d.get? l = some (.file 0o640 (m.data.take stored)) ∧
    ∀ l' o, isBelow top l' = true → l' ≠ l → d.get? l' = some o → b.IsSource grouped o

variable {b : Bundle} {grouped : Bool} {top : Location} {d d' : Disk} {dest p : Path} {adhoc : Bool} {faults : Faults}

theorem BrokenOff.elim_none {e : Failure} (h : BrokenOff b grouped dest top .none e d) : False := by
  obtain ⟨_, _, _, _, -, -, -, ⟨_, hfault⟩, -⟩ := h
  cases hfault

/-! ## One change -/

namespace Sourced

/-- One change of the disk: what is set below the destination comes from the bundle, and the destination stays a
directory. -/
theorem set {l : Location} {o : Object} (h : Sourced b grouped top d) (ho : Fits b grouped top l o) :
    Sourced b grouped top (d.set l o) where
  destination := by
    rw [get?_set]
    split
    · next heq =>
      obtain ⟨mode, rfl, hbit⟩ := ho.destination heq.symm
      exact ⟨mode, rfl, hbit⟩
    · exact h.destination
  below l' o' hbelow hget := by
    rw [get?_set] at hget
    split at hget
    · next heq =>
      -- at the location itself stands the new object, elsewhere what stood there
      cases hget
      exact ho.below (heq ▸ hbelow)
    · exact h.below l' o' hbelow hget

/-- The bit of a directory at or below the destination is that of the destination. Directories get it only by
inheriting. -/
theorem grouped_of_testBit {l : Location} {mode : Nat} (h : Sourced b grouped top d) (hl : top <+: l)
    (hget : d.get? l = some (.directory mode)) (hbit : mode.testBit 10 = true) : grouped = true := by
  by_cases heq : l = top
  · obtain ⟨mode', hget', hmode⟩ := h.destination
    rw [heq, hget'] at hget
    cases hget
    exact hmode hbit
  · cases h.below l _ (isBelow_iff.mpr ⟨hl, fun h => heq h.symm⟩) hget with
    | directory => exact absurd hbit (by decide)
    | inherited h => exact h

/-- A new object has no place at the destination itself. -/
theorem fits_of_free {l : Location} {o : Object} (h : Sourced b grouped top d) (hfree : d.get? l = none)
    (ho : isBelow top l = true → b.IsSource grouped o) : Fits b grouped top l o where
  destination heq := by
    obtain ⟨mode, hget, -⟩ := h.destination
    rw [heq, hget] at hfree
    cases hfree
  below := ho

/-- A file may be set where one is open: that place is no directory, so neither the destination nor the bit of any
directory is touched. -/
theorem fits_of_opensAt {parent : Location} {n : List UInt8} {mode : Nat} {content : List UInt8}
    (h : Sourced b grouped top d) (hopens : d.OpensAt p parent n)
    (ho : isBelow top (parent ++ [n]) = true → b.IsSource grouped (.file mode content)) :
    Fits b grouped top (parent ++ [n]) (.file mode content) where
  destination heq := by
    obtain ⟨mode', hget, -⟩ := h.destination
    have hfile := (hopens.admits mode content).isFile_eq (heq ▸ hget)
    cases hfile
  below := ho

/-- A directory that is missing above a place inherits from the one above it, which is the destination or below it. So
it has the bit only if the destination has it. -/
theorem makeDirectory (d d' : Disk) (h : Sourced b grouped top d) (hmake : d.makeDirectory p parentMode = .ok d') :
    Sourced b grouped top d' := by
  obtain ⟨parent, n, slash, hfree, rfl⟩ := makeDirectory_eq_ok hmake
  refine h.set (h.fits_of_free hfree.free fun hbelow => ?_)
  obtain ⟨above, hparent⟩ := eq_directory_of_isDirectoryAt hfree.home
  have hwithin : top <+: parent := by
    obtain ⟨hpre, hne⟩ := isBelow_iff.mp hbelow
    exact (List.prefix_concat_iff.mp hpre).resolve_left hne
  rw [modeAt_of_get? hparent, newDirectoryMode_eq]
  split
  · next hbit => exact .inherited (h.grouped_of_testBit hwithin hparent hbit)
  · exact .directory

/-- A link is put under a free name below the destination. -/
theorem addLink {target : Path} (hsource : b.IsSource grouped (.link target)) (d d' : Disk)
    (h : Sourced b grouped top d) (hadd : d.addLink p target = .ok d') : Sourced b grouped top d' := by
  obtain ⟨parent, n, hfree, rfl⟩ := addLink_eq_ok hadd
  exact h.set (h.fits_of_free hfree.free fun _ => hsource)

end Sourced

/-! ## One member -/

/-- Directories are made with the mode of the bundle, and with the bit that they take over from the directory above. The
mode that is set at the end clears the bit again. -/
theorem keeps_createDirectory_sourced : Keeps (Sourced b grouped top) (Action.createDirectory p directoryMode faults) := by
  have htree : Keeps (Sourced b grouped top) (Action.makeDirectoryTree p directoryMode) :=
    Action.keeps_makeDirectoryTree fun _ _ => Sourced.makeDirectory
  intro d hd
  have hmade := htree d hd
  rw [Action.createDirectory, Effect.runFrom_bind, runFrom_during]
  rcases hrun : runFrom (Action.makeDirectoryTree p directoryMode) d with ⟨e | u, d₁⟩
  · rwa [hrun] at hmade
  · rw [hrun] at hmade
    show Sourced b grouped top (runFrom (Action.pinMode p directoryMode faults) d₁).2
    rcases Action.pinMode_cases d₁ p directoryMode faults with ⟨d₂, hset, hpin⟩ | ⟨e, hpin⟩
    · -- the mode is set of a directory, which loses the bit
      obtain ⟨l, old, -, rfl⟩ := Action.setMode_of_makeDirectories hrun hset
      rw [hpin]
      exact hmade.set ⟨fun _ => ⟨_, rfl, fun hbit => absurd hbit (by decide)⟩, fun _ => .directory⟩
    · rwa [hpin]

/-- The directories above a link come first, and then the link. -/
theorem keeps_placeLink_sourced {target : Path} (hsource : b.IsSource grouped (.link target)) :
    Keeps (Sourced b grouped top) (placeLink p target faults) :=
  keeps_placeLink (fun _ _ d hd _ => keeps_createDirectory_sourced d hd) (Action.keeps_createLink (Sourced.addLink hsource))

/-- Where a write of whole data breaks off, one file is left with a beginning of the data. If all of it was stored and only
the mode could not be set, the file is as it should be, for it was made with this mode or had it before. -/
theorem sourced_or_brokenOff {m : Tar.Member} {parent : Location} {n left : List UInt8} {e : Failure} {mode : Nat}
    (h : Sourced b grouped top d) (hm : m ∈ b.archive.members) (hkind : m.kind = .file)
    (hwhole : m.data.length = m.size) (hopens : d.OpensAt (dest.join (inner m.name)) parent n)
    (hbreaks : Action.BreaksOff faults (dest.join (inner m.name)) m.data fileMode e left)
    (hmode : d.get? (parent ++ [n]) = none ∧ mode = newFileMode fileMode ∨
      ∃ old, d.get? (parent ++ [n]) = some (.file mode old)) :
    Sourced b grouped top (d.set (parent ++ [n]) (.file mode left)) ∨
      BrokenOff b grouped dest top faults e (d.set (parent ++ [n]) (.file mode left)) := by
  by_cases hbelow : isBelow top (parent ++ [n]) = true
  · -- a file that is there has the mode that extracted files have
    obtain rfl : mode = 0o640 := by
      rcases hmode with ⟨-, rfl⟩ | ⟨old, hget⟩
      · decide
      · cases h.below _ _ hbelow hget with
        | file => rfl
    cases hbreaks with
    | storing fault =>
        refine .inr ⟨m, parent ++ [n], _, _, hm, hkind, hwhole, ⟨_, fault⟩, rfl, hbelow, ?_, fun l' o hl' hne hget => ?_⟩
        · rw [get?_set, if_pos rfl]
        · rw [get?_set, if_neg hne] at hget
          exact h.below l' o hl' hget
    | settingMode => exact .inl (h.set (h.fits_of_opensAt hopens fun _ => .file hm hkind hwhole))
  · exact .inl (h.set (h.fits_of_opensAt hopens fun hin => absurd hin hbelow))

/-- A file that is written comes from its member; or the write breaks off, and then this one file holds the beginning of
the member's data. The member is whole, or it would have been refused before the file is opened. -/
theorem ends_writeFile {m : Tar.Member} (hm : m ∈ b.archive.members) (hkind : m.kind = .file)
    (hwhole : m.data.length = m.size) :
    EndsIn (Sourced b grouped top) (fun e d => Sourced b grouped top d ∨ BrokenOff b grouped dest top faults e d)
      (Action.writeFile (dest.join (inner m.name)) m.data fileMode faults) := by
  intro d hd
  have hensured : Sourced b grouped top (runFrom (Action.ensureParent (dest.join (inner m.name))) d).2 :=
    Action.keeps_ensureParent (fun _ _ _ _ => Sourced.makeDirectory) d hd
  rcases hensure : runFrom (Action.ensureParent (dest.join (inner m.name))) d with ⟨e | ⟨⟩, d₁⟩
  · rw [hensure] at hensured
    exact EndsIn.of_runFrom_error (runFrom_bind_error hensure _) (.inl hensured)
  · rw [hensure] at hensured
    obtain ⟨c, hfails⟩ | ⟨parent, n, hopens, hwritten | ⟨e, left, fileMode', hbreaks, hmode, hfails⟩⟩ :=
      Action.writeFile_cases hensure m.data fileMode faults
    · exact EndsIn.of_runFrom_error hfails (.inl hensured)
    · exact EndsIn.of_runFrom_ok hwritten (hensured.set (hensured.fits_of_opensAt hopens fun _ => .file hm hkind hwhole))
    · exact EndsIn.of_runFrom_error hfails (sourced_or_brokenOff hensured hm hkind hwhole hopens hbreaks hmode)

/-- One member, whatever becomes of it: the invariant holds afterwards, or the run fails because a write broke off. All
but the writing of files keeps the invariant even where it fails. -/
theorem ends_extractMember {m : Tar.Member} (hm : m ∈ b.archive.members) (t : Tally) :
    EndsIn (Sourced b grouped top) (fun e d => Sourced b grouped top d ∨ BrokenOff b grouped dest top faults e d)
      (extractMember dest adhoc t m faults) := by
  -- all but the writing of a file keeps the invariant, whether it fails or not
  have hkeeps : ∀ {x : Action Tally}, Keeps (Sourced b grouped top) x →
      EndsIn (Sourced b grouped top) (fun e d => Sourced b grouped top d ∨ BrokenOff b grouped dest top faults e d) x :=
    fun hx => .of_keeps hx fun _ _ => .inl
  unfold extractMember
  cases hclass : classify m.name m.link adhoc with
  | outside => exact hkeeps (.pure _)
  | notNeeded => exact hkeeps (.pure _)
  | place at_ =>
      obtain ⟨-, -, -, rfl⟩ := classify_eq_place_iff.mp hclass
      dsimp only
      unfold placeMember
      cases hkind : m.kind with
      | directory => exact hkeeps (keeps_createDirectory_sourced.bind fun _ => .pure _)
      | file =>
          dsimp only
          split
          · exact hkeeps (.throw _)
          · next hwhole =>
            split
            · exact hkeeps (.pure _)
            · exact (ends_writeFile hm hkind (not_not.mp hwhole)).bind fun _ => hkeeps (.pure _)
      | link =>
          cases htarget : m.link.map inner with
          | none => exact hkeeps (.refuse _)
          | some target =>
              obtain ⟨t, ht, rfl⟩ := Option.map_eq_some_iff.mp htarget
              exact hkeeps ((keeps_placeLink_sourced (.link hm hkind ht)).bind fun _ => .pure _)
      | other => exact hkeeps (.pure _)

/-! ## Bundles -/

/-- Any bundle in any destination, on any device: the invariant of the members, one after the other, is that of the
whole run. -/
theorem ends_extract (b : Bundle) (dest : Path) (adhoc : Bool) (faults : Faults) :
    EndsIn (Sourced b grouped top) (fun e d => Sourced b grouped top d ∨ BrokenOff b grouped dest top faults e d)
      (b.extract dest adhoc faults) := by
  unfold extract
  split
  · refine (EndsIn.foldlM (fun _ _ => .inl) (fun t m hm => ends_extractMember hm t) _).bind fun t => ?_
    exact .of_keeps (.ite (.throw _) (.pure _)) fun _ _ => .inl
  · exact .of_keeps (.refuse _) fun _ _ => .inl

/-- Without faults everything comes from the bundle, also behind a failure. -/
theorem sourced_extract (b : Bundle) (dest : Path) (adhoc : Bool) (h : Sourced b grouped top d) :
    Sourced b grouped top ((b.extract dest adhoc).runOn d).2 := by
  obtain ⟨hok, herror⟩ := ends_extract b dest adhoc .none d h
  rcases hrun : (b.extract dest adhoc).runOn d with ⟨e | t, d'⟩
  · exact (herror e d' hrun).resolve_right BrokenOff.elim_none
  · exact hok t d' hrun

/-- An empty destination. -/
theorem Sourced.start {mode : Nat} (hget : d.get? top = some (.directory mode))
    (hempty : ∀ l, isBelow top l = true → d.get? l = none) : Sourced b (mode.testBit 10) top d where
  destination := ⟨mode, hget, id⟩
  below l o hbelow hget' := by
    rw [hempty l hbelow] at hget'
    cases hget'

/-- **Provenance.** Let a destination lead to an empty directory. After any bundle is extracted there, with or without
success, the destination still leads to that directory, and everything below it comes from the bundle: a directory has mode
750, and in a destination with the set-group-ID bit perhaps this bit too; a file has mode 640 and all the data of one regular
member; a link has the target of one link member. The one exception is a file that the device did not take as a whole: the
extraction fails and names the file, and it has mode 640 as well. -/
theorem extract_provenance (b : Bundle) (adhoc : Bool) (d : Disk) (dest : Path) (top : Location) (mode : Nat)
    (faults : Faults) (hdest : d.status dest = .ok (top, .directory mode))
    (hempty : ∀ l, isBelow top l = true → d.get? l = none) :
    let result := ((b.extract dest adhoc faults).runOn d).1
    let d' := ((b.extract dest adhoc faults).runOn d).2
    d'.LeadsTo dest top ∧
      ((∀ l o, isBelow top l = true → d'.get? l = some o → b.IsSource (mode.testBit 10) o) ∨
        ∃ e, result = .error e ∧ BrokenOff b (mode.testBit 10) dest top faults e d') := by
  intro result d'
  -- the path still leads to the directory, for no step removes one
  have hstable : Action.IsStable fun d => d.LeadsTo dest top := fun _ _ _ hd hadm => hd.carry hadm.carries
  have hleads : d'.LeadsTo dest top :=
    keeps_extract_of_keepsAt (fun _ _ at_ _ => keepsAt_of_isStable hstable at_) b d ⟨mode, hdest⟩
  refine ⟨hleads, ?_⟩
  obtain ⟨hok, herror⟩ := ends_extract b dest adhoc faults d (.start (get?_of_find hdest) hempty)
  -- what stands below is read off the invariant at the end of the run
  cases hresult : result with
  | ok t => exact .inl (hok t d' (Prod.ext hresult rfl)).below
  | error e =>
      rcases herror e d' (Prod.ext hresult rfl) with hsourced | hbroken
      · exact .inl hsourced.below
      · exact .inr ⟨e, rfl, hbroken⟩

/-- A file behind a link that leads nowhere yet, and a file that breaks off in its data. -/
def brokenOffBundle : Bundle :=
  .cut ((Tar.encodeArchive ([.link (.ofText "automation/now") (.ofText "automation/logs"),
    .file (.ofText "automation/now") [1, 2, 3],
    .file (.ofText "automation/site.yaml") (List.replicate 600 0x61)].map Item.entry)).take 2100)

/-- A bundle with a link, a file that is written through the link, and a file whose data is cut off. What stands behind
the failure comes from it, and nothing of the last member is there. -/
theorem extract_provenance_brokenOffBundle :
    Disk.blank.status (.ofText "/") = .ok ([], .directory 0o755) ∧
      (∀ l, isBelow [] l = true → Disk.blank.get? l = none) ∧
      let d' := ((brokenOffBundle.extract (.ofText "/") false).runOn .blank).2
      d'.LeadsTo (.ofText "/") [] ∧
        ∀ l o, isBelow [] l = true → d'.get? l = some o → brokenOffBundle.IsSource false o := by
  have hdest : Disk.blank.status (.ofText "/") = .ok ([], .directory 0o755) := by decide +kernel
  have hempty : ∀ l, isBelow [] l = true → Disk.blank.get? l = none := fun l =>
    get?_eq_none_of_hasBelow (by decide)
  obtain ⟨hleads, hsource | ⟨e, -, hbroken⟩⟩ := extract_provenance brokenOffBundle false _ _ _ _ .none hdest hempty
  · exact ⟨hdest, hempty, hleads, hsource⟩
  · exact hbroken.elim_none.elim

/-- A file in a directory that is missing. -/
def nestedBundle : Bundle := .pack [.file (.ofText "automation/a/b") [0x78]]

/-- What the reader makes of a bundle in which a file lies in a directory without a member of its own. -/
theorem archive_nestedBundle :
    nestedBundle.archive = ⟨[⟨.file, .ofText "automation/a/b", none, 1, [0x78], false⟩], false⟩ :=
  Tar.Archive.read_encodeArchive (by decide) (by decide +kernel)

/-- In an empty destination with the set-group-ID bit a missing directory is not made with mode 750: it inherits the bit
from the directory in which it is made. -/
theorem extract_inherits_groupDisk :
    Action.groupDisk.status (.ofText "/ws") = .ok ([Text.encode "ws"], .directory 0o2755) ∧
      (∀ l, isBelow [Text.encode "ws"] l = true → Action.groupDisk.get? l = none) ∧
      ((nestedBundle.extract (.ofText "/ws") false).runOn Action.groupDisk).1 = .ok { files := 1 } ∧
      ((nestedBundle.extract (.ofText "/ws") false).runOn Action.groupDisk).2.get? [Text.encode "ws", Text.encode "a"] =
        some (.directory 0o2750) := by
  have hdest : Action.groupDisk.status (.ofText "/ws") = .ok ([Text.encode "ws"], .directory 0o2755) := by decide +kernel
  have hempty : ∀ l, isBelow [Text.encode "ws"] l = true → Action.groupDisk.get? l = none := fun l =>
    get?_eq_none_of_hasBelow (by decide)
  have hclass : classify (.ofText "automation/a/b") none false = .place ⟨.ofText "a/b", none⟩ := by decide +kernel
  -- the directory on the way takes the bit over
  have hwrite : runFrom (Action.writeFile ((Path.ofText "/ws").join (.ofText "a/b")) [0x78] fileMode) Action.groupDisk =
      (.ok (), (Action.groupDisk.set [Text.encode "ws", Text.encode "a"] (.directory 0o2750)).set
        [Text.encode "ws", Text.encode "a", Text.encode "b"] (.file 0o640 [0x78])) := by
    decide +kernel
  have hfile := extractMember_file (t := {}) (m := ⟨.file, .ofText "automation/a/b", none, 1, [0x78], false⟩)
    hclass rfl rfl (by decide) hwrite
  have hrun : (nestedBundle.extract (.ofText "/ws") false).runOn Action.groupDisk =
      (.ok { files := 1 }, (Action.groupDisk.set [Text.encode "ws", Text.encode "a"] (.directory 0o2750)).set
        [Text.encode "ws", Text.encode "a", Text.encode "b"] (.file 0o640 [0x78])) := by
    rw [runOn_eq, extract_eq_foldlM rfl archive_nestedBundle]
    simp only [List.foldlM_cons, List.foldlM_nil, runFrom_bind, hfile, runFrom_pure, Tally.countFile]
  rw [hrun]
  exact ⟨hdest, hempty, rfl, by decide⟩

end Bootstrap.Bundle
