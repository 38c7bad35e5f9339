import Bootstrap.Bundle.Extract
import Bootstrap.Proofs.Disk.Files

/-!
# What an extraction keeps

An extraction writes directories, files and links at the placements that `Bundle.classify` gives, and nothing else. So an
invariant that these three writes keep at every such placement, `Bundle.KeepsAt`, is kept by every extraction: by any
members in any order, up to any failure. Where the invariant depends on what is written, it is enough that the members of
the bundle keep it, `Bundle.KeepsMember`. And if the extraction does not fail, what one member brings about and all of them
keep is there in the end: `Bundle.of_extract_eq_ok`.
-/

namespace Bootstrap.Bundle

open Effect

/-- What is written of a member at a placement keeps `I`. Its data is written only if all of it is there. -/
structure KeepsMember (I : Disk → Prop) (faults : Faults) (dest : Path) (m : Tar.Member) (at_ : Placement) : Prop where
  directory : m.kind = .directory → Keeps I (Action.createDirectory (dest.join at_.relative) directoryMode faults)
  file : m.kind = .file → m.data.length = m.size →
    Keeps I (Action.writeFile (dest.join at_.relative) m.data fileMode faults)
  link : m.kind = .link → ∀ target, at_.linkTarget = some target →
    Keeps I (placeLink (dest.join at_.relative) target faults)

/-- Whatever is written at a placement keeps `I`, and so do the faults of the device that interrupt it. -/
structure KeepsAt (I : Disk → Prop) (faults : Faults) (dest : Path) (at_ : Placement) : Prop where
  directory : Keeps I (Action.createDirectory (dest.join at_.relative) directoryMode faults)
  file : ∀ content, Keeps I (Action.writeFile (dest.join at_.relative) content fileMode faults)
  link : ∀ target, at_.linkTarget = some target → Keeps I (placeLink (dest.join at_.relative) target faults)

variable {I : Disk → Prop} {faults : Faults} {dest : Path} {adhoc : Bool}

/-- What is kept with any content is kept with that of the member. -/
theorem KeepsAt.member {at_ : Placement} (h : KeepsAt I faults dest at_) (m : Tar.Member) :
    KeepsMember I faults dest m at_ :=
  ⟨fun _ => h.directory, fun _ _ => h.file _, fun _ => h.link⟩

/-- Where a link is made, the directory above it is made only if it is missing. An invariant has to survive both of
them. -/
theorem keeps_placeLink {path target : Path}
    (hparent : ∀ q, path.parent? = some q → ∀ d, I d → d.leadsSomewhere q = false →
      I (runFrom (Action.createDirectory q directoryMode faults) d).2)
    (hlink : Keeps I (Action.createLink path target)) : Keeps I (placeLink path target faults) := by
  have hcreate := hlink.during (.createLink path target)
  unfold placeLink
  split
  · next q hq =>
    refine Keeps.get_bind fun d hd => ?_
    split
    · next hmissing => exact Keeps.runFrom_bind (fun _ => hcreate) (hparent q hq d hd (by simpa using hmissing))
    · exact hcreate d hd
  · exact hcreate

/-- The kinds of members, one by one: what directories, files and links keep, a placement keeps. Members of other kinds
are counted and not written. -/
theorem keeps_placeMember {m : Tar.Member} {at_ : Placement} {t : Tally} (h : KeepsMember I faults dest m at_) :
    Keeps I (placeMember dest m at_ t faults) := by
  unfold placeMember
  cases hkind : m.kind with
  | directory => exact (h.directory hkind).bind fun _ => .pure _
  | file =>
      -- the data that is not all there is not written
      dsimp only
      split
      · exact .throw _
      · next hwhole => exact .ite (.pure _) ((h.file hkind (not_not.mp hwhole)).bind fun _ => .pure _)
  | link =>
      cases hlink : at_.linkTarget with
      | none => exact .refuse _
      | some target => exact (h.link hkind target hlink).bind fun _ => .pure _
  | other => exact .pure _

/-- A member is classified first. Only one that is placed is written, so an invariant is asked for at placements
only. -/
theorem keeps_extractMember {m : Tar.Member}
    (hplace : ∀ at_, classify m.name m.link adhoc = .place at_ → KeepsMember I faults dest m at_) (t : Tally) :
    Keeps I (extractMember dest adhoc t m faults) := by
  unfold extractMember
  cases hclass : classify m.name m.link adhoc with
  | outside => exact .pure _
  | notNeeded => exact .pure _
  | place at_ => exact keeps_placeMember (hplace at_ hclass)

/-- The members of the bundle in any order, be it that the archive breaks off or that a member cannot be written. -/
theorem keeps_extract_of_keepsMember {b : Bundle}
    (hplace : ∀ m ∈ b.archive.members, ∀ at_, classify m.name m.link adhoc = .place at_ →
      KeepsMember I faults dest m at_) :
    Keeps I (b.extract dest adhoc faults) := by
  have harchive : Keeps I (extractArchive b.archive dest adhoc faults) :=
    (Keeps.foldlM (fun t m hm => keeps_extractMember (hplace m hm) t) _).bind fun _ => .ite (.throw _) (.pure _)
  exact .ite harchive (.refuse _)

/-- The same for invariants that do not depend on the content of the members. -/
theorem keeps_extract_of_keepsAt
    (hplace : ∀ name link at_, classify name link adhoc = .place at_ → KeepsAt I faults dest at_) (b : Bundle) :
    Keeps I (b.extract dest adhoc faults) :=
  keeps_extract_of_keepsMember fun m _ at_ hat => (hplace _ _ at_ hat).member m

/-- An invariant of all changes is kept at every placement. -/
theorem keepsAt_of_isStable (hI : Action.IsStable I) (at_ : Placement) : KeepsAt I faults dest at_ where
  directory := hI.createDirectory
  file _ := hI.writeFile
  link _ _ := keeps_placeLink (fun _ _ d hd _ => hI.createDirectory d hd) hI.createLink

/-! ## Counts

Each count is one member more in the total. -/

namespace Tally

variable (t : Tally)

/-- Every way of counting a member adds one to the total. -/
@[simp] theorem total_countDirectory : t.countDirectory.total = t.total + 1 := by
  simp only [total, countDirectory]
  omega

@[simp] theorem total_countFile : t.countFile.total = t.total + 1 := by
  simp only [total, countFile]
  omega

@[simp] theorem total_countLink : t.countLink.total = t.total + 1 := by
  simp only [total, countLink]
  omega

@[simp] theorem total_countOutside : t.countOutside.total = t.total + 1 := by
  simp only [total, countOutside]
  omega

@[simp] theorem total_countSkipped : t.countSkipped.total = t.total + 1 := by
  simp only [total, countSkipped]
  omega

end Tally

/-! ## Extractions that succeed -/

/-- An extraction succeeds if the bundle is not broken and each of its members is handled without failure. A bundle
whose first bytes are not those of a compressed stream is refused before anything is read, and one that is broken fails
behind the last of its whole members. -/
theorem extract_eq_ok_iff {b : Bundle} {t : Tally} {d d' : Disk} :
    runFrom (b.extract dest adhoc) d = (.ok t, d') ↔
      b.looksCompressed = true ∧ b.archive.broken = false ∧
        runFrom (b.archive.members.foldlM (fun t m => extractMember dest adhoc t m) {}) d = (.ok t, d') := by
  unfold extract
  -- the first two bytes are looked at before anything is read
  by_cases hcompressed : b.looksCompressed = true
  · rw [if_pos hcompressed, extractArchive]
    -- a broken stream fails behind its last whole member, whatever was made of those in front
    cases hbroken : b.archive.broken with
    | false => simp only [Bool.false_eq_true, if_false, bind_pure, hcompressed, true_and]
    | true =>
        constructor
        · intro hrun
          obtain ⟨_, _, -, hreturn⟩ := exists_of_runFrom_bind hrun
          cases hreturn
        · rintro ⟨-, ⟨⟩, -⟩
  · rw [if_neg hcompressed]
    constructor
    · intro hrun
      cases hrun
    · rintro ⟨htrue, -⟩
      exact absurd htrue hcompressed

/-- An archive that is not broken is extracted member by member. -/
theorem extract_eq_foldlM {b : Bundle} {members : List Tar.Member} (hcompressed : b.looksCompressed = true)
    (harchive : b.archive = ⟨members, false⟩) :
    b.extract dest adhoc = members.foldlM (fun t m => extractMember dest adhoc t m) {} := by
  rw [extract, if_pos hcompressed, extractArchive, harchive]
  simp only [Bool.false_eq_true, if_false, bind_pure]

/-- A file whose data is all there is written, unless its name is the reserved one. This is the step as an equation, for
runs that are evaluated. -/
theorem extractMember_file_eq {m : Tar.Member} {at_ : Placement} (hclass : classify m.name m.link adhoc = .place at_)
    (hkind : m.kind = .file) (hsize : m.data.length = m.size) (hreserved : isReserved at_.relative = false) (t : Tally) :
    extractMember dest adhoc t m = (do
      Action.writeFile (dest.join at_.relative) m.data fileMode
      return t.countFile) := by
  unfold extractMember
  rw [hclass]
  unfold Bundle.placeMember
  rw [hkind]
  simp only [hsize, ne_eq, not_true_eq_false, if_false, hreserved, Bool.false_eq_true]

/-- The case in which the writing succeeds. -/
theorem extractMember_file {m : Tar.Member} {at_ : Placement} {t : Tally} {d d' : Disk}
    (hclass : classify m.name m.link adhoc = .place at_) (hkind : m.kind = .file) (hsize : m.data.length = m.size)
    (hreserved : isReserved at_.relative = false)
    (hwrite : runFrom (Action.writeFile (dest.join at_.relative) m.data fileMode) d = (.ok (), d')) :
    runFrom (extractMember dest adhoc t m) d = (.ok t.countFile, d') := by
  rw [extractMember_file_eq hclass hkind hsize hreserved]
  exact runFrom_bind_ok hwrite _

/-- What a member brings about and all members keep is there behind an extraction that does not fail. -/
theorem of_extract_eq_ok {b : Bundle} {m : Tar.Member} {t : Tally} {d d' : Disk}
    (hplace : ∀ name link at_, classify name link adhoc = .place at_ → KeepsAt I .none dest at_)
    (hm : m ∈ b.archive.members)
    (hmember : ∀ t t' d d', runFrom (extractMember dest adhoc t m) d = (.ok t', d') → I d')
    (hrun : runFrom (b.extract dest adhoc) d = (.ok t, d')) : I d' :=
  Keeps.of_runFrom_foldlM (fun t m _ => keeps_extractMember (fun at_ hat => (hplace _ _ at_ hat).member m) t) hm hmember
    (extract_eq_ok_iff.mp hrun).2.2

end Bootstrap.Bundle
