import Bootstrap.Proofs.Bundle.Playbooks
import Bootstrap.Proofs.Disk.Failures

/-!
# Two readers of one bundle

The list of playbooks is made when the program is built, the extraction when it runs. The first passes over all data, the
second reads the data of files and checks its length. They agree on which bundles can be read:

* `Tar.Archive.isComplete_readFrom` — an archive is broken if a member of it has less data than it is said to have, so the
  check of the second reader finds nothing that the first one has not found.
* `raises_extract` — what else an extraction can fail at is the disk and a link without a target.
* `extract_agrees` — so an extraction never finds a bundle with a list of playbooks broken, and a bundle that has been
  extracted has such a list.
-/

namespace Bootstrap

namespace Tar

/-- Unless the archive is broken, each member has as much data as it is said to have. -/
def Archive.IsComplete (a : Archive) : Prop := a.broken = false → ∀ m ∈ a.members, m.data.length = m.size

namespace Archive

theorem isComplete_ended : IsComplete ended := fun _ _ hm => absurd hm List.not_mem_nil

/-- An archive that is known to be broken may hold anything. -/
theorem isComplete_brokenOff : IsComplete brokenOff := fun hwhole _ _ => absurd hwhole Bool.true_eq_false_eq_False

/-- One more member in front of members that are complete. If its data is not whole, it is the last one, and the archive
breaks off behind it. -/
theorem isComplete_cons {m : Member} {tail : Archive} {whole : Prop} [Decidable whole]
    (hdata : whole → m.data.length = m.size) (htail : tail.IsComplete) :
    IsComplete ⟨m :: (if whole then tail else brokenOff).members, (if whole then tail else brokenOff).broken⟩ := by
  intro hunbroken m' hm'
  split_ifs at hunbroken hm' with hwhole
  · rcases List.mem_cons.mp hm' with rfl | hm'
    · exact hdata hwhole
    · exact htail hunbroken m' hm'
  · cases hunbroken

theorem length_take_of_paddedSize_le {size : Nat} {body : List UInt8} (h : paddedSize size ≤ body.length) :
    (body.take size).length = size :=
  List.length_take_of_le ((le_paddedSize size).trans h)

/-- Whatever the reader takes for a whole archive has members with all their data: data that is cut off is always
noticed. By the recursion of the reader, one case for each of its branches. -/
theorem isComplete_readFrom (cut : Bool) (position : Nat) (described : Described) (bytes : List UInt8) :
    (readFrom cut position described bytes).IsComplete := by
  fun_induction readFrom cut position described bytes with
  -- the archive ends or breaks off here
  | case1 | case3 => exact isComplete_ended
  | case2 | case4 | case5 | case6 | case7 | case10 | case12 | case14 => exact isComplete_brokenOff
  -- a description is passed over
  | case9 | case11 | case13 =>
      rename_i ih
      exact ih
  -- a member, with holes or without
  | case8 =>
      rename_i ih
      refine isComplete_cons (fun hwhole => length_take_of_paddedSize_le ?_) ih
      rw [List.length_drop]
      omega
  | case15 =>
      rename_i ih
      exact isComplete_cons length_take_of_paddedSize_le ih

end Archive

end Tar

/-! ## Failures that tell of a broken bundle -/

/-- Whether a cause says that a bundle cannot be read: it is no compressed stream, or the data of a member is too short. -/
def Cause.isOfStream : Cause → Bool
  | .refused (.notCompressed _) | .refused (.shortEntry _ _ _) => true
  | _ => false

/-- Whether an activity is one of reading a bundle: its next member, or the data of a member. -/
def Activity.isReadingBundle : Activity → Bool
  | .readBundleEntry | .readMember _ => true
  | _ => false

/-- Whether a failure says that the bundle cannot be read. -/
def Failure.isOfStream (f : Failure) : Bool := f.cause.isOfStream || f.during.any Activity.isReadingBundle

/-- A failure to write is none of the stream: the disk knows nothing of bundles, so it raises other causes. -/
theorem Failure.IsOfWriting.isOfStream {f : Failure} (h : f.IsOfWriting) : f.isOfStream = false := by
  have hcause : ∀ c : Cause, c.isOfDisk = true → c.isOfStream = false := by
    rintro (_ | _ | _ | _ | _) hc <;> first | rfl | cases hc
  have hactivity : ∀ a : Activity, a.isWriting = true → a.isReadingBundle = false := by
    intro a ha
    cases a <;> first | rfl | cases ha
  exact Bool.or_eq_false_iff.mpr
    ⟨hcause f.cause h.cause, List.any_eq_false.mpr fun a ha => ne_true_of_eq_false (hactivity a (h.during a ha))⟩

namespace Bundle

open Effect

/-! ## Extractions that fail -/

/-- A failure that has nothing to do with what a bundle is made of: at the disk, or at a link without a target. -/
inductive FailsOutside : Failure → Prop where
  | writing {f : Failure} (h : f.IsOfWriting) : FailsOutside f
  | noTarget (name : Path) : FailsOutside (.ofRefusal (.linkWithoutTarget name))

theorem FailsOutside.isOfStream {f : Failure} (h : FailsOutside f) : f.isOfStream = false := by
  cases h with
  | writing h => exact h.isOfStream
  | noTarget name => rfl

/-- A failure outside the bundle, or, if the bundle is broken, one that tells so. -/
def FailsWith (broken : Prop) (f : Failure) : Prop := FailsOutside f ∨ f.isOfStream = true ∧ broken

/-- The two kinds of failure are told apart by the test. -/
theorem FailsWith.isOfStream_eq_false_iff {broken : Prop} {f : Failure} (h : FailsWith broken f) :
    f.isOfStream = false ↔ FailsOutside f := by
  refine ⟨fun hfine => h.resolve_right fun hstream => ?_, FailsOutside.isOfStream⟩
  rw [hfine] at hstream
  cases hstream.1

/-- Data that is missing is a matter of the stream, whichever member it is missing from. -/
theorem isOfStream_missingData (m : Tar.Member) : (missingData m).isOfStream = true := by
  unfold missingData
  split <;> rfl

variable {broken : Prop}

/-- What is written to the disk fails outside the bundle. -/
theorem raises_writing {α : Type} {x : Action α} (hx : Raises Failure.IsOfWriting x) : Raises (FailsWith broken) x :=
  fun d f d' hrun => .inl (.writing (hx d f d' hrun))

/-- A link fails for reasons of the disk only, and so do the directories above it, which are made first. -/
theorem raises_placeLink (path target : Path) : Raises (FailsWith broken) (placeLink path target) := by
  have hcreate : Raises Failure.IsOfWriting (Action.during (.createLink path target) (Action.createLink path target)) :=
    (Action.raises_createLink target).during fun _ => .within rfl
  refine raises_writing ?_
  unfold placeLink
  split
  · exact .get_bind fun d => .ite (Action.raises_createDirectory.bind fun _ => hcreate) hcreate
  · exact hcreate

variable {dest : Path} {adhoc : Bool} {m : Tar.Member}

/-- A member that is placed fails at the disk, for want of a target, or because its data is cut off. `hdata` says that
the last happens only in a broken bundle. -/
theorem raises_placeMember (hdata : m.data.length ≠ m.size → broken) (at_ : Placement) (t : Tally) :
    Raises (FailsWith broken) (placeMember dest m at_ t) := by
  unfold placeMember
  cases m.kind with
  | directory => exact (raises_writing Action.raises_createDirectory).bind fun _ => .pure _
  | file =>
      dsimp only
      split
      · next hmissing => exact .throw (.inr ⟨isOfStream_missingData m, hdata hmissing⟩)
      · exact .ite (.pure _) ((raises_writing (Action.raises_writeFile _)).bind fun _ => .pure _)
  | link =>
      cases at_.linkTarget with
      | none => exact .throw (.inl (.noTarget _))
      | some target => exact (raises_placeLink _ target).bind fun _ => .pure _
  | other => exact .pure _

/-- A member that is not placed does not fail at all. -/
theorem raises_extractMember (hdata : m.data.length ≠ m.size → broken) (t : Tally) :
    Raises (FailsWith broken) (extractMember dest adhoc t m) := by
  unfold extractMember
  cases classify m.name m.link adhoc with
  | outside => exact .pure _
  | notNeeded => exact .pure _
  | place at_ => exact raises_placeMember hdata at_ t

/-- This holds of the archive of every bundle. -/
theorem isComplete_archive (b : Bundle) : b.archive.IsComplete := by
  cases b with
  | compressed contents => exact Tar.Archive.isComplete_readFrom _ _ _ _
  | cut contents => exact Tar.Archive.isComplete_readFrom _ _ _ _
  | raw bytes => exact Tar.Archive.isComplete_brokenOff

/-- Bytes that do not even look like a compressed stream hold no archive. -/
theorem broken_of_not_looksCompressed {b : Bundle} (h : ¬ b.looksCompressed = true) : b.archive.broken = true := by
  cases b with
  | compressed contents => exact absurd rfl h
  | cut contents => exact absurd rfl h
  | raw bytes => rfl

/-- Whatever a bundle is, its extraction fails at the stream only if its archive is broken. All other failures come from
the disk, or from a link without a target. -/
theorem raises_extract (b : Bundle) : Raises (FailsWith (b.archive.broken = true)) (b.extract dest adhoc) := by
  unfold extract
  split
  · have hmember : ∀ m ∈ b.archive.members, m.data.length ≠ m.size → b.archive.broken = true := by
      intro m hm hmissing
      by_contra hwhole
      exact hmissing (isComplete_archive b (by simpa using hwhole) m hm)
    refine (Raises.foldlM (fun t m hm => raises_extractMember (hmember m hm) t) _).bind fun t => ?_
    split
    · next hbroken => exact .throw (.inr ⟨rfl, hbroken⟩)
    · exact .pure t
  · next hraw => exact .throw (.inr ⟨rfl, broken_of_not_looksCompressed hraw⟩)

/-- A bundle has a list of playbooks, be it an empty one, unless it is broken. -/
theorem isSome_playbookNames? (b : Bundle) : (playbookNames? b).isSome = true ↔ b.archive.broken = false := by
  unfold playbookNames?
  cases b.archive.broken <;> simp

/-- **Two readers agree**: the one that lists the playbooks when the program is built, and the one that extracts the bundle
when it runs. Wherever the extraction writes to and whatever is there, it finds no bundle broken that the first reader could
read, so that it fails outside the bundle if at all; and it does not succeed with a bundle that the first one could not
read. -/
theorem extract_agrees (b : Bundle) (dest : Path) (adhoc : Bool) (d : Disk) :
    (∀ f, ((b.extract dest adhoc).runOn d).1 = .error f →
      (f.isOfStream = false ↔ FailsOutside f) ∧ ((playbookNames? b).isSome = true → f.isOfStream = false)) ∧
    ∀ t, ((b.extract dest adhoc).runOn d).1 = .ok t → (playbookNames? b).isSome = true := by
  constructor
  · intro f hrun
    have hfails : FailsWith (b.archive.broken = true) f := raises_extract b d f _ (Prod.ext hrun rfl)
    refine ⟨hfails.isOfStream_eq_false_iff, fun hnames => ?_⟩
    rcases hfails with houtside | ⟨-, hbroken⟩
    · exact houtside.isOfStream
    · rw [(isSome_playbookNames? b).mp hnames] at hbroken
      cases hbroken
  · intro t hrun
    have hsuccess := extract_eq_ok_iff.mp (Prod.ext hrun rfl : runFrom (b.extract dest adhoc) d = (.ok t, _))
    exact (isSome_playbookNames? b).mpr hsuccess.2.1

/-- A directory stands where the playbook belongs. -/
def blockedDisk : Disk := Disk.blank.set [Text.encode "ping.yaml"] (.directory 0o755)

/-- Where the playbook cannot be written, the bundle is not to blame; elsewhere it is extracted. The same bytes fail on
the one disk for a reason that lies with the disk, and the reader of names reads them to the end. -/
theorem extract_agrees_pingBundle :
    ((playbookNames? pingBundle).isSome = true ∧
      ((pingBundle.extract (.ofText "/") false).runOn blockedDisk).1 =
        .error ⟨[.openFile (.ofText "/ping.yaml")], .system .isDirectory⟩ ∧
      (⟨[.openFile (.ofText "/ping.yaml")], .system .isDirectory⟩ : Failure).isOfStream = false) ∧
    ((pingBundle.extract (.ofText "/") false).runOn .blank).1 = .ok { directories := 1, files := 1 } ∧
      (playbookNames? pingBundle).isSome = true := by
  have hnames : (playbookNames? pingBundle).isSome = true := by rw [playbookNames?_pingBundle]; rfl
  have hclass : classify (.ofText "./automation/ping.yaml") none false = .place ⟨.ofText "ping.yaml", none⟩ := by
    decide
  have hfile : ∀ t, extractMember (.ofText "/") false t
      ⟨.file, .ofText "./automation/ping.yaml", none, 1, [0x78], false⟩ = _ :=
    extractMember_file_eq hclass rfl rfl (by decide)
  -- the top directory stands already
  have htop : ∀ d ∈ [Disk.blank, blockedDisk],
      runFrom (extractMember (.ofText "/") false {} ⟨.directory, .ofText "automation/", none, 0, [], false⟩) d =
        (.ok { directories := 1 }, d.set [] (.directory 0o750)) := by
    simp only [List.forall_mem_cons, List.not_mem_nil, false_imp_iff, implies_true, and_true]
    constructor <;> decide +kernel
  have hblocked : ((pingBundle.extract (.ofText "/") false).runOn blockedDisk).1 =
      .error ⟨[.openFile (.ofText "/ping.yaml")], .system .isDirectory⟩ := by
    have hwrite : (runFrom (Action.writeFile ((Path.ofText "/").join (.ofText "ping.yaml")) [0x78] fileMode)
        (blockedDisk.set [] (.directory 0o750))).1 =
          .error ⟨[.openFile (.ofText "/ping.yaml")], .system .isDirectory⟩ := by
      decide +kernel
    rw [runOn_eq, extract_eq_foldlM rfl archive_pingBundle, List.foldlM_cons,
      runFrom_bind_ok (htop blockedDisk (by simp)), List.foldlM_cons, hfile,
      runFrom_bind_error (runFrom_bind_error (Prod.ext hwrite rfl) _)]
  have hrun : ((pingBundle.extract (.ofText "/") false).runOn .blank).1 = .ok { directories := 1, files := 1 } := by
    have hwrite : (runFrom (Action.writeFile ((Path.ofText "/").join (.ofText "ping.yaml")) [0x78] fileMode)
        (Disk.blank.set [] (.directory 0o750))).1 = .ok () := by
      decide +kernel
    rw [runOn_eq, extract_eq_foldlM rfl archive_pingBundle, List.foldlM_cons, runFrom_bind_ok (htop .blank (by simp)),
      List.foldlM_cons, hfile, runFrom_bind_ok (runFrom_bind_ok (Prod.ext hwrite rfl) _)]
    rfl
  exact ⟨⟨hnames, hblocked, ((extract_agrees pingBundle _ false blockedDisk).1 _ hblocked).2 hnames⟩, hrun,
    (extract_agrees pingBundle _ false .blank).2 _ hrun⟩

end Bundle

end Bootstrap
