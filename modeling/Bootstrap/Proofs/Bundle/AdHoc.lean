import Bootstrap.Bundle.Extract
import Bootstrap.Proofs.Bundle.Extraction
import Bootstrap.Proofs.Bundle.Placement
import Bootstrap.Proofs.Disk.Fence
import Bootstrap.Proofs.Tar.RoundTrip
import Mathlib.Tactic.Common

/-!
# Extraction for ad-hoc use

For ad-hoc use `Bundle.classify` lets through the members whose first name is on the allow-list, and their links may have
any target below the destination. So the members that are written stay behind the fence of `Disk.Fenced` and no further: a
link at an allowed name can lead to another name in the destination, and a later member of the name of the link puts a file
there. `extract_adhoc` is what the tree below the destination looks like; `throughLinkBundle` is such a pair of members.
-/

namespace Bootstrap.Bundle

open Effect Disk
open Bootstrap.Path (IsPlain)

variable {dest : Path} {top : Location} {faults : Faults}

/-- The first names that are kept for ad-hoc use, as they stand in a directory. -/
def adhocFirstNames : List (List UInt8) := adhocNames.map Text.encode

/-- An ad-hoc extraction keeps the destination itself, and what stands behind a name on the list. Only the first name
counts, however many follow. -/
theorem keptForAdhoc_iff {ns : List (List UInt8)} (hplain : ∀ n ∈ ns, IsPlain n) :
    keptForAdhoc (Path.ofComponents (ns.map .normal)) = true ↔ ∀ n ∈ ns.head?, n ∈ adhocFirstNames := by
  have hcs : (Path.ofComponents (ns.map .normal)).components = ns.map .normal := by
    have hnames := Path.names_ofComponents hplain
    rw [Path.components_of_isPlain (Path.isAbsolute_ofComponents hplain) (by rwa [hnames]), hnames]
  rw [keptForAdhoc, hcs]
  cases ns with
  | nil => simp
  | cons n more => simp [adhocFirstNames, Path.Component.bytes]

/-- A link target that is placed is a path of plain names, if it says anything. -/
theorem isPlainPath_inner {p : Path} (h : p.Descends) (hne : (inner p).bytes ≠ []) : (inner p).IsPlainPath := by
  obtain ⟨ns, hplain, hinner, -⟩ := exists_inner h
  rw [hinner] at hne ⊢
  refine Path.isPlainPath_ofComponents hplain ?_
  rintro rfl
  exact hne rfl

/-- What is written at a placement for ad-hoc use is written behind the fence. The policy has checked that the first
name below the destination is on the list, so directories and files stay behind it; a link may be made there too,
wherever it leads, since its target is only text until something is written through it. -/
theorem keepsAt_fenced {name : Path} {link : Option Path} {at_ : Placement}
    (h : classify name link true = .place at_) : KeepsAt (Fenced adhocFirstNames dest top) faults dest at_ := by
  obtain ⟨hname, hlink, hkept, rfl⟩ := classify_eq_place_iff.mp h
  obtain ⟨ns, hplain, hinner, hns⟩ := exists_inner hname
  -- the first name below the destination is on the list
  have hhead : ∀ n ∈ ns.head?, n ∈ adhocFirstNames :=
    (keptForAdhoc_iff hplain).mp (hinner ▸ hkept rfl)
  have halong : Path.Along dest ns (dest.join (inner name)) := by
    have hjoin : Path.Along dest (inner name).names (dest.join (inner name)) := .join (descends_inner hname).relative
    rwa [hns] at hjoin
  refine ⟨Fenced.keeps_createDirectory halong hplain hhead, fun _ => Fenced.keeps_writeFile halong hplain hhead, ?_⟩
  intro target htarget
  obtain ⟨t, rfl, rfl⟩ := Option.map_eq_some_iff.mp htarget
  -- a link may lead anywhere below the destination, for its target is only text
  exact keeps_placeLink
    (fun q hq d hd _ => Fenced.keeps_createDirectory (halong.parent? hq) hplain hhead d hd)
    (Fenced.keeps_createLink halong hplain hhead (isPlainPath_inner (hlink t rfl)))

/-- **Extraction for ad-hoc use.** Let a destination lead to an empty directory. After any bundle is extracted there for
ad-hoc use, with or without success and on any device, the first name of everything below the directory is on the
allow-list, except for files to which a link at a name on the list leads directly. -/
theorem extract_adhoc (b : Bundle) (d : Disk) (dest : Path) (top : Location) (mode : Nat) (faults : Faults)
    (hdest : d.status dest = .ok (top, .directory mode)) (hempty : ∀ l, isBelow top l = true → d.get? l = none) :
    let d' := ((b.extract dest true faults).runOn d).2
    ∀ n more o, d'.get? (top ++ n :: more) = some o →
      n ∈ adhocFirstNames ∨
        more = [] ∧ o.isFile = true ∧ ∃ m ∈ adhocFirstNames, d'.get? (top ++ [m]) = some (.link ⟨n⟩) :=
  (keeps_extract_of_keepsAt (fun _ _ _ => keepsAt_fenced) b d (Fenced.start ⟨mode, hdest⟩ hempty)).fence

/-! ### A file through a link -/

/-- A link at a name on the list, and a file of the same name behind it. -/
def throughLinkBundle : Bundle :=
  .pack [.link (.ofText "automation/default.cfg") (.ofText "automation/site.yaml"),
    .file (.ofText "automation/default.cfg") [0x78]]

/-- A link `default.cfg` that leads to `site.yaml`, and a file that is written through it: the file stands at the name
that is not allowed. -/
theorem extract_adhoc_throughLinkBundle :
    Disk.blank.status (.ofText "/") = .ok ([], .directory 0o755) ∧
      (∀ l, isBelow [] l = true → Disk.blank.get? l = none) ∧
      let d' := ((throughLinkBundle.extract (.ofText "/") true).runOn .blank).2
      ∀ n more o, d'.get? (n :: more) = some o →
        n ∈ adhocFirstNames ∨
          more = [] ∧ o.isFile = true ∧ ∃ m ∈ adhocFirstNames, d'.get? [m] = some (.link ⟨n⟩) := by
  have hdest : Disk.blank.status (.ofText "/") = .ok ([], .directory 0o755) := by decide +kernel
  have hempty : ∀ l, isBelow [] l = true → Disk.blank.get? l = none := fun l =>
    get?_eq_none_of_hasBelow (by decide)
  exact ⟨hdest, hempty, extract_adhoc throughLinkBundle _ _ _ _ .none hdest hempty⟩

theorem archive_throughLinkBundle : throughLinkBundle.archive =
    ⟨[⟨.link, .ofText "automation/default.cfg", some (.ofText "automation/site.yaml"), 0, [], false⟩,
      ⟨.file, .ofText "automation/default.cfg", none, 1, [0x78], false⟩], false⟩ :=
  Tar.Archive.read_encodeArchive (by decide) (by decide +kernel)

/-- The file stands at the target of the link, a name that is not on the list. The link is made under a listed name, and
the file that comes next under this name is opened through it. -/
theorem extract_adhoc_leavesList :
    ((throughLinkBundle.extract (.ofText "/") true).runOn .blank).1 = .ok { files := 1, links := 1 } ∧
      ((throughLinkBundle.extract (.ofText "/") true).runOn .blank).2.get? [Text.encode "site.yaml"] =
        some (.file 0o640 [0x78]) ∧
      Text.encode "site.yaml" ∉ adhocFirstNames := by
  -- the link is placed under an allowed name
  have hlink : runFrom (extractMember (.ofText "/") true {}
      ⟨.link, .ofText "automation/default.cfg", some (.ofText "automation/site.yaml"), 0, [], false⟩) .blank =
        (.ok { links := 1 }, Disk.blank.set [Text.encode "default.cfg"] (.link (.ofText "site.yaml"))) := by
    decide +kernel
  have hclass : classify (.ofText "automation/default.cfg") none true = .place ⟨.ofText "default.cfg", none⟩ := by
    decide
  -- the file is written through it, under a name that is not
  have hwrite : runFrom (Action.writeFile ((Path.ofText "/").join (.ofText "default.cfg")) [0x78] fileMode)
      (Disk.blank.set [Text.encode "default.cfg"] (.link (.ofText "site.yaml"))) =
        (.ok (), (Disk.blank.set [Text.encode "default.cfg"] (.link (.ofText "site.yaml"))).set
          [Text.encode "site.yaml"] (.file 0o640 [0x78])) := by
    decide +kernel
  have hfile := extractMember_file (t := { links := 1 })
    (m := ⟨.file, .ofText "automation/default.cfg", none, 1, [0x78], false⟩) hclass rfl rfl (by decide) hwrite
  have hrun : (throughLinkBundle.extract (.ofText "/") true).runOn .blank =
      (.ok { files := 1, links := 1 },
        (Disk.blank.set [Text.encode "default.cfg"] (.link (.ofText "site.yaml"))).set
          [Text.encode "site.yaml"] (.file 0o640 [0x78])) := by
    rw [runOn_eq, extract_eq_foldlM rfl archive_throughLinkBundle]
    simp only [List.foldlM_cons, List.foldlM_nil, runFrom_bind, hlink, hfile, runFrom_pure, Tally.countFile]
  rw [hrun]
  exact ⟨rfl, by decide, by decide⟩

end Bootstrap.Bundle
