import Bootstrap.Bundle.Extract
import Bootstrap.Bundle.Playbooks
import Bootstrap.Proofs.Bundle.Extraction
import Bootstrap.Proofs.Bundle.Placement
import Bootstrap.Proofs.Disk.Presence
import Bootstrap.Proofs.Tar.RoundTrip
import Bootstrap.Proofs.Text.Encoding
import Bootstrap.Proofs.Text.Items
import Mathlib.Tactic.Common

/-!
# Playbooks that are delivered

The registry of playbooks is read off the names of a bundle's members when the program is built, and the playbooks
themselves are written when the bundle is extracted. Both look at the same archive, each in its own way: the registry takes
names as texts, the extraction takes them as paths and looks at kinds and link fields too.

* `inner_of_playbookName?` — what the registry calls a playbook, the extraction places directly below the destination under
  the same name.
* `contains_registry_iff` — the registry holds the items of the playbook names of the members, and nothing else.
* `occupied_of_registry` — so whatever it holds is there after an extraction, if the member that it stems from is one that
  an extraction writes and its name survives the journey through the comma list. `registry_hardLinkBundle` has a member that
  is not written.
-/

namespace Bootstrap.Bundle

open Effect Disk
open Bootstrap.Path (Component IsPlain)

/-! ## Names of playbooks -/

/-- What stands behind a beginning: the list is the beginning and then this. -/
theorem after?_eq_some_iff {front cs rest : List Char} : after? front cs = some rest ↔ cs = front ++ rest := by
  induction front generalizing cs with
  | nil => simp [after?, eq_comm]
  | cons a front ih =>
      cases cs with
      | nil => simp [after?]
      | cons c cs =>
          rw [after?]
          split
          · next hac => rw [ih, List.cons_append, hac, List.cons.injEq, eq_self, true_and]
          · next hac => simp [Ne.symm hac]

/-- A leading `./` says nothing. Induction on the characters: with each of them dropped the path keeps its names, and
stays relative if it was. -/
theorem said_dropDotSlashes (cs : List Char) :
    (Path.ofText (String.ofList cs)).names.filterMap Component.ofPiece? =
        (Path.ofText (String.ofList (dropDotSlashes cs))).names.filterMap Component.ofPiece? ∧
      ((Path.ofText (String.ofList (dropDotSlashes cs))).isAbsolute = false →
        (Path.ofText (String.ofList cs)).isAbsolute = false) := by
  fun_induction dropDotSlashes cs with
  | case1 rest ih =>
      have hbytes : Path.ofText (String.ofList ('.' :: '/' :: rest)) =
          ⟨Path.dot ++ Path.slash :: Text.encode (String.ofList rest)⟩ := by
        have hfront : Text.encode (String.ofList ['.', '/']) = Path.dot ++ [Path.slash] := by decide
        rw [Path.ofText, show '.' :: '/' :: rest = ['.', '/'] ++ rest from rfl, Text.encode_ofList_append, hfront,
          List.append_assoc, List.singleton_append]
      rw [hbytes]
      refine ⟨?_, fun _ => rfl⟩
      rw [Path.names_append_slash, List.filterMap_append]
      exact ih.1
  | case2 cs _ => exact ⟨rfl, id⟩

/-- A name that the registry takes: a file in the top directory, which ends in `.yaml`. Spellings with `./` in front are
taken too. -/
theorem playbookName?_eq_some {s p : String} (h : playbookName? s = some p) :
    dropDotSlashes s.toList = "automation/".toList ++ p.toList ∧ ".yaml".toList <:+ p.toList ∧ '/' ∉ p.toList := by
  unfold playbookName? at h
  split at h
  · cases h
  · obtain ⟨rest, hrest, h⟩ := Option.bind_eq_some_iff.mp h
    split at h
    · next hyaml =>
      cases h
      have hrestChars : (String.ofList rest).toList = rest := String.toList_ofList
      rw [hrestChars]
      obtain ⟨hsuffix, hslash⟩ := Bool.and_eq_true_iff.mp hyaml
      exact ⟨after?_eq_some_iff.mp hrest, List.isSuffixOf_iff_suffix.mp hsuffix, by simpa using hslash⟩
    · cases h

/-- A name that ends in `.yaml` stands for itself, and it is not the reserved one: with five bytes at least it is
neither empty nor made of dots, and the reserved name has another ending. -/
theorem isPlain_of_yaml {p : String} (hyaml : ".yaml".toList <:+ p.toList) (hslash : '/' ∉ p.toList) :
    IsPlain (Text.encode p) ∧ isReserved (Path.ofText p) = false := by
  obtain ⟨front, hfront⟩ := hyaml
  have hlength : 5 ≤ (Text.encode p).length := by
    have hsuffix : (Text.encode (String.ofList ".yaml".toList)).length = 5 := by decide
    rw [← String.ofList_toList (s := p), ← hfront, Text.encode_ofList_append, List.length_append, hsuffix]
    omega
  refine ⟨⟨?_, Text.slash_not_mem_encode hslash, ?_, ?_⟩, ?_⟩
  · -- a dot and two dots are too short
    rintro hnil
    rw [hnil] at hlength
    exact absurd hlength (by decide)
  · rintro hdot
    rw [hdot] at hlength
    exact absurd hlength (by decide)
  · rintro hdots
    rw [hdots] at hlength
    exact absurd hlength (by decide)
  · -- and the reserved name ends differently
    simp only [isReserved, Path.ofText, beq_eq_false_iff_ne]
    intro heq
    have hp : p = reservedName := Text.encode_inj heq
    have hlast : p.toList.getLast? = some 'l' := by rw [← hfront, List.getLast?_append]; rfl
    rw [hp] at hlast
    exact absurd hlast (by decide)

/-- What the registry calls a playbook says, as a path, the top directory and one plain name. So the policy places it in
the destination, directly under this name. -/
theorem said_of_playbookName? {s p : String} (h : playbookName? s = some p) :
    (Path.ofText s).isAbsolute = false ∧
      (Path.ofText s).pieces.filterMap Component.ofPiece? =
        [.normal (Text.encode topDirectory), .normal (Text.encode p)] := by
  obtain ⟨hdropped, hyaml, hslash⟩ := playbookName?_eq_some h
  have hplain : IsPlain (Text.encode p) := (isPlain_of_yaml hyaml hslash).1
  -- without leading dots the path is the directory of the bundle and one name
  have hpath : Path.ofText (String.ofList (dropDotSlashes s.toList)) =
      ⟨Text.encode topDirectory ++ Path.slash :: Text.encode p⟩ := by
    have htop : Text.encode (String.ofList "automation/".toList) = Text.encode topDirectory ++ [Path.slash] := by
      decide
    rw [hdropped, Path.ofText, Text.encode_ofList_append, htop, String.ofList_toList, List.append_assoc,
      List.singleton_append]
  -- leading dots say nothing, so the whole path says the same
  obtain ⟨hsaid, hrelative⟩ := said_dropDotSlashes s.toList
  rw [String.ofList_toList, hpath] at hsaid hrelative
  refine ⟨hrelative rfl, ?_⟩
  have htopPlain : IsPlain (Text.encode topDirectory) := by decide
  rw [← Path.filterMap_ofPiece?_names, hsaid, Path.names_append_slash, htopPlain.names, hplain.names]
  simp [Component.ofPiece?, hplain.not_isIdle, hplain.ne_dotDot, htopPlain.not_isIdle, htopPlain.ne_dotDot]

/-- Such a name has two components, the top directory and the playbook, and perhaps one for the place it starts at. -/
theorem components_of_playbookName? {s p : String} (h : playbookName? s = some p) :
    ∃ front, (front = [] ∨ front = [Component.current]) ∧
      (Path.ofText s).components = front ++ [.normal (Text.encode topDirectory), .normal (Text.encode p)] := by
  obtain ⟨hrelative, hsaid⟩ := said_of_playbookName? h
  refine ⟨_, ?_, by rw [Path.components, hsaid]⟩
  rw [hrelative, if_neg Bool.false_ne_true]
  split
  · exact .inr rfl
  · exact .inl rfl

/-- What the registry calls a playbook leads into the destination, to the same name. The top directory is dropped, and a
dot in front of it as well. -/
theorem inner_of_playbookName? {s p : String} (h : playbookName? s = some p) :
    escapes (Path.ofText s) = false ∧ inner (Path.ofText s) = Path.ofText p := by
  obtain ⟨front, hfront, hcomponents⟩ := components_of_playbookName? h
  obtain ⟨-, hyaml, hslash⟩ := playbookName?_eq_some h
  have hplain : IsPlain (Text.encode p) := (isPlain_of_yaml hyaml hslash).1
  have hinner : innerComponents (Path.ofText s) = [.normal (Text.encode p)] := by
    rw [innerComponents, hcomponents]
    rcases hfront with rfl | rfl <;> simp [dropTop, Component.bytes]
  constructor
  · rw [escapes, hcomponents]
    rcases hfront with rfl | rfl <;> rfl
  · rw [inner, hinner, Path.ofComponents_singleton hplain]
    rfl

/-! ## The registry -/

/-- The registry holds a name because of this member. -/
def IsListedBy (n : String) (m : Tar.Member) : Prop :=
  ∃ p, playbookName? m.name.display = some p ∧ n ∈ Text.items p

/-- The names are those of the members, whatever their kind, in some order. -/
theorem mem_playbookNames {b : Bundle} {names : List String} (h : playbookNames? b = some names) {p : String} :
    p ∈ names ↔ ∃ m ∈ b.archive.members, playbookName? m.name.display = some p := by
  unfold playbookNames? at h
  split at h
  · cases h
  · cases h
    rw [List.mem_mergeSort, List.mem_filterMap]

/-- The registry that is written when the program is built and read back when it starts holds the items of the playbook
names of the members. -/
theorem contains_registry_iff {b : Bundle} {names : List String} (h : playbookNames? b = some names) {n : String} :
    (Playbook.Registry.ofList (Text.joinItems names)).contains n = true ↔
      ∃ m ∈ b.archive.members, IsListedBy n m := by
  rw [Playbook.Registry.contains_iff, Playbook.Registry.ofList, Text.items_joinItems, List.mem_flatMap]
  constructor
  · rintro ⟨p, hp, hn⟩
    obtain ⟨m, hm, hname⟩ := (mem_playbookNames h).mp hp
    exact ⟨m, hm, p, hname, hn⟩
  · rintro ⟨m, hm, p, hname, hn⟩
    exact ⟨p, (mem_playbookNames h).mpr ⟨m, hm, hname⟩, hn⟩

/-! ## Members that are written -/

/-- A link that was placed stands at its path, be it that it leads nowhere. -/
theorem occupied_of_placeLink {path target : Path} {d d' : Disk} (hname : path.EndsInName)
    (hrun : runFrom (placeLink path target) d = (.ok (), d')) : d'.occupied path = true := by
  have hlink : ∀ d, runFrom (Action.during (.createLink path target) (Action.createLink path target)) d = (.ok (), d') →
      d'.occupied path = true := fun d h => Action.occupied_of_createLink hname (runFrom_during_eq_ok.mp h)
  unfold placeLink at hrun
  split at hrun
  · rw [runFrom_get_bind] at hrun
    split at hrun
    · obtain ⟨⟨⟩, d₁, -, hrun⟩ := exists_of_runFrom_bind hrun
      exact hlink d₁ hrun
    · exact hlink d hrun
  · exact hlink d hrun

/-- Behind a member of a kind that is written something stands at its place. A file under the reserved name is the only
one that is passed over, and a member of another kind is not written at all. -/
theorem occupied_of_placeMember {dest : Path} {m : Tar.Member} (at_ : Placement) {t t' : Tally} {d d' : Disk}
    (hname : (dest.join at_.relative).EndsInName) (hkind : m.kind ≠ .other) (hreserved : isReserved at_.relative = false)
    (hrun : runFrom (placeMember dest m at_ t) d = (.ok t', d')) : d'.occupied (dest.join at_.relative) = true := by
  -- whatever kind the member has, what is written of it stands at its path
  unfold placeMember at hrun
  cases hm : m.kind with
  | directory =>
      rw [hm] at hrun
      obtain ⟨⟨⟩, d₁, hcreate, hreturn⟩ := exists_of_runFrom_bind hrun
      cases hreturn
      have hdir := Action.isDirectory_of_createDirectory hcreate
      exact occupied_of_leadsSomewhere hname (leadsSomewhere_of_isDirectory hdir)
  | file =>
      rw [hm] at hrun
      simp only [hreserved, Bool.false_eq_true, if_false] at hrun
      split at hrun
      · cases hrun
      · obtain ⟨⟨⟩, d₁, hwrite, hreturn⟩ := exists_of_runFrom_bind hrun
        cases hreturn
        exact occupied_of_leadsSomewhere hname (Action.leadsSomewhere_of_writeFile hwrite)
  | link =>
      rw [hm] at hrun
      cases htarget : at_.linkTarget with
      | none =>
          rw [htarget] at hrun
          cases hrun
      | some target =>
          rw [htarget] at hrun
          obtain ⟨⟨⟩, d₁, hlink, hreturn⟩ := exists_of_runFrom_bind hrun
          cases hreturn
          exact occupied_of_placeLink hname hlink
  | other => exact absurd hm hkind

/-! ## Playbooks behind an extraction -/

/-- A member that an extraction writes, under the name that the registry gives it: its kind is one of those that are made,
its link field does not lead out of the destination, and its name is text that a comma list leaves whole. -/
structure IsDeliverable (m : Tar.Member) : Prop where
  kind : m.kind ≠ .other
  link : ∀ target ∈ m.link, escapes target = false
  text : m.name = .ofText m.name.display
  item : ∀ p, playbookName? m.name.display = some p → Text.IsItem p

/-- A playbook that is handled without failure stands in the destination. No later member takes it away again, because
an extraction never removes anything. -/
theorem occupied_of_extractMember {dest : Path} {m : Tar.Member} {p : String} {t t' : Tally} {d d' : Disk}
    (hm : IsDeliverable m) (hp : playbookName? m.name.display = some p)
    (hrun : runFrom (extractMember dest false t m) d = (.ok t', d')) : d'.occupied (dest.joinText p) = true := by
  obtain ⟨hescapes, hinner⟩ := inner_of_playbookName? hp
  obtain ⟨-, hyaml, hslash⟩ := playbookName?_eq_some hp
  obtain ⟨hplain, hreserved⟩ := isPlain_of_yaml hyaml hslash
  rw [← hm.text] at hescapes hinner
  have hclass : classify m.name m.link false = .place ⟨Path.ofText p, m.link.map inner⟩ := by
    refine classify_eq_place_iff.mpr ⟨(escapes_eq_false_iff _).mp hescapes, fun target htarget => ?_, by simp, ?_⟩
    · exact (escapes_eq_false_iff _).mp (hm.link target htarget)
    · rw [hinner]
  have hname : (dest.join (Path.ofText p)).EndsInName := Path.endsInName_joinText dest hplain
  unfold extractMember at hrun
  rw [hclass] at hrun
  exact occupied_of_placeMember ⟨Path.ofText p, m.link.map inner⟩ hname hm.kind hreserved hrun

/-- **Playbooks are delivered.** A name that the registry of a bundle holds stems from a member of the bundle. If the bundle
is extracted without failure and one of the members that the name stems from can be delivered, something of that name stands
in the destination. -/
theorem occupied_of_registry (b : Bundle) (names : List String) (d : Disk) (dest : Path) (t : Tally) (n : String)
    (hnames : playbookNames? b = some names) (hrun : ((b.extract dest false).runOn d).1 = .ok t)
    (hn : (Playbook.Registry.ofList (Text.joinItems names)).contains n = true) :
    (∃ m ∈ b.archive.members, IsListedBy n m) ∧
      ∀ m ∈ b.archive.members, IsListedBy n m → IsDeliverable m →
        ((b.extract dest false).runOn d).2.occupied (dest.joinText n) = true := by
  refine ⟨(contains_registry_iff hnames).mp hn, fun m hmem ⟨p, hp, hitem⟩ hm => ?_⟩
  -- the member is listed under its own playbook name and no other
  rw [Text.items_of_isItem (hm.item p hp), List.mem_singleton] at hitem
  subst hitem
  obtain ⟨-, hyaml, hslash⟩ := playbookName?_eq_some hp
  have hstable : Action.IsStable fun d => d.occupied (dest.joinText n) = true :=
    Action.IsStable.occupied (Path.endsInName_joinText dest (isPlain_of_yaml hyaml hslash).1)
  exact of_extract_eq_ok (fun _ _ at_ _ => keepsAt_of_isStable hstable at_) hmem
    (fun _ _ _ _ => occupied_of_extractMember hm hp) (Prod.ext hrun rfl)

/-! ### Two bundles -/

/-- A playbook, and its top directory in front of it. -/
def pingBundle : Bundle := .pack [.directory (.ofText "automation/"), .file (.ofText "./automation/ping.yaml") [0x78]]

theorem archive_pingBundle : pingBundle.archive =
    ⟨[⟨.directory, .ofText "automation/", none, 0, [], false⟩,
      ⟨.file, .ofText "./automation/ping.yaml", none, 1, [0x78], false⟩], false⟩ :=
  Tar.Archive.read_encodeArchive (by decide) (by decide +kernel)

theorem playbookName?_ping : playbookName? "./automation/ping.yaml" = some "ping.yaml" := by decide

theorem playbookNames?_pingBundle : playbookNames? pingBundle = some ["ping.yaml"] := by
  have htop : playbookName? "automation/" = none := by decide
  simp [playbookNames?, archive_pingBundle, htop, playbookName?_ping]

/-- A directory and a playbook: the playbook is in the registry, and it stands at its place behind the extraction. The
run is evaluated, and what stands there follows from the registry. -/
theorem occupied_of_registry_pingBundle :
    playbookNames? pingBundle = some ["ping.yaml"] ∧
      ((pingBundle.extract (.ofText "/") false).runOn .blank).1 = .ok { directories := 1, files := 1 } ∧
      (Playbook.Registry.ofList (Text.joinItems ["ping.yaml"])).contains "ping.yaml" = true ∧
      (∃ m ∈ pingBundle.archive.members, IsListedBy "ping.yaml" m) ∧
      ((pingBundle.extract (.ofText "/") false).runOn .blank).2.occupied ((Path.ofText "/").joinText "ping.yaml") =
        true := by
  have hrun : runFrom (pingBundle.extract (.ofText "/") false) .blank =
      (.ok { directories := 1, files := 1 },
        (Disk.blank.set [] (.directory 0o750)).set [Text.encode "ping.yaml"] (.file 0o640 [0x78])) := by
    -- the directory is the destination itself, which gets its mode
    have htop : runFrom (extractMember (.ofText "/") false {} ⟨.directory, .ofText "automation/", none, 0, [], false⟩)
        .blank = (.ok { directories := 1 }, Disk.blank.set [] (.directory 0o750)) := by
      decide +kernel
    have hwrite : runFrom (Action.writeFile ((Path.ofText "/").join (.ofText "ping.yaml")) [0x78] fileMode)
        (Disk.blank.set [] (.directory 0o750)) =
          (.ok (), (Disk.blank.set [] (.directory 0o750)).set [Text.encode "ping.yaml"] (.file 0o640 [0x78])) := by
      decide +kernel
    have hclass : classify (.ofText "./automation/ping.yaml") none false = .place ⟨.ofText "ping.yaml", none⟩ := by
      decide
    have hfile := extractMember_file (t := { directories := 1 })
      (m := ⟨.file, .ofText "./automation/ping.yaml", none, 1, [0x78], false⟩) hclass rfl rfl (by decide) hwrite
    rw [extract_eq_foldlM rfl archive_pingBundle]
    simp only [List.foldlM_cons, List.foldlM_nil, runFrom_bind, htop, hfile, runFrom_pure, Tally.countFile]
  -- the member that lists the name is one that is delivered
  have hcontains : (Playbook.Registry.ofList (Text.joinItems ["ping.yaml"])).contains "ping.yaml" = true := by
    decide
  obtain ⟨hlisted, hdelivered⟩ :=
    occupied_of_registry _ _ _ _ _ _ playbookNames?_pingBundle (congrArg Prod.fst hrun) hcontains
  refine ⟨playbookNames?_pingBundle, congrArg Prod.fst hrun, hcontains, hlisted, ?_⟩
  have hitem : Text.items "ping.yaml" = ["ping.yaml"] := by decide
  refine hdelivered ⟨.file, .ofText "./automation/ping.yaml", none, 1, [0x78], false⟩ ?_ ?_ ?_
  · rw [archive_pingBundle]
    simp
  · exact ⟨"ping.yaml", by rw [Path.display_ofText, playbookName?_ping], by rw [hitem]; simp⟩
  · refine ⟨by decide, by simp, by rw [Path.display_ofText], fun p hp => ?_⟩
    rw [Path.display_ofText, playbookName?_ping] at hp
    cases hp
    decide

/-- A file, and a hard link to it that is named as a playbook. -/
def hardLinkBundle : Bundle :=
  .compressed (Tar.encodeArchive
    [{ flag := 0x30, name := Text.encode "automation/site.txt", content := [0x78] },
      { flag := 0x31, name := Text.encode "automation/site.yaml", link := Text.encode "automation/site.txt" }])

/-- What the reader makes of a bundle with a hard link: a member of a kind that is not written. -/
theorem archive_hardLinkBundle : hardLinkBundle.archive =
    ⟨[⟨.file, .ofText "automation/site.txt", none, 1, [0x78], false⟩,
      ⟨.other, .ofText "automation/site.yaml", some (.ofText "automation/site.txt"), 0, [], false⟩], false⟩ :=
  Tar.Archive.read_encodeArchive (by decide) (by decide +kernel)

/-- The hard link is a playbook of the registry and nothing in the destination. The registry goes by names alone, and an
extraction passes over members of this kind. -/
theorem registry_hardLinkBundle :
    playbookNames? hardLinkBundle = some ["site.yaml"] ∧
      (Playbook.Registry.ofList (Text.joinItems ["site.yaml"])).contains "site.yaml" = true ∧
      ((hardLinkBundle.extract (.ofText "/") false).runOn .blank).1 = .ok { files := 1, skipped := 1 } ∧
      ((hardLinkBundle.extract (.ofText "/") false).runOn .blank).2.occupied ((Path.ofText "/").joinText "site.yaml") =
        false := by
  -- only the hard link has the name of a playbook
  have hnames : playbookNames? hardLinkBundle = some ["site.yaml"] := by
    have htext : playbookName? "automation/site.txt" = none := by decide
    have hname : playbookName? "automation/site.yaml" = some "site.yaml" := by decide
    simp [playbookNames?, archive_hardLinkBundle, htext, hname]
  have hrun : (hardLinkBundle.extract (.ofText "/") false).runOn .blank =
      (.ok { files := 1, skipped := 1 }, Disk.blank.set [Text.encode "site.txt"] (.file 0o640 [0x78])) := by
    have hwrite : runFrom (Action.writeFile ((Path.ofText "/").join (.ofText "site.txt")) [0x78] fileMode) .blank =
        (.ok (), Disk.blank.set [Text.encode "site.txt"] (.file 0o640 [0x78])) := by
      decide +kernel
    have hclass : classify (.ofText "automation/site.txt") none false = .place ⟨.ofText "site.txt", none⟩ := by
      decide
    have hfile := extractMember_file (t := {}) (m := ⟨.file, .ofText "automation/site.txt", none, 1, [0x78], false⟩)
      hclass rfl rfl (by decide) hwrite
    -- a member of this kind is counted as skipped, wherever it would be placed
    have hlink : ∀ t d, runFrom (extractMember (.ofText "/") false t
        ⟨.other, .ofText "automation/site.yaml", some (.ofText "automation/site.txt"), 0, [], false⟩) d =
          (.ok t.countSkipped, d) := by
      intro t d
      have hclass : classify (.ofText "automation/site.yaml") (some (.ofText "automation/site.txt")) false =
          .place ⟨.ofText "site.yaml", some (.ofText "site.txt")⟩ := by
        decide
      rw [extractMember, hclass]
      rfl
    rw [runOn_eq, extract_eq_foldlM rfl archive_hardLinkBundle]
    simp only [List.foldlM_cons, List.foldlM_nil, runFrom_bind, hfile, hlink, runFrom_pure, Tally.countFile,
      Tally.countSkipped]
  have hfree : (Disk.blank.set [Text.encode "site.txt"] (.file 0o640 [0x78])).occupied
      ((Path.ofText "/").joinText "site.yaml") = false := by
    decide +kernel
  rw [hrun]
  exact ⟨hnames, by decide, rfl, hfree⟩

end Bootstrap.Bundle
