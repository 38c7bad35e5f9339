import Bootstrap.Proofs.Bundle.AdHoc
import Bootstrap.Proofs.Disk.Restriction

/-!
# Extraction for ad-hoc use is a restriction

An extraction for ad-hoc use passes over members, and so it makes other directories on the way and meets other objects than
the extraction of everything. Without links it leaves the same behind the names on the allow-list nevertheless, and it does
not fail where the other one does not: `Bundle.extract_restricts`.

Both extractions go through the members side by side (`Effect.Mirrors`). A member that both of them write stands behind a name
on the list; one that is passed over changes nothing that a later member behind such a name depends on.
-/

namespace Bootstrap.Bundle

open Effect Disk
open Bootstrap.Path (IsPlain)

/-- As many members were counted, and as many of them as unsafe. -/
structure Tally.Agrees (t u : Tally) : Prop where
  outside : u.outside = t.outside
  total : u.total = t.total

section Members

variable {dest : Path} {top : Location} {m : Tar.Member} {at_ : Placement} {t u t' : Tally} {d d' : Disk}

/-- Whatever is written of a member, it is one that was counted and is not unsafe. So two extractions that both place a
member still agree in their counts. -/
theorem counted_of_placeMember (hrun : runFrom (placeMember dest m at_ t) d = (.ok t', d')) :
    t'.outside = t.outside ∧ t'.total = t.total + 1 := by
  -- what is written comes before the count and does not change it
  have hbehind : ∀ (x : Action Unit) (u : Tally), runFrom (do x; return u) d = (.ok t', d') → t' = u := by
    intro x u h
    obtain ⟨⟨⟩, d₁, -, hreturn⟩ := exists_of_runFrom_bind h
    cases hreturn
    rfl
  unfold placeMember at hrun
  cases hkind : m.kind with
  | directory =>
      rw [hkind] at hrun
      rw [hbehind _ _ hrun]
      exact ⟨rfl, t.total_countDirectory⟩
  | file =>
      rw [hkind] at hrun
      dsimp only at hrun
      split_ifs at hrun
      · cases hrun
      · cases hrun
        exact ⟨rfl, t.total_countSkipped⟩
      · rw [hbehind _ _ hrun]
        exact ⟨rfl, t.total_countFile⟩
  | link =>
      rw [hkind] at hrun
      dsimp only at hrun
      split at hrun
      · cases hrun
      · rw [hbehind _ _ hrun]
        exact ⟨rfl, t.total_countLink⟩
  | other =>
      rw [hkind] at hrun
      cases hrun
      exact ⟨rfl, t.total_countSkipped⟩

/-- The policy for ad-hoc use lets less through. -/
theorem classify_adhoc (name : Path) (link : Option Path) :
    classify name link true =
      match classify name link false with
      | .place at_ => if keptForAdhoc at_.relative then .place at_ else .notNeeded
      | other => other := by
  unfold classify
  split_ifs <;> simp_all

/-- Two counts that agree go on agreeing when one more member is counted in both. -/
theorem Tally.Agrees.of_counted (h : Tally.Agrees t u) {u' : Tally} (ht : t'.outside = t.outside ∧ t'.total = t.total + 1)
    (hu : u'.outside = u.outside ∧ u'.total = u.total + 1) : Tally.Agrees t' u' where
  outside := by rw [ht.1, hu.1, h.outside]
  total := by rw [ht.2, hu.2, h.total]

/-- What goes behind a name on the list is written by both extractions, in the same way and with the same outcome. Links
are left out, since what is written through a link may lie behind another name. -/
theorem mirrors_placeMember {ns : List (List UInt8)} (hq : Path.Behind adhocFirstNames dest ns (dest.join at_.relative))
    (hkind : m.kind ≠ .link) (h : Tally.Agrees t u) :
    Mirrors (Restricts adhocFirstNames dest top) Tally.Agrees (placeMember dest m at_ t) (placeMember dest m at_ u) := by
  -- both runs take the same branch, for the kind and the place are the same
  have hruns : Mirrors (Restricts adhocFirstNames dest top) (fun _ _ => True) (placeMember dest m at_ t)
      (placeMember dest m at_ u) := by
    unfold placeMember
    cases hm : m.kind with
    | directory => exact (Restricts.mirrors_createDirectory hq).bind fun _ _ _ => .pure trivial
    | file =>
        dsimp only
        split_ifs
        · exact .throw _ _
        · exact .pure trivial
        · exact (Restricts.mirrors_writeFile hq).bind fun _ _ _ => .pure trivial
    | link => exact absurd hm hkind
    | other => exact .pure trivial
  intro d e hde t' d' hrun
  -- the counts follow from what a member counts as
  obtain ⟨u', e', hrun', hde', -⟩ := hruns d e hde t' d' hrun
  exact ⟨u', e', hrun', hde', h.of_counted (counted_of_placeMember hrun) (counted_of_placeMember hrun')⟩

/-- What goes behind another name is written by the first extraction only, and the second one counts it as skipped.
Nothing that the relation speaks of is touched. -/
theorem mirrors_countSkipped {ns : List (List UInt8)} {n : List UInt8} (hq : Path.Along dest (n :: ns) (dest.join at_.relative))
    (hnames : (dest.join at_.relative).names = dest.names ++ n :: ns) (hplain : ∀ x ∈ n :: ns, IsPlain x)
    (hn : n ∉ adhocFirstNames) (hkind : m.kind ≠ .link) (h : Tally.Agrees t u) :
    Mirrors (Restricts adhocFirstNames dest top) Tally.Agrees (placeMember dest m at_ t)
      (pure u.countSkipped : Action Tally) := by
  refine .of_keeps (fun e => keeps_placeMember ?_) fun d t' d' hrun => ?_
  · exact ⟨fun _ => Restricts.keeps_createDirectory hq hplain hn hnames,
      fun _ _ => Restricts.keeps_writeFile hq hplain hn hnames, fun hm => absurd hm hkind⟩
  · exact h.of_counted (counted_of_placeMember hrun) ⟨rfl, u.total_countSkipped⟩

/-- **One member.** The full extraction places whatever is not outside; the ad-hoc one places what is on the list
besides, and passes over the rest. What only the full one writes lies behind a name off the list, where the relation
asks for nothing. -/
theorem mirrors_extractMember (hkind : m.kind ≠ .link) (h : Tally.Agrees t u) :
    Mirrors (Restricts adhocFirstNames dest top) Tally.Agrees (extractMember dest false t m)
      (extractMember dest true u m) := by
  unfold extractMember
  rw [classify_adhoc]
  cases hclass : classify m.name m.link false with
  | outside => exact .pure ⟨by simp only [Tally.countOutside, h.outside], by simp [h.total]⟩
  | notNeeded => exact .pure ⟨h.outside, by simp [h.total]⟩
  | place at_ =>
      obtain ⟨hname, -, -, rfl⟩ := classify_eq_place_iff.mp hclass
      obtain ⟨ns, hplain, hinner, hns⟩ := exists_inner hname
      have hrelative := (descends_inner hname).relative
      have hnames : (dest.join (inner m.name)).names = dest.names ++ ns := by rw [Path.names_join hrelative, hns]
      have habs : (dest.join (inner m.name)).isAbsolute = dest.isAbsolute := Path.isAbsolute_join hrelative
      have hkept : keptForAdhoc (inner m.name) = true ↔ ∀ n ∈ ns.head?, n ∈ adhocFirstNames := by
        rw [hinner]
        exact keptForAdhoc_iff hplain
      -- the restricted run follows the member if its first name is allowed, and skips it otherwise
      by_cases hhead : ∀ n ∈ ns.head?, n ∈ adhocFirstNames
      · simp only [hkept.mpr hhead, if_true]
        exact mirrors_placeMember ⟨hnames, fun _ => habs, hplain, hhead⟩ hkind h
      · simp only [mt hkept.mp hhead]
        cases ns with
        | nil => exact absurd (by simp) hhead
        | cons n more =>
            have hn : n ∉ adhocFirstNames := by simpa using hhead
            exact mirrors_countSkipped ⟨hnames ▸ List.prefix_rfl, fun _ => habs⟩ hnames hplain hn hkind h

end Members

/-- All members, one after the other: a full extraction that succeeds is followed by an ad-hoc one, step by step. -/
theorem exists_restricts_of_extract {b : Bundle} (hdest : d.LeadsTo dest top)
    (hempty : ∀ l, isBelow top l = true → d.get? l = none) (hlinks : ∀ m ∈ b.archive.members, m.kind ≠ .link)
    (hrun : runFrom (b.extract dest false) d = (.ok t, d')) :
    ∃ u e, runFrom (b.extract dest true) d = (.ok u, e) ∧ Restricts adhocFirstNames dest top d' e ∧ Tally.Agrees t u := by
  obtain ⟨hcompressed, hbroken, hfold⟩ := extract_eq_ok_iff.mp hrun
  have hmember : ∀ m ∈ b.archive.members, ∀ t u, Tally.Agrees t u → Mirrors (Restricts adhocFirstNames dest top)
      Tally.Agrees (extractMember dest false t m) (extractMember dest true u m) :=
    fun m hm _ _ h => mirrors_extractMember (hlinks m hm) h
  have hnothing : Tally.Agrees {} {} := ⟨rfl, rfl⟩
  have hmembers := Mirrors.foldlM hmember hnothing
  obtain ⟨u, e, hfold', hrestricts, hagrees⟩ := hmembers d d (.start hdest hempty) t d' hfold
  exact ⟨u, e, extract_eq_ok_iff.mpr ⟨hcompressed, hbroken, hfold'⟩, hrestricts, hagrees⟩

/-- **Extraction for ad-hoc use is a restriction.** Let a destination lead to an empty directory, and let no member of a bundle
be a link. If the extraction of everything succeeds, then the extraction for ad-hoc use succeeds on the same disk, with as many
members counted and as many of them unsafe. Behind the names on the allow-list it leaves the same in the directory, behind other
names nothing; the directory itself gets the same mode, and nothing outside it differs. -/
theorem extract_restricts (b : Bundle) (d : Disk) (dest : Path) (top : Location) (mode : Nat) (t : Tally)
    (hdest : d.status dest = .ok (top, .directory mode)) (hempty : ∀ l, isBelow top l = true → d.get? l = none)
    (hlinks : ∀ m ∈ b.archive.members, m.kind ≠ .link)
    (hrun : ((b.extract dest false).runOn d).1 = .ok t) :
    let full := ((b.extract dest false).runOn d).2
    let part := ((b.extract dest true).runOn d).2
    (∃ u, ((b.extract dest true).runOn d).1 = .ok u ∧ u.outside = t.outside ∧ u.total = t.total) ∧
      (∀ n more, part.get? (top ++ n :: more) =
        if n ∈ adhocFirstNames then full.get? (top ++ n :: more) else none) ∧
      (∃ mode', full.status dest = .ok (top, .directory mode') ∧ part.status dest = .ok (top, .directory mode')) ∧
      ∀ l, isBelow top l = false → part.get? l = full.get? l := by
  intro full part
  have hfull : runFrom (b.extract dest false) d = (.ok t, full) := Prod.ext hrun rfl
  obtain ⟨u, e, hrun', hrestricts, hagrees⟩ := exists_restricts_of_extract ⟨mode, hdest⟩ hempty hlinks hfull
  have hpart : part = e := congrArg Prod.snd hrun'
  rw [hpart]
  -- the two disks as they are related, location by location
  refine ⟨⟨u, congrArg Prod.fst hrun', hagrees.outside, hagrees.total⟩, fun n more => ?_, ?_, fun l hl => ?_⟩
  · split
    · next hn =>
      refine hrestricts.get?_eq fun x hx => ?_
      cases hx
      exact hn
    · next hn => exact hrestricts.dropped n more hn
  · obtain ⟨mode', hstatus⟩ := hrestricts.leads
    exact ⟨mode', hrestricts.grows.find hstatus, hstatus⟩
  · refine hrestricts.kept l fun n more heq => ?_
    rw [heq, isBelow_append (by simp)] at hl
    cases hl

/-! ### A plugin and a playbook -/

/-- A plugin, which is needed for ad-hoc use, a playbook, which is not, and a file that would lie outside. -/
def pluginBundle : Bundle :=
  .pack [.file (.ofText "automation/plugins/ping") [1], .file (.ofText "automation/site.yaml") [2],
    .file (.ofText "../key") [3]]

/-- What the reader makes of a bundle with a plugin, a playbook and a name that leads out. -/
theorem archive_pluginBundle : pluginBundle.archive =
    ⟨[⟨.file, .ofText "automation/plugins/ping", none, 1, [1], false⟩,
      ⟨.file, .ofText "automation/site.yaml", none, 1, [2], false⟩,
      ⟨.file, .ofText "../key", none, 1, [3], false⟩], false⟩ :=
  Tar.Archive.read_encodeArchive (by decide) (by decide +kernel)

/-- The two extractions of this bundle, side by side: the playbook is left out by the one that is restricted, and the
plugin is the same in both. -/
theorem extract_restricts_pluginBundle :
    Disk.blank.status (.ofText "/") = .ok ([], .directory 0o755) ∧
      (∀ l, isBelow [] l = true → Disk.blank.get? l = none) ∧
      (∀ m ∈ pluginBundle.archive.members, m.kind ≠ .link) ∧
      ((pluginBundle.extract (.ofText "/") false).runOn .blank).1 = .ok { files := 2, outside := 1 } ∧
      let part := ((pluginBundle.extract (.ofText "/") true).runOn .blank).2
      (∃ u, ((pluginBundle.extract (.ofText "/") true).runOn .blank).1 = .ok u ∧ u.outside = 1 ∧ u.total = 3) ∧
        part.get? [Text.encode "plugins", Text.encode "ping"] = some (.file 0o640 [1]) ∧
        part.get? [Text.encode "site.yaml"] = none := by
  have hdest : Disk.blank.status (.ofText "/") = .ok ([], .directory 0o755) := by decide +kernel
  have hempty : ∀ l, isBelow [] l = true → Disk.blank.get? l = none := fun l =>
    get?_eq_none_of_hasBelow (by decide)
  have hlinks : ∀ m ∈ pluginBundle.archive.members, m.kind ≠ .link := by
    rw [archive_pluginBundle]
    decide
  -- one disk for each of the two files
  let d₁ := (Disk.blank.set [Text.encode "plugins"] (.directory 0o750)).set [Text.encode "plugins", Text.encode "ping"]
    (.file 0o640 [1])
  let d₂ := d₁.set [Text.encode "site.yaml"] (.file 0o640 [2])
  have hplugin : runFrom (Action.writeFile ((Path.ofText "/").join (.ofText "plugins/ping")) [1] fileMode) .blank =
      (.ok (), d₁) := by
    decide +kernel
  have hplaybook : runFrom (Action.writeFile ((Path.ofText "/").join (.ofText "site.yaml")) [2] fileMode) d₁ =
      (.ok (), d₂) := by
    decide +kernel
  have hclass : classify (.ofText "automation/plugins/ping") none false = .place ⟨.ofText "plugins/ping", none⟩ := by
    decide +kernel
  have hclass' : classify (.ofText "automation/site.yaml") none false = .place ⟨.ofText "site.yaml", none⟩ := by
    decide +kernel
  have hfirst := extractMember_file (t := {}) (m := ⟨.file, .ofText "automation/plugins/ping", none, 1, [1], false⟩)
    hclass rfl rfl (by decide) hplugin
  have hsecond := extractMember_file (t := { files := 1 })
    (m := ⟨.file, .ofText "automation/site.yaml", none, 1, [2], false⟩) hclass' rfl rfl (by decide) hplaybook
  have houtside : ∀ t d, runFrom (extractMember (.ofText "/") false t ⟨.file, .ofText "../key", none, 1, [3], false⟩) d =
      (.ok t.countOutside, d) := by
    intro t d
    rw [extractMember, show classify (.ofText "../key") none false = .outside by decide +kernel]
    rfl
  have hrun : (pluginBundle.extract (.ofText "/") false).runOn .blank = (.ok { files := 2, outside := 1 }, d₂) := by
    rw [runOn_eq, extract_eq_foldlM rfl archive_pluginBundle]
    simp only [List.foldlM_cons, List.foldlM_nil, runFrom_bind, hfirst, hsecond, houtside, runFrom_pure,
      Tally.countFile, Tally.countOutside]
  have hok : ((pluginBundle.extract (.ofText "/") false).runOn .blank).1 = .ok { files := 2, outside := 1 } := by
    rw [hrun]
  obtain ⟨hcounted, htree, -⟩ := extract_restricts pluginBundle _ _ _ _ _ hdest hempty hlinks hok
  refine ⟨hdest, hempty, hlinks, hok, hcounted, ?_, ?_⟩
  · refine (htree _ _).trans ?_
    rw [if_pos (by decide +kernel), hrun]
    decide +kernel
  · refine (htree _ _).trans (if_neg ?_)
    decide +kernel

end Bootstrap.Bundle
