import Bootstrap.Host.Install
import Bootstrap.Proofs.Disk.Presence

/-!
# The directories of an install

An install first makes the two directories for its artifacts, if they are missing. `Host.Groundwork` is what comes of it:
nothing is lost, all that is new are directories with three names, and each directory for artifacts is one to which its path
led before, or a new one. There is one exception: a link at the path of the command directory that led nowhere may lead
somewhere as soon as the configuration directory is made, as a link to `.config/../old` does.

So what stands at the path of an artifact behind the directories stood there before them: `Host.Groundwork.before`.
-/

namespace Bootstrap

open Effect Bootstrap.Action Disk

namespace Disk

/-- All that is new on a disk are directories with one of these names. -/
def NewDirectories (d₀ : Disk) (ns : List (List UInt8)) (d : Disk) : Prop :=
  ∀ l o, d.get? l = some o → d₀.get? l = none → o.isDirectory = true ∧ ∃ n ∈ ns, l.getLast? = some n

namespace NewDirectories

variable {d₀ d d' : Disk} {ns ns' : List (List UInt8)} {l : Location}

theorem refl (d : Disk) : d.NewDirectories ns d := by
  intro l o hget hfree
  rw [hget] at hfree
  cases hfree

/-- A directory may be set anew anywhere, and made at one of the names. -/
theorem set {mode : Nat} (h : d₀.NewDirectories ns d) (hl : d₀.get? l = none → ∃ n ∈ ns, l.getLast? = some n) :
    d₀.NewDirectories ns (d.set l (.directory mode)) := by
  intro l' o hget hfree
  rw [get?_set] at hget
  split at hget
  · next heq =>
    cases hget
    exact ⟨rfl, heq ▸ hl (heq ▸ hfree)⟩
  · exact h l' o hget hfree

/-- What is new in two parts has its name from one of them. Between them the disk grows, so an object that was new in
the first part is the same behind the second. -/
theorem trans (h : d₀.NewDirectories ns d) (hgrows : d.Grows d') (h' : d.NewDirectories ns' d') :
    d₀.NewDirectories (ns ++ ns') d' := by
  intro l o hget hfree
  cases hold : d.get? l with
  | none =>
      obtain ⟨hdir, n, hn, hlast⟩ := h' l o hget hold
      exact ⟨hdir, n, List.mem_append_right _ hn, hlast⟩
  | some o' =>
      obtain rfl : o' = o := Option.some.inj ((hgrows.get? l o' hold).symm.trans hget)
      obtain ⟨hdir, n, hn, hlast⟩ := h l o' hold hfree
      exact ⟨hdir, n, List.mem_append_left _ hn, hlast⟩

end NewDirectories

/-! ## One directory -/

section Missing

variable {d d' : Disk} {home p r : Path} {base : Location} {ns : List (List UInt8)} {mode : Nat}

/-- A directory on the way to a path has one of the names behind the home directory. The home directory itself is there,
and nothing above it is made. -/
theorem NewDirectories.makeDirectory {d₀ : Disk} (hns : ∀ n ∈ ns, Path.IsPlain n) (hr : Path.Along home ns r)
    (hext : Extended d₀ home base d) (h : d₀.NewDirectories ns d) (hmake : d.makeDirectory r mode = .ok d') :
    d₀.NewDirectories ns d' := by
  obtain ⟨parent, n, slash, hfree, rfl⟩ := makeDirectory_eq_ok hmake
  refine h.set fun _ => ?_
  rcases hr.front_or_behind with hfront | ⟨ms, hne, hpre, hnames⟩
  · -- on the way to the home directory nothing is missing
    obtain ⟨o, hget, -⟩ := hext.leads.isPassage hfront hr.isAbsolute hfree.walk
    rw [hfree.free] at hget
    cases hget
  · obtain ⟨front, last, rfl⟩ := (List.eq_nil_or_concat ms).resolve_left hne
    rw [List.concat_eq_append] at hpre hnames
    have hlast : last ∈ ns := hpre.subset (by simp)
    obtain ⟨-, hwalk⟩ := walk_eq_ok_iff.mp hfree.walk
    rw [hnames, ← List.append_assoc] at hwalk
    obtain ⟨_, hspot⟩ := hwalk.eq_name (hns last hlast)
    cases hspot
    exact ⟨_, hlast, by simp⟩

/-- A directory that is made if it is missing: its path leads to where it led before, or to something new. Besides, only
names behind the home directory are new. -/
theorem createDirectoryIfMissing_eq_ok {made : Bool} (hp : p.names = home.names ++ ns)
    (habs : p.isAbsolute = home.isAbsolute) (hns : ∀ n ∈ ns, Path.IsPlain n) (ht : d.IsTree) (hhome : d.LeadsTo home base)
    (h : runFrom (createDirectoryIfMissing p mode) d = (.ok made, d')) :
    Extended d home base d' ∧ d.NewDirectories ns d' ∧
      ∃ top, d'.LeadsTo p top ∧ (d.LeadsTo p top ∨ d.isDirectory p = false ∧ d.get? top = none) := by
  have hstart : Extended d home base d := ⟨.refl d, ht, hhome⟩
  refine ⟨(keeps_createDirectoryIfMissing_grows hp habs hns).of_runFrom h hstart, ?_⟩
  rw [createDirectoryIfMissing, runFrom_get_bind] at h
  split at h
  · next hdir =>
    cases h
    obtain ⟨top, hleads⟩ := isDirectory_iff.mp hdir
    exact ⟨.refl _, top, hleads, .inl hleads⟩
  · next hmissing =>
    obtain ⟨⟨⟩, d₂, hcreate, hreturn⟩ := exists_of_runFrom_bind h
    cases hreturn
    obtain ⟨⟨⟩, d₁, htree, hmode⟩ := exists_of_runFrom_bind hcreate
    rw [runFrom_during_eq_ok] at htree
    have halong : Path.Along home ns p := ⟨hp ▸ List.prefix_rfl, fun _ => habs⟩
    have hmade : Keeps (fun d' => (Extended d home base d' ∧ d.LeadsToNew p d') ∧ d.NewDirectories ns d')
        (makeDirectoryTree p mode) := by
      refine keeps_makeDirectoryTree fun r hr d₁ d₂ hd₁ hmake => ?_
      have hr' := halong.mem_self_parents hr
      exact ⟨Extended.makeDirectory hp habs hns hr' d₁ d₂ hd₁.1 hmake, hd₁.2.makeDirectory hns hr' hd₁.1.1 hmake⟩
    obtain ⟨⟨hext, hnew⟩, hdirs⟩ := hmade.of_runFrom htree ⟨⟨hstart, fun l hl => .inl hl⟩, .refl d⟩
    -- the mode is set of the directory to which the path leads by then
    obtain ⟨top, old, hstatus, rfl⟩ :=
      setMode_of_makeDirectories htree (runFrom_change_eq_ok.mp (runFrom_during_eq_ok.mp hmode))
    have hget := get?_of_find hstatus
    refine ⟨hdirs.set fun hfree => (hdirs _ _ hget hfree).2, top, ⟨_, find_set hstatus (.remode hget) rfl (by simp)⟩, ?_⟩
    have hno : d.isDirectory p = false := by simpa using hmissing
    refine .inr ⟨hno, (hnew top ⟨old, hstatus⟩).resolve_left fun hleads => ?_⟩
    rw [isDirectory_iff.mpr ⟨top, hleads⟩] at hno
    cases hno

end Missing

end Disk

namespace Host

variable {h : Host} {d₀ b : Disk}

/-! ## The directories of an install -/

/-- The names of the directories that an install makes. -/
def groundNames : List String := [".config", "gascan", "bin"]

/-- The directories in which an install puts artifacts. -/
def sites (h : Host) : List Path := [h.home, h.configDirectory, h.binDirectory]

/-- What a path led to before, a new directory, or what a link leads to that led nowhere. -/
inductive Sited (h : Host) (d₀ : Disk) (q : Path) (top : Location) : Prop where
  | old (hleads : d₀.LeadsTo q top)
  | new (hfree : d₀.get? top = none)
  | link (hbin : q = h.binDirectory) (hthere : d₀.occupied q = true) (hnowhere : d₀.leadsSomewhere q = false)

/-- What comes of the directories of an install, `d₀` being the disk before and `b` the disk behind them. -/
structure Groundwork (h : Host) (d₀ b : Disk) : Prop where
  tree : d₀.IsTree
  grows : d₀.Grows b
  new : d₀.NewDirectories (groundNames.map Text.encode) b
  sites : ∀ q ∈ h.sites, ∃ top, b.LeadsTo q top ∧ Sited h d₀ q top

/-- The configuration directory lies two names below the home directory. -/
theorem names_configDirectory (h : Host) :
    h.configDirectory.names = h.home.names ++ [Text.encode ".config", Text.encode "gascan"] := by
  rw [configDirectory, Path.names_joinText (by decide), Path.names_joinText (by decide), List.append_assoc,
    List.singleton_append]

/-- A path that led to no directory leads to one by now: a link stands at it that was there before. For all that was
made in between has other names, or stands behind that directory. -/
theorem link_of_leadsTo {d₁ : Disk} {base top : Location} (hhome : d₀.LeadsTo h.home base) (hgrows : d₀.Grows d₁)
    (hnew : d₀.NewDirectories [Text.encode ".config", Text.encode "gascan"] d₁) (hleads : d₁.LeadsTo h.binDirectory top)
    (hdir : ¬ d₀.isDirectory h.binDirectory = true) : Sited h d₀ h.binDirectory top := by
  refine .link rfl ?_ ?_
  · have hthere : d₁.occupied h.binDirectory = true := occupied_of_leadsSomewhere
      (Path.endsInName_joinText h.home (by decide)) (leadsSomewhere_of_isDirectory (isDirectory_iff.mpr ⟨top, hleads⟩))
    obtain ⟨l, o, hstatus⟩ := occupied_iff.mp hthere
    obtain rfl := (hhome.carry hgrows.carries).eq_of_linkStatus (by decide) hstatus
    -- what stands at the name now was there before, for the first step made nothing of this name
    have hget := get?_of_find hstatus
    cases hold : d₀.get? (base ++ [Text.encode "bin"]) with
    | some o' =>
        exact isOk_find (hhome.linkStatus_joinText (by decide) (by decide) (isUsable_of_linkStatus hstatus) hold)
    | none =>
        obtain ⟨-, n, hn, hlast⟩ := hnew _ _ hget hold
        rw [List.getLast?_concat, Option.some.injEq] at hlast
        subst hlast
        exact absurd hn (by decide)
  · rw [Bool.eq_false_iff]
    intro hthere
    -- if the path had led somewhere, it would have led to the directory that it leads to now
    obtain ⟨l, o, hold⟩ := exists_of_isOk_find hthere
    obtain ⟨mode, hnow⟩ := hleads
    cases (hgrows.find hold).symm.trans hnow
    exact hdir (isDirectory_iff.mpr ⟨_, mode, hold⟩)

/-- When both directories were made or found, nothing but them is new. Each of the two was there before, was made, or is
reached through a link to what was made in between. -/
theorem groundwork_of_makeDirectories {base : Location} (ht : d₀.IsTree) (hhome : d₀.LeadsTo h.home base)
    (hrun : runFrom (makeDirectories h) d₀ = (.ok (), b)) : Groundwork h d₀ b := by
  obtain ⟨_, d₁, hfirst, hrest⟩ := exists_of_runFrom_bind hrun
  obtain ⟨_, d₂, hsecond, hreturn⟩ := exists_of_runFrom_bind hrest
  cases hreturn
  have habs : h.configDirectory.isAbsolute = h.home.isAbsolute := by
    rw [configDirectory, Path.isAbsolute_joinText (by decide), Path.isAbsolute_joinText (by decide)]
  obtain ⟨hext₁, hdirs₁, top, hconfig, hwas⟩ := createDirectoryIfMissing_eq_ok (names_configDirectory h) habs
    (by decide) ht hhome (runFrom_during_eq_ok.mp hfirst)
  -- the second directory is made on the disk that the first one left
  obtain ⟨hext₂, hdirs₂, top', hbin, hwas'⟩ := createDirectoryIfMissing_eq_ok (Path.names_joinText (by decide))
    (Path.isAbsolute_joinText (by decide)) (by decide) hext₁.tree hext₁.leads (runFrom_during_eq_ok.mp hsecond)
  refine ⟨ht, hext₁.grows.trans hext₂.grows, hdirs₁.trans hext₂.grows hdirs₂, ?_⟩
  simp only [Host.sites, List.forall_mem_cons, List.not_mem_nil, false_implies, implies_true, and_true]
  refine ⟨⟨base, hext₂.leads, .old hhome⟩, ⟨top, hconfig.carry hext₂.grows.carries, ?_⟩, top', hbin, ?_⟩
  · rcases hwas with hleads | ⟨-, hfree⟩
    · exact .old hleads
    · exact .new hfree
  · rcases hwas' with hleads | ⟨-, hfree⟩
    · -- it was found: it was there at the start, or a link leads to what the first step made
      by_cases hdir : d₀.isDirectory h.binDirectory = true
      · obtain ⟨l, hl⟩ := isDirectory_iff.mp hdir
        obtain rfl := (hl.carry hext₁.grows.carries).unique hleads
        exact .old hl
      · exact link_of_leadsTo hhome hext₁.grows hdirs₁ hleads hdir
    · exact .new (hext₁.grows.get?_eq_none hfree)

/-! ## Places of artifacts -/

/-- A name that a directory can hold and that is not the name of one of the directories of an install. -/
structure IsArtifactName (s : String) : Prop where
  plain : Path.IsPlain (Text.encode s)
  short : (Text.encode s).length ≤ maxName
  other : s ∉ groundNames

instance : DecidablePred IsArtifactName := fun _ =>
  decidable_of_iff (_ ∧ _ ∧ _) ⟨fun h => ⟨h.1, h.2.1, h.2.2⟩, fun h => ⟨h.plain, h.short, h.other⟩⟩

/-- The place of an artifact: a name in a directory. -/
structure Slot where
  directory : Path
  name : String

namespace Slot

def path (a : Slot) : Path := a.directory.joinText a.name

structure Fits (h : Host) (a : Slot) : Prop where
  directory : a.directory ∈ h.sites
  name : IsArtifactName a.name

variable {name : String}

theorem fits_home (hname : IsArtifactName name) : Fits h ⟨h.home, name⟩ := ⟨by simp [sites], hname⟩

theorem fits_config (hname : IsArtifactName name) : Fits h ⟨h.configDirectory, name⟩ := ⟨by simp [sites], hname⟩

theorem fits_bin (hname : IsArtifactName name) : Fits h ⟨h.binDirectory, name⟩ := ⟨by simp [sites], hname⟩

end Slot

/-- What stands at the path of an artifact behind the directories stood there before them. The path led there too, unless
it is the path of a command and the command directory was a link that led nowhere. -/
theorem Groundwork.before (hb : Groundwork h d₀ b) {a : Slot} (ha : a.Fits h) {l : Location} {o : Object}
    (hstatus : b.linkStatus a.path = .ok (l, o)) : d₀.get? l = some o ∧ (d₀.occupied a.path = true ∨
      a.directory = h.binDirectory ∧ d₀.occupied h.binDirectory = true ∧ d₀.leadsSomewhere h.binDirectory = false) := by
  obtain ⟨top, hleads, hwas⟩ := hb.sites _ ha.directory
  obtain rfl := hleads.eq_of_linkStatus ha.name.plain hstatus
  have hget := get?_of_find hstatus
  cases hold : d₀.get? (top ++ [Text.encode a.name]) with
  | none =>
      -- it would be one of the new directories
      obtain ⟨-, n, hn, hlast⟩ := hb.new _ _ hget hold
      rw [List.getLast?_concat, Option.some.injEq] at hlast
      subst hlast
      obtain ⟨s, hs, heq⟩ := List.mem_map.mp hn
      exact absurd (Text.encode_inj heq ▸ hs) ha.name.other
  | some o' =>
      obtain rfl : o' = o := Option.some.inj ((hb.grows.get? _ _ hold).symm.trans hget)
      refine ⟨rfl, ?_⟩
      cases hwas with
      | old htop =>
          exact .inl (isOk_find
            (htop.linkStatus_joinText ha.name.plain ha.name.short (isUsable_of_linkStatus hstatus) hold))
      | new hfree =>
          -- nothing stands in a directory that was not there
          have hdir := hb.tree.parent _ _ _ hold
          rw [isDirectoryAt, hfree] at hdir
          cases hdir
      | link hbin hthere hnowhere => exact .inr ⟨hbin, hbin ▸ hthere, hbin ▸ hnowhere⟩

end Host

end Bootstrap
