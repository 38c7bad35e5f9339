import Bootstrap.Proofs.Host.Groundwork
import Bootstrap.Proofs.Host.Repetition
import Mathlib.Data.List.Nodup

/-!
# The report of an install

What an install reports is what became of the disk: `Host.install_reports`.

* `Host.artifacts` — what is listed, by what the install could read when it came to it.
* `Host.Makes` — what is put at each path.
* `Host.Truthful` — the report, the disk before and the disk behind fit together.

Behind the directories an install goes from artifact to artifact. `Host.Ledger` says of the report so far and of the disk so
far that they fit together, and each step enters its artifacts in it. What keeps the entries apart is the name of an
artifact: no two artifacts have the same, so what is found at the path of the next one was there from the start.

What was there behind the directories was there before them, but a path may lead to it only since: `Host.install_detour`.
-/

namespace Bootstrap

open Effect Bootstrap.Action Disk

/-! ## One attempt to put something at a path -/

namespace Disk

/-- Something stands at a path and is left alone, or an object is put where nothing is, and then it stands at the path. -/
inductive Written (d : Disk) (p : Path) (o : Object) : Bool → Disk → Prop where
  | kept (hthere : d.occupied p = true) : Written d p o false d
  | made {l : Location} (hfree : d.get? l = none) (hstatus : (d.set l o).linkStatus p = .ok (l, o)) :
      Written d p o true (d.set l o)

variable {d d' : Disk} {q : Path} {top parent : Location} {n : List UInt8} {slash : Bool} {s : String}

/-- A name that is free in a directory gets the object, and the path of the directory and the name leads to it. -/
theorem LeadsTo.written (hdir : d.LeadsTo q top) (hs : Path.IsPlain (Text.encode s))
    (hfree : d.IsFree .never (q.joinText s) parent n slash) (o : Object) :
    d.Written (q.joinText s) o true (d.set (parent ++ [n]) o) := by
  cases hdir.walk_joinText hs rfl hfree.walk
  obtain ⟨l, o', hstatus⟩ := occupied_iff.mp (hfree.occupied_set (Path.endsInName_joinText q hs) o)
  obtain rfl := (hdir.carry (hfree.admits o).carries).eq_of_linkStatus hs hstatus
  have hget := get?_of_find hstatus
  rw [get?_set, if_pos rfl] at hget
  cases hget
  exact .made hfree.free hstatus

/-- No directory is made for a file in a directory, so all that may be new is the file. -/
theorem LeadsTo.written_of_writeNewFile {made : Bool} {content : List UInt8} {mode : Nat} (hdir : d.LeadsTo q top)
    (hs : Path.IsPlain (Text.encode s)) (hwrite : runFrom (writeNewFile (q.joinText s) content mode) d = (.ok made, d')) :
    d.Written (q.joinText s) (.file (mode &&& 0o7777) content) made d' := by
  have hname := Path.endsInName_joinText q hs
  obtain ⟨d₁, hensure, hends⟩ := writeNewFile_eq_ok hwrite
  have husable : (q.joinText s).IsUsable := by
    rcases hends with ⟨-, -, hadd⟩ | ⟨-, _, _, hfree, -⟩
    · obtain ⟨_, _, hstatus⟩ := occupied_iff.mp (occupied_of_addFile hname hadd)
      exact isUsable_of_linkStatus hstatus
    · exact (walk_eq_ok_iff.mp hfree.walk).1
  have habove : ∀ r, (q.joinText s).parent? = some r → r.bytes = [] ∨ d.leadsSomewhere r = true := fun r hr =>
    (hdir.parent?_joinText hs husable hr).imp_right fun hr =>
      leadsSomewhere_of_isDirectory (isDirectory_iff.mpr ⟨top, hr⟩)
  rw [ensureParent_of_leadsSomewhere habove] at hensure
  cases hensure
  rcases hends with ⟨rfl, rfl, hadd⟩ | ⟨rfl, parent, n, hfree, rfl⟩
  · exact .kept (occupied_of_addFile hname hadd)
  · exact hdir.written hs hfree _

end Disk

namespace Host

variable {h : Host} {now : Instant} {sources : Sources}

/-! ## Artifacts -/

/-- What an install puts at a path, on a disk that has all that it reads. -/
inductive Makes (h : Host) (now : Instant) (sources : Sources) (d : Disk) : Path → Object → Prop where
  | vaultKey {text : String} (hread : d.readText h.machineId = .ok text) :
      Makes h now sources d (h.configDirectory.joinText ".vault-key")
        (.file 0o400 (Text.encode (keyOf text "vault" now)))
  | helper : Makes h now sources d (h.binDirectory.joinText helperName) (.file 0o750 sources.helper)
  | link {name : String} (hname : name ∈ helperLinks) :
      Makes h now sources d (h.binDirectory.joinText name) (.link (h.binDirectory.joinText helperName))
  | runner : Makes h now sources d (h.configDirectory.joinText "ansible.pex") (.file 0o550 sources.runner)
  | runnerConfig {text : String} (hgiven : sources.runnerConfig = some text) :
      Makes h now sources d (h.home.joinText ".ansible.cfg") (.file 0o640 (Text.encode text))
  | script {script : Path} {content : List UInt8} (hgiven : sources.dynamicInventory = some script)
      (hread : d.readFile script = .ok content) :
      Makes h now sources d (h.binDirectory.joinText "dynamic-inventory.py") (.file 0o550 content)
  | seed {seed : Path} {content : List UInt8} (hgiven : sources.seedInventory = some seed)
      (hread : d.readFile seed = .ok content) :
      Makes h now sources d (h.configDirectory.joinText secretsName) (.file 0o600 content)
  | settings {text : String} (hread : d.readText h.machineId = .ok text) :
      Makes h now sources d (h.configDirectory.joinText "inventory-config.json")
        (.file 0o640 (Text.encode (FetchSettings.sample (keyOf text "identifier" now) (keyOf text "token" now)
          sources.monitor (h.configDirectory.joinText ".vault-key").display).toJson.document))
  | connect : Makes h now sources d (h.configDirectory.joinText "connect-py.json")
      (.file 0o640 (Text.encode (connectSample sources.monitor).document))

namespace Makes

variable {d d' : Disk} {p : Path} {o : Object}

/-- What an artifact is made of was read on some disk, and reads the same when the disk has grown since. So it can be
said of the disk at the end. -/
theorem mono (hgrows : d.Grows d') (hmakes : Makes h now sources d p o) : Makes h now sources d' p o := by
  cases hmakes with
  | vaultKey hread => exact .vaultKey (hgrows.readText hread)
  | helper => exact .helper
  | link hname => exact .link hname
  | runner => exact .runner
  | runnerConfig hgiven => exact .runnerConfig hgiven
  | script hgiven hread => exact .script hgiven (hgrows.readFile hread)
  | seed hgiven hread => exact .seed hgiven (hgrows.readFile hread)
  | settings hread => exact .settings (hgrows.readText hread)
  | connect => exact .connect

theorem isDirectory_eq_false (hmakes : Makes h now sources d p o) : o.isDirectory = false := by
  cases hmakes <;> rfl

end Makes

/-- The artifacts in front of the dynamic inventory script. -/
def firstSlots (h : Host) (sources : Sources) : List Slot :=
  ⟨h.configDirectory, ".vault-key"⟩ :: (helperName :: helperLinks).map (Slot.mk h.binDirectory) ++
    ⟨h.configDirectory, "ansible.pex"⟩ :: sources.runnerConfig.toList.map fun _ => ⟨h.home, ".ansible.cfg"⟩

/-- The dynamic inventory script is listed if it can be read. -/
def scriptSlots (h : Host) (sources : Sources) (d : Disk) : List Slot :=
  if sources.dynamicInventory.any fun script => (d.readFile script).isOk then
    [⟨h.binDirectory, "dynamic-inventory.py"⟩]
  else []

/-- The copy of the seed inventory is listed if it is there, or if the seed can be read. -/
def seedSlots (h : Host) (sources : Sources) (d : Disk) : List Slot :=
  if sources.seedInventory.any fun seed =>
      d.occupied (h.configDirectory.joinText secretsName) || (d.readFile seed).isOk then
    [⟨h.configDirectory, secretsName⟩]
  else []

/-- The artifacts of an install, `d₁` being the disk on which it looks for the script and `d₂` the one on which it looks
for the seed. -/
def artifacts (h : Host) (sources : Sources) (d₁ d₂ : Disk) : List Slot :=
  firstSlots h sources ++ scriptSlots h sources d₁ ++ seedSlots h sources d₂ ++
    [⟨h.configDirectory, "inventory-config.json"⟩, ⟨h.configDirectory, "connect-py.json"⟩]

/-! ## The ledger -/

/-- The report `r` and the disk `d` behind the artifacts `done`, `b` being the disk behind the directories. The names of
artifacts that were treated so far are `names`; those of artifacts that were left out are among them. -/
structure Ledger (h : Host) (now : Instant) (sources : Sources) (b : Disk) (names : List String) (done : List Slot)
    (r : Report) (d : Disk) : Prop where
  sites : ∀ q ∈ h.sites, ∃ top, b.LeadsTo q top
  places : { r with identifier := "", token := "", created := [], kept := [] } = Report.start h
  grows : b.Grows d
  fits : ∀ a ∈ done, a.Fits h
  named : (done.map Slot.name).Sublist names
  listed : (r.created ++ r.kept).Perm (done.map Slot.path)
  kept : ∀ p ∈ r.kept, b.occupied p = true
  made : ∀ p ∈ r.created, ∃ l o, d.linkStatus p = .ok (l, o) ∧ b.get? l = none ∧ Makes h now sources d p o
  new : ∀ l o, d.get? l = some o → b.get? l = none →
    ∃ a ∈ done, a.path ∈ r.created ∧ d.linkStatus a.path = .ok (l, o) ∧ l.getLast? = some (Text.encode a.name)

/-- A path that is recorded is listed once more, among those created or those kept. -/
theorem perm_record (r : Report) (p : Path) (made : Bool) :
    ((r.record p made).created ++ (r.record p made).kept).Perm (r.created ++ r.kept ++ [p]) := by
  cases made with
  | true =>
      simp only [Report.record, if_true, List.append_assoc]
      exact List.perm_append_comm.append_left _
  | false => simp [Report.record]

/-- Recording a path says nothing about the identity of the host. -/
@[simp] theorem identifier_record (r : Report) (p : Path) (made : Bool) :
    (r.record p made).identifier = r.identifier := by
  cases made <;> rfl

@[simp] theorem token_record (r : Report) (p : Path) (made : Bool) : (r.record p made).token = r.token := by
  cases made <;> rfl

namespace Ledger

variable {b d d' d₁ : Disk} {names : List String} {done : List Slot} {r r₁ : Report} {a : Slot}

/-- Behind the directories nothing was treated yet, and nothing has been made since. The ledger begins here. -/
theorem start (hsites : ∀ q ∈ h.sites, ∃ top, b.LeadsTo q top) :
    Ledger h now sources b [] [] (Report.start h) b where
  sites := hsites
  places := rfl
  grows := .refl b
  fits := by simp
  named := .slnil
  listed := .nil
  kept := by simp [Report.start]
  made := by simp [Report.start]
  new l o hget hfree := by
    rw [hget] at hfree
    cases hfree

/-- Only the settings tell identifier and token, and the ledger does not look at them. -/
theorem withValues (hr : Ledger h now sources b names done r d) (identifier token : String) :
    Ledger h now sources b names done { r with identifier := identifier, token := token } d :=
  ⟨hr.sites, hr.places, hr.grows, hr.fits, hr.named, hr.listed, hr.kept, hr.made, hr.new⟩

theorem leaveOut (hr : Ledger h now sources b names done r d) (name : String) :
    Ledger h now sources b (names ++ [name]) done r d :=
  { hr with named := hr.named.trans (List.sublist_append_left _ _) }

/-- Something stands at the path of an artifact with another name than all that were made, so it was there before. -/
theorem occupied (hr : Ledger h now sources b names done r d) (ha : a.Fits h) (hfresh : a.name ∉ names)
    (hthere : d.occupied a.path = true) : b.occupied a.path = true := by
  obtain ⟨top, hleads⟩ := hr.sites _ ha.directory
  obtain ⟨l, o, hstatus⟩ := occupied_iff.mp hthere
  obtain rfl := (hleads.carry hr.grows.carries).eq_of_linkStatus ha.name.plain hstatus
  have hget := get?_of_find hstatus
  cases hold : b.get? (top ++ [Text.encode a.name]) with
  | some o' =>
      exact isOk_find (hleads.linkStatus_joinText ha.name.plain ha.name.short (isUsable_of_linkStatus hstatus) hold)
  | none =>
      obtain ⟨a', ha', -, -, hlast⟩ := hr.new _ _ hget hold
      rw [List.getLast?_concat, Option.some.injEq] at hlast
      exact absurd (hr.named.subset (List.mem_map_of_mem ha')) (Text.encode_inj hlast ▸ hfresh)

/-! ### One entry -/

theorem fits_concat (hr : Ledger h now sources b names done r d) (ha : a.Fits h) :
    ∀ a' ∈ done ++ [a], a'.Fits h := by
  simpa [or_imp, forall_and] using ⟨hr.fits, ha⟩

/-- The names of those that were treated stay in order, with the new one at the end. Names of artifacts that were left
out may stand between them. -/
theorem named_concat (hr : Ledger h now sources b names done r d) (a : Slot) :
    ((done ++ [a]).map Slot.name).Sublist (names ++ [a.name]) := by
  rw [List.map_append]
  exact hr.named.append (.refl _)

theorem listed_record (hr : Ledger h now sources b names done r d) (a : Slot) (made : Bool) :
    ((r.record a.path made).created ++ (r.record a.path made).kept).Perm ((done ++ [a]).map Slot.path) := by
  rw [List.map_append]
  exact (perm_record r a.path made).trans (hr.listed.append_right _)

/-- What stands at a path is kept. The name is fresh, so the path has not been entered before, neither as made nor as
kept. -/
theorem keep (hr : Ledger h now sources b names done r d) (ha : a.Fits h) (hfresh : a.name ∉ names)
    (hthere : d.occupied a.path = true) :
    Ledger h now sources b (names ++ [a.name]) (done ++ [a]) (r.record a.path false) d where
  sites := hr.sites
  places := hr.places
  grows := hr.grows
  fits := hr.fits_concat ha
  named := hr.named_concat a
  listed := hr.listed_record a false
  -- what was kept before, and this one
  kept p hp := by
    rcases List.mem_append.mp hp with hp | hp
    · exact hr.kept p hp
    · obtain rfl := List.mem_singleton.mp hp
      exact hr.occupied ha hfresh hthere
  made := hr.made
  -- nothing was made, so a new object is one that was entered before
  new l o hget hfree := by
    obtain ⟨a', ha', hentered⟩ := hr.new l o hget hfree
    exact ⟨a', List.mem_append_left _ ha', hentered⟩

/-- Something new is made, and what was made before it is still there. New names do not meet older ones, so each object
on the disk has one entry. -/
theorem make {l : Location} {o : Object} (hr : Ledger h now sources b names done r d) (ha : a.Fits h)
    (hfree : d.get? l = none) (hstatus : (d.set l o).linkStatus a.path = .ok (l, o))
    (hmakes : Makes h now sources d a.path o) :
    Ledger h now sources b (names ++ [a.name]) (done ++ [a]) (r.record a.path true) (d.set l o) := by
  have hgrows : d.Grows (d.set l o) := (Grows.refl d).set hfree o
  have hlast : l.getLast? = some (Text.encode a.name) := by
    obtain ⟨top, hleads⟩ := hr.sites _ ha.directory
    rw [(hleads.carry (hr.grows.trans hgrows).carries).eq_of_linkStatus ha.name.plain hstatus, List.getLast?_concat]
  refine ⟨hr.sites, hr.places, hr.grows.trans hgrows, hr.fits_concat ha, hr.named_concat a, hr.listed_record a true,
    hr.kept, fun p hp => ?_, fun l' o' hget hfree' => ?_⟩
  · -- what was created before stands where it stood, and the new artifact behind it
    rcases List.mem_append.mp hp with hp | hp
    · obtain ⟨l', o', hstatus', hfree', hmakes'⟩ := hr.made p hp
      exact ⟨l', o', hgrows.find hstatus', hfree', hmakes'.mono hgrows⟩
    · obtain rfl := List.mem_singleton.mp hp
      exact ⟨l, o, hstatus, hr.grows.get?_eq_none hfree, hmakes.mono hgrows⟩
  · -- an object that is new is the one just made, or it was new before
    rw [get?_set] at hget
    split at hget
    · next heq =>
      cases hget
      exact ⟨a, by simp, by simp [Report.record], heq ▸ hstatus, heq ▸ hlast⟩
    · obtain ⟨a', ha', hcreated, hstatus', hlast'⟩ := hr.new l' o' hget hfree'
      exact ⟨a', List.mem_append_left _ ha', by simp [Report.record, hcreated], hgrows.find hstatus', hlast'⟩

/-- One entry of the ledger: the artifact was kept or made, and either way it is recorded. All steps below come down to
this one; `hfresh` says that no artifact before it had its name. -/
theorem record {o : Object} {made : Bool} (hr : Ledger h now sources b names done r d) (ha : a.Fits h)
    (hfresh : a.name ∉ names) (hwritten : d.Written a.path o made d') (hmakes : Makes h now sources d a.path o) :
    Ledger h now sources b (names ++ [a.name]) (done ++ [a]) (r.record a.path made) d' := by
  -- the two ways in which an attempt can end
  cases hwritten with
  | kept hthere => exact hr.keep ha hfresh hthere
  | made hfree hstatus => exact hr.make ha hfree hstatus hmakes

/-! ### The steps -/

/-- A file in one of the directories. It is made with its content and its mode, or what stands there is kept. -/
theorem installFile {q : Path} {name : String} {content : List UInt8} {mode : Nat}
    (hr : Ledger h now sources b names done r d) (ha : Slot.Fits h ⟨q, name⟩) (hfresh : name ∉ names)
    (hmakes : Makes h now sources d (q.joinText name) (.file (mode &&& 0o7777) content))
    (hrun : runFrom (installFile (q.joinText name) content mode r) d = (.ok r₁, d₁)) :
    Ledger h now sources b (names ++ [name]) (done ++ [⟨q, name⟩]) r₁ d₁ := by
  obtain ⟨made, hwrite, rfl⟩ := installFile_eq_ok hrun
  obtain ⟨top, hleads⟩ := hr.sites _ ha.directory
  have hwritten := (hleads.carry hr.grows.carries).written_of_writeNewFile ha.name.plain hwrite
  exact hr.record ha hfresh hwritten hmakes

/-- The key. That it is there is seen before its content is computed, so what is kept is never computed. -/
theorem installVaultKey (hr : Ledger h now sources b names done r d) (hfresh : ".vault-key" ∉ names)
    (hrun : runFrom (installVaultKey h now r) d = (.ok r₁, d₁)) :
    Ledger h now sources b (names ++ [".vault-key"]) (done ++ [⟨h.configDirectory, ".vault-key"⟩]) r₁ d₁ := by
  have ha : Slot.Fits h ⟨h.configDirectory, ".vault-key"⟩ := Slot.fits_config (by decide)
  have hpath : r.vaultKey = Slot.path ⟨h.configDirectory, ".vault-key"⟩ := congrArg Report.vaultKey hr.places
  rw [Host.installVaultKey, runFrom_get_bind, hpath] at hrun
  split at hrun
  · next hthere =>
    cases hrun
    exact hr.keep ha hfresh hthere
  · obtain ⟨key, d₂, hkey, hmake⟩ := exists_of_runFrom_bind hrun
    obtain ⟨rfl, text, htext, -, rfl⟩ := machineHash_eq_ok_iff.mp (runFrom_during_eq_ok.mp hkey)
    exact hr.installFile ha hfresh (.vaultKey htext) (runFrom_during_eq_ok.mp hmake)

/-- A link to the helper, made where its name is free and kept otherwise. -/
theorem installLink {name : String} (hr : Ledger h now sources b names done r d) (hname : name ∈ helperLinks)
    (hfresh : name ∉ names) (hrun : runFrom (installLink (h.binDirectory.joinText helperName)
      (h.binDirectory.joinText name) r) d = (.ok r₁, d₁)) :
    Ledger h now sources b (names ++ [name]) (done ++ [⟨h.binDirectory, name⟩]) r₁ d₁ := by
  have hfit : ∀ name ∈ helperLinks, IsArtifactName name := by decide
  have ha : Slot.Fits h ⟨h.binDirectory, name⟩ := Slot.fits_bin (hfit name hname)
  rw [Host.installLink, runFrom_get_bind] at hrun
  split at hrun
  · next hthere =>
    cases hrun
    exact hr.keep ha hfresh hthere
  · obtain ⟨⟨⟩, d₂, hmake, hreturn⟩ := exists_of_runFrom_bind hrun
    cases hreturn
    obtain ⟨parent, n, hfree, rfl⟩ := addLink_eq_ok (runFrom_change_eq_ok.mp (runFrom_during_eq_ok.mp hmake))
    obtain ⟨top, hleads⟩ := hr.sites _ ha.directory
    exact hr.record ha hfresh ((hleads.carry hr.grows.carries).written ha.name.plain hfree _) (.link hname)

/-- All links, one after the other. Induction on those that are left. -/
theorem installLinks {links : List String} (hr : Ledger h now sources b names done r d)
    (hlinks : ∀ name ∈ links, name ∈ helperLinks) (hfresh : (names ++ links).Nodup)
    (hrun : runFrom (links.foldlM (fun r name => Host.installLink (h.binDirectory.joinText helperName)
      (r.binDirectory.joinText name) r) r) d = (.ok r₁, d₁)) :
    Ledger h now sources b (names ++ links) (done ++ links.map (Slot.mk h.binDirectory)) r₁ d₁ := by
  induction links generalizing names done r d with
  | nil =>
      cases hrun
      simpa using hr
  -- the name is fresh for the one link, the others are for the rest
  | cons name links ih =>
      have hplace : r.binDirectory = h.binDirectory := congrArg Report.binDirectory hr.places
      rw [List.foldlM_cons, hplace] at hrun
      obtain ⟨r₂, d₂, hlink, hrest⟩ := exists_of_runFrom_bind hrun
      have hname : name ∉ names := fun hmem =>
        (List.nodup_cons.mp (List.nodup_middle.mp hfresh)).1 (List.mem_append_left _ hmem)
      rw [List.append_cons] at hfresh
      have hr₂ := hr.installLink (hlinks name (by simp)) hname hlink
      simpa using ih hr₂ (fun name hname => hlinks name (by simp [hname])) hfresh hrest

/-- The helper and its links are treated in a row. Each link is told apart from those before it by its name. -/
theorem installHelper (hr : Ledger h now sources b names done r d) (hfresh : (names ++ helperName :: helperLinks).Nodup)
    (hrun : runFrom (installHelper sources.helper r) d = (.ok r₁, d₁)) :
    Ledger h now sources b (names ++ helperName :: helperLinks)
      (done ++ (helperName :: helperLinks).map (Slot.mk h.binDirectory)) r₁ d₁ := by
  have hplace : r.binDirectory = h.binDirectory := congrArg Report.binDirectory hr.places
  rw [Host.installHelper, hplace] at hrun
  obtain ⟨r₂, d₂, hfile, hlinks⟩ := exists_of_runFrom_bind hrun
  have hname : helperName ∉ names := fun hmem =>
    (List.nodup_cons.mp (List.nodup_middle.mp hfresh)).1 (List.mem_append_left _ hmem)
  rw [List.append_cons] at hfresh
  have hr₂ := hr.installFile (Slot.fits_bin (by decide)) hname .helper hfile
  rw [List.map_cons, List.append_cons names, List.append_cons done]
  exact hr₂.installLinks (fun _ hname => hname) hfresh hlinks

/-- The script, if it can be read; otherwise nothing is done and nothing is listed. The name counts as treated either
way. -/
theorem installCopy {script : Path} (hr : Ledger h now sources b names done r d)
    (hgiven : sources.dynamicInventory = some script) (hfresh : "dynamic-inventory.py" ∉ names)
    (hrun : runFrom (installCopy script r.dynamicInventory 0o550 r) d = (.ok r₁, d₁)) :
    Ledger h now sources b (names ++ ["dynamic-inventory.py"]) (done ++ scriptSlots h sources d) r₁ d₁ := by
  have hpath : r.dynamicInventory = Slot.path ⟨h.binDirectory, "dynamic-inventory.py"⟩ :=
    congrArg Report.dynamicInventory hr.places
  rw [Host.installCopy, runFrom_get_bind, hpath] at hrun
  rw [scriptSlots, hgiven, Option.any_some]
  split at hrun
  · next content hread =>
    rw [hread]
    exact hr.installFile (Slot.fits_bin (by decide)) hfresh (.script hgiven hread) hrun
  · next e hread =>
    cases hrun
    rw [hread, if_neg (by simp [Except.isOk, Except.toBool]), List.append_nil]
    exact hr.leaveOut _

/-- The seed, which is a step of the program and not of the disk alone because it is announced. Whatever is printed, the
disk goes the way of the other files. -/
theorem installSeed {seed : Path} {w w₁ : World} (hr : Ledger h now sources b names done r w.disk)
    (hgiven : sources.seedInventory = some seed) (hfresh : secretsName ∉ names)
    (hrun : runFrom (installSeed seed r) w = (.ok r₁, w₁)) :
    Ledger h now sources b (names ++ [secretsName]) (done ++ seedSlots h sources w.disk) r₁ w₁.disk := by
  have ha : Slot.Fits h ⟨h.configDirectory, secretsName⟩ := Slot.fits_config (by decide)
  have hpath : r.configDirectory = h.configDirectory := congrArg Report.configDirectory hr.places
  rw [Host.installSeed, hpath, runFrom_look_bind] at hrun
  rw [seedSlots, hgiven, Option.any_some]
  split at hrun
  · -- an inventory that is there is kept
    next hthere =>
    cases hrun
    rw [hthere, Bool.true_or, if_pos rfl]
    exact hr.keep ha hfresh hthere
  · next hfree =>
    rw [runFrom_look_bind] at hrun
    split at hrun
    · -- a seed that can be read is copied, behind its announcement
      next content hread =>
      obtain ⟨⟨⟩, w₂, hprint, hcopy⟩ := exists_of_runFrom_bind hrun
      cases hprint
      rw [hread, if_pos (by simp [Except.isOk, Except.toBool])]
      exact hr.installFile ha hfresh (.seed hgiven hread) (runFrom_onDisk_eq_ok.mp hcopy).1
    · -- otherwise nothing is done, and nothing is listed
      next e hread =>
      cases hrun
      rw [hread, if_neg (by simp [hfree, Except.isOk, Except.toBool]), List.append_nil]
      exact hr.leaveOut _

/-- The settings. Those that are there are read, new ones are written, and in both cases the report says what they
say. -/
theorem installSettings (hr : Ledger h now sources b names done r d) (hfresh : "inventory-config.json" ∉ names)
    (hrun : runFrom (installSettings h now sources.monitor r) d = (.ok r₁, d₁)) :
    Ledger h now sources b (names ++ ["inventory-config.json"])
        (done ++ [⟨h.configDirectory, "inventory-config.json"⟩]) r₁ d₁ ∧
      ∃ settings, runFrom (FetchSettings.load (h.configDirectory.joinText "inventory-config.json")) d₁ =
          (.ok settings, d₁) ∧
        r₁.identifier = settings.identifier?.getD "" ∧ r₁.token = settings.token?.getD "" := by
  have ha : Slot.Fits h ⟨h.configDirectory, "inventory-config.json"⟩ := Slot.fits_config (by decide)
  have hpath : r.inventorySettings = Slot.path ⟨h.configDirectory, "inventory-config.json"⟩ :=
    congrArg Report.inventorySettings hr.places
  have hkey : r.vaultKey = h.configDirectory.joinText ".vault-key" := congrArg Report.vaultKey hr.places
  obtain ⟨top, hleads⟩ := hr.sites _ ha.directory
  have hleads' := hleads.carry hr.grows.carries
  have hname : r.inventorySettings.EndsInName := hpath ▸ Path.endsInName_joinText _ ha.name.plain
  -- nothing is missing above the settings, so they are only written or found
  have habove : ∀ q, r.inventorySettings.parent? = some q → q.bytes = [] ∨ d.leadsSomewhere q = true := by
    intro q hq
    rw [hpath, Slot.path, parent?_joinText_configDirectory ha.name.plain] at hq
    cases hq
    exact .inr (leadsSomewhere_of_isDirectory (isDirectory_iff.mpr ⟨top, hleads'⟩))
  obtain ⟨settings, made, hthere, hload, hentered, hends⟩ := installSettings_eq_ok hname habove hrun
  obtain rfl := hentered.trans (congrArg (Report.record _ · made) hpath)
  rw [hpath] at hthere hload hends
  refine ⟨?_, settings, hload, identifier_record .., token_record ..⟩
  -- found, or written
  rcases hends with ⟨rfl, rfl⟩ | ⟨text, htext, hwrite⟩
  · exact (hr.withValues _ _).keep ha hfresh hthere
  · rw [hkey] at hwrite
    exact (hr.withValues _ _).record ha hfresh (hleads'.written_of_writeNewFile ha.name.plain hwrite)
      (.settings htext)

end Ledger

/-! ## The whole install -/

section Install

/-- The steps in front of the look for the script. -/
def stepsToScript (h : Host) (now : Instant) (sources : Sources) : List (Report → Program Report) :=
  [fun r => Program.onDisk (installVaultKey h now r),
    fun r => Program.onDisk (installHelper sources.helper r),
    fun r => Program.onDisk (installFile (h.configDirectory.joinText "ansible.pex") sources.runner 0o550 r)] ++
  sources.runnerConfig.toList.map fun text r =>
    Program.onDisk (installFile (h.home.joinText ".ansible.cfg") (Text.encode text) 0o640 r)

/-- The steps in front of the look for the seed. -/
def stepsToSeed (h : Host) (now : Instant) (sources : Sources) : List (Report → Program Report) :=
  stepsToScript h now sources ++ sources.dynamicInventory.toList.map fun script r =>
    Program.onDisk (installCopy script r.dynamicInventory 0o550 r)

/-- An install up to some of its steps. -/
def installUntil (h : Host) (steps : List (Report → Program Report)) : Program Report := do
  Program.onDisk (makeDirectories h)
  steps.foldlM (fun r step => step r) (Report.start h)

theorem installUntil_append (front back : List (Report → Program Report)) :
    installUntil h (front ++ back) = installUntil h front >>= back.foldlM (fun r step => step r) := by
  simp [installUntil, List.foldlM_append]

/-- The install is cut where it looks for the seed, so that the disk it finds there can be named. -/
theorem install_eq_installUntil : install h now sources =
    installUntil h (stepsToSeed h now sources) >>=
      (sources.seedInventory.toList.map installSeed ++
        [fun r => Program.onDisk (installSettings h now sources.monitor r),
          fun r => Program.onDisk (installFile (h.configDirectory.joinText "connect-py.json")
            (Text.encode (connectSample sources.monitor).document) 0o640 r)]).foldlM (fun r step => step r) := by
  rw [← installUntil_append, install_eq, installUntil, steps, stepsToSeed, stepsToScript, List.append_assoc _ _ [_, _]]

/-- The names of the artifacts in front of the dynamic inventory script. -/
def firstNames : List String := ".vault-key" :: helperName :: helperLinks ++ ["ansible.pex", ".ansible.cfg"]

variable {r r₁ : Report} {w w₁ : World} {b : Disk} {names : List String} {done : List Slot}

/-- The first steps, down to the point where the script is looked for. The names of what may come before it are
`firstNames`, of which the runner configuration may be left out. -/
theorem ledger_of_stepsToScript (hsites : ∀ q ∈ h.sites, ∃ top, w.disk.LeadsTo q top)
    (hrun : runFrom ((stepsToScript h now sources).foldlM (fun r step => step r) (Report.start h)) w = (.ok r₁, w₁)) :
    Ledger h now sources w.disk firstNames (firstSlots h sources) r₁ w₁.disk := by
  have hstart : Ledger h now sources w.disk [] [] (Report.start h) w.disk := .start hsites
  -- step by step: key, helper, runner, and the configuration if one is given
  rw [stepsToScript, List.cons_append, List.foldlM_cons] at hrun
  obtain ⟨r₂, w₂, hkey, hrun⟩ := exists_of_runFrom_bind hrun
  have hr₂ := hstart.installVaultKey (by decide) (runFrom_onDisk_eq_ok.mp hkey).1
  rw [List.cons_append, List.foldlM_cons] at hrun
  obtain ⟨r₃, w₃, hhelper, hrun⟩ := exists_of_runFrom_bind hrun
  have hr₃ := hr₂.installHelper (by decide) (runFrom_onDisk_eq_ok.mp hhelper).1
  rw [List.cons_append, List.foldlM_cons] at hrun
  obtain ⟨r₄, w₄, hrunner, hrun⟩ := exists_of_runFrom_bind hrun
  have hr₄ := hr₃.installFile (Slot.fits_config (by decide)) (by decide) .runner (runFrom_onDisk_eq_ok.mp hrunner).1
  cases hgiven : sources.runnerConfig with
  | none =>
      rw [hgiven] at hrun
      cases hrun
      simpa [firstSlots, firstNames, hgiven] using hr₄.leaveOut ".ansible.cfg"
  | some text =>
      rw [hgiven] at hrun
      obtain ⟨r₅, w₅, hconfig, hreturn⟩ := exists_of_runFrom_bind hrun
      cases hreturn
      have hr₅ := hr₄.installFile (Slot.fits_home (by decide)) (by decide) (.runnerConfig hgiven)
        (runFrom_onDisk_eq_ok.mp hconfig).1
      simpa [firstSlots, firstNames, hgiven] using hr₅

/-- The script is treated if one is given. Without one the name still counts as treated, so that the names that are left
stay fresh. -/
theorem Ledger.script (hr : Ledger h now sources b names done r w.disk) (hfresh : "dynamic-inventory.py" ∉ names)
    (hrun : runFrom ((sources.dynamicInventory.toList.map fun script r =>
      Program.onDisk (Host.installCopy script r.dynamicInventory 0o550 r)).foldlM (fun r step => step r) r) w =
        (.ok r₁, w₁)) :
    Ledger h now sources b (names ++ ["dynamic-inventory.py"]) (done ++ scriptSlots h sources w.disk) r₁ w₁.disk := by
  cases hgiven : sources.dynamicInventory with
  | none =>
      rw [hgiven] at hrun
      cases hrun
      simpa [scriptSlots, hgiven] using hr.leaveOut _
  | some script =>
      rw [hgiven] at hrun
      obtain ⟨r₂, w₂, hcopy, hreturn⟩ := exists_of_runFrom_bind hrun
      cases hreturn
      exact hr.installCopy hgiven hfresh (runFrom_onDisk_eq_ok.mp hcopy).1

/-- So is the seed. -/
theorem Ledger.seed (hr : Ledger h now sources b names done r w.disk) (hfresh : secretsName ∉ names)
    (hrun : runFrom ((sources.seedInventory.toList.map Host.installSeed).foldlM (fun r step => step r) r) w =
      (.ok r₁, w₁)) :
    Ledger h now sources b (names ++ [secretsName]) (done ++ seedSlots h sources w.disk) r₁ w₁.disk := by
  cases hgiven : sources.seedInventory with
  | none =>
      rw [hgiven] at hrun
      cases hrun
      simpa [seedSlots, hgiven] using hr.leaveOut _
  | some seed =>
      rw [hgiven] at hrun
      obtain ⟨r₂, w₂, hcopy, hreturn⟩ := exists_of_runFrom_bind hrun
      cases hreturn
      exact hr.installSeed hgiven hfresh hcopy

/-- No path is listed twice: the last names differ. -/
theorem Ledger.nodup {d : Disk} (hr : Ledger h now sources b names done r d) (hnames : names.Nodup) :
    (r.created ++ r.kept).Nodup := by
  have hlast : (done.map Slot.path).map (fun p => p.names.getLast?) =
      (done.map Slot.name).map fun s => some (Text.encode s) := by
    rw [List.map_map, List.map_map]
    refine List.map_congr_left fun a ha => ?_
    simp [Slot.path, Path.names_joinText (hr.fits a ha).name.plain]
  refine hr.listed.nodup_iff.mpr (List.Nodup.of_map (fun p => p.names.getLast?) ?_)
  rw [hlast]
  exact (hnames.sublist hr.named).map fun s s' heq => Text.encode_inj (Option.some.inj heq)

/-- A report is the truth about an install that found the disk `d₀`, looked for the script on `d₁` and for the seed on
`d₂`, and left the disk `d`. -/
structure Truthful (h : Host) (now : Instant) (sources : Sources) (d₀ d₁ d₂ : Disk) (r : Report) (d : Disk) : Prop where
  listed : (r.created ++ r.kept).Perm ((artifacts h sources d₁ d₂).map Slot.path)
  once : (r.created ++ r.kept).Nodup
  /-- What stands at a path that was kept stood there before. So did the path lead there before, unless it is the path of
  a command and the command directory was a link that led nowhere. -/
  kept : ∀ p ∈ r.kept, ∃ l o, d.linkStatus p = .ok (l, o) ∧ d₀.get? l = some o ∧ (d₀.occupied p = true ∨
    (∃ name, p = h.binDirectory.joinText name) ∧ d₀.occupied h.binDirectory = true ∧
      d₀.leadsSomewhere h.binDirectory = false)
  new : ∀ l o, d.get? l = some o ∧ o.isDirectory = false ∧ d₀.get? l = none ↔
    ∃ p ∈ r.created, d.linkStatus p = .ok (l, o)
  made : ∀ p ∈ r.created, ∃ l o, d.linkStatus p = .ok (l, o) ∧ Makes h now sources d p o
  settings : ∃ settings, (FetchSettings.load (h.configDirectory.joinText "inventory-config.json")).runOn d =
    (.ok settings, d) ∧ r.identifier = settings.identifier?.getD "" ∧ r.token = settings.token?.getD ""

/-- What is kept behind the directories was there before them: `Groundwork` knows what became of the paths below the
three sites. -/
theorem Ledger.kept_before {d₀ d : Disk} (hr : Ledger h now sources b names done r d) (hb : Groundwork h d₀ b) {p : Path}
    (hp : p ∈ r.kept) : ∃ l o, d.linkStatus p = .ok (l, o) ∧ d₀.get? l = some o ∧ (d₀.occupied p = true ∨
      (∃ name, p = h.binDirectory.joinText name) ∧ d₀.occupied h.binDirectory = true ∧
        d₀.leadsSomewhere h.binDirectory = false) := by
  obtain ⟨a, ha, rfl⟩ := List.mem_map.mp (hr.listed.subset (List.mem_append_right _ hp))
  obtain ⟨l, o, hstatus⟩ := occupied_iff.mp (hr.kept _ hp)
  obtain ⟨hget, hpath⟩ := hb.before (hr.fits a ha) hstatus
  refine ⟨l, o, hr.grows.find hstatus, hget, hpath.imp_right fun ⟨hbin, hlink⟩ => ⟨⟨a.name, ?_⟩, hlink⟩⟩
  rw [Slot.path, hbin]

/-- The new objects that are no directories are just those that were created. In one direction the ledger has it; in the
other, what a path leads to now was not there before, since nothing was. -/
theorem Ledger.new_iff {d₀ d : Disk} (hr : Ledger h now sources b names done r d) (hb : Groundwork h d₀ b)
    (l : Location) (o : Object) : d.get? l = some o ∧ o.isDirectory = false ∧ d₀.get? l = none ↔
      ∃ p ∈ r.created, d.linkStatus p = .ok (l, o) := by
  constructor
  · rintro ⟨hget, hkind, hfree⟩
    cases hold : b.get? l with
    | none =>
        obtain ⟨a, -, hcreated, hstatus, -⟩ := hr.new l o hget hold
        exact ⟨a.path, hcreated, hstatus⟩
    | some o' =>
        -- it would be one of the new directories
        cases (hr.grows.get? l o' hold).symm.trans hget
        rw [(hb.new l o hold hfree).1] at hkind
        cases hkind
  · rintro ⟨p, hp, hstatus⟩
    obtain ⟨l', o', hstatus', hfree, hmakes⟩ := hr.made p hp
    cases hstatus.symm.trans hstatus'
    have hget := get?_of_find hstatus
    exact ⟨hget, hmakes.isDirectory_eq_false, hb.grows.get?_eq_none hfree⟩

/-- **The report of an install is the truth about the disk.** On a tree with a home directory, an install that succeeds
lists every artifact once. What is new on the disk besides directories are the artifacts that it lists as created, each
with its content and mode. What it lists as kept was there before. The identifier and the token are those in the settings. -/
theorem install_reports (h : Host) (now : Instant) (sources : Sources) (w w' : World) (r : Report)
    (htree : w.disk.IsTree) (hhome : w.disk.isDirectory h.home = true)
    (hrun : (install h now sources).runOn w = (.ok r, w')) :
    ∃ r₁ w₁ r₂ w₂, (installUntil h (stepsToScript h now sources)).runOn w = (.ok r₁, w₁) ∧
      (installUntil h (stepsToSeed h now sources)).runOn w = (.ok r₂, w₂) ∧
      Truthful h now sources w.disk w₁.disk w₂.disk r w'.disk := by
  rw [program_runOn_eq, install_eq_installUntil] at hrun
  obtain ⟨r₂, w₂, hseed, hrest⟩ := exists_of_runFrom_bind hrun
  have hcopied := hseed
  rw [stepsToSeed, installUntil_append] at hcopied
  obtain ⟨r₁, w₁, hscript, hcopy⟩ := exists_of_runFrom_bind hcopied
  refine ⟨r₁, w₁, r₂, w₂, hscript, hseed, ?_⟩
  -- the directories
  rw [installUntil] at hscript
  obtain ⟨⟨⟩, w₀, hdirectories, hfirst⟩ := exists_of_runFrom_bind hscript
  obtain ⟨base, hleads⟩ := isDirectory_iff.mp hhome
  have hb := groundwork_of_makeDirectories htree hleads (runFrom_onDisk_eq_ok.mp hdirectories).1
  -- the artifacts
  have hr₁ := ledger_of_stepsToScript (fun q hq => (hb.sites q hq).imp fun _ h => h.1) hfirst
  have hr₂ := hr₁.script (by decide) hcopy
  rw [List.foldlM_append] at hrest
  obtain ⟨r₃, w₃, hsecrets, hrest⟩ := exists_of_runFrom_bind hrest
  have hr₃ := hr₂.seed (by decide) hsecrets
  obtain ⟨r₄, w₄, hsettings, hrest⟩ := exists_of_runFrom_bind hrest
  obtain ⟨hr₄, settings, hload, hidentifier, htoken⟩ :=
    hr₃.installSettings (by decide) (runFrom_onDisk_eq_ok.mp hsettings).1
  obtain ⟨r₅, w₅, hconnect, hreturn⟩ := exists_of_runFrom_bind hrest
  cases hreturn
  have hconnect' := (runFrom_onDisk_eq_ok.mp hconnect).1
  have hr := hr₄.installFile (Slot.fits_config (by decide)) (by decide) .connect hconnect'
  obtain ⟨made, hwrite, rfl⟩ := installFile_eq_ok hconnect'
  have hgrows : w₄.disk.Grows w'.disk := (keeps_installFile (allowsNew_grows w₄.disk)).of_runFrom hconnect' (.refl _)
  exact {
    listed := by simpa [artifacts] using hr.listed
    once := hr.nodup (by decide)
    kept := fun p hp => hr.kept_before hb hp
    new := hr.new_iff hb
    made := fun p hp => (hr.made p hp).imp fun l hl => hl.imp fun o ho => ⟨ho.1, ho.2.2⟩
    settings := ⟨settings, load_of_grows hgrows hload, by simpa using hidentifier, by simpa using htoken⟩ }

/-- The host of the operator again: the report lists the runner and the copies as created, and all else as kept. -/
theorem install_reports_equippedHost :
    equippedDisk.IsTree ∧ equippedDisk.isDirectory equippedHost.home = true ∧
      (install equippedHost ⟨0, 0⟩ equippedSources).runOn equippedWorld = (.ok installedReport, installedWorld) ∧
        ∃ d₁ d₂, Truthful equippedHost ⟨0, 0⟩ equippedSources equippedDisk d₁ d₂ installedReport installedWorld.disk := by
  have htree : equippedDisk.IsTree := isTree_of_forall_mem (by decide +kernel) (by decide +kernel)
  have hhome : equippedDisk.isDirectory equippedHost.home = true := by decide +kernel
  obtain ⟨_, w₁, _, w₂, -, -, htrue⟩ :=
    install_reports equippedHost ⟨0, 0⟩ equippedSources equippedWorld _ _ htree hhome install_equippedHost
  exact ⟨htree, hhome, install_equippedHost, w₁.disk, w₂.disk, htrue⟩

end Install

/-! ## A command directory that comes to life -/

section Detour

variable {h : Host} {now : Instant} {d d₁ : Disk} {r r₁ : Report} {text : String}

/-- Where there is no key, one is made. This is the step as an equation, for runs that are evaluated; the next lemmas
are of the same kind. -/
theorem installVaultKey_of_free (hfree : d.occupied r.vaultKey = false) (hread : d.readText h.machineId = .ok text)
    (hblank : (Text.trimText text).isEmpty = false)
    (hmake : runFrom (installFile r.vaultKey (Text.encode (keyOf text "vault" now)) 0o400 r) d = (.ok r₁, d₁)) :
    runFrom (installVaultKey h now r) d = (.ok r₁, d₁) := by
  have hkey : runFrom (machineHash h.machineId "vault" now) d = (.ok (keyOf text "vault" now), d) :=
    machineHash_eq_ok_iff.mpr ⟨rfl, text, hread, hblank, rfl⟩
  rw [installVaultKey, runFrom_get_bind, if_neg (by simp [hfree]), runFrom_bind_ok (runFrom_during_eq_ok.mpr hkey)]
  exact runFrom_during_eq_ok.mpr hmake

/-- Where there are no settings, new ones are made. -/
theorem installSettings_of_free {monitor : String} (hfree : d.occupied r.inventorySettings = false)
    (hread : d.readText h.machineId = .ok text) (hblank : (Text.trimText text).isEmpty = false) :
    runFrom (installSettings h now monitor r) d = runFrom (installFile r.inventorySettings
      (Text.encode (FetchSettings.sample (keyOf text "identifier" now) (keyOf text "token" now) monitor
        r.vaultKey.display).toJson.document) 0o640
          { r with identifier := keyOf text "identifier" now, token := keyOf text "token" now }) d := by
  have hkey : ∀ label, runFrom (machineHash h.machineId label now) d = (.ok (keyOf text label now), d) := fun label =>
    machineHash_eq_ok_iff.mpr ⟨rfl, text, hread, hblank, rfl⟩
  rw [installSettings, runFrom_get_bind, if_neg (by simp [hfree]), runFrom_bind_ok (hkey _), runFrom_bind_ok (hkey _)]

/-- Under a free name of a directory a file is installed. -/
theorem installFile_of_leadsTo {q : Path} {top : Location} {s : String} {content : List UInt8} {mode : Nat}
    (hdir : d.LeadsTo q top) (hs : Path.IsPlain (Text.encode s)) (hshort : (Text.encode s).length ≤ maxName)
    (husable : (q.joinText s).IsUsable) (hfree : d.get? (top ++ [Text.encode s]) = none) :
    runFrom (installFile (q.joinText s) content mode r) d =
      (.ok (r.record (q.joinText s) true), d.set (top ++ [Text.encode s]) (.file (mode &&& 0o7777) content)) := by
  rw [installFile, runFrom_bind_ok (writeNewFile_of_leadsTo hdir hs (hdir.isFree_joinText hs hshort husable hfree))]
  rfl

/-- Under a free name of a directory a link is installed. -/
theorem installLink_of_leadsTo {q target : Path} {top : Location} {s : String} (hdir : d.LeadsTo q top)
    (hs : Path.IsPlain (Text.encode s)) (hshort : (Text.encode s).length ≤ maxName) (husable : (q.joinText s).IsUsable)
    (htarget : target.IsUsable) (hfree : d.get? (top ++ [Text.encode s]) = none) :
    runFrom (installLink target (q.joinText s) r) d =
      (.ok (r.record (q.joinText s) true), d.set (top ++ [Text.encode s]) (.link target)) := by
  have hname := hdir.isFree_joinText hs hshort husable hfree
  have hmake : runFrom (createLink (q.joinText s) target) d = (.ok (), d.set (top ++ [Text.encode s]) (.link target)) :=
    runFrom_change_eq_ok.mpr (hname.addLink htarget)
  rw [installLink, runFrom_get_bind, if_neg (by simp [hname.occupied_eq_false (Path.endsInName_joinText q hs)]),
    runFrom_bind_ok (runFrom_during_eq_ok.mpr hmake)]
  rfl

/-- The command directory is a link that goes through the configuration directory, which is missing. -/
def detourDisk : Disk where
  workingDirectory := []
  objects := [([], .directory 0o755), (located ["id"], .file 0o644 [0x6d]), (located ["home"], .directory 0o700),
    (located ["home", "bin"], .link (.ofText ".config/../old")), (located ["home", "old"], .directory 0o700),
    (located ["home", "old", "ansible.sh"], .file 0o750 [2])]

def detourSources : Sources := ⟨[1], [2], none, none, none, ""⟩

def keyPath : Path := equippedHost.configDirectory.joinText ".vault-key"

/-- The disk behind the directories. -/
def openedDisk : Disk :=
  (detourDisk.set (located ["home", ".config"]) (.directory 0o700)).set
    (located ["home", ".config", "gascan"]) (.directory 0o700)

/-- The disk behind the key. -/
def keyedDisk (key : List UInt8) : Disk :=
  openedDisk.set (located ["home", ".config", "gascan", ".vault-key"]) (.file 0o400 key)

/-- The disk behind the key and the links with these names. -/
def linkedDisk (key : List UInt8) (names : List String) : Disk :=
  names.foldl (fun d name => d.set (located ["home", "old", name]) (.link (.ofText "/home/bin/ansible.sh")))
    (keyedDisk key)

/-- The disk behind the command, its links and the runner. -/
def runnerDisk (key : List UInt8) : Disk :=
  (linkedDisk key helperLinks).set (located ["home", ".config", "gascan", "ansible.pex"]) (.file 0o550 [1])

/-- The disk behind the settings. -/
def settingsDisk (key settings : List UInt8) : Disk :=
  (runnerDisk key).set (located ["home", ".config", "gascan", "inventory-config.json"]) (.file 0o640 settings)

/-- The report behind the runner. The command was found where the link leads by then. -/
def runnerReport : Report :=
  { Report.start equippedHost with
    created := [.ofText "/home/.config/gascan/.vault-key", .ofText "/home/bin/ansible",
      .ofText "/home/bin/ansible-playbook", .ofText "/home/bin/ansible-vault", .ofText "/home/bin/ansible-config",
      .ofText "/home/bin/ansible-inventory", .ofText "/home/.config/gascan/ansible.pex"]
    kept := [.ofText "/home/bin/ansible.sh"] }

/-! The key is not computed here, so the steps are not evaluated: the disk that an install leaves behind each of them is
told by what the directories led to when they were made. -/

/-- The configuration directory is where it was made, whatever was put on the disk since. -/
theorem leadsTo_config_of_grows (h : openedDisk.Grows d) :
    d.LeadsTo equippedHost.configDirectory (located ["home", ".config", "gascan"]) :=
  LeadsTo.carry ⟨0o700, by decide +kernel⟩ h.carries

/-- The command directory is reached through its link by now, in a place that bears another name. -/
theorem leadsTo_bin_of_grows (h : openedDisk.Grows d) : d.LeadsTo equippedHost.binDirectory (located ["home", "old"]) :=
  LeadsTo.carry ⟨0o700, by decide +kernel⟩ h.carries

/-- The names of the links are free as long as their turn has not come. -/
theorem get?_linkedDisk_eq_none (key : List UInt8) {before after : List String} {name : String}
    (hsplit : helperLinks = before ++ name :: after) :
    (linkedDisk key before).get? (located ["home", "old"] ++ [Text.encode name]) = none := by
  match before, hsplit with
  | [], hsplit => cases hsplit; rfl
  | [_], hsplit => cases hsplit; rfl
  | [_, _], hsplit => cases hsplit; rfl
  | [_, _, _], hsplit => cases hsplit; rfl
  | [_, _, _, _], hsplit => cases hsplit; rfl
  | _ :: _ :: _ :: _ :: _ :: before, hsplit => simp [helperLinks] at hsplit

/-- The links that are left are made one after the other, and with each of them the disk grows. -/
theorem runFrom_links_detourDisk (key : List UInt8) {before after : List String}
    (hgrows : openedDisk.Grows (linkedDisk key before)) (hbin : r.binDirectory = equippedHost.binDirectory)
    (hsplit : helperLinks = before ++ after) :
    runFrom (after.foldlM (fun r name => installLink (.ofText "/home/bin/ansible.sh") (r.binDirectory.joinText name) r) r)
      (linkedDisk key before) =
        (.ok (after.foldl (fun r name => r.record (r.binDirectory.joinText name) true) r), linkedDisk key helperLinks) ∧
      openedDisk.Grows (linkedDisk key helperLinks) := by
  -- what does not depend on the key is decided for all links at once
  have hlinks : ∀ name ∈ helperLinks, Path.IsPlain (Text.encode name) ∧ (Text.encode name).length ≤ maxName ∧
      (equippedHost.binDirectory.joinText name).IsUsable ∧
        openedDisk.get? (located ["home", "old"] ++ [Text.encode name]) = none := by
    decide +kernel
  induction after generalizing r before with
  | nil =>
      rw [List.append_nil] at hsplit
      subst hsplit
      exact ⟨rfl, hgrows⟩
  | cons name after ih =>
      obtain ⟨hplain, hshort, husable, hnew⟩ := hlinks name (by simp [hsplit])
      have hset : linkedDisk key (before ++ [name]) = (linkedDisk key before).set
          (located ["home", "old"] ++ [Text.encode name]) (.link (.ofText "/home/bin/ansible.sh")) := by
        simp [linkedDisk, located]
      have hlink : runFrom (installLink (.ofText "/home/bin/ansible.sh") (r.binDirectory.joinText name) r)
          (linkedDisk key before) =
            (.ok (r.record (r.binDirectory.joinText name) true), linkedDisk key (before ++ [name])) := by
        rw [hbin, hset]
        exact installLink_of_leadsTo (leadsTo_bin_of_grows hgrows) hplain hshort husable (by decide)
          (get?_linkedDisk_eq_none key hsplit)
      rw [List.foldlM_cons, runFrom_bind_ok hlink]
      exact ih (hset ▸ hgrows.set hnew _) hbin (by simp [hsplit])

/-- A file that has a free name in the configuration directory is made, whatever stands there by then. -/
theorem installFile_config_of_grows {name : String} {content : List UInt8} {mode : Nat} (h : openedDisk.Grows d)
    (hs : Path.IsPlain (Text.encode name)) (hshort : (Text.encode name).length ≤ maxName)
    (husable : (equippedHost.configDirectory.joinText name).IsUsable)
    (hfree : d.get? (located ["home", ".config", "gascan", name]) = none)
    (hnew : openedDisk.get? (located ["home", ".config", "gascan", name]) = none) :
    runFrom (installFile (equippedHost.configDirectory.joinText name) content mode r) d =
      (.ok (r.record (equippedHost.configDirectory.joinText name) true),
        d.set (located ["home", ".config", "gascan", name]) (.file (mode &&& 0o7777) content)) ∧
      openedDisk.Grows (d.set (located ["home", ".config", "gascan", name]) (.file (mode &&& 0o7777) content)) :=
  ⟨installFile_of_leadsTo (leadsTo_config_of_grows h) hs hshort husable hfree, h.set hnew _⟩

/-- The key is made in the configuration directory. -/
theorem runFrom_vaultKey_detourDisk : ∃ key,
    runFrom (installVaultKey equippedHost ⟨0, 0⟩ (Report.start equippedHost)) openedDisk =
      (.ok ((Report.start equippedHost).record keyPath true), keyedDisk key) ∧ openedDisk.Grows (keyedDisk key) := by
  have hread : openedDisk.readText equippedHost.machineId = .ok "m" := by decide +kernel
  obtain ⟨hmake, hgrows⟩ : runFrom (installFile keyPath (Text.encode (keyOf "m" "vault" ⟨0, 0⟩)) 0o400
      (Report.start equippedHost)) openedDisk = (.ok ((Report.start equippedHost).record keyPath true), keyedDisk _) ∧
        openedDisk.Grows (keyedDisk _) :=
    installFile_config_of_grows (.refl openedDisk) (by decide) (by decide) (by decide +kernel) (by decide +kernel)
      (by decide +kernel)
  exact ⟨_, installVaultKey_of_free (by decide +kernel) hread (by decide) hmake, hgrows⟩

/-- The helper is found behind the link, so it is kept; the links to it and the runner are made. Before the install
nothing stood at this path. -/
theorem runFrom_runner_detourDisk {key : List UInt8} (hkey : openedDisk.Grows (keyedDisk key)) :
    runFrom (do
      let r ← installHelper [2] ((Report.start equippedHost).record keyPath true)
      installFile (equippedHost.configDirectory.joinText "ansible.pex") [1] 0o550 r) (keyedDisk key) =
        (.ok runnerReport, runnerDisk key) ∧ openedDisk.Grows (runnerDisk key) := by
  let r₁ : Report := (Report.start equippedHost).record keyPath true
  let r₂ : Report := r₁.record (.ofText "/home/bin/ansible.sh") false
  let r₃ := helperLinks.foldl (fun r name => r.record (r.binDirectory.joinText name) true) r₂
  -- through the link the helper is found
  have hcommand : runFrom (installFile (.ofText "/home/bin/ansible.sh") [2] 0o750 r₁) (keyedDisk key) =
      (.ok r₂, keyedDisk key) := by
    have hname : Path.EndsInName (.ofText "/home/bin/ansible.sh") :=
      Path.endsInName_joinText equippedHost.binDirectory (show Path.IsPlain (Text.encode helperName) by decide)
    have htaken : openedDisk.IsTaken (.ofText "/home/bin/ansible.sh") := ⟨by decide +kernel, by decide +kernel⟩
    rw [installFile, runFrom_bind_ok (writeNewFile_of_isTaken hname (hkey.isTaken htaken))]
    rfl
  obtain ⟨hlinks, hlinked⟩ : runFrom (helperLinks.foldlM (fun r name =>
      installLink (.ofText "/home/bin/ansible.sh") (r.binDirectory.joinText name) r) r₂) (keyedDisk key) =
        (.ok r₃, linkedDisk key helperLinks) ∧ openedDisk.Grows (linkedDisk key helperLinks) :=
    runFrom_links_detourDisk key (show openedDisk.Grows (linkedDisk key []) from hkey) rfl (List.nil_append _).symm
  have hhelper : runFrom (installHelper [2] r₁) (keyedDisk key) = (.ok r₃, linkedDisk key helperLinks) :=
    (runFrom_bind_ok hcommand _).trans hlinks
  obtain ⟨hrunner, hgrows⟩ : runFrom (installFile (equippedHost.configDirectory.joinText "ansible.pex") [1] 0o550 r₃)
      (linkedDisk key helperLinks) = (.ok (r₃.record _ true), runnerDisk key) ∧ openedDisk.Grows (runnerDisk key) :=
    installFile_config_of_grows hlinked (by decide) (by decide) (by decide +kernel) rfl (by decide +kernel)
  have hreport : r₃.record (equippedHost.configDirectory.joinText "ansible.pex") true = runnerReport := by decide +kernel
  rw [runFrom_bind_ok hhelper, hrunner, hreport]
  exact ⟨rfl, hgrows⟩

/-- Settings and the sample are made, and no more is kept than before. -/
theorem runFrom_settings_detourDisk {key : List UInt8} (hrunner : openedDisk.Grows (runnerDisk key))
    (connect : List UInt8) : ∃ r d,
    runFrom (do
      let r ← installSettings equippedHost ⟨0, 0⟩ "" runnerReport
      installFile (equippedHost.configDirectory.joinText "connect-py.json") connect 0o640 r) (runnerDisk key) =
        (.ok r, d) ∧ r.kept = runnerReport.kept := by
  have hread : (runnerDisk key).readText equippedHost.machineId = .ok "m" := hrunner.readText (by decide +kernel)
  -- the settings are not there before they are made
  have hfree : (runnerDisk key).occupied runnerReport.inventorySettings = false :=
    ((leadsTo_config_of_grows hrunner).isFree_joinText (s := "inventory-config.json") (by decide) (by decide)
      (by decide +kernel) rfl).occupied_eq_false (Path.endsInName_joinText _ (by decide))
  obtain ⟨settings, r₁, hmake, hreport⟩ : ∃ settings r₁,
      runFrom (installSettings equippedHost ⟨0, 0⟩ "" runnerReport) (runnerDisk key) =
        runFrom (installFile runnerReport.inventorySettings settings 0o640 r₁) (runnerDisk key) ∧
      r₁.kept = runnerReport.kept :=
    ⟨_, _, installSettings_of_free hfree hread (by decide), rfl⟩
  obtain ⟨hsettings, hgrows⟩ : runFrom (installFile runnerReport.inventorySettings settings 0o640 r₁) (runnerDisk key) =
      (.ok (r₁.record _ true), settingsDisk key settings) ∧ openedDisk.Grows (settingsDisk key settings) :=
    installFile_config_of_grows hrunner (by decide) (by decide) (by decide +kernel) rfl (by decide +kernel)
  let r₂ := r₁.record runnerReport.inventorySettings true
  obtain ⟨hconnect, -⟩ : runFrom (installFile (equippedHost.configDirectory.joinText "connect-py.json") connect 0o640 r₂)
      (settingsDisk key settings) = (.ok (r₂.record _ true), (settingsDisk key settings).set _ _) ∧ _ :=
    installFile_config_of_grows hgrows (by decide) (by decide) (by decide +kernel) rfl (by decide +kernel)
  rw [runFrom_bind_ok (hmake.trans hsettings)]
  exact ⟨_, _, hconnect, hreport⟩

/-- The command directory is a link that leads nowhere. As soon as the configuration directory is made it leads to a
directory with a command in it, and this one is kept. -/
theorem install_detour : detourDisk.IsTree ∧ detourDisk.isDirectory equippedHost.home = true ∧
    ∃ r w', (install equippedHost ⟨0, 0⟩ detourSources).runOn { equippedWorld with disk := detourDisk } = (.ok r, w') ∧
      .ofText "/home/bin/ansible.sh" ∈ r.kept ∧ detourDisk.occupied (.ofText "/home/bin/ansible.sh") = false := by
  have htree : detourDisk.IsTree := isTree_of_forall_mem (by decide +kernel) (by decide +kernel)
  have hopen : runFrom (makeDirectories equippedHost) detourDisk = (.ok (), openedDisk) := by decide +kernel
  obtain ⟨key, hkey, hkeyed⟩ := runFrom_vaultKey_detourDisk
  obtain ⟨hrunner, hgrows⟩ := runFrom_runner_detourDisk hkeyed
  obtain ⟨r, d, hsettings, hkept⟩ := runFrom_settings_detourDisk hgrows (Text.encode (connectSample "").document)
  -- no step of this install acts on anything but the disk
  have hinstall : install equippedHost ⟨0, 0⟩ detourSources = Program.onDisk (do
      makeDirectories equippedHost
      let r ← installVaultKey equippedHost ⟨0, 0⟩ (Report.start equippedHost)
      let r ← installHelper [2] r
      let r ← installFile (equippedHost.configDirectory.joinText "ansible.pex") [1] 0o550 r
      let r ← installSettings equippedHost ⟨0, 0⟩ "" r
      installFile (equippedHost.configDirectory.joinText "connect-py.json") (Text.encode (connectSample "").document)
        0o640 r) := by
    simp [install, detourSources, onDisk_bind]
  refine ⟨htree, by decide +kernel, r, { equippedWorld with disk := d }, ?_, by simp [hkept, runnerReport], by decide +kernel⟩
  rw [program_runOn_eq, hinstall]
  refine runFrom_onDisk_eq_ok.mpr ⟨?_, rfl⟩
  rw [runFrom_bind_ok hopen, runFrom_bind_ok hkey, ← bind_assoc, runFrom_bind_ok hrunner]
  exact hsettings

end Detour

end Host

end Bootstrap
