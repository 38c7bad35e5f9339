import Bootstrap.Proofs.Bundle.Containment
import Bootstrap.Proofs.Disk.Removal
import Bootstrap.Proofs.Invocation.Trace
import Bootstrap.Proofs.Workspace
import Mathlib.Tactic.Common

/-!
# The life of a workspace

An invocation works in one fresh directory. Its life has three parts:

* While it is prepared, everything is written below it, be it through links of the bundle: `keeps_prepare`.
* While something is done in it, the invocation itself changes nothing on the disk, unless it installs helpers and
  settings; and an install removes nothing: `keeps_act_disk`, `keeps_installHost`.
* In the end it is removed or stays: `leaves_proceed`.

`run_leaves` puts them together, behind the decision and the opening of the workspace.
-/

namespace Bootstrap.Invocation

open Effect Disk
open Launch (Launcher Outcome)

/-! ## Preparing -/

section Preparing

variable {d₀ : Disk} {workspace : Path} {top : Location}

/-- Files are written into the workspace under plain names. -/
theorem keeps_writeFile_joinText {name : String} {content : List UInt8} {mode : Nat}
    (hname : Path.IsPlain (Text.encode name)) :
    Keeps (Confined d₀ workspace top) (Action.writeFile (workspace.joinText name) content mode) :=
  Confined.keeps_writeFile hname.descends

/-- The only file that this step writes is the runner configuration of the workspace, with absolute paths. -/
theorem keeps_prepareConfig {home : Path} : Keeps (Confined d₀ workspace top) (prepareConfig workspace home) := by
  refine Keeps.get_bind fun d hd => Keeps.ite (.pure _) ?_ d hd
  refine ((Keeps.ask _).during _).bind fun text => ?_
  exact (keeps_writeFile_joinText (by decide +kernel)).bind fun _ => .pure _

theorem keeps_ofWorkspace {I : Disk → Prop} : Keeps I (Inventory.Template.ofWorkspace workspace) := by
  refine Keeps.get_bind fun d hd => Keeps.ite ?_ (.pure _) d hd
  exact ((Keeps.ask _).during _).bind fun text => .pure _

/-- An inventory that is made is a file in the workspace. -/
theorem keeps_synthesize {config : Configuration} {template : Inventory.Template} :
    Keeps (Confined d₀ workspace top) (Inventory.synthesize workspace config template) := by
  unfold Inventory.synthesize
  extract_lets p writeContent
  have hwrite : ∀ content, Keeps (Confined d₀ workspace top) (writeContent content) := fun content =>
    (keeps_writeFile_joinText (by decide +kernel)).bind fun _ => .pure _
  split
  · exact Keeps.bind (.pure _) hwrite
  · exact Keeps.bind (.throw _) hwrite

/-- One that is given is only looked at. -/
theorem keeps_resolve {spec : String} {config : Configuration} {template : Inventory.Template} :
    Keeps (Confined d₀ workspace top) (Inventory.resolve spec workspace config template) := by
  refine Keeps.get_bind fun d hd => ?_
  split
  · exact (keeps_synthesize.bind fun p => .pure _) d hd
  · exact hd

/-- A workspace is prepared without touching anything outside of it, as long as the cache is left alone. -/
theorem keeps_prepare {surroundings : Surroundings} {config : Configuration}
    (hcache : config.clearInventoryCache = false) :
    Keeps (Confined d₀ workspace top) (prepare surroundings config workspace) := by
  unfold prepare
  refine (Bundle.keeps_extract _ _ .none).bind fun _ => ?_
  refine (keeps_writeFile_joinText (by decide +kernel)).bind fun _ => ?_
  refine keeps_prepareConfig.bind fun ⟨configPath, runnerConfig⟩ => ?_
  refine keeps_ofWorkspace.bind fun template => ?_
  refine keeps_resolve.bind fun inventory => ?_
  rw [hcache]
  exact .pure _

end Preparing

/-! ## Doing what the mode asks for -/

section Acting

variable (surroundings : Surroundings) (config : Configuration) (p : Prepared)

/-- Whatever all children keep, the stages keep, wherever they stop. -/
theorem keeps_runStages {J : World → Prop} (hlaunch : ∀ r, Keeps J (Program.launch surroundings.launcher r)) :
    Keeps J (runStages surroundings config p) := by
  unfold runStages
  extract_lets fromDeploy fromTest
  have hdeploy : ∀ u, Keeps J (fromDeploy u) := fun _ => Keeps.ite (hlaunch _) (.pure _)
  have htest : ∀ u, Keeps J (fromTest u) := by
    intro u
    dsimp only [fromTest]
    split
    · exact (hlaunch _).bind fun o => Keeps.ite (.pure _) (hdeploy ())
    · exact hdeploy ()
  split
  · exact Keeps.bind ((hlaunch _).bind fun o => Keeps.ite (.throw _) (.pure _)) htest
  · exact htest ()

/-- Children that touch nothing are all that an invocation starts, unless it installs helpers and settings. -/
theorem keeps_act_disk (hquiet : ∀ n r d, (surroundings.launcher n r d).disk = d)
    (hmode : config.mode ≠ .branch .extract) (d : Disk) :
    Keeps (fun w => w.disk = d) (act surroundings config p) := by
  have hlaunch : ∀ r, Keeps (fun w => w.disk = d) (Program.launch surroundings.launcher r) := by
    intro r w hw
    rw [runFrom_launch]
    exact (hquiet _ _ _).trans hw
  rw [act_eq]
  split
  · exact keeps_runStages surroundings config p hlaunch
  · exact hlaunch _
  · exact hlaunch _
  · next hextract => exact absurd hextract hmode

/-- An install keeps whatever survives every change of a disk, since it consists of such changes. -/
theorem keeps_installHost {I : Disk → Prop} (hI : Action.IsStable I) :
    Keeps (fun w => I w.disk) (installHost surroundings config p) := by
  have hdirectories : Keeps I (Host.makeDirectories surroundings.host) := by
    unfold Host.makeDirectories
    refine (hI.createDirectoryIfMissing.during _).bind fun _ => ?_
    exact (hI.createDirectoryIfMissing.during _).bind fun _ => .pure _
  have hnew : Action.AllowsNew I := ⟨fun _ _ _ => hI.writeNewFile, fun _ _ => hI.createLink⟩
  refine Keeps.bind (.print _) fun _ => Keeps.bind (.look _) fun d => ?_
  refine Keeps.bind (fun w hw => ?_) fun report => .print _
  exact Host.keeps_install (J := fun w => I w.disk) hnew (.print ·) .onDisk (hdirectories.onDisk w hw)

/-- The workspace is still there when the mode's own part has ended, whatever the mode is. -/
theorem isDirectoryAt_act (hquiet : ∀ n r d, (surroundings.launcher n r d).disk = d) {top : Location} {w : World}
    (hdir : w.disk.isDirectoryAt top = true) :
    (runFrom (act surroundings config p) w).2.disk.isDirectoryAt top = true := by
  by_cases hmode : config.mode = .branch .extract
  · -- an install changes the disk, but no change turns a directory into something else
    have hstable : Action.IsStable fun d => d.isDirectoryAt top = true := fun d l o hd hadm =>
      hadm.carries.isDirectoryAt hd
    rw [act_eq, hmode]
    exact ((keeps_installHost surroundings config p hstable).bind fun _ => .pure _) w hdir
  · rw [keeps_act_disk surroundings config p hquiet hmode w.disk w rfl]
    exact hdir

/-- Where the mode's own part succeeds, its outcome is a success exactly if no child failed. One lemma for each mode; an
extraction starts none. -/
theorem launched_act (w : World) :
    ∃ new, (runFrom (act surroundings config p) w).2.launches = w.launches ++ new ∧
      ∀ o, (runFrom (act surroundings config p) w).1 = .ok o →
        (o.succeeded = true ↔ ∀ o' ∈ outcomes surroundings.launcher w.launches.length new, o'.succeeded = true) := by
  have hcall : ∀ r, Runs surroundings.launcher config.editor (Program.launch surroundings.launcher r) [.runner r] :=
    .launch_runner
  rw [act_eq]
  split
  · -- the stages, the two modes with a single child, and an install, which starts none
    obtain ⟨new, hlaunches, hgoes⟩ := runs_runStages surroundings config p w
    exact ⟨new, hlaunches, fun o ho => hgoes.succeeded_iff ho⟩
  · obtain ⟨new, hlaunches, hgoes⟩ := hcall (queryRequest config p) w
    exact ⟨new, hlaunches, fun o ho => hgoes.succeeded_iff ho⟩
  · obtain ⟨new, hlaunches, hgoes⟩ := hcall (adhocRequest config p) w
    exact ⟨new, hlaunches, fun o ho => hgoes.succeeded_iff ho⟩
  · have hinstall := (keeps_launches_installHost surroundings config p w.launches).bind
      (fun _ => Keeps.pure Outcome.success) w rfl
    refine ⟨[], by rw [List.append_nil]; exact hinstall, fun o ho => ?_⟩
    rw [runFrom_bind] at ho
    split at ho
    · cases ho
      simp [outcomes, Outcome.success]
    · cases ho

end Acting

/-! ## What is left -/

/-- A run that removes its workspace: it returns an exit code, no child failed, and the workspace was not for keeps. -/
def IsClean (mode : Mode) (ended : List Outcome) (result : Except Failure Int) : Prop :=
  (∃ code, result = .ok code) ∧ (∀ o ∈ ended, o.succeeded = true) ∧
    mode ≠ .branch .extract ∧ mode ≠ .branch .adhoc

/-- What the disk `d'` at the end of a run has of the disk `d₁` on which its workspace was made at `top`. -/
structure Leaves (mode : Mode) (ended : List Outcome) (result : Except Failure Int) (d₁ : Disk) (top : Location)
    (d' : Disk) : Prop where
  outside : mode ≠ .branch .extract → ∀ l, ¬ top <+: l → d'.get? l = d₁.get? l
  removed : IsClean mode ended result → ∀ l, top <+: l → d'.get? l = none
  preserved : ¬ IsClean mode ended result → d'.isDirectoryAt top = true

/-- The workspace is kept for the two modes that are there for it. -/
theorem removesWorkspace_iff (mode : Mode) :
    mode.removesWorkspace = true ↔ mode ≠ .branch .extract ∧ mode ≠ .branch .adhoc := by
  cases mode with
  | stages configure test deploy => simp [Mode.removesWorkspace]
  | branch b => cases b <;> simp [Mode.removesWorkspace]

section Leaving

variable {surroundings : Surroundings} {config : Configuration} {workspace : Workspace} {d₁ d₂ : Disk} {top : Location}

/-- A workspace that was left alone but for what is below it can be removed, and then the disk is as it was in front of
it. -/
theorem leaves_removeTree {ended : List Outcome} {code : Int} {d : Disk} (ht : d₁.IsTree)
    (hmade : Workspace.IsMade workspace.path d₁ d₂ top) (hconfined : Confined d₂ workspace.path top d)
    (hremoves : config.mode.removesWorkspace = true) (hended : ∀ o ∈ ended, o.succeeded = true) :
    Leaves config.mode ended (.ok code) d₁ top (d.removeTree workspace.path).2 := by
  obtain ⟨mode, hdir⟩ := eq_directory_of_isDirectoryAt hconfined.leads.isDirectoryAt
  have hout := hmade.outside hconfined
  obtain ⟨parent, n, slash, rfl, hfree, rfl⟩ := hmade
  rw [removeTree_eq ht hfree hconfined.workingDirectory hout hdir]
  refine ⟨fun _ l hl => ?_, fun _ l hl => ?_, fun hnot => absurd ?_ hnot⟩
  · rw [get?_eraseBelow_erase, if_neg hl]
    exact hout l hl
  · rw [get?_eraseBelow_erase, if_pos hl]
  · exact ⟨⟨_, rfl⟩, hended, (removesWorkspace_iff _).mp hremoves⟩

/-- The second half of a run, from a world in which the workspace is prepared. What it leaves of the workspace is
settled by the mode and by the outcome of its children. -/
theorem leaves_proceed {p : Prepared} {w : World} (ht : d₁.IsTree)
    (hmade : Workspace.IsMade workspace.path d₁ d₂ top) (hconfined : Confined d₂ workspace.path top w.disk)
    (hquiet : ∀ n r d, (surroundings.launcher n r d).disk = d) :
    ∃ new, (runFrom (proceed surroundings config workspace p) w).2.launches = w.launches ++ new ∧
      Leaves config.mode (outcomes surroundings.launcher w.launches.length new)
        (runFrom (proceed surroundings config workspace p) w).1 d₁ top
        (runFrom (proceed surroundings config workspace p) w).2.disk := by
  obtain ⟨new, hlaunches, hended⟩ := launched_act surroundings config p w
  obtain ⟨printed, hproceed⟩ := runFrom_proceed surroundings config workspace p w
  have hdisk := keeps_act_disk surroundings config p hquiet
  have hdir := isDirectoryAt_act surroundings config p hquiet hconfined.leads.isDirectoryAt
  have hout : config.mode ≠ .branch .extract → ∀ l, ¬ top <+: l →
      (runFrom (act surroundings config p) w).2.disk.get? l = d₁.get? l := by
    intro hmode l hl
    rw [hdisk hmode w.disk w rfl]
    exact hmade.outside hconfined l hl
  refine ⟨new, (proceed_launches ..).trans hlaunches, ?_⟩
  rw [hproceed]
  rcases hact : runFrom (act surroundings config p) w with ⟨f | o, w'⟩
  · -- the mode's own part fails, and the workspace stays
    rw [hact] at hdir hout
    refine ⟨hout, fun hclean => ?_, fun _ => hdir⟩
    obtain ⟨⟨_, hok⟩, -⟩ := hclean
    cases hok
  · rw [hact] at hdir hout hended
    dsimp only
    split
    · next hremove =>
      obtain ⟨hok, hremoves⟩ := Bool.and_eq_true_iff.mp hremove
      have hmode := ((removesWorkspace_iff _).mp hremoves).1
      have hsame : w'.disk = w.disk := by
        have := hdisk hmode w.disk w rfl
        rwa [hact] at this
      rw [hsame]
      exact leaves_removeTree ht hmade hconfined hremoves ((hended o rfl).mp hok)
    · next hkeep =>
      refine ⟨hout, fun ⟨_, hall, hmode⟩ => absurd ?_ hkeep, fun _ => hdir⟩
      rw [(hended o rfl).mpr hall, (removesWorkspace_iff _).mpr hmode]
      rfl

/-- All that follows the opening of a workspace: the preparation may fail, and then the workspace is gone; otherwise the
second half says what is left. -/
theorem leaves_runInWorkspace {w w₂ : World} (ht : d₁.IsTree)
    (hopen : runFrom (Workspace.openIn config.extractPath) w = (.ok workspace, w₂))
    (hmade : Workspace.IsMade workspace.path d₁ w₂.disk top)
    (hquiet : ∀ n r d, (surroundings.launcher n r d).disk = d) (hcache : config.clearInventoryCache = false) :
    ∃ new, (runFrom (runInWorkspace surroundings config) w).2.launches = w.launches ++ new ∧
      Leaves config.mode (outcomes surroundings.launcher w.launches.length new)
        (runFrom (runInWorkspace surroundings config) w).1 d₁ top
        (runFrom (runInWorkspace surroundings config) w).2.disk := by
  have hlaunches : w₂.launches = w.launches := by
    have := keeps_launches_openIn config.extractPath w.launches w rfl
    rwa [hopen] at this
  have hconfined : Confined w₂.disk workspace.path top
      (runFrom (prepare surroundings config workspace.path) w₂.disk).2 :=
    keeps_prepare hcache w₂.disk (hmade.confined ht)
  rw [runInWorkspace, runFrom_bind_ok hopen, runFrom_bind, runFrom_onDisk]
  rcases hprepare : runFrom (prepare surroundings config workspace.path) w₂.disk with ⟨f | p, d₃⟩
  · -- the workspace could not be prepared, and stays as it is
    rw [hprepare] at hconfined
    refine ⟨[], ?_, fun _ => hmade.outside hconfined, fun hclean => ?_, fun _ => ?_⟩
    · rw [List.append_nil]
      exact hlaunches
    · obtain ⟨⟨_, hok⟩, -⟩ := hclean
      cases hok
    · exact hconfined.leads.isDirectoryAt
  · rw [hprepare] at hconfined
    rw [← hlaunches]
    exact leaves_proceed (w := { w₂ with disk := d₃ }) ht hmade hconfined hquiet

end Leaving

/-- An invocation that decides not to run changes nothing on the disk. -/
theorem disk_run_of_no_mode {surroundings : Surroundings} {options : CommandLine.Options}
    (h : ∀ mode, (options.request surroundings.host).decision surroundings.payload.playbooks ≠ .ok (.run mode))
    (w : World) : (runFrom (run surroundings options) w).2.disk = w.disk :=
  keeps_run_of_no_mode (J := fun w' => w'.disk = w.disk) h (fun _ _ hw => hw)
    (fun _ => Keeps.onDisk (I := (· = w.disk)) Host.keeps_machineHash) w rfl

/-- **Frame and life of the workspace.** Start an invocation on a tree, with children that touch nothing and without
clearing the inventory cache. If it decides not to run, it changes nothing and starts nothing. Otherwise it makes
missing directories for the workspace, and nothing else unless the workspace is opened. Once it is opened, everything
outside of it stays as it is unless the bundle is extracted for keeps, and it is removed exactly if the run is clean. -/
theorem run_leaves (surroundings : Surroundings) (options : CommandLine.Options) (w : World) (htree : w.disk.IsTree)
    (hquiet : ∀ n r d, (surroundings.launcher n r d).disk = d) (hcache : options.clearInventoryCache = false) :
    let result := ((run surroundings options).runOn w).1
    let w' := ((run surroundings options).runOn w).2
    match (options.request surroundings.host).decision surroundings.payload.playbooks with
    | .ok (.run mode) =>
      let path := (options.configuration mode).extractPath
      let base := path.getD w.temporary
      let d₁ := Workspace.baseDisk path w
      OnlyMakes 0o777 (base :: base.parents) w.disk d₁ ∧
        match (Workspace.openIn path).runOn w with
        | (.error f, _) => result = .error f ∧ w'.disk = d₁
        | (.ok workspace, w₂) =>
          ∃ top new, Workspace.IsMade workspace.path d₁ w₂.disk top ∧ w'.launches = w.launches ++ new ∧
            Leaves mode (outcomes surroundings.launcher w.launches.length new) result d₁ top w'.disk
    | _ => w'.disk = w.disk ∧ w'.launches = w.launches := by
  intro result w'
  cases hdecision : (options.request surroundings.host).decision surroundings.payload.playbooks with
  | error f =>
      have hno : ∀ mode, (options.request surroundings.host).decision surroundings.payload.playbooks ≠
          .ok (.run mode) := by
        simp [hdecision]
      exact ⟨disk_run_of_no_mode hno w, launches_run_of_no_mode hno w⟩
  | ok decision =>
      cases decision with
      | run mode =>
          have hmake := Action.onlyMakes_makeDirectoryTree w.disk
            ((options.configuration mode).extractPath.getD w.temporary) 0o777
          refine ⟨hmake, ?_⟩
          rcases Workspace.openIn_eq (options.configuration mode).extractPath w with
            ⟨f, w₂, hopen, hdisk⟩ | ⟨workspace, w₂, top, hopen, hmade⟩
          · -- the workspace is not opened, and the run ends with that failure
            rw [program_runOn_eq, hopen]
            have hrun : (run surroundings options).runOn w = (.error f, w₂) := by
              rw [run_of_decision hdecision]
              exact runFrom_bind_error hopen _
            exact ⟨congrArg (·.1) hrun, (congrArg (·.2.disk) hrun).trans hdisk⟩
          · -- it is opened, on a disk that is still a tree
            rw [program_runOn_eq, hopen]
            have ht : (Workspace.baseDisk (options.configuration mode).extractPath w).IsTree :=
              Action.IsStable.isTree.makeDirectoryTree w.disk htree
            obtain ⟨new, hlaunches, hleaves⟩ := leaves_runInWorkspace ht hopen hmade hquiet hcache
            rw [← run_of_decision hdecision] at hlaunches hleaves
            exact ⟨top, new, hmade, hlaunches, hleaves⟩
      | _ =>
          have hno : ∀ mode, (options.request surroundings.host).decision surroundings.payload.playbooks ≠
              .ok (.run mode) := by
            simp [hdecision]
          exact ⟨disk_run_of_no_mode hno w, launches_run_of_no_mode hno w⟩

/-- A deployment that fails: the workspace is left in place, and nothing else stands behind it. The launcher changes
nothing on the disk. -/
theorem run_leaves_failingSite :
    siteWorld.disk.IsTree ∧ (∀ n r d, (failingSite.launcher n r d).disk = d) ∧
      testOptions.clearInventoryCache = false ∧
      ∃ top new, ((run failingSite testOptions).runOn siteWorld).2.launches = new ∧
        Leaves (.stages false true true) (outcomes failingSite.launcher 0 new)
          ((run failingSite testOptions).runOn siteWorld).1 (Workspace.baseDisk none siteWorld) top
          ((run failingSite testOptions).runOn siteWorld).2.disk := by
  have htree : siteWorld.disk.IsTree := isTree_of_forall_mem (by decide +kernel) (by decide +kernel)
  have hdecision : (testOptions.request failingSite.host).decision failingSite.payload.playbooks =
      .ok (.run (.stages false true true)) := by decide +kernel
  have hopen : ((Workspace.openIn none).runOn siteWorld).1 = .ok ⟨.ofText "/tmp/gascan-0"⟩ := by decide +kernel
  have hleaves := run_leaves failingSite testOptions siteWorld htree (fun _ _ _ => rfl) rfl
  -- the workspace is made, so what is left is settled by what the stages say
  rw [hdecision] at hleaves
  obtain ⟨-, hlife⟩ := hleaves
  split at hlife
  · next f w₂ hfailed =>
    have hfailed : (Workspace.openIn none).runOn siteWorld = (.error f, w₂) := hfailed
    rw [hfailed] at hopen
    cases hopen
  · obtain ⟨top, new, -, hlaunches, hleft⟩ := hlife
    exact ⟨htree, fun _ _ _ => rfl, rfl, top, new, hlaunches, hleft⟩

end Bootstrap.Invocation
