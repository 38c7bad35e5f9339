import Bootstrap.Host.Install
import Bootstrap.Proofs.Disk.Growth
import Mathlib.Tactic.Common

/-!
# An install only adds

Each artifact is made by an action that leaves alone whatever stands at its path, and the directories above it are
missing below a home directory that is there. So, wherever the install ends, everything that the operator had is still
there: `Host.install_only_adds`.

`Host.keeps_install` goes through the steps of an install once, for any invariant that new files and links keep.
-/

namespace Bootstrap

/-- An invariant that survives new files and new links. -/
structure Action.AllowsNew (I : Disk → Prop) : Prop where
  file (p : Path) (content : List UInt8) (mode : Nat) : Effect.Keeps I (writeNewFile p content mode)
  link (p target : Path) : Effect.Keeps I (createLink p target)

namespace Host

open Effect Bootstrap.Action Disk

variable {h : Host} {now : Instant}

/-! ## Artifacts -/

section Artifacts

variable {I : Disk → Prop} {r : Report}

/-- The identity of the machine is read and hashed; nothing is written. -/
theorem keeps_machineHash {file : Path} {label : String} : Keeps I (machineHash file label now) := by
  refine Keeps.bind (Keeps.bind ((Keeps.ask _).during _) fun text => ?_) fun id => .pure _
  exact .ite (.refuse _) (.pure _)

/-- Settings are read. -/
theorem keeps_load {p : Path} : Keeps I (FetchSettings.load p) := by
  refine Keeps.bind ((Keeps.ask _).during _) fun text => ?_
  split
  · exact .pure _
  · exact .throw _

theorem keeps_installFile (hI : AllowsNew I) {p : Path} {content : List UInt8} {mode : Nat} :
    Keeps I (installFile p content mode r) := (hI.file p content mode).bind fun _ => .pure _

theorem keeps_installVaultKey (hI : AllowsNew I) : Keeps I (installVaultKey h now r) := by
  refine Keeps.get_bind fun d hd => Keeps.ite (.pure _) ?_ d hd
  exact (keeps_machineHash.during _).bind fun key => (keeps_installFile hI).during _

theorem keeps_installLink (hI : AllowsNew I) {helper link : Path} : Keeps I (installLink helper link r) := by
  refine Keeps.get_bind fun d hd => Keeps.ite (.pure _) ?_ d hd
  exact ((hI.link link helper).during _).bind fun _ => .pure _

theorem keeps_installHelper (hI : AllowsNew I) {content : List UInt8} : Keeps I (installHelper content r) :=
  (keeps_installFile hI).bind fun r => .foldlM (fun _ _ _ => keeps_installLink hI) r

/-- A copy is a file, or nothing. -/
theorem keeps_installCopy (hI : AllowsNew I) {script p : Path} {mode : Nat} :
    Keeps I (installCopy script p mode r) := by
  refine Keeps.get_bind fun d hd => ?_
  split
  · exact keeps_installFile hI d hd
  · exact hd

/-- Settings that are there are read; new ones are a file. -/
theorem keeps_installSettings (hI : AllowsNew I) {monitor : String} : Keeps I (installSettings h now monitor r) := by
  refine Keeps.get_bind fun d hd => Keeps.ite (keeps_load.bind fun settings => .pure _) ?_ d hd
  exact keeps_machineHash.bind fun identifier => keeps_machineHash.bind fun token => keeps_installFile hI

end Artifacts

/-! ## The steps of an install -/

section Steps

variable {I : Disk → Prop} {J : World → Prop}

/-- The seed is announced and copied. `J` is the invariant of the world that belongs to `I`, so printing has to keep it
too. -/
theorem keeps_installSeed (hI : AllowsNew I) (hprint : ∀ line, Keeps J (Program.print line))
    (hdisk : ∀ {α : Type} {x : Action α}, Keeps I x → Keeps J (Program.onDisk x)) {seed : Path} {r : Report} :
    Keeps J (installSeed seed r) := by
  refine Keeps.bind (Keeps.look _) fun occupied => Keeps.ite (.pure _) ?_
  refine Keeps.bind (Keeps.look _) fun content? => ?_
  split
  · exact (hprint _).bind fun _ => hdisk (keeps_installFile hI)
  · exact .pure _

/-- Behind the directories an install does nothing but make new files and links. `I` is what these keep of a disk and
`J` what follows of the world. -/
theorem keeps_install (hI : AllowsNew I) (hprint : ∀ line, Keeps J (Program.print line))
    (hdisk : ∀ {α : Type} {x : Action α}, Keeps I x → Keeps J (Program.onDisk x)) {sources : Sources} {w : World}
    (hdirectories : J (runFrom (Program.onDisk (makeDirectories h)) w).2) :
    J (runFrom (install h now sources) w).2 := by
  refine Keeps.runFrom_bind (fun _ => ?_) hdirectories
  refine (hdisk (keeps_installVaultKey hI)).bind fun r => ?_
  refine (hdisk (keeps_installHelper hI)).bind fun r => ?_
  refine (hdisk (keeps_installFile hI)).bind fun r => ?_
  -- a step may be left out, so what follows it is treated before the step itself
  extract_lets fromSettings fromSeed fromCopy
  have hsettings : ∀ r, Keeps J (fromSettings r) := fun r =>
    (hdisk (keeps_installSettings hI)).bind fun r => hdisk (keeps_installFile hI)
  have hseed : ∀ r, Keeps J (fromSeed r) := by
    intro r
    dsimp only [fromSeed]
    split
    · exact (keeps_installSeed hI hprint hdisk).bind hsettings
    · exact Keeps.bind (.pure _) hsettings
  have hcopy : ∀ r, Keeps J (fromCopy r) := by
    intro r
    dsimp only [fromCopy]
    split
    · exact (hdisk (keeps_installCopy hI)).bind hseed
    · exact Keeps.bind (.pure _) hseed
  split
  · exact (hdisk (keeps_installFile hI)).bind hcopy
  · exact Keeps.bind (.pure _) hcopy

end Steps

/-! ## Nothing is lost -/

theorem allowsNew_grows (d₀ : Disk) : AllowsNew d₀.Grows :=
  ⟨fun _ _ _ => keeps_writeNewFile_grows, fun _ _ => keeps_createLink_grows⟩

/-- Both directories lie below the home directory, at plain names. So all that is made on the way to them is new, and
nothing above the home directory is touched. -/
theorem keeps_makeDirectories_grows {d₀ : Disk} {base : Location} :
    Keeps (Extended d₀ h.home base) (makeDirectories h) := by
  have hconfig : h.configDirectory.names = h.home.names ++ [Text.encode ".config", Text.encode "gascan"] := by
    rw [configDirectory, Path.names_joinText (by decide +kernel), Path.names_joinText (by decide +kernel),
      List.append_assoc, List.singleton_append]
  have hbin : h.binDirectory.names = h.home.names ++ [Text.encode "bin"] := Path.names_joinText (by decide +kernel)
  unfold makeDirectories
  refine Keeps.bind (Keeps.during _ ?_) fun _ => Keeps.bind (Keeps.during _ ?_) fun _ => .pure _
  · refine keeps_createDirectoryIfMissing_grows hconfig ?_ (by decide +kernel)
    rw [configDirectory, Path.isAbsolute_joinText (by decide +kernel), Path.isAbsolute_joinText (by decide +kernel)]
  · exact keeps_createDirectoryIfMissing_grows hbin (Path.isAbsolute_joinText (by decide +kernel)) (by decide +kernel)

/-- **The first install wins.** On a tree with a home directory, whatever stood anywhere before an install stands there
afterwards, with the same content, mode and target; be it that the install fails halfway. -/
theorem install_only_adds (h : Host) (now : Instant) (sources : Sources) (w : World) (htree : w.disk.IsTree)
    (hhome : w.disk.isDirectory h.home = true) (l : Location) (o : Object) (hget : w.disk.get? l = some o) :
    ((install h now sources).runOn w).2.disk.get? l = some o := by
  obtain ⟨base, hleads⟩ := isDirectory_iff.mp hhome
  have hdirectories := keeps_makeDirectories_grows.onDisk w ⟨.refl _, htree, hleads⟩
  have hgrows : w.disk.Grows ((install h now sources).runOn w).2.disk :=
    keeps_install (J := fun w' => w.disk.Grows w'.disk) (allowsNew_grows w.disk) (.print ·) .onDisk hdirectories.grows
  exact hgrows.get? l o hget

/-- A home directory whose command directory is open to all and holds a link that leads nowhere. -/
def operatorDisk : Disk :=
  ⟨[], [([], .directory 0o755), ([Text.encode "home"], .directory 0o700), ([Text.encode "id"], .file 0o644 [0x61]),
    ([Text.encode "home", Text.encode "bin"], .directory 0o777),
    ([Text.encode "home", Text.encode "bin", Text.encode "ansible.sh"], .link (.ofText "/gone"))]⟩

/-- A link that leads nowhere is kept, too. -/
theorem install_only_adds_operatorDisk :
    operatorDisk.IsTree ∧ operatorDisk.isDirectory (.ofText "/home") = true ∧
      ((install ⟨.ofText "/home", .ofText "/id", none, false⟩ ⟨0, 0⟩ ⟨[1], [2], none, none, none, ""⟩).runOn
        { disk := operatorDisk, temporary := .ofText "/tmp", draw := fun _ => "" }).2.disk.get?
          [Text.encode "home", Text.encode "bin", Text.encode "ansible.sh"] = some (.link (.ofText "/gone")) := by
  have htree : operatorDisk.IsTree := isTree_of_forall_mem (by decide +kernel) (by decide +kernel)
  have hhome : operatorDisk.isDirectory (.ofText "/home") = true := by decide +kernel
  exact ⟨htree, hhome, install_only_adds _ _ _ _ htree hhome _ _ (by decide +kernel)⟩

end Host

end Bootstrap
