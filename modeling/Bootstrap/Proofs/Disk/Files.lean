import Bootstrap.Disk.Files
import Bootstrap.Proofs.Disk.Change
import Bootstrap.Proofs.Effect

/-!
# What the file actions keep

The actions of `Bootstrap.Disk.Files` are built from the operations on a disk. So an invariant that these keep on the
paths that an action uses is kept by the action, wherever it fails.

* `runFrom_makeDirectories_eq_ok` — in which cases directories are made without failure.
* `keeps_createDirectory`, `keeps_writeFile`, `keeps_writeNewFile`, `keeps_createLink` — for an invariant that depends
  on the paths.
* `IsStable` — an invariant that survives every change that a disk admits. All file actions keep it on all paths.
-/

namespace Bootstrap.Action

open Effect

variable {I : Disk → Prop} {p : Path} {mode : Nat}

/-! ## Directories -/

/-- A directory was made, or it is there. -/
def Made (mode : Nat) (p : Path) (d d' : Disk) : Prop :=
  d.makeDirectory p mode = .ok d' ∨ (∃ c, d.makeDirectory p mode = .error c) ∧ d.isDirectory p = true ∧ d' = d

section Attempt

variable {above : List Path} {c : Cause} {d d' : Disk}

/-- The last resort of an attempt to make a directory: it is there already. -/
theorem runFrom_orThere_eq_ok :
    runFrom (do if (← get).isDirectory p then pure () else throw (.of c) : Action Unit) d = (.ok (), d') ↔
      d.isDirectory p = true ∧ d' = d := by
  rw [runFrom_get_bind]
  split
  · next hdir =>
    constructor
    · intro h
      cases h
      exact ⟨hdir, rfl⟩
    · rintro ⟨-, rfl⟩
      rfl
  · next hdir =>
    constructor
    · intro h
      cases h
    · rintro ⟨h, -⟩
      exact absurd h hdir

/-- One attempt to make a directory succeeds if the directory is made or found. Its three arms are the three ways in
which the operation can end. -/
theorem runFrom_attempt_eq_ok :
    runFrom (do
      match (← get).makeDirectory p mode with
      | .ok d => set d
      | .error c => if (← get).isDirectory p then pure () else throw (.of c) : Action Unit) d = (.ok (), d') ↔
        Made mode p d d' := by
  rw [runFrom_get_bind, Made]
  cases hmake : d.makeDirectory p mode with
  | ok d₁ =>
      constructor
      · intro h
        cases h
        exact .inl rfl
      · rintro (h | ⟨⟨c, h⟩, -⟩)
        · cases h
          rfl
        · cases h
  | error c =>
      -- the operation refused: the directory may be there all the same
      show runFrom (do if (← get).isDirectory p then pure () else throw (.of c) : Action Unit) d = (.ok (), d') ↔ _
      rw [runFrom_orThere_eq_ok]
      constructor
      · intro h
        exact .inr ⟨⟨c, rfl⟩, h⟩
      · rintro (h | ⟨-, h⟩)
        · cases h
        · exact h

/-- **How directories are made**: where one above is missing, the ones above are made first, and then this one is tried
once more. In all other cases the first try counts, and a directory that is already there is no failure. -/
theorem runFrom_makeDirectories_eq_ok (hp : p.bytes ≠ []) :
    runFrom (makeDirectories mode (p :: above)) d = (.ok (), d') ↔
      d.makeDirectory p mode ≠ .error (.system .notFound) ∧ Made mode p d d' ∨
        d.makeDirectory p mode = .error (.system .notFound) ∧
          ∃ d₁, runFrom (makeDirectories mode above) d = (.ok (), d₁) ∧ Made mode p d₁ d' := by
  rw [makeDirectories, if_neg (by simpa using hp), runFrom_get_bind]
  -- only if a directory above is missing are those above made, and then this one is tried again
  by_cases hmissing : d.makeDirectory p mode = .error (.system .notFound)
  · rw [hmissing]
    constructor
    · intro h
      obtain ⟨⟨⟩, d₁, habove, h⟩ := exists_of_runFrom_bind h
      exact .inr ⟨rfl, d₁, habove, runFrom_attempt_eq_ok.mp h⟩
    · rintro (⟨h, -⟩ | ⟨-, d₁, habove, h⟩)
      · exact absurd rfl h
      · exact (runFrom_bind_ok habove _).trans (runFrom_attempt_eq_ok.mpr h)
  · -- otherwise the first try counts
    rw [← runFrom_attempt_eq_ok, runFrom_get_bind]
    split
    · next heq => simp [heq]
    · next heq => exact absurd heq hmissing
    · next c hc heq =>
      have hne : c ≠ .system .notFound := hc
      simp [heq, hne]

end Attempt

/-- The directories are made from the one farthest up downwards, each behind those above it. The recursion asks for the
first one only if it is needed, so an invariant of making any of them is enough. -/
theorem keeps_makeDirectories {ps : List Path}
    (h : ∀ p ∈ ps, ∀ d d', I d → d.makeDirectory p mode = .ok d' → I d') :
    Keeps I (makeDirectories mode ps) := by
  induction ps with
  | nil => exact .throw _
  | cons p above ih =>
      -- the directory is tried before and after the ones above it, and what is tried only if it failed changes nothing
      have habove : Keeps I (makeDirectories mode above) := ih fun q hq => h q (List.mem_cons_of_mem _ hq)
      intro d hd
      unfold makeDirectories
      split
      · exact hd
      · rw [runFrom_get_bind]
        split
        · next d' hok => exact h p List.mem_cons_self d d' hd hok
        · refine habove.bind (fun _ => Keeps.get_bind fun d hd => ?_) d hd
          split
          · next d' hok => exact h p List.mem_cons_self d d' hd hok
          · exact Keeps.get_bind (fun d hd => Keeps.ite (.pure _) (.throw _) d hd) d hd
        · exact Keeps.get_bind (fun d hd => Keeps.ite (.pure _) (.throw _) d hd) d hd

/-- The directories that may be made for a path are the path itself and those above it. -/
theorem keeps_makeDirectoryTree
    (h : ∀ q ∈ p :: p.parents, ∀ d d', I d → d.makeDirectory q mode = .ok d' → I d') :
    Keeps I (makeDirectoryTree p mode) := keeps_makeDirectories h

variable {faults : Faults}

/-- Setting a mode is the only change that pinning a mode makes, also when it fails. -/
theorem keeps_pinMode (h : ∀ d d', I d → d.setMode p mode = .ok d' → I d') : Keeps I (pinMode p mode faults) := by
  refine Keeps.during _ (Keeps.get_bind fun d hd => ?_)
  split
  · exact hd
  · exact keeps_change_iff.mpr h d hd

/-- A directory is made with those above it and then its mode is pinned. -/
theorem keeps_createDirectory
    (hmake : ∀ q ∈ p :: p.parents, ∀ d d', I d → d.makeDirectory q mode = .ok d' → I d')
    (hmode : ∀ d d', I d → d.setMode p mode = .ok d' → I d') : Keeps I (createDirectory p mode faults) :=
  ((keeps_makeDirectoryTree hmake).during _).bind fun _ => keeps_pinMode hmode

/-! ## Files -/

/-- Only directories above the file are made, so an invariant has to survive the making of these. -/
theorem keeps_ensureParent
    (h : ∀ q, p.parent? = some q → ∀ r ∈ q :: q.parents, ∀ d d', I d →
      d.makeDirectory r parentMode = .ok d' → I d') : Keeps I (ensureParent p) := by
  unfold ensureParent
  split
  · next q hq =>
    exact Keeps.get_bind fun d hd => Keeps.ite ((keeps_makeDirectoryTree (h q hq)).during _) (.pure _) d hd
  · exact .pure _

section Writing

variable {content : List UInt8}

/-- An invariant survives the last two steps of writing a file whatever the device stores of the content, and be it that
the mode is not set. -/
theorem keeps_fillFile (hput : ∀ stored d d', I d → d.putFile p mode stored = .ok d' → I d')
    (hmode : ∀ d d', I d → d.setMode p mode = .ok d' → I d') : Keeps I (fillFile p content mode faults) := by
  have hstore : Keeps I (storeContent p content mode faults) := by
    refine Keeps.during _ (Keeps.get_bind fun d hd => ?_)
    split
    · exact ((keeps_change_iff.mpr (hput _)).bind fun _ => .throw _) d hd
    · exact keeps_change_iff.mpr (hput _) d hd
  exact hstore.bind fun _ => keeps_pinMode hmode

/-- The changes of writing a file are those above it, opening it, storing content in it and setting its mode. Since
`stored` is any content, the invariant also holds of what is left behind when storing breaks off. -/
theorem keeps_writeFile
    (hparent : ∀ q, p.parent? = some q → ∀ r ∈ q :: q.parents, ∀ d d', I d →
      d.makeDirectory r parentMode = .ok d' → I d')
    (hput : ∀ stored d d', I d → d.putFile p mode stored = .ok d' → I d')
    (hmode : ∀ d d', I d → d.setMode p mode = .ok d' → I d') : Keeps I (writeFile p content mode faults) :=
  (keeps_ensureParent hparent).bind fun _ =>
    ((keeps_change_iff.mpr (hput [])).during _).bind fun _ => keeps_fillFile hput hmode

/-- The same for a file that must not be there yet. It is added in place of being opened, and the last two steps are the
same. -/
theorem keeps_writeNewFile
    (hparent : ∀ q, p.parent? = some q → ∀ r ∈ q :: q.parents, ∀ d d', I d →
      d.makeDirectory r parentMode = .ok d' → I d')
    (hadd : ∀ d d', I d → d.addFile p mode [] = .ok d' → I d')
    (hput : ∀ stored d d', I d → d.putFile p mode stored = .ok d' → I d')
    (hmode : ∀ d d', I d → d.setMode p mode = .ok d' → I d') : Keeps I (writeNewFile p content mode faults) := by
  refine (keeps_ensureParent hparent).bind fun _ => Keeps.get_bind fun d hd => ?_
  split
  · next d' hok =>
    rw [runFrom_bind, runFrom_set]
    exact (keeps_fillFile hput hmode).bind (fun _ => .pure _) d' (hadd d d' hd hok)
  · exact hd
  · exact hd

end Writing

theorem keeps_createLink {target : Path} (h : ∀ d d', I d → d.addLink p target = .ok d' → I d') :
    Keeps I (createLink p target) := keeps_change_iff.mpr h

/-! ## Invariants of all changes -/

/-- An invariant that survives every change that a disk admits. -/
def IsStable (I : Disk → Prop) : Prop := ∀ d l o, I d → d.Admits l o → I (d.set l o)

namespace IsStable

/-- That the disk is a tree is stable. The lemmas below then say of every operation that it leaves a tree behind,
whether it succeeds or not. -/
theorem isTree : IsStable Disk.IsTree := fun _ _ _ hd h => hd.set h

/-- What is stable under all changes is kept by each of the disk operations; each of these lemmas only says which change
the operation makes. -/
theorem makeDirectory (hI : IsStable I) (d d' : Disk) (hd : I d) (h : d.makeDirectory p mode = .ok d') : I d' := by
  obtain ⟨parent, n, slash, hfree, rfl⟩ := Disk.makeDirectory_eq_ok h
  exact hI d _ _ hd (hfree.admits _)

theorem addFile {content : List UInt8} (hI : IsStable I) (d d' : Disk) (hd : I d)
    (h : d.addFile p mode content = .ok d') : I d' := by
  obtain ⟨parent, n, hfree, rfl⟩ := Disk.addFile_eq_ok h
  exact hI d _ _ hd (hfree.admits _)

theorem addLink {target : Path} (hI : IsStable I) (d d' : Disk) (hd : I d) (h : d.addLink p target = .ok d') :
    I d' := by
  obtain ⟨parent, n, hfree, rfl⟩ := Disk.addLink_eq_ok h
  exact hI d _ _ hd (hfree.admits _)

theorem putFile {content : List UInt8} (hI : IsStable I) (d d' : Disk) (hd : I d)
    (h : d.putFile p mode content = .ok d') : I d' := by
  obtain ⟨parent, n, ⟨hfree, rfl⟩ | ⟨oldMode, old, -, hget, rfl⟩⟩ := Disk.putFile_eq_ok h
  · exact hI d _ _ hd (hfree.admits _)
  · exact hI d _ _ hd (.rewrite hget)

theorem setMode (hI : IsStable I) (d d' : Disk) (hd : I d) (h : d.setMode p mode = .ok d') : I d' := by
  obtain ⟨l, ⟨oldMode, hstatus, rfl⟩ | ⟨oldMode, content, hstatus, rfl⟩⟩ := Disk.setMode_eq_ok h
  · obtain ⟨_, _, _, hget⟩ := Disk.find_eq_ok hstatus
    exact hI d _ _ hd (.remode hget)
  · obtain ⟨_, _, _, hget⟩ := Disk.find_eq_ok hstatus
    exact hI d _ _ hd (.rewrite hget)

/-- From here on whole actions: what is stable is kept by them, be it that they fail half way. -/
theorem makeDirectoryTree (hI : IsStable I) : Keeps I (makeDirectoryTree p mode) :=
  keeps_makeDirectoryTree fun _ _ d d' hd h => hI.makeDirectory d d' hd h

theorem createDirectory (hI : IsStable I) : Keeps I (createDirectory p mode faults) :=
  keeps_createDirectory (fun _ _ d d' hd h => hI.makeDirectory d d' hd h) hI.setMode

theorem createDirectoryIfMissing (hI : IsStable I) : Keeps I (createDirectoryIfMissing p mode) :=
  Keeps.get_bind fun d hd => Keeps.ite (.pure _) (hI.createDirectory.bind fun _ => .pure _) d hd

theorem writeFile {content : List UInt8} (hI : IsStable I) : Keeps I (writeFile p content mode faults) :=
  keeps_writeFile (fun _ _ _ _ d d' hd h => hI.makeDirectory d d' hd h) (fun _ => hI.putFile) hI.setMode

theorem writeNewFile {content : List UInt8} (hI : IsStable I) : Keeps I (writeNewFile p content mode faults) :=
  keeps_writeNewFile (fun _ _ _ _ d d' hd h => hI.makeDirectory d d' hd h) hI.addFile (fun _ => hI.putFile) hI.setMode

theorem createLink {target : Path} (hI : IsStable I) : Keeps I (createLink p target) := keeps_createLink hI.addLink

end IsStable

end Bootstrap.Action
