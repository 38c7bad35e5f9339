import Bootstrap.Proofs.Disk.Growth
import Bootstrap.Workspace

/-!
# Opening a workspace

A workspace is opened in two steps. First the directory for it is made, with the directories above it that are missing:
`Disk.OnlyMakes` says that nothing else changes. Then a directory is made in it at a name that is free, or nothing is
changed at all: `Workspace.openIn_eq`.
-/

namespace Bootstrap

open Effect Disk

namespace Workspace

/-- Where a workspace was made, and what that changed. -/
def IsMade (path : Path) (d d' : Disk) (top : Location) : Prop :=
  ∃ parent n slash, top = parent ++ [n] ∧ d.IsFree .never path parent n slash ∧
    d' = d.set top (.directory (newDirectoryMode (d.modeAt parent) mode))

/-- The names are tried one by one, and only the first free one is taken. A name that is taken costs nothing but the
try. -/
theorem make_eq (base : Path) (draw : Nat → String) (tries n : Nat) (d : Disk) :
    (∃ f, runFrom (make base draw tries n) d = (.error f, d)) ∨
      ∃ workspace drawn d' top, runFrom (make base draw tries n) d = (.ok (workspace, drawn), d') ∧
        IsMade workspace.path d d' top := by
  induction tries generalizing n with
  | zero => exact .inl ⟨_, rfl⟩
  | succ tries ih =>
      unfold make
      rw [runFrom_get_bind]
      dsimp only
      split
      · next d' hmake =>
        obtain ⟨parent, m, slash, hfree, rfl⟩ := makeDirectory_eq_ok hmake
        exact .inr ⟨_, _, _, _, rfl, parent, m, slash, rfl, hfree, rfl⟩
      · -- the name is taken
        exact ih (n + 1)
      · exact .inl ⟨_, rfl⟩

/-- A workspace that was just made is an empty directory to which its path leads. -/
theorem IsMade.confined {path : Path} {d d' : Disk} {top : Location} (h : IsMade path d d' top) (ht : d.IsTree) :
    Confined d' path top d' := by
  obtain ⟨parent, n, slash, rfl, hfree, rfl⟩ := h
  refine .start (hfree.leadsTo_set _) fun l target hbelow hget => ?_
  rw [get?_set, if_neg fun heq => (isBelow_iff.mp hbelow).2 heq.symm,
    ht.get?_eq_none_of_isBelow hfree.free hbelow] at hget
  cases hget

/-- What stands outside a workspace is not changed by what is done inside it. -/
theorem IsMade.outside {path : Path} {d d' d'' : Disk} {top : Location} (h : IsMade path d d' top)
    (hconfined : Confined d' path top d'') (l : Location) (hl : ¬ top <+: l) : d''.get? l = d.get? l := by
  obtain ⟨parent, n, slash, rfl, -, rfl⟩ := h
  have hne : l ≠ parent ++ [n] := fun heq => hl (heq ▸ List.prefix_rfl)
  rw [hconfined.outside l hl, get?_set, if_neg hne]

/-- The disk on which a workspace is made: its base directory is there, as far as it could be made. -/
def baseDisk (base : Option Path) (w : World) : Disk :=
  (runFrom (Action.makeDirectoryTree (base.getD w.temporary) 0o777) w.disk).2

/-- A workspace is opened, or nothing is changed but its base directory, which is made if it is asked for and
missing. -/
theorem openIn_eq (base : Option Path) (w : World) :
    (∃ f w₂, runFrom (openIn base) w = (.error f, w₂) ∧ w₂.disk = baseDisk base w) ∨
      ∃ workspace w₂ top, runFrom (openIn base) w = (.ok workspace, w₂) ∧
        IsMade workspace.path (baseDisk base w) w₂.disk top := by
  unfold openIn baseDisk
  rw [runFrom_get_bind]
  dsimp only
  rw [runFrom_bind, runFrom_program_during, runFrom_onDisk]
  rcases hbase : runFrom (Action.makeDirectoryTree (base.getD w.temporary) 0o777) w.disk with ⟨f | ⟨⟩, d₁⟩
  · -- the base directory could not be made
    exact .inl ⟨_, _, rfl, rfl⟩
  · dsimp only [Except.mapError]
    rw [runFrom_get_bind, runFrom_bind, runFrom_program_during, runFrom_onDisk]
    rcases make_eq (base.getD w.temporary) w.draw (d₁.objects.length + 1) w.drawn d₁ with
      ⟨f, hmake⟩ | ⟨workspace, drawn, d₂, top, hmake, hmade⟩
    · rw [hmake]
      exact .inl ⟨_, _, rfl, rfl⟩
    · rw [hmake]
      exact .inr ⟨_, _, top, rfl, hmade⟩

/-- A workspace is opened when its base directory can be made and one of the names is free. Both are steps on the disk
alone; of the world they change, besides the disk, only the count of the names that were drawn. -/
theorem openIn_eq_ok_of_make {base : Option Path} {w : World} {d₁ d₂ : Disk} {workspace : Workspace} {drawn : Nat}
    (hbase : runFrom (Action.makeDirectoryTree (base.getD w.temporary) 0o777) w.disk = (.ok (), d₁))
    (hmake : runFrom (make (base.getD w.temporary) w.draw (d₁.objects.length + 1) w.drawn) d₁ =
      (.ok (workspace, drawn), d₂)) :
    runFrom (openIn base) w = (.ok workspace, { w with disk := d₂, drawn := drawn }) := by
  unfold openIn
  rw [runFrom_get_bind]
  dsimp only
  rw [runFrom_bind, runFrom_program_during, runFrom_onDisk, hbase]
  dsimp only [Except.mapError]
  rw [runFrom_get_bind, runFrom_bind, runFrom_program_during, runFrom_onDisk, hmake]
  rfl

end Workspace

end Bootstrap
