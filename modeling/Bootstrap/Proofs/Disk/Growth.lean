import Bootstrap.Proofs.Disk.Confinement
import Bootstrap.Proofs.Disk.Opening

/-!
# Changes that only add

`Disk.Grows` says that whatever stood on a disk stands there unchanged. Making a directory, a new file or a link only
adds. Setting a mode does not, so it has to be shown that the mode is set of something that was just made:

* `Action.keeps_writeNewFile_grows` — the path of a file that was just made leads to that file.
* `Action.keeps_createDirectoryIfMissing_grows` — so does the path of a directory that was just made, *if its missing
  part consists of plain names*. With `..` in it the path could lead back to a directory that was there before.
* `Action.onlyMakes_makeDirectoryTree` — which directories a path and the ones above it can add, `Disk.OnlyMakes`.
-/

namespace Bootstrap

namespace Disk

/-- Everything that stands on `d` stands on `d'`, with the same content, mode and target. -/
structure Grows (d d' : Disk) : Prop where
  workingDirectory : d'.workingDirectory = d.workingDirectory
  get? : ∀ l o, d.get? l = some o → d'.get? l = some o

namespace Grows

variable {d d' d'' : Disk} {l : Location}

theorem refl (d : Disk) : d.Grows d := ⟨rfl, fun _ _ h => h⟩

theorem trans (h : d.Grows d') (h' : d'.Grows d'') : d.Grows d'' :=
  ⟨h'.workingDirectory.trans h.workingDirectory, fun l o hget => h'.get? l o (h.get? l o hget)⟩

/-- What is free behind was free before. -/
theorem get?_eq_none (h : d.Grows d') (hfree : d'.get? l = none) : d.get? l = none := by
  cases hget : d.get? l with
  | none => rfl
  | some o =>
      rw [h.get? l o hget] at hfree
      cases hfree

/-- Where nothing stood at first, anything may be set: what stood at first is still as it was. -/
theorem set (h : d.Grows d') (hfree : d.get? l = none) (o : Object) : d.Grows (d'.set l o) where
  workingDirectory := h.workingDirectory
  get? l' o' hget := by
    have hne : l' ≠ l := by
      rintro rfl
      rw [hfree] at hget
      cases hget
    rw [get?_set, if_neg hne]
    exact h.get? l' o' hget

theorem asMade {mode : Nat} (h : d.Grows d') (hmade : d.AsMade mode l) : d'.AsMade mode l := by
  obtain ⟨above, habove, hget⟩ := hmade
  exact ⟨above, h.get? _ _ habove, h.get? _ _ hget⟩

end Grows

/-! ## What was just made -/

section JustMade

variable {d : Disk} {p : Path} {parent : Location} {n : List UInt8} {slash : Bool} {o : Object}

/-- The path at which something was just made leads there, links being followed: what was made is no link. -/
theorem IsFree.walk_set (h : d.IsFree .never p parent n slash) (ho : ∀ target, o ≠ .link target) :
    (d.set (parent ++ [n]) o).walk .always p = .ok (.name parent n slash) := by
  refine h.walk_of_carries (h.admits o).carries (fun target hget => ?_) .always
  rw [get?_set, if_pos rfl] at hget
  exact ho target (Option.some.inj hget)

/-- A directory that was just made is what its path leads to. -/
theorem IsFree.leadsTo_set (h : d.IsFree .never p parent n slash) (mode : Nat) :
    (d.set (parent ++ [n]) (.directory mode)).LeadsTo p (parent ++ [n]) :=
  ⟨mode, find_of_directory (h.walk_set (by simp)) (by rw [Spot.location, get?_set, if_pos rfl])⟩

theorem isDirectory_of_makeDirectory {d' : Disk} {mode : Nat} (h : d.makeDirectory p mode = .ok d') :
    d'.isDirectory p = true := by
  obtain ⟨parent, n, slash, hfree, rfl⟩ := makeDirectory_eq_ok h
  exact isDirectory_iff.mpr ⟨_, hfree.leadsTo_set _⟩

/-- In a directory that holds nothing, no plain name leads anywhere. So a path that goes on behind a directory that was
just made leads nowhere yet. -/
theorem LeadsTo.not_leadsTo_behind {r : Path} {top l : Location} {m : List UInt8} {more : List (List UInt8)}
    (hr : d.LeadsTo r top) (hempty : ∀ n, d.get? (top ++ [n]) = none) (hm : Path.IsPlain m)
    (hnames : p.names = r.names ++ m :: more) (habs : p.isAbsolute = r.isAbsolute) : ¬ d.LeadsTo p l := by
  intro hp
  obtain ⟨hpp, spot, mode, hwalk, hloc, hget⟩ := leadsTo_iff.mp hp
  obtain ⟨left, hrest⟩ := hr.walksTo_behind hnames (by simp) (fun _ => habs) (walk_eq_ok_iff.mpr ⟨hpp, hwalk⟩)
  -- the walk looks for `m` and finds nothing
  cases hrest with
  | dot => exact hm.ne_dot rfl
  | dotDot => exact hm.ne_dotDot rfl
  | name _ _ _ hn hlink =>
      rw [← hloc, Spot.location, hempty m] at hget
      cases hget
  | passDot => exact hm.ne_dot rfl
  | passDotDot => exact hm.ne_dotDot rfl
  | pass _ _ hdir => rw [hempty m] at hdir; cases hdir
  | follow _ hlink => rw [hempty m] at hlink; cases hlink

theorem IsTree.get?_set_below (ht : d.IsTree) (hfree : d.get? (parent ++ [n]) = none) (m : List UInt8) :
    (d.set (parent ++ [n]) o).get? (parent ++ [n] ++ [m]) = none := by
  rw [get?_set, if_neg (by simp)]
  exact ht.get?_eq_none_of_isBelow hfree (isBelow_append_singleton List.prefix_rfl m)

end JustMade

/-! ## Directories for paths -/

/-- On the way from `d` to `d'` directories were made where nothing was, at places to which paths of a list lead, and nothing
else happened. -/
structure OnlyMakes (mode : Nat) (ps : List Path) (d d' : Disk) : Prop where
  workingDirectory : d'.workingDirectory = d.workingDirectory
  get? : ∀ l, d'.get? l = d.get? l ∨ d.get? l = none ∧ d'.AsMade mode l ∧ ∃ p ∈ ps, d'.LeadsTo p l

namespace OnlyMakes

variable {ps : List Path} {mode : Nat} {d d' d'' : Disk}

theorem refl (mode : Nat) (ps : List Path) (d : Disk) : OnlyMakes mode ps d d := ⟨rfl, fun _ => .inl rfl⟩

/-- A disk on which only directories were made has grown. -/
theorem grows (h : OnlyMakes mode ps d d') : d.Grows d' where
  workingDirectory := h.workingDirectory
  get? l o hget := by
    rcases h.get? l with hsame | ⟨hnone, -⟩
    · exact hsame.trans hget
    · rw [hget] at hnone
      cases hnone

/-- One more directory of those that may be made. It is new, and its path leads to it from now on. -/
theorem makeDirectory {p : Path} (hp : p ∈ ps) (h : OnlyMakes mode ps d d') (hmake : d'.makeDirectory p mode = .ok d'') :
    OnlyMakes mode ps d d'' := by
  obtain ⟨parent, n, slash, hfree, rfl⟩ := makeDirectory_eq_ok hmake
  refine ⟨h.workingDirectory, fun l => ?_⟩
  by_cases hl : l = parent ++ [n]
  · subst hl
    exact .inr ⟨h.grows.get?_eq_none hfree.free, hfree.asMade_set mode, p, hp, hfree.leadsTo_set _⟩
  · rcases h.get? l with hsame | ⟨hnone, hmade, q, hq, hleads⟩
    · rw [get?_set, if_neg hl]
      exact .inl hsame
    · -- nothing was at the free name, so neither an older directory nor the one above it is touched
      exact .inr ⟨hnone, ((Grows.refl d').set hfree.free _).asMade hmade, q, hq, hleads.carry (hfree.admits _).carries⟩

end OnlyMakes

/-! ## Directories at plain names -/

/-- A tree that has everything that `d₀` has, and on which `home` leads to `base`. -/
structure Extended (d₀ : Disk) (home : Path) (base : Location) (d : Disk) : Prop where
  grows : d₀.Grows d
  tree : d.IsTree
  leads : d.LeadsTo home base

/-- A directory to which `p` leads on `d` is one to which it led on `d₀`, or it is new. -/
def LeadsToNew (d₀ : Disk) (p : Path) (d : Disk) : Prop := ∀ l, d.LeadsTo p l → d₀.LeadsTo p l ∨ d₀.get? l = none

namespace Extended

variable {d₀ d d' : Disk} {home p r : Path} {base : Location} {ns : List (List UInt8)} {mode : Nat}

/-- What extends a grown disk extends the disk it grew from. -/
theorem after {d₁ : Disk} (h : Extended d₁ home base d) (hgrows : d₀.Grows d₁) : Extended d₀ home base d :=
  ⟨hgrows.trans h.grows, h.tree, h.leads⟩

/-- Something new, where `d₀` has nothing. The home directory still stands where it stood. -/
theorem set {l : Location} {o : Object} (h : Extended d₀ home base d) (hadm : d.Admits l o)
    (hfree : d₀.get? l = none) : Extended d₀ home base (d.set l o) :=
  ⟨h.grows.set hfree o, h.tree.set hadm, h.leads.carry hadm.carries⟩

/-- One directory on the way to `p`. Either it is the one to which `p` leads, or it is empty and `p` leads nowhere. In
both cases what `p` leads to is new, or it led there before. -/
theorem makeDirectory (hp : p.names = home.names ++ ns) (habs : p.isAbsolute = home.isAbsolute)
    (hns : ∀ n ∈ ns, Path.IsPlain n) (hr : Path.Along home ns r) (d d' : Disk)
    (h : Extended d₀ home base d ∧ d₀.LeadsToNew p d) (hmake : d.makeDirectory r mode = .ok d') :
    Extended d₀ home base d' ∧ d₀.LeadsToNew p d' := by
  obtain ⟨hext, hnew⟩ := h
  obtain ⟨parent, n, slash, hfree, rfl⟩ := makeDirectory_eq_ok hmake
  have hfree₀ : d₀.get? (parent ++ [n]) = none := hext.grows.get?_eq_none hfree.free
  have hadm := hfree.admits (.directory (newDirectoryMode (d.modeAt parent) mode))
  refine ⟨hext.set hadm hfree₀, fun l hl => ?_⟩
  by_cases hold : ∃ l', d.LeadsTo p l'
  · -- the path led somewhere before, and it still leads there
    obtain ⟨l', hold⟩ := hold
    rw [← (hold.carry hadm.carries).unique hl]
    exact hnew l' hold
  · right
    obtain ⟨hrp, hrwalk⟩ := walk_eq_ok_iff.mp hfree.walk
    have hrhome : r.isAbsolute = home.isAbsolute := hr.isAbsolute hrp.ne_nil
    have hrleads := hfree.leadsTo_set (newDirectoryMode (d.modeAt parent) mode)
    rcases hr.front_or_behind with hfront | ⟨ms, hms, ⟨more, rfl⟩, hrnames⟩
    · obtain ⟨o, hget, -⟩ := hext.leads.isPassage hfront hr.isAbsolute hfree.walk
      rw [hfree.free] at hget
      cases hget
    · rw [← List.append_assoc, ← hrnames] at hp
      cases more with
      | nil =>
          -- the directory that was made is the last one
          rw [List.append_nil] at hp
          obtain ⟨-, spot, _, hwalk, rfl, -⟩ := leadsTo_iff.mp hl
          obtain ⟨hpp, -⟩ := leadsTo_iff.mp hl
          rw [hrleads.location_eq hp (fun _ => habs.trans hrhome.symm) (walk_eq_ok_iff.mpr ⟨hpp, hwalk⟩)]
          exact hfree₀
      | cons m more =>
          -- another one is missing in it, and it holds nothing
          have hempty := hext.tree.get?_set_below hfree.free (o := .directory (newDirectoryMode (d.modeAt parent) mode))
          exact absurd hl (hrleads.not_leadsTo_behind hempty (hns m (by simp)) hp (habs.trans hrhome.symm))

end Extended

end Disk

namespace Action

open Effect Disk

/-! ## What is there after directories were made -/

/-- When directories were made for a path without a failure, the path leads to one: it was made, or it was there when
the attempt failed. -/
theorem isDirectory_of_makeDirectories {p : Path} {above : List Path} {mode : Nat} {d d' : Disk}
    (hp : p.bytes ≠ []) (h : runFrom (makeDirectories mode (p :: above)) d = (.ok (), d')) :
    d'.isDirectory p = true := by
  have hmade : ∀ d, Made mode p d d' → d'.isDirectory p = true := by
    rintro d (hok | ⟨-, hdir, rfl⟩)
    · exact isDirectory_of_makeDirectory hok
    · exact hdir
  rcases (runFrom_makeDirectories_eq_ok hp).mp h with ⟨-, hlast⟩ | ⟨-, d₁, -, hlast⟩
  · exact hmade d hlast
  · exact hmade d₁ hlast

/-- Behind directories that were made, the mode is set of a directory, and it is the one that the path of the last of
them leads to. -/
theorem setMode_of_makeDirectories {p : Path} {above : List Path} {mode mode' : Nat} {d d₁ d' : Disk}
    (h : runFrom (makeDirectories mode (p :: above)) d = (.ok (), d₁)) (hset : d₁.setMode p mode' = .ok d') :
    ∃ l old, d₁.status p = .ok (l, .directory old) ∧ d' = d₁.set l (.directory (mode' &&& 0o7777)) := by
  obtain ⟨l, ⟨old, hstatus, rfl⟩ | ⟨old, content, hstatus, rfl⟩⟩ := setMode_eq_ok hset
  · exact ⟨l, old, hstatus, rfl⟩
  · -- the path leads to a directory, not to a file
    obtain ⟨spot, hwalk, -, -⟩ := find_eq_ok hstatus
    obtain ⟨top, old', hdir⟩ := isDirectory_iff.mp (isDirectory_of_makeDirectories (walk_eq_ok_iff.mp hwalk).1.ne_nil h)
    rw [hstatus] at hdir
    cases hdir

/-- Whether it fails or not, making the directories for a path makes nothing else. -/
theorem onlyMakes_makeDirectoryTree (d : Disk) (p : Path) (mode : Nat) :
    OnlyMakes mode (p :: p.parents) d (runFrom (makeDirectoryTree p mode) d).2 :=
  keeps_makeDirectoryTree (fun _ hq _ _ hd hmake => hd.makeDirectory hq hmake) d (.refl _ _ d)

/-! ## Actions that only add -/

variable {d₀ : Disk} {p : Path} {mode : Nat} {faults : Faults}

/-- Making a directory is growth. The hypothesis has it that the disk grew before, which is the form that `Keeps` asks
for. -/
theorem grows_makeDirectory {d d' : Disk} (hd : d₀.Grows d) (h : d.makeDirectory p mode = .ok d') : d₀.Grows d' := by
  obtain ⟨parent, n, slash, hfree, rfl⟩ := makeDirectory_eq_ok h
  exact hd.set (hd.get?_eq_none hfree.free) _

theorem keeps_ensureParent_grows : Keeps d₀.Grows (ensureParent p) :=
  keeps_ensureParent fun _ _ _ _ _ _ hd h => grows_makeDirectory hd h

theorem keeps_createLink_grows {target : Path} : Keeps d₀.Grows (createLink p target) := by
  refine keeps_createLink fun d d' hd h => ?_
  obtain ⟨parent, n, hfree, rfl⟩ := addLink_eq_ok h
  exact hd.set (hd.get?_eq_none hfree.free) _

/-- A new file is written, and its mode is set, where its path leads: to the file that was just made. So nothing that
was there before is changed, wherever the device breaks off. -/
theorem keeps_writeNewFile_grows {content : List UInt8} : Keeps d₀.Grows (writeNewFile p content mode faults) := by
  refine keeps_ensureParent_grows.bind fun _ => Keeps.get_bind fun d hd => ?_
  split
  · next d' hadd =>
    obtain ⟨parent, n, hfree, rfl⟩ := addFile_eq_ok hadd
    -- the file is new on `d₀` too, so whatever is set there stands where nothing stood
    have hset : ∀ o, d₀.Grows (d.set (parent ++ [n]) o) := hd.set (hd.get?_eq_none hfree.free)
    rw [runFrom_bind, runFrom_set]
    refine Keeps.runFrom_bind (fun _ => .pure _) ?_
    rcases fillFile_cases hfree.opensAt (newFileMode mode) content mode faults with hfill | ⟨e, left, -, hfill⟩
    · rw [hfill]
      exact hset _
    · rw [hfill]
      exact hset _
  · exact hd
  · exact hd

section Missing

variable {home : Path} {base : Location} {ns : List (List UInt8)}

/-- The mode of a directory that was missing is set of a new directory. The path leads nowhere before, so where it leads
afterwards is a place that was made on the way. -/
theorem createDirectory_of_missing {d : Disk} (hp : p.names = home.names ++ ns) (habs : p.isAbsolute = home.isAbsolute)
    (hns : ∀ n ∈ ns, Path.IsPlain n) (hd : Extended d₀ home base d) (hmissing : d.isDirectory p = false) :
    Extended d₀ home base (runFrom (createDirectory p mode faults) d).2 := by
  have halong : Path.Along home ns p := ⟨hp ▸ List.prefix_rfl, fun _ => habs⟩
  have htree : Keeps (fun d' => Extended d home base d' ∧ d.LeadsToNew p d') (makeDirectoryTree p mode) :=
    keeps_makeDirectoryTree fun r hr => Extended.makeDirectory hp habs hns (halong.mem_self_parents hr)
  have hmade := htree d ⟨⟨.refl d, hd.tree, hd.leads⟩, fun l hl => .inl hl⟩
  have hnowhere : ∀ l, ¬ d.LeadsTo p l := by
    intro l hl
    rw [isDirectory_iff.mpr ⟨l, hl⟩] at hmissing
    cases hmissing
  rw [createDirectory, Effect.runFrom_bind, runFrom_during]
  rcases hrun : runFrom (makeDirectoryTree p mode) d with ⟨e | u, d'⟩
  · -- a directory could not be made, and no mode is set
    rw [hrun] at hmade
    exact hmade.1.after hd.grows
  · rw [hrun] at hmade
    obtain ⟨hext, hnew⟩ := hmade
    show Extended d₀ home base (runFrom (pinMode p mode faults) d').2
    rcases pinMode_cases d' p mode faults with ⟨d'', hset, hpin⟩ | ⟨e, hpin⟩
    · obtain ⟨l, oldMode, hstatus, rfl⟩ := setMode_of_makeDirectories hrun hset
      rw [hpin]
      refine (hext.set (.remode (get?_of_find hstatus)) ?_).after hd.grows
      exact (hnew l ⟨oldMode, hstatus⟩).resolve_left (hnowhere l)
    · rw [hpin]
      exact hext.after hd.grows

/-- A directory that is there is left alone with its mode, and one that is missing is made where nothing was: either way
nothing that was there before is changed. -/
theorem keeps_createDirectoryIfMissing_grows (hp : p.names = home.names ++ ns) (habs : p.isAbsolute = home.isAbsolute)
    (hns : ∀ n ∈ ns, Path.IsPlain n) : Keeps (Extended d₀ home base) (createDirectoryIfMissing p mode) := by
  refine Keeps.get_bind fun d hd => ?_
  split
  · exact hd
  · next hmissing =>
    exact Keeps.runFrom_bind (fun _ => .pure _)
      (createDirectory_of_missing hp habs hns hd (by simpa using hmissing))

end Missing

end Action

end Bootstrap
