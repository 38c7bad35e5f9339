import Bootstrap.Proofs.Disk.Presence
import Bootstrap.Proofs.Disk.Removal

/-!
# What is gone when a path is removed

A removal finds the object of a path, empties it if it is a directory, and then removes the directory by the same path. If
the path leads back through what was emptied, as `a/b/..` does, it leads nowhere by then and the directory itself stays.
`Disk.GoesWith` is what a removal takes away, said of the disk before it.

* `Disk.Grows.goesWith_iff` — the same goes with a path on a disk that has lost other things, as long as something stands
  at the path there.
* `Disk.Without` — a disk that has lost what goes with some paths, and nothing else.
* `Disk.Without.append` — some paths behind others.
* `Disk.loses_of_removeFile`, `Disk.loses_of_removeTree` — the two ways of removing lose what goes with the path.
-/

namespace Bootstrap.Disk

variable {d d' e m : Disk} {p : Path} {top l : Location} {o : Object} {last : LastLink} {spot : Spot}

/-! ## Disks that have lost something -/

/-- What is left when an object is erased has grown to what was there before. So everything that is known of growing
disks can be read backwards here. -/
theorem grows_erase (d : Disk) (l : Location) : (d.erase l).Grows d where
  workingDirectory := rfl
  get? l' o hget := by
    rw [get?_erase] at hget
    split at hget
    · cases hget
    · exact hget

/-- The same for all that lies below a location. -/
theorem grows_eraseBelow (d : Disk) (top : Location) : (d.eraseBelow top).Grows d where
  workingDirectory := rfl
  get? l o hget := by
    rw [get?_eraseBelow] at hget
    split at hget
    · cases hget
    · exact hget

/-- A disk that had more has more when the same is taken from both. -/
theorem Grows.eraseBelow (h : d.Grows d') (top : Location) : (d.eraseBelow top).Grows (d'.eraseBelow top) where
  workingDirectory := h.workingDirectory
  get? l o hget := by
    rw [get?_eraseBelow] at hget ⊢
    split
    · next hbelow => rw [if_pos hbelow] at hget; cases hget
    · next hbelow => rw [if_neg hbelow] at hget; exact h.get? l o hget

/-- What stands at a path on the smaller of two disks stands there on the larger one. -/
theorem Grows.linkStatus_eq (h : e.Grows d) (hocc : e.occupied p = true) : e.linkStatus p = d.linkStatus p := by
  obtain ⟨top, o, hstatus⟩ := occupied_iff.mp hocc
  rw [hstatus]
  exact (h.find hstatus).symm

/-! ## Walks on two disks -/

/-- Two disks say the same where both have something, and a third one has just that. -/
structure Meets (e d' m : Disk) : Prop where
  grows : m.Grows e
  agree : ∀ l o o', e.get? l = some o → d'.get? l = some o' → o = o'
  common : ∀ l o, e.get? l = some o → d'.get? l = some o → m.get? l = some o

/-- A walk that goes through on two disks goes the same way on what they have in common. Both walks see the same objects
wherever they step, since an object that is on both disks is the same on both. -/
theorem WalksTo.meet {links : Nat} {current : Location} {names : List (List UInt8)} {slash : Bool} {spot' : Spot}
    (h : WalksTo e last links current names slash spot) (h' : WalksTo d' last links current names slash spot')
    (hm : Meets e d' m) (hthere : (e.get? spot.location).isSome = true)
    (hthere' : (d'.get? spot'.location).isSome = true) :
    spot' = spot ∧ WalksTo m last links current names slash spot := by
  have hagree := hm.agree
  have hmget : ∀ l o, m.get? l = some o → e.get? l = some o := hm.grows.get?
  -- induction on the first walk; what it finds on its way decides which step the second one takes
  induction h with
  | nil => cases h'; exact ⟨rfl, .nil ..⟩
  | dot =>
      cases h' with
      | dot => exact ⟨rfl, .dot ..⟩
      | name _ _ _ hn => exact absurd rfl hn.ne_dot
      | passDot hrest => exact absurd rfl hrest
      | pass hn => exact absurd rfl hn.ne_dot
      | follow hn => exact absurd rfl hn.ne_dot
  | dotDot =>
      cases h' with
      | dotDot => exact ⟨rfl, .dotDot ..⟩
      | name _ _ _ hn => exact absurd rfl hn.ne_dotDot
      | passDotDot hrest => exact absurd rfl hrest
      | pass hn => exact absurd rfl hn.ne_dotDot
      | follow hn => exact absurd rfl hn.ne_dotDot
  | name links current slash hn hlink =>
      cases h' with
      | dot => exact absurd rfl hn.ne_dot
      | dotDot => exact absurd rfl hn.ne_dotDot
      | name => exact ⟨rfl, .name _ _ _ hn fun target ht => hlink target (hmget _ _ ht)⟩
      | passDot hrest => exact absurd rfl hrest
      | passDotDot hrest => exact absurd rfl hrest
      | pass _ hrest => exact absurd rfl hrest
      | follow _ hget hfollows =>
          obtain ⟨o, ho⟩ := Option.isSome_iff_exists.mp hthere
          obtain rfl := hagree _ _ _ ho hget
          rw [hlink _ ho] at hfollows
          cases hfollows rfl
  | passDot hrest _ ih =>
      cases h' with
      | dot => exact absurd rfl hrest
      | name _ _ _ hn => exact absurd rfl hn.ne_dot
      | passDot _ h' =>
          obtain ⟨hspot, hwalk⟩ := ih h' hthere
          exact ⟨hspot, .passDot hrest hwalk⟩
      | pass hn => exact absurd rfl hn.ne_dot
      | follow hn => exact absurd rfl hn.ne_dot
  | passDotDot hrest _ ih =>
      cases h' with
      | dotDot => exact absurd rfl hrest
      | name _ _ _ hn => exact absurd rfl hn.ne_dotDot
      | passDotDot _ h' =>
          obtain ⟨hspot, hwalk⟩ := ih h' hthere
          exact ⟨hspot, .passDotDot hrest hwalk⟩
      | pass hn => exact absurd rfl hn.ne_dotDot
      | follow hn => exact absurd rfl hn.ne_dotDot
  | pass hn hrest hdir _ ih =>
      cases h' with
      | dot => exact absurd rfl hrest
      | dotDot => exact absurd rfl hrest
      | name => exact absurd rfl hrest
      | passDot => exact absurd rfl hn.ne_dot
      | passDotDot => exact absurd rfl hn.ne_dotDot
      | pass _ _ hdir' h' =>
          obtain ⟨hspot, hwalk⟩ := ih h' hthere
          have hsame := hagree _ _ _ hdir hdir'
          exact ⟨hspot, .pass hn hrest (hm.common _ _ hdir (hsame ▸ hdir')) hwalk⟩
      | follow _ hget => cases hagree _ _ _ hdir hget
  | follow hn hlink hrest _ ih =>
      cases h' with
      | dot => exact absurd rfl hn.ne_dot
      | dotDot => exact absurd rfl hn.ne_dotDot
      | name _ _ _ _ hlink' =>
          obtain ⟨o, ho⟩ := Option.isSome_iff_exists.mp hthere'
          obtain rfl := hagree _ _ _ hlink ho
          rw [hlink' _ ho] at hrest
          cases hrest rfl
      | passDot => exact absurd rfl hn.ne_dot
      | passDotDot => exact absurd rfl hn.ne_dotDot
      | pass _ _ hdir => cases hagree _ _ _ hlink hdir
      | follow _ hget _ h' =>
          obtain rfl := Object.link.inj (hagree _ _ _ hlink hget)
          obtain ⟨hspot, hwalk⟩ := ih h' hthere
          exact ⟨hspot, .follow hn (hm.common _ _ hlink hget) hrest hwalk⟩

/-- What stands at a path on two disks stands there on what they have in common. This is how a path is followed where
two removals come together. -/
theorem Meets.occupied (hm : Meets e d' m) (hwd : d'.workingDirectory = e.workingDirectory) (h : e.occupied p = true)
    (h' : d'.occupied p = true) : m.occupied p = true := by
  obtain ⟨l, o, hfind⟩ := occupied_iff.mp h
  obtain ⟨l', o', hfind'⟩ := occupied_iff.mp h'
  obtain ⟨spot, hwalk, rfl, hget, hkind⟩ := find_eq_ok_iff.mp hfind
  obtain ⟨spot', hwalk', rfl, hget', -⟩ := find_eq_ok_iff.mp hfind'
  obtain ⟨hp, hwalk⟩ := walk_eq_ok_iff.mp hwalk
  obtain ⟨-, hwalk'⟩ := walk_eq_ok_iff.mp hwalk'
  rw [hwd] at hwalk'
  obtain ⟨rfl, hmeet⟩ := hwalk.meet hwalk' hm (by rw [hget]; rfl) (by rw [hget']; rfl)
  obtain rfl := hm.agree _ _ _ hget hget'
  have hmwalk : m.walk .beforeSlash p = .ok spot' :=
    walk_eq_ok_iff.mpr ⟨hp, by rw [← hm.grows.workingDirectory]; exact hmeet⟩
  exact isOk_find (find_eq_ok_iff.mpr ⟨spot', hmwalk, rfl, hm.common _ _ hget hget', hkind⟩)

/-! ## What goes with a path -/

/-- What a removal of the path takes away: the object at the path and all that lies below it. A directory whose path leads
back through what lies below it is emptied only. -/
def GoesWith (d : Disk) (p : Path) (l : Location) : Prop :=
  ∃ top o, d.linkStatus p = .ok (top, o) ∧ top <+: l ∧
    (l = top → o.isDirectory = true → (d.eraseBelow top).occupied p = true)

/-- Once it is known what stands at the path, what goes with it is told by locations. For an object that is no directory
the second part says nothing. -/
theorem goesWith_iff (h : d.linkStatus p = .ok (top, o)) : d.GoesWith p l ↔
    top <+: l ∧ (l = top → o.isDirectory = true → (d.eraseBelow top).occupied p = true) := by
  constructor
  · rintro ⟨top', o', h', hgoes⟩
    rw [h] at h'
    cases h'
    exact hgoes
  · exact fun hgoes => ⟨top, o, h, hgoes⟩

/-- The same goes with a path on a disk that has lost other things, as long as something stands at the path there. So
what an entry removes can be said of the disk before all of them. -/
theorem Grows.goesWith_iff (h : e.Grows d) (hocc : e.occupied p = true) : e.GoesWith p l ↔ d.GoesWith p l := by
  obtain ⟨top, o, hstatus⟩ := occupied_iff.mp hocc
  -- the path leads back through what is below it on the one disk if and only if it does on the other
  have hback : (e.eraseBelow top).occupied p = true ↔ (d.eraseBelow top).occupied p = true := by
    refine ⟨(h.eraseBelow top).occupied, fun hd => ?_⟩
    have hm : Meets e (d.eraseBelow top) (e.eraseBelow top) := by
      refine ⟨grows_eraseBelow e top, fun l o o' ho ho' => ?_, fun l o ho ho' => ?_⟩
      · have heq : some o = some o' := (h.get? l o ho).symm.trans ((grows_eraseBelow d top).get? l o' ho')
        exact Option.some.inj heq
      · rw [get?_eraseBelow] at ho' ⊢
        split at ho'
        · cases ho'
        · next hbelow => rw [if_neg hbelow]; exact ho
    exact hm.occupied h.workingDirectory hocc hd
  rw [Disk.goesWith_iff hstatus, Disk.goesWith_iff (h.find hstatus), hback]

/-- A disk that has lost what goes with some paths, and nothing else. -/
structure Without (d : Disk) (ps : List Path) (d' : Disk) : Prop where
  workingDirectory : d'.workingDirectory = d.workingDirectory
  gone : ∀ p ∈ ps, ∀ l, d.GoesWith p l → d'.get? l = none
  kept : ∀ l, (∀ p ∈ ps, ¬ d.GoesWith p l) → d'.get? l = d.get? l

namespace Without

variable {ps qs : List Path}

theorem refl (d : Disk) : d.Without [] d := ⟨rfl, by simp, fun _ _ => rfl⟩

/-- What is left was there before: the disk in front of the removals grew out of the one behind them. -/
theorem grows (h : d.Without ps d') : d'.Grows d where
  workingDirectory := h.workingDirectory.symm
  get? l o hget := by
    have hkept : ∀ p ∈ ps, ¬ d.GoesWith p l := by
      intro p hp hgoes
      rw [h.gone p hp l hgoes] at hget
      cases hget
    rw [← h.kept l hkept]
    exact hget

/-- Paths behind others. What goes with each of them at its turn is what went with it at first, because something still
stands at it when it is removed. -/
theorem append (h : d.Without ps e) (h' : e.Without qs d') (hocc : ∀ q ∈ qs, e.occupied q = true) :
    d.Without (ps ++ qs) d' where
  workingDirectory := h'.workingDirectory.trans h.workingDirectory
  gone q hq l hgoes := by
    rcases List.mem_append.mp hq with hq | hq
    · -- gone already
      exact h'.grows.get?_eq_none (h.gone q hq l hgoes)
    · exact h'.gone q hq l ((h.grows.goesWith_iff (hocc q hq)).mpr hgoes)
  kept l hl := by
    have hl' : ∀ q ∈ qs, ¬ e.GoesWith q l := fun q hq hgoes =>
      hl q (List.mem_append_right _ hq) ((h.grows.goesWith_iff (hocc q hq)).mp hgoes)
    rw [h'.kept l hl', h.kept l fun q hq => hl q (List.mem_append_left _ hq)]

/-- Whatever goes with a path, what lies below it goes too; so a tree stays a tree as long as its root stays. -/
theorem isTree (h : d.Without ps d') (ht : d.IsTree) (hroot : d'.isDirectoryAt [] = true) : d'.IsTree where
  root := hroot
  parent l n o hget := by
    -- a directory above what is left is left: with it, all below would be gone
    have hl : ∀ p ∈ ps, ¬ d.GoesWith p l := by
      rintro p hp ⟨top, o', hstatus, hpre, -⟩
      have hgoes : d.GoesWith p (l ++ [n]) := by
        refine ⟨top, o', hstatus, hpre.trans (List.prefix_append _ _), fun heq => ?_⟩
        have hlen := hpre.length_le
        have : top.length = l.length + 1 := by rw [← heq]; simp
        omega
      rw [h.gone p hp _ hgoes] at hget
      cases hget
    have hdir := ht.parent l n o (h.grows.get? _ _ hget)
    rw [isDirectoryAt, h.kept l hl]
    exact hdir

end Without

/-! ## Removing by a path -/

/-- Where the name at the end of a walk came with no slash, none is behind the path. A slash that came with the target
of a link is remembered as well as one of the path. -/
theorem WalksTo.slash_eq {links : Nat} {current parent : Location} {names : List (List UInt8)} {slash s : Bool}
    {n : List UInt8} (h : WalksTo d .never links current names slash (.name parent n s)) : s = slash := by
  generalize hspot : Spot.name parent n s = spot at h
  induction h with
  | nil => cases hspot
  | dot => cases hspot
  | dotDot => cases hspot
  | name => cases hspot; rfl
  | passDot _ _ ih => exact ih hspot
  | passDotDot _ _ ih => exact ih hspot
  | pass _ _ _ _ ih => exact ih hspot
  | follow _ _ hrest _ ih =>
      -- the link was not the last name
      have hne : _ ≠ [] := fun hnil => absurd (hrest hnil) (by simp [LastLink.follows])
      rw [ih hspot, if_neg (by simpa using hne)]

/-- What a walk ends at that follows no last link is what stands at the path, unless it is a link with a slash behind it. -/
theorem linkStatus_of_never {parent : Location} {n : List UInt8} (hwalk : d.walk .never p = .ok (.name parent n false))
    (hget : d.get? (parent ++ [n]) = some o) : d.linkStatus p = .ok (parent ++ [n], o) := by
  obtain ⟨hp, hwalk⟩ := walk_eq_ok_iff.mp hwalk
  have hbefore : WalksTo d .beforeSlash _ _ _ _ _ := hwalk.of_noSlash hwalk.slash_eq.symm rfl rfl
  exact find_eq_ok_iff.mpr ⟨_, walk_eq_ok_iff.mpr ⟨hp, hbefore⟩, rfl, hget, .inr (by simp)⟩

/-- A file or a link that is removed stood at the end of the walk, the last link not followed, and it alone is gone. A
directory is refused here. -/
theorem removeFile_eq_ok (h : d.removeFile p = .ok d') : ∃ parent n o, d.walk .never p = .ok (.name parent n false) ∧
    d.get? (parent ++ [n]) = some o ∧ o.isDirectory = false ∧ d' = d.erase (parent ++ [n]) := by
  unfold removeFile at h
  obtain ⟨spot, hwalk, h⟩ := exists_of_bind_eq_ok h
  cases spot with
  | directory l here => cases h
  | name parent n slash =>
      dsimp only at h
      -- nothing has the name, or a directory has it, or something that can be removed
      split at h
      · cases h
      · cases h
      · next o hnot hget =>
        split at h
        · cases h
        · next hslash =>
          simp only [Bool.not_eq_true] at hslash
          subst hslash
          cases h
          refine ⟨parent, n, o, hwalk, hget, ?_, rfl⟩
          cases o with
          | directory mode => exact absurd rfl (hnot mode)
          | file mode content => rfl
          | link target => rfl

/-- A directory that is removed stood at the end of the walk. That it was empty is checked by the operation, and is not
needed behind it. -/
theorem removeEmptyDirectory_eq_ok (h : d.removeEmptyDirectory p = .ok d') : ∃ parent n slash mode,
    d.walk .never p = .ok (.name parent n slash) ∧ d.get? (parent ++ [n]) = some (.directory mode) ∧
      d' = d.erase (parent ++ [n]) := by
  unfold removeEmptyDirectory at h
  obtain ⟨spot, hwalk, h⟩ := exists_of_bind_eq_ok h
  split at h
  · cases h
  · cases h
  · cases h
  · next parent n slash =>
    split at h
    · cases h
    · next mode hget =>
      split at h
      · cases h
      · cases h
        exact ⟨parent, n, slash, mode, hwalk, hget, rfl⟩
    · cases h

/-- A directory is not found when it is to be removed only if nothing stands at its path. All other ways to fail have
errors of their own. -/
theorem occupied_of_removeEmptyDirectory (h : d.removeEmptyDirectory p = .error (.system .notFound)) :
    d.occupied p = false := by
  by_contra hocc
  obtain ⟨top, o, hstatus⟩ := occupied_iff.mp (by simpa using hocc)
  obtain ⟨spot, hwalk, rfl, hget⟩ := find_eq_ok hstatus
  obtain ⟨hp, hwalk⟩ := walk_eq_ok_iff.mp hwalk
  obtain ⟨spot', hnever, hthere⟩ := hwalk.exists_never (by rw [hget]; rfl) p.endsInSlash
  obtain ⟨o', hget'⟩ := Option.isSome_iff_exists.mp hthere
  rw [removeEmptyDirectory, walk_eq_ok_iff.mpr ⟨hp, hnever⟩] at h
  simp only [bind, Except.bind] at h
  -- something is found, so the directory is refused for another reason, if at all
  split at h
  · cases h
  · cases h
  · cases h
  · rw [Spot.location] at hget'
    rw [hget'] at h
    cases o' with
    | directory mode => dsimp only at h; split at h <;> cases h
    | file mode content => cases h
    | link target => cases h

/-- What stands at a path was removed: what goes with the path is gone, and nothing stands there any more. -/
structure Loses (d : Disk) (p : Path) (d' : Disk) : Prop where
  occupied : d.occupied p = true
  without : d.Without [p] d'
  free : d'.occupied p = false
  root : d'.isDirectoryAt [] = true

/-- For a single path it is enough to say what becomes of the objects that go with it, and of the others. -/
theorem without_singleton (hwd : d'.workingDirectory = d.workingDirectory) (hgone : ∀ l, d.GoesWith p l → d'.get? l = none)
    (hkept : ∀ l, ¬ d.GoesWith p l → d'.get? l = d.get? l) : d.Without [p] d' where
  workingDirectory := hwd
  gone q hq := by
    rw [List.mem_singleton.mp hq]
    exact hgone
  kept l hl := hkept l (hl p (by simp))

/-- Nothing stands at a path on a smaller disk if its place is empty there. A path finds nothing new when things are
taken away. -/
theorem Grows.occupied_eq_false (h : d'.Grows d) (hstatus : d.linkStatus p = .ok (top, o)) (hfree : d'.get? top = none) :
    d'.occupied p = false := by
  by_contra hocc
  obtain ⟨top', o', hstatus'⟩ := occupied_iff.mp (by simpa using hocc)
  have hsame := h.find hstatus'
  rw [show d.find .beforeSlash p = .ok (top, o) from hstatus] at hsame
  cases hsame
  rw [get?_of_find hstatus'] at hfree
  cases hfree

/-- Removing a file or a link takes away what goes with its path: itself, for nothing lies below it. -/
theorem loses_of_removeFile (ht : d.IsTree) (h : d.removeFile p = .ok d') : d.Loses p d' := by
  obtain ⟨parent, n, o, hwalk, hget, ho, rfl⟩ := removeFile_eq_ok h
  have hstatus := linkStatus_of_never hwalk hget
  refine ⟨occupied_iff.mpr ⟨_, _, hstatus⟩, without_singleton rfl (fun l hgoes => ?_) (fun l hgoes => ?_), ?_, ?_⟩
  · rw [get?_erase]
    split
    · rfl
    · next hne =>
      -- nothing lies below what is no directory
      obtain ⟨hpre, -⟩ := (goesWith_iff hstatus).mp hgoes
      have hno : d.isDirectoryAt (parent ++ [n]) = false := by rw [isDirectoryAt, hget]; exact ho
      exact ht.get?_eq_none_of_not_isDirectoryAt hno (isBelow_iff.mpr ⟨hpre, fun heq => hne heq.symm⟩)
  · rw [get?_erase, if_neg]
    rintro rfl
    refine hgoes ((goesWith_iff hstatus).mpr ⟨List.prefix_rfl, fun _ hdir => ?_⟩)
    rw [ho] at hdir
    cases hdir
  · exact (grows_erase d _).occupied_eq_false hstatus (by rw [get?_erase, if_pos rfl])
  · rw [isDirectoryAt, get?_erase, if_neg (by simp)]
    exact ht.root

/-- A directory that is emptied and then removed takes away what goes with its path. On the emptied disk the path still leads
to the directory, so it does not lead back through what was below it, and the directory itself goes with it. -/
theorem loses_of_removed {mode : Nat} (ht : d.IsTree) (hstatus : d.linkStatus p = .ok (top, .directory mode))
    (hremove : (d.eraseBelow top).removeEmptyDirectory p = .ok d') : d.Loses p d' := by
  obtain ⟨parent, n, slash, mode', hwalk, hget, rfl⟩ := removeEmptyDirectory_eq_ok hremove
  have hgrows := grows_eraseBelow d top
  have hfound : (d.eraseBelow top).linkStatus p = .ok (parent ++ [n], .directory mode') := by
    obtain ⟨hp, hwalk⟩ := walk_eq_ok_iff.mp hwalk
    have hbefore := hwalk.of_never (fun target hlink => by rw [Spot.location, hget] at hlink; cases hlink) .beforeSlash
    exact find_of_directory (walk_eq_ok_iff.mpr ⟨hp, hbefore⟩) hget
  have hback := isOk_find hfound
  -- what is removed is the directory that was emptied
  obtain rfl : parent ++ [n] = top := by
    have hsame := hgrows.linkStatus_eq hback
    rw [hfound, hstatus] at hsame
    cases hsame
    rfl
  refine ⟨occupied_iff.mpr ⟨_, _, hstatus⟩, without_singleton rfl (fun l hgoes => ?_) (fun l hgoes => ?_), ?_, ?_⟩
  · obtain ⟨hpre, -⟩ := (goesWith_iff hstatus).mp hgoes
    rw [get?_eraseBelow_erase, if_pos hpre]
  · rw [get?_eraseBelow_erase, if_neg]
    exact fun hpre => hgoes ((goesWith_iff hstatus).mpr ⟨hpre, fun _ _ => hback⟩)
  · exact ((grows_erase _ _).trans hgrows).occupied_eq_false hstatus (by rw [get?_erase, if_pos rfl])
  · rw [isDirectoryAt, get?_erase, if_neg (by simp), get?_eraseBelow, if_neg (by simp [isBelow])]
    exact ht.root

/-- A directory that is emptied and then not found by its path any more stays, and it is what is below it that goes with the
path: the path leads back through it. -/
theorem loses_of_emptied {mode : Nat} (ht : d.IsTree) (hstatus : d.linkStatus p = .ok (top, .directory mode))
    (hback : (d.eraseBelow top).occupied p = false) : d.Loses p (d.eraseBelow top) := by
  refine ⟨occupied_iff.mpr ⟨_, _, hstatus⟩, without_singleton rfl (fun l hgoes => ?_) (fun l hgoes => ?_), hback, ?_⟩
  · obtain ⟨hpre, hgoes⟩ := (goesWith_iff hstatus).mp hgoes
    -- the directory itself would go only if it were still found
    have hne : l ≠ top := by
      rintro rfl
      rw [hgoes rfl rfl] at hback
      cases hback
    rw [get?_eraseBelow, if_pos (isBelow_iff.mpr ⟨hpre, hne.symm⟩)]
  · rw [get?_eraseBelow, if_neg]
    intro hbelow
    obtain ⟨hpre, hne⟩ := isBelow_iff.mp hbelow
    exact hgoes ((goesWith_iff hstatus).mpr ⟨hpre, fun heq => absurd heq.symm hne⟩)
  · rw [isDirectoryAt, get?_eraseBelow, if_neg (by simp [isBelow])]
    exact ht.root

/-- A directory that was found and emptied is removed, or its path leads nowhere by then and it stays, empty. In both cases
what goes with the path is gone and nothing else. -/
theorem loses_of_removeTree {mode : Nat} (ht : d.IsTree) (hstatus : d.linkStatus p = .ok (top, .directory mode))
    (h : d.removeTree p = (.ok (), d')) : d.Loses p d' := by
  rw [removeTree, hstatus] at h
  dsimp only at h
  split at h
  · next d₁ hremove =>
    cases h
    exact loses_of_removed ht hstatus hremove
  · next hremove =>
    cases h
    exact loses_of_emptied ht hstatus (occupied_of_removeEmptyDirectory hremove)
  · cases h

end Bootstrap.Disk
