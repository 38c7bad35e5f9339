import Bootstrap.Proofs.Disk.Files

/-!
# Writing below a destination

A destination is a path that leads to a directory. Whoever writes only at descending paths below it changes nothing
outside that directory, *whatever links stand in it*, as long as these descend too. `Disk.Confined` is the invariant:

* everything outside the directory is as it was,
* the links below it descend, also those that were made on the way,
* the destination still leads to it.

The paths that the file actions use are those along the written path, `Path.Along`. On the part of it that spells the
destination nothing can be made, since only directories and links stand there; behind it a walk cannot leave the
directory.
-/

namespace Bootstrap

/-- The names of `q` are the first few of those of `dest` and then `ns`. -/
structure Path.Along (dest : Path) (ns : List (List UInt8)) (q : Path) : Prop where
  names : q.names <+: dest.names ++ ns
  isAbsolute : q.bytes ≠ [] → q.isAbsolute = dest.isAbsolute

namespace Path.Along

variable {dest rel q r : Path} {ns : List (List UInt8)}

/-- What is joined to a destination goes along it, with the names of what was joined. -/
theorem join (hrel : rel.isAbsolute = false) : Along dest rel.names (dest.join rel) where
  names := names_join hrel ▸ List.prefix_rfl
  isAbsolute _ := isAbsolute_join hrel

theorem trans (hq : Along dest ns q) (hnames : r.names <+: q.names)
    (habs : r.bytes ≠ [] → q.bytes ≠ [] ∧ r.isAbsolute = q.isAbsolute) : Along dest ns r where
  names := hnames.trans hq.names
  isAbsolute hne := (habs hne).2.trans (hq.isAbsolute (habs hne).1)

/-- Every path above one that goes along the destination goes along it as well. -/
theorem mem_parents (hq : Along dest ns q) (hr : r ∈ q.parents) : Along dest ns r := by
  refine hq.trans (names_prefix_of_mem_parents hr) fun hne => ⟨fun hnil => hne ?_, isAbsolute_of_mem_parents hr hne⟩
  have hbytes := (cut_of_mem_parents hr).1
  rw [hnil] at hbytes
  exact List.prefix_nil.mp hbytes

/-- This is the list of directories that `makeDirectoryTree` may make, so all of them go along the destination. -/
theorem mem_self_parents (hq : Along dest ns q) (hr : r ∈ q :: q.parents) : Along dest ns r := by
  rcases List.mem_cons.mp hr with rfl | hr
  · exact hq
  · exact hq.mem_parents hr

theorem parent? (hq : Along dest ns q) (hr : q.parent? = some r) : Along dest ns r :=
  hq.mem_parents (List.mem_of_mem_head? hr)

/-- Either the path spells a part of the destination, or it goes on behind it. Most proofs about paths along a
destination begin with these two cases. -/
theorem front_or_behind (hq : Along dest ns q) :
    q.names <+: dest.names ∨ ∃ ms, ms ≠ [] ∧ ms <+: ns ∧ q.names = dest.names ++ ms := by
  rcases List.prefix_or_prefix_of_prefix hq.names (List.prefix_append _ _) with h | ⟨ms, hms⟩
  · exact .inl h
  · by_cases hempty : ms = []
    · rw [hempty, List.append_nil] at hms
      exact .inl (hms ▸ List.prefix_rfl)
    · refine .inr ⟨ms, hempty, ?_, hms.symm⟩
      have := hq.names
      rw [← hms] at this
      exact (List.prefix_append_right_inj _).mp this

end Path.Along

namespace Disk

/-! ## Walks along a path below a destination -/

section Walking

variable {d : Disk} {dest q : Path} {top : Location} {last : LastLink} {spot : Spot} {dots : List (List UInt8)}

/-- Dots lead nowhere else: a walk along them stays in the directory where it starts. -/
theorem WalksTo.location_of_dots {links : Nat} {current : Location} {slash : Bool}
    (h : WalksTo d last links current dots slash spot) (hdots : ∀ m ∈ dots, m = Path.dot) : spot.location = current := by
  induction h with
  | nil => rfl
  | dot => rfl
  | dotDot => exact absurd (hdots Path.dotDot (by simp)) (by decide)
  | name _ _ _ hn _ => exact absurd (hdots _ (by simp)) hn.ne_dot
  | passDot _ _ ih => exact ih fun m hm => hdots m (List.mem_cons_of_mem _ hm)
  | passDotDot => exact absurd (hdots Path.dotDot (by simp)) (by decide)
  | pass hn => exact absurd (hdots _ (by simp)) hn.ne_dot
  | follow hn => exact absurd (hdots _ (by simp)) hn.ne_dot

/-- Where a link in the last place is always followed, dots behind a path can be left out, and a slash as well. Both
only ask for a directory where the walk ends, and that is not asked of the shorter path. -/
theorem WalksTo.of_append_dots {links : Nat} {current : Location} {names : List (List UInt8)} {slash : Bool}
    (h : WalksTo d .always links current (names ++ dots) slash spot) (hdots : ∀ m ∈ dots, m = Path.dot) (slash' : Bool) :
    ∃ spot', WalksTo d .always links current names slash' spot' ∧ spot'.location = spot.location := by
  -- induction on the whole walk; where only the dots are left, the walk is where it ends
  generalize hnames : names ++ dots = all at h
  induction h generalizing names slash' with
  | nil links current slash =>
      rw [(List.append_eq_nil_iff.mp hnames).1]
      exact ⟨_, .nil .., rfl⟩
  | dot links current slash =>
      rcases List.append_eq_singleton_iff.mp hnames with ⟨rfl, -⟩ | ⟨rfl, -⟩
      · exact ⟨_, .nil .., rfl⟩
      · exact ⟨_, .dot .., rfl⟩
  | dotDot links current slash =>
      rcases List.append_eq_singleton_iff.mp hnames with ⟨-, hdot⟩ | ⟨rfl, -⟩
      · exact absurd (hdots Path.dotDot (by simp [hdot])) (by decide)
      · exact ⟨_, .dotDot .., rfl⟩
  | @name links current slash n hn hlink =>
      rcases List.append_eq_singleton_iff.mp hnames with ⟨-, hdot⟩ | ⟨rfl, -⟩
      · exact absurd (hdots n (by simp [hdot])) hn.ne_dot
      · exact ⟨_, .name _ _ _ hn hlink, rfl⟩
  | @passDot links current rest slash spot hrest hwalk ih =>
      rcases List.append_eq_cons_iff.mp hnames with ⟨rfl, hdot⟩ | ⟨more, rfl, rfl⟩
      · have hloc := hwalk.location_of_dots fun m hm => hdots m (by simp [hdot, hm])
        exact ⟨_, .nil .., hloc.symm⟩
      · obtain ⟨spot', hwalk', hloc⟩ := ih slash' rfl
        by_cases hmore : more = []
        · subst hmore
          cases hwalk'
          exact ⟨_, .dot .., hloc⟩
        · exact ⟨spot', .passDot hmore hwalk', hloc⟩
  | @passDotDot links current rest slash spot hrest hwalk ih =>
      rcases List.append_eq_cons_iff.mp hnames with ⟨-, hdot⟩ | ⟨more, rfl, rfl⟩
      · exact absurd (hdots Path.dotDot (by simp [hdot])) (by decide)
      · obtain ⟨spot', hwalk', hloc⟩ := ih slash' rfl
        by_cases hmore : more = []
        · subst hmore
          cases hwalk'
          exact ⟨_, .dotDot .., hloc⟩
        · exact ⟨spot', .passDotDot hmore hwalk', hloc⟩
  | @pass links current rest slash spot n mode hn hrest hdir hwalk ih =>
      rcases List.append_eq_cons_iff.mp hnames with ⟨-, hdot⟩ | ⟨more, rfl, rfl⟩
      · exact absurd (hdots n (by simp [hdot])) hn.ne_dot
      · obtain ⟨spot', hwalk', hloc⟩ := ih slash' rfl
        by_cases hmore : more = []
        · subst hmore
          cases hwalk'
          refine ⟨_, .name _ _ _ hn fun target hget => ?_, hloc⟩
          rw [hdir] at hget
          cases hget
        · exact ⟨spot', .pass hn hmore hdir hwalk', hloc⟩
  | @follow links current rest slash spot n target hn hlink hrest hwalk ih =>
      rcases List.append_eq_cons_iff.mp hnames with ⟨-, hdot⟩ | ⟨more, rfl, rfl⟩
      · exact absurd (hdots n (by simp [hdot])) hn.ne_dot
      · obtain ⟨spot', hwalk', hloc⟩ := ih (if more.isEmpty then slash' || target.endsInSlash else slash')
          (List.append_assoc ..)
        exact ⟨spot', .follow hn hlink (fun _ => rfl) hwalk', hloc⟩

/-- Where a walk starts depends on nothing but whether the path is absolute. -/
theorem startFrom_congr {current : Location} {p p' : Path} (h : p.isAbsolute = p'.isAbsolute) :
    startFrom current p = startFrom current p' := by
  rw [startFrom, startFrom, h]

/-- On the part of a path that spells the destination a walk meets only directories and links. So nothing can be made
there, and no file can be put there. -/
theorem LeadsTo.isPassage (hdest : d.LeadsTo dest top) (hnames : q.names <+: dest.names)
    (habs : q.bytes ≠ [] → q.isAbsolute = dest.isAbsolute) (hwalk : d.walk last q = .ok spot) :
    d.IsPassage spot := by
  obtain ⟨-, spot', mode, hdest, hloc, hget⟩ := leadsTo_iff.mp hdest
  obtain ⟨hq, hwalk⟩ := walk_eq_ok_iff.mp hwalk
  rw [startFrom_congr (habs hq.ne_nil)] at hwalk
  rw [← hloc] at hget
  obtain ⟨spot'', hspot, hpassage⟩ := exists_walkNames_prefix hdest hget hnames last q.endsInSlash
  rw [hwalk.walkNames] at hspot
  cases hspot
  exact hpassage

/-- Behind the destination a walk goes on in its directory, with the names that are left and perhaps fewer links. -/
theorem LeadsTo.walksTo_behind (hdest : d.LeadsTo dest top) {ms : List (List UInt8)}
    (hnames : q.names = dest.names ++ ms) (hms : ms ≠ []) (habs : q.bytes ≠ [] → q.isAbsolute = dest.isAbsolute)
    (hwalk : d.walk last q = .ok spot) : ∃ left, WalksTo d last left top ms q.endsInSlash spot := by
  obtain ⟨-, spot', mode, hdest, hloc, hget⟩ := leadsTo_iff.mp hdest
  obtain ⟨hq, hwalk⟩ := walk_eq_ok_iff.mp hwalk
  rw [startFrom_congr (habs hq.ne_nil), hnames] at hwalk
  rw [← hloc] at hget
  -- the walk comes to `top` first, and takes the names `ms` from there
  obtain ⟨left, hleft⟩ := walkNames_append hdest hget
  have hrest := hwalk.walkNames
  rw [hleft last ms _ hms, hloc] at hrest
  exact ⟨left, walksTo_of_walkNames hrest⟩

/-- Behind the destination a walk cannot leave its directory. -/
theorem LeadsTo.within (hdest : d.LeadsTo dest top) (hlinks : d.LinksDescend top) {ms : List (List UInt8)}
    (hnames : q.names = dest.names ++ ms) (hms : ms ≠ []) (hno : Path.dotDot ∉ ms)
    (habs : q.bytes ≠ [] → q.isAbsolute = dest.isAbsolute) (hwalk : d.walk last q = .ok spot) :
    spot.Within top := by
  obtain ⟨left, hrest⟩ := hdest.walksTo_behind hnames hms habs hwalk
  exact hrest.within hlinks List.prefix_rfl hno

/-- A path leads where the destination leads, if it has the same names, dots at the end apart. -/
theorem LeadsTo.of_dots (h : d.LeadsTo dest top) (hnames : dest.names = q.names ++ dots) (hdots : ∀ m ∈ dots, m = Path.dot)
    (hq : q.IsUsable) (habs : q.isAbsolute = dest.isAbsolute) : d.LeadsTo q top := by
  obtain ⟨-, spot, mode, hwalk, rfl, hget⟩ := leadsTo_iff.mp h
  rw [hnames, ← startFrom_congr habs] at hwalk
  obtain ⟨spot', hwalk', hloc⟩ := hwalk.of_append_dots hdots q.endsInSlash
  exact leadsTo_iff.mpr ⟨hq, spot', mode, hwalk', hloc, hget⟩

/-- A walk along a path with the names of the destination ends at the destination. -/
theorem LeadsTo.location_eq (hdest : d.LeadsTo dest top) (hnames : q.names = dest.names)
    (habs : q.bytes ≠ [] → q.isAbsolute = dest.isAbsolute) (hwalk : d.walk .always q = .ok spot) :
    spot.location = top := by
  have hq := (walk_eq_ok_iff.mp hwalk).1
  have hdots : dest.names = q.names ++ [] := by rw [List.append_nil, hnames]
  obtain ⟨mode, hstatus⟩ := hdest.of_dots hdots (by simp) hq (habs hq.ne_nil)
  obtain ⟨spot', hwalk', rfl, -⟩ := find_eq_ok hstatus
  rw [hwalk] at hwalk'
  cases hwalk'
  rfl

/-- A part of the destination that leads nowhere is not made: nothing on the way there is missing, so the attempt fails
for another reason, or the mode cannot be set. -/
theorem LeadsTo.runFrom_createDirectory_of_missing {ns : List (List UInt8)} (hdest : d.LeadsTo dest top)
    (hq : Path.Along dest ns q) (hfront : q.names <+: dest.names) (hmissing : d.leadsSomewhere q = false) (mode : Nat)
    (faults : Faults) : (Effect.runFrom (Action.createDirectory q mode faults) d).2 = d := by
  have hmake : ∀ r ∈ q :: q.parents, ∀ d₁ d₂, d₁ = d → d₁.makeDirectory r mode = .ok d₂ → d₂ = d := by
    rintro r hr d₁ d₂ rfl hmake
    have hr' : Path.Along dest ns r := hq.mem_self_parents hr
    have hrnames : r.names <+: q.names := by
      rcases List.mem_cons.mp hr with rfl | hr
      · exact List.prefix_rfl
      · exact Path.names_prefix_of_mem_parents hr
    obtain ⟨parent, n, slash, hfree, -⟩ := makeDirectory_eq_ok hmake
    obtain ⟨o, hget, -⟩ := hdest.isPassage (hrnames.trans hfront) hr'.isAbsolute hfree.walk
    rw [hfree.free] at hget
    cases hget
  -- and there is nothing whose mode could be set
  have hmode : ∀ d₁ d₂, d₁ = d → d₁.setMode q mode = .ok d₂ → d₂ = d := by
    rintro d₁ d₂ rfl hset
    obtain ⟨l, ⟨_, hstatus, -⟩ | ⟨_, _, hstatus, -⟩⟩ := setMode_eq_ok hset
    all_goals
      rw [leadsSomewhere, hstatus] at hmissing
      cases hmissing
  exact Action.keeps_createDirectory (I := (· = d)) hmake hmode d rfl

end Walking

/-! ## The invariant -/

/-- Since `d₀` nothing changed outside the directory `top`, to which `dest` leads, and the links in it descend. -/
structure Confined (d₀ : Disk) (dest : Path) (top : Location) (d : Disk) : Prop where
  workingDirectory : d.workingDirectory = d₀.workingDirectory
  outside : ∀ l, ¬ top <+: l → d.get? l = d₀.get? l
  links : d.LinksDescend top
  leads : d.LeadsTo dest top

namespace Confined

variable {d₀ d d' : Disk} {dest q : Path} {top : Location} {ns : List (List UInt8)} {mode : Nat}

theorem start (hdest : d.LeadsTo dest top) (hlinks : d.LinksDescend top) : Confined d dest top d :=
  ⟨rfl, fun _ _ => rfl, hlinks, hdest⟩

/-- A change at or below `top` that makes no link that climbs keeps everything outside, and the destination where it
is. -/
theorem set {l : Location} {o : Object} (h : Confined d₀ dest top d) (hadm : d.Admits l o) (hl : top <+: l)
    (ho : ∀ target, o = .link target → target.Descends) : Confined d₀ dest top (d.set l o) where
  workingDirectory := h.workingDirectory
  outside l' hl' := by
    have hne : l' ≠ l := fun heq => hl' (heq ▸ hl)
    rw [get?_set, if_neg hne]
    exact h.outside l' hl'
  links := h.links.set ho
  leads := h.leads.carry hadm.carries

/-- A walk along a written path ends below `top`, or where nothing can be made. -/
theorem within_or_isPassage (h : Confined d₀ dest top d) (hq : Path.Along dest ns q) (hns : Path.dotDot ∉ ns)
    {last : LastLink} {spot : Spot} (hwalk : d.walk last q = .ok spot) : spot.Within top ∨ d.IsPassage spot := by
  rcases hq.front_or_behind with hfront | ⟨ms, hms, hpre, hnames⟩
  · exact .inr (h.leads.isPassage hfront hq.isAbsolute hwalk)
  · exact .inl (h.leads.within h.links hnames hms (fun hmem => hns (hpre.subset hmem)) hq.isAbsolute hwalk)

/-- Something new along a written path is made below `top`. -/
theorem prefix_of_isFree (h : Confined d₀ dest top d) (hq : Path.Along dest ns q) (hns : Path.dotDot ∉ ns)
    {last : LastLink} {parent : Location} {n : List UInt8} {slash : Bool}
    (hfree : d.IsFree last q parent n slash) : top <+: parent ++ [n] := by
  rcases h.within_or_isPassage hq hns hfree.walk with hin | ⟨o, hget, -⟩
  · exact hin.location
  · rw [hfree.free] at hget
    cases hget

/-- A directory that is made along the destination stands below `top`, or it would stand on the way to it, where
everything is there already. -/
theorem makeDirectory (hq : Path.Along dest ns q) (hns : Path.dotDot ∉ ns) (d d' : Disk)
    (h : Confined d₀ dest top d) (hmake : d.makeDirectory q mode = .ok d') : Confined d₀ dest top d' := by
  obtain ⟨parent, n, slash, hfree, rfl⟩ := makeDirectory_eq_ok hmake
  exact h.set (hfree.admits _) (h.prefix_of_isFree hq hns hfree) (by simp)

/-- A file that is put along the destination stands below `top`, also when links are followed to it: they descend. -/
theorem putFile {content : List UInt8} (hq : Path.Along dest ns q) (hns : Path.dotDot ∉ ns) (d d' : Disk)
    (h : Confined d₀ dest top d) (hput : d.putFile q mode content = .ok d') : Confined d₀ dest top d' := by
  obtain ⟨parent, n, ⟨hfree, rfl⟩ | ⟨oldMode, old, hwalk, hget, rfl⟩⟩ := putFile_eq_ok hput
  · exact h.set (hfree.admits _) (h.prefix_of_isFree hq hns hfree) (by simp)
  · refine h.set (.rewrite hget) ?_ (by simp)
    rcases h.within_or_isPassage hq hns hwalk with hin | ⟨o, hget', hfile⟩
    · exact hin.location
    · -- a file is no passage
      rw [hget] at hget'
      cases hget'
      cases hfile

/-- So does a link, which has to descend itself so that later walks stay inside. -/
theorem addLink {target : Path} (hq : Path.Along dest ns q) (hns : Path.dotDot ∉ ns) (htarget : target.Descends)
    (d d' : Disk) (h : Confined d₀ dest top d) (hadd : d.addLink q target = .ok d') : Confined d₀ dest top d' := by
  obtain ⟨parent, n, hfree, rfl⟩ := addLink_eq_ok hadd
  refine h.set (hfree.admits _) (h.prefix_of_isFree hq hns hfree) fun t ht => ?_
  cases ht
  exact htarget

/-- The mode is set of something at or below `top`, if the path spells the whole destination. At `top` itself this is
the mode of the destination, which the relation leaves open. -/
theorem setMode (hq : Path.Along dest ns q) (hdest : dest.names <+: q.names) (hns : Path.dotDot ∉ ns) (d d' : Disk)
    (h : Confined d₀ dest top d) (hset : d.setMode q mode = .ok d') : Confined d₀ dest top d' := by
  have hloc : ∀ l o, d.status q = .ok (l, o) → top <+: l := by
    intro l o hstatus
    obtain ⟨spot, hwalk, rfl, -⟩ := find_eq_ok hstatus
    rcases hq.front_or_behind with hfront | ⟨ms, hms, hpre, hnames⟩
    · -- all of the destination and nothing more
      have htop := h.leads.location_eq (hfront.eq_of_length_le hdest.length_le) hq.isAbsolute hwalk
      exact htop ▸ List.prefix_rfl
    · exact (h.leads.within h.links hnames hms (fun hmem => hns (hpre.subset hmem)) hq.isAbsolute hwalk).location
  obtain ⟨l, ⟨oldMode, hstatus, rfl⟩ | ⟨oldMode, content, hstatus, rfl⟩⟩ := setMode_eq_ok hset
  · have hget := get?_of_find hstatus
    exact h.set (.remode hget) (hloc _ _ hstatus) (by simp)
  · have hget := get?_of_find hstatus
    exact h.set (.rewrite hget) (hloc _ _ hstatus) (by simp)

/-! ## File actions below a destination -/

open Effect Bootstrap.Action

variable {rel : Path} {faults : Faults}

/-- What is joined to a destination starts with the names of the destination. -/
theorem dest_prefix_join (hrel : rel.Descends) : dest.names <+: (dest.join rel).names := by
  rw [Path.names_join hrel.relative]
  exact List.prefix_append _ _

/-- A directory and those above it, whatever faults the device has. `rel.Descends` says that nothing turns back in what
is joined. -/
theorem keeps_createDirectory (hrel : rel.Descends) :
    Keeps (Confined d₀ dest top) (createDirectory (dest.join rel) mode faults) :=
  Action.keeps_createDirectory
    (fun _ hr => makeDirectory ((Path.Along.join hrel.relative).mem_self_parents hr) hrel.noParent)
    (setMode (.join hrel.relative) (dest_prefix_join hrel) hrel.noParent)

/-- A file and the directories above it. It may be written half, but nowhere else. -/
theorem keeps_writeFile {content : List UInt8} (hrel : rel.Descends) :
    Keeps (Confined d₀ dest top) (writeFile (dest.join rel) content mode faults) := by
  have halong : Path.Along dest rel.names (dest.join rel) := .join hrel.relative
  refine Action.keeps_writeFile (fun q hq r hr => ?_) (fun _ => putFile halong hrel.noParent)
    (setMode halong (dest_prefix_join hrel) hrel.noParent)
  exact makeDirectory ((halong.parent? hq).mem_self_parents hr) hrel.noParent

/-- Where a path along the destination leads nowhere, making it a directory is confined too: a part of the destination
that leads nowhere is one that cannot be looked at, and there nothing happens. -/
theorem createDirectory_of_missing (hq : Path.Along dest ns q) (hns : Path.dotDot ∉ ns)
    (h : Confined d₀ dest top d) (hmissing : d.leadsSomewhere q = false) :
    Confined d₀ dest top (runFrom (createDirectory q mode faults) d).2 := by
  rcases hq.front_or_behind with hfront | ⟨ms, hms, -, hnames⟩
  · rw [h.leads.runFrom_createDirectory_of_missing hq hfront hmissing mode faults]
    exact h
  · refine Action.keeps_createDirectory (fun _ hr => makeDirectory (hq.mem_self_parents hr) hns) (setMode hq ?_ hns) d h
    rw [hnames]
    exact List.prefix_append _ _

end Confined

end Disk

end Bootstrap
