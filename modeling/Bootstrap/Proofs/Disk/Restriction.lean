import Bootstrap.Proofs.Disk.Descent

/-!
# Writing all, and writing behind allowed names only

Two disks hold the same, except that one of them holds nothing behind the names in a directory that are not allowed:
`Disk.Restricts`. No link stands below the directory, so what a path behind an allowed name leads to does not depend on what
stands behind the other names.

* `Restricts.mirrors_createDirectory`, `Restricts.mirrors_writeFile` — what can be written behind an allowed name of the
  first disk can be written on the second one, and the two still differ in the other names only.
* `Restricts.keeps_createDirectory`, `Restricts.keeps_writeFile` — what is written behind another name of the first disk
  does not matter to the second one.

The directories above a path that is written may be missing and are made. They are the first few names of the path, so
they stand behind the same name of the directory, *or they spell the way to the directory itself*; on that way nothing can be
made, but one has to know that it can be walked on both disks (`Disk.LeadsTo.of_dots`).
-/

namespace Bootstrap

namespace Path

/-- `q` spells the destination and goes on with the plain names `ns`, the first of which is allowed. -/
structure Behind (allowed : List (List UInt8)) (dest : Path) (ns : List (List UInt8)) (q : Path) : Prop where
  names : q.names = dest.names ++ ns
  isAbsolute : q.bytes ≠ [] → q.isAbsolute = dest.isAbsolute
  plain : ∀ n ∈ ns, IsPlain n
  head : ∀ n ∈ ns.head?, n ∈ allowed

namespace Behind

variable {allowed ns ms : List (List UInt8)} {dest q r : Path}

theorem along (hq : Behind allowed dest ns q) : Along dest ns q := ⟨hq.names ▸ List.prefix_rfl, hq.isAbsolute⟩

/-- The first name is that of every beginning, so it is allowed there too. -/
theorem head_upTo (hq : Behind allowed dest ns q) (hms : ms <+: ns) : ∀ n ∈ ms.head?, n ∈ allowed := by
  intro n hn
  obtain ⟨more, rfl⟩ := hms
  rw [Option.mem_def] at hn
  exact hq.head n (by rw [List.head?_append, hn]; rfl)

/-- A path that stops earlier, with the same names, is behind the same allowed name. -/
theorem upTo (hq : Behind allowed dest ns q) (hms : ms <+: ns) (hnames : r.names = dest.names ++ ms)
    (habs : r.bytes ≠ [] → r.isAbsolute = dest.isAbsolute) : Behind allowed dest ms r :=
  ⟨hnames, habs, fun n hn => hq.plain n (hms.subset hn), hq.head_upTo hms⟩

/-- A path that goes on behind the destination is not empty. -/
theorem ne_nil (hq : Behind allowed dest ns q) (hne : ns ≠ []) : q.bytes ≠ [] := by
  intro hnil
  obtain ⟨bytes⟩ := q
  simp only at hnil
  subst hnil
  exact hne (List.append_eq_nil_iff.mp hq.names.symm).2

/-- The path right above the last name: behind the destination, or the destination itself but for dots at its end. In
both cases the two disks agree about it. -/
theorem parent? {n : List UInt8} (hq : Behind allowed dest (ns ++ [n]) q) (hr : q.parent? = some r) :
    r.bytes = [] ∨ Behind allowed dest ns r ∨ ∃ dots, dest.names = r.names ++ dots ∧ ∀ m ∈ dots, m = dot := by
  have hn : IsPlain n := hq.plain n (by simp)
  have hnames : q.names = (dest.names ++ ns) ++ [n] := by rw [hq.names, List.append_assoc]
  rcases exists_dots_of_parent? hr hnames hn.ne_dot with rfl | ⟨dots, hsplit, hdots⟩
  · exact .inl rfl
  · right
    rcases List.eq_nil_or_concat ns with rfl | ⟨front, x, rfl⟩
    · rw [List.append_nil] at hsplit
      exact .inr ⟨dots, hsplit, hdots⟩
    · rcases List.eq_nil_or_concat dots with rfl | ⟨before, y, rfl⟩
      · rw [List.append_nil] at hsplit
        exact .inl (hq.upTo (List.prefix_append _ _) hsplit.symm (hq.along.parent? hr).isAbsolute)
      · -- the last name behind the destination would be a dot
        simp only [List.concat_eq_append, ← List.append_assoc] at hsplit hdots hq
        have hlast : [x] = [y] := List.append_inj_right' hsplit rfl
        cases hlast
        exact absurd (hdots x (by simp)) (hq.plain x (by simp)).ne_dot

end Behind

end Path

namespace Disk

/-! ## One walk on two disks -/

section TwoDisks

variable {d e : Disk} {dest q : Path} {top : Location} {ms : List (List UInt8)}

/-- Plain names lead the same way from a directory where the same stands on the way, and no link. Induction on the
names, with the same number of links left. -/
theorem walkNames_eq_of_isClear (last : LastLink) (left left' : Nat) (slash : Bool) (hplain : ∀ n ∈ ms, Path.IsPlain n)
    (hclear : d.IsClear top ms) (hsame : ∀ pre, pre <+: ms → e.get? (top ++ pre) = d.get? (top ++ pre)) :
    e.walkNames last left' top ms slash = d.walkNames last left top ms slash := by
  -- induction on the names: each of them is looked up at the same location
  induction ms generalizing top with
  | nil => rw [walkNames_nil, walkNames_nil]
  | cons n rest ih =>
      have hn : Path.IsPlain n := hplain n (by simp)
      have hget : e.get? (top ++ [n]) = d.get? (top ++ [n]) := hsame [n] (by simp)
      have hrest : e.walkNames last left' (top ++ [n]) rest slash = d.walkNames last left (top ++ [n]) rest slash := by
        refine ih (fun x hx => hplain x (List.mem_cons_of_mem _ hx)) hclear.tail fun pre hpre => ?_
        rw [List.append_assoc]
        exact hsame (n :: pre) (List.cons_prefix_cons.mpr ⟨rfl, hpre⟩)
      conv_lhs => rw [walkNames_cons, if_neg hn.ne_dot, if_neg hn.ne_dotDot, hget]
      conv_rhs => rw [walkNames_cons, if_neg hn.ne_dot, if_neg hn.ne_dotDot]
      cases hd : d.get? (top ++ [n]) with
      | none => rfl
      | some o =>
          cases o with
          | directory mode => simp only [hrest]
          | file mode content => rfl
          | link target => exact absurd hd (hclear [n] (by simp) (by simp) target)

/-- So does a path that goes on behind a destination. As far as the destination, both disks have the same directories
and links. -/
theorem LeadsTo.walk_eq (hd : d.LeadsTo dest top) (he : e.LeadsTo dest top) (hnames : q.names = dest.names ++ ms)
    (hne : ms ≠ []) (habs : q.bytes ≠ [] → q.isAbsolute = dest.isAbsolute) (hplain : ∀ n ∈ ms, Path.IsPlain n)
    (hclear : d.IsClear top ms) (hsame : ∀ pre, pre <+: ms → e.get? (top ++ pre) = d.get? (top ++ pre))
    (last : LastLink) : e.walk last q = d.walk last q := by
  by_cases hq : q.bytes = []
  · simp [walk, hq]
  · have hbehind : ∀ {x : Disk}, x.LeadsTo dest top → ∃ left, ∀ slash,
        x.walkNames last maxLinks (startFrom x.workingDirectory q) q.names slash = x.walkNames last left top ms slash := by
      intro x hx
      obtain ⟨-, spot, mode, hwalk, hloc, hget⟩ := leadsTo_iff.mp hx
      obtain ⟨left, hleft⟩ := walkNames_append hwalk (hloc ▸ hget)
      refine ⟨left, fun slash => ?_⟩
      rw [startFrom_congr (habs hq), hnames, hleft last ms slash hne, hloc]
    obtain ⟨left, hleft⟩ := hbehind hd
    obtain ⟨left', hleft'⟩ := hbehind he
    rw [walk, walk, hleft, hleft', walkNames_eq_of_isClear last left left' _ hplain hclear hsame]

end TwoDisks

/-! ## Directories on the way to a destination -/

section Front

open Effect Bootstrap.Action

variable {d d' : Disk} {dest q : Path} {top : Location} {above : List Path} {mode : Nat}
  (hdest : d.LeadsTo dest top) (hnames : q.names <+: dest.names) (habs : q.bytes ≠ [] → q.isAbsolute = dest.isAbsolute)

include hdest hnames habs

/-- No directory is made there, and it is not that one above is missing. So the attempt is not repeated for the
directories above. -/
theorem LeadsTo.makeDirectory_eq_error (hq : q.bytes ≠ []) (mode : Nat) :
    ∃ c, d.makeDirectory q mode = .error c ∧ c ≠ .system .notFound := by
  cases hwalk : d.walk .never q with
  | ok spot =>
      have hpassage := hdest.isPassage hnames habs hwalk
      refine ⟨.system .alreadyExists, ?_, by simp⟩
      cases spot with
      | directory l here => simp only [makeDirectory, hwalk, bind, Except.bind]
      | name parent n slash =>
          obtain ⟨o, hget, -⟩ := hpassage
          simp only [makeDirectory, hwalk, bind, Except.bind, hget, Option.isSome_some, if_true]
  | error c =>
      refine ⟨c, by simp only [makeDirectory, hwalk, bind, Except.bind], ?_⟩
      rintro rfl
      -- a path that can be looked at goes the way of the destination
      obtain ⟨-, spot, _, hway, rfl, hget⟩ := leadsTo_iff.mp hdest
      obtain ⟨spot', hspot, -⟩ := exists_walkNames_prefix hway hget hnames .never q.endsInSlash
      rw [← startFrom_congr (habs hq)] at hspot
      rw [walk, hspot] at hwalk
      split_ifs at hwalk with _ hempty
      · cases hwalk
      · exact hq (List.isEmpty_iff.mp hempty)
      · cases hwalk

/-- So nothing is made at all. -/
theorem LeadsTo.eq_of_makeDirectories (hrun : runFrom (makeDirectories mode (q :: above)) d = (.ok (), d')) :
    d' = d ∧ (q.bytes ≠ [] → d.isDirectory q = true) := by
  by_cases hq : q.bytes = []
  · rw [makeDirectories, if_pos (by simp [hq])] at hrun
    cases hrun
    exact ⟨rfl, fun hne => absurd hq hne⟩
  · obtain ⟨c, hmake, hc⟩ := hdest.makeDirectory_eq_error hnames habs hq mode
    rcases (runFrom_makeDirectories_eq_ok hq).mp hrun with ⟨-, hmade⟩ | ⟨hmissing, -⟩
    · rcases hmade with hok | ⟨_, hdir, hsame⟩
      · rw [hmake] at hok
        cases hok
      · exact ⟨hsame, fun _ => hdir⟩
    · rw [hmake] at hmissing
      exact absurd (Except.error.inj hmissing) hc

end Front

section There

open Effect Bootstrap.Action

variable {d : Disk} {q : Path} {l : Location} {above : List Path} {mode : Nat}

/-- A directory that is there is not made once more. -/
theorem LeadsTo.runFrom_makeDirectories (h : d.LeadsTo q l) :
    runFrom (makeDirectories mode (q :: above)) d = (.ok (), d) := by
  have hq := (leadsTo_iff.mp h).1.ne_nil
  obtain ⟨c, hmake, hc⟩ := h.makeDirectory_eq_error List.prefix_rfl (fun _ => rfl) hq mode
  refine (runFrom_makeDirectories_eq_ok hq).mpr (.inl ⟨?_, .inr ⟨⟨c, hmake⟩, isDirectory_iff.mpr ⟨l, h⟩, rfl⟩⟩)
  rw [hmake]
  simpa using hc

end There

/-! ## The two disks -/

/-- `e` is `d` without what stands behind the names in `top` that are not allowed. No link stands below `top`. -/
structure Restricts (allowed : List (List UInt8)) (dest : Path) (top : Location) (d e : Disk) : Prop where
  leads : e.LeadsTo dest top
  workingDirectory : e.workingDirectory = d.workingDirectory
  noLinks : ∀ l target, isBelow top l = true → d.get? l ≠ some (.link target)
  kept : ∀ l, (∀ n more, l = top ++ n :: more → n ∈ allowed) → e.get? l = d.get? l
  dropped : ∀ n more, n ∉ allowed → e.get? (top ++ n :: more) = none

namespace Restricts

variable {allowed : List (List UInt8)} {dest q : Path} {top l : Location} {d d' e : Disk} {ns : List (List UInt8)}
  {o : Object}

/-- The two runs start on one disk. Nothing stands below the destination yet, so nothing has to be left out of the
second disk. -/
theorem start (hdest : d.LeadsTo dest top) (hempty : ∀ l, isBelow top l = true → d.get? l = none) :
    Restricts allowed dest top d d where
  leads := hdest
  workingDirectory := rfl
  noLinks l target hbelow hget := by
    rw [hempty l hbelow] at hget
    cases hget
  kept _ _ := rfl
  dropped n more _ := hempty _ (isBelow_append (by simp))

/-- The first disk has all that the second one has. What is known to be found on the second disk is therefore found on
the first. -/
theorem grows (h : Restricts allowed dest top d e) : e.Grows d where
  workingDirectory := h.workingDirectory.symm
  get? l o hget := by
    rw [← h.kept l, hget]
    intro n more hl
    by_contra hn
    rw [hl, h.dropped n more hn] at hget
    cases hget

/-- The path of the destination leads to the same directory on both disks. -/
theorem leads_both (h : Restricts allowed dest top d e) : d.LeadsTo dest top := h.leads.carry h.grows.carries

/-- No link stands on the way to any name below the destination. -/
theorem isClear (h : Restricts allowed dest top d e) : d.IsClear top ns :=
  fun _ hne _ target => h.noLinks _ target (isBelow_append hne)

/-- Behind an allowed name, and at the destination itself, the same stands on both disks. -/
theorem get?_eq (h : Restricts allowed dest top d e) (hhead : ∀ n ∈ ns.head?, n ∈ allowed) :
    e.get? (top ++ ns) = d.get? (top ++ ns) := by
  refine h.kept _ fun n more hl => hhead n ?_
  rw [List.append_cancel_left hl]
  rfl

/-- A change behind an allowed name, on both disks. What is set is no link, as a link would lead the two runs to
different places later on. -/
theorem set_both (h : Restricts allowed dest top d e) (hhead : ∀ n ∈ ns.head?, n ∈ allowed)
    (hadm : e.Admits (top ++ ns) o) (ho : ∀ target, o ≠ .link target) :
    Restricts allowed dest top (d.set (top ++ ns) o) (e.set (top ++ ns) o) where
  leads := h.leads.carry hadm.carries
  workingDirectory := h.workingDirectory
  noLinks l target hbelow hget := by
    rw [get?_set] at hget
    split at hget
    · exact ho target (Option.some.inj hget)
    · exact h.noLinks l target hbelow hget
  kept l hl := by rw [get?_set, get?_set, h.kept l hl]
  -- what is set is under an allowed name, so it is none of what the smaller run dropped
  dropped n more hn := by
    have hne : top ++ n :: more ≠ top ++ ns := by
      intro heq
      rw [← List.append_cancel_left heq] at hhead
      exact hn (hhead n rfl)
    rw [get?_set, if_neg hne, h.dropped n more hn]

/-- A change behind another name, on the first disk only. The relation asks for nothing there, and the second disk has
nothing there. -/
theorem set_left {n : List UInt8} {more : List (List UInt8)} (h : Restricts allowed dest top d e) (hn : n ∉ allowed)
    (ho : ∀ target, o ≠ .link target) : Restricts allowed dest top (d.set (top ++ n :: more) o) e where
  leads := h.leads
  workingDirectory := h.workingDirectory
  noLinks l target hbelow hget := by
    rw [get?_set] at hget
    split at hget
    · exact ho target (Option.some.inj hget)
    · exact h.noLinks l target hbelow hget
  kept l hl := by
    have hne : l ≠ top ++ n :: more := fun heq => hn (hl n more heq)
    rw [get?_set, if_neg hne, h.kept l hl]
  dropped := h.dropped

/-! ## Behind an allowed name

The same stands on both disks on the way to such a place. So a walk there is one walk, and what the first disk answers, the
second one answers too; each operation then makes the same change on both. -/

section Allowed

open Effect Bootstrap.Action

variable {mode : Nat} {content : List UInt8}

section Steps

variable (hq : Path.Behind allowed dest ns q)

include hq

/-- A walk along a path behind an allowed name ends alike on both disks, also when it fails. The lemmas on the
operations rest on this one. -/
theorem walk_eq (h : Restricts allowed dest top d e) (hne : ns ≠ []) (last : LastLink) :
    e.walk last q = d.walk last q :=
  h.leads_both.walk_eq h.leads hq.names hne hq.isAbsolute hq.plain h.isClear
    (fun _ hpre => h.get?_eq (hq.head_upTo hpre)) last

/-- Both walks end at the last name, in one directory that stands on both disks. It is the destination, or it lies
behind the allowed name. -/
theorem exists_name (h : Restricts allowed dest top d e) (hne : ns ≠ []) {last : LastLink} {spot : Spot}
    (hwalk : d.walk last q = .ok spot) :
    ∃ parent n, spot = .name parent n q.endsInSlash ∧ parent ++ [n] = top ++ ns ∧ d.isDirectoryAt parent = true ∧
      e.get? parent = d.get? parent := by
  obtain ⟨front, n, rfl, rfl, hopen⟩ := h.leads_both.straight hq.names hq.isAbsolute hq.plain h.isClear hne hwalk
  have hdir : d.isDirectoryAt (top ++ front) = true := by
    by_cases hfront : front = []
    · rw [hfront, List.append_nil]
      exact h.leads_both.isDirectoryAt
    · exact hopen front hfront List.prefix_rfl
  exact ⟨top ++ front, n, rfl, List.append_assoc .., hdir, h.get?_eq (hq.head_upTo (List.prefix_append _ _))⟩

/-- What stands there on the first disk stands there on the second one. No link is on the way on either disk, so the
path spells the location. -/
theorem status_eq (h : Restricts allowed dest top d e) (hstatus : d.status q = .ok (l, o)) :
    l = top ++ ns ∧ e.status q = .ok (l, o) := by
  obtain ⟨spot, hwalk, rfl, hget, hkind⟩ := find_eq_ok_iff.mp hstatus
  by_cases hne : ns = []
  · -- the destination itself
    have hnames : q.names = dest.names := by rw [hq.names, hne, List.append_nil]
    have husable := (walk_eq_ok_iff.mp hwalk).1
    have hdots : dest.names = q.names ++ [] := by rw [List.append_nil, hnames]
    obtain ⟨mode', hstatus'⟩ := h.leads.of_dots hdots (by simp) husable (hq.isAbsolute husable.ne_nil)
    obtain ⟨-, -, -, hget'⟩ := find_eq_ok hstatus'
    have hloc : spot.location = top := h.leads_both.location_eq hnames hq.isAbsolute hwalk
    rw [hloc, h.grows.get? _ _ hget'] at hget
    cases hget
    rw [hloc, hne, List.append_nil]
    exact ⟨rfl, hstatus'⟩
  · obtain ⟨parent, n, rfl, hloc, -⟩ := h.exists_name hq hne hwalk
    refine ⟨hloc, find_eq_ok_iff.mpr ⟨_, ?_, rfl, ?_, hkind⟩⟩
    · rw [h.walk_eq hq hne, hwalk]
    · rw [Spot.location, hloc] at hget ⊢
      rw [h.get?_eq hq.head, hget]

/-- Whether a path behind an allowed name leads somewhere is the same question on both disks. -/
theorem leadsSomewhere_eq (h : Restricts allowed dest top d e) : e.leadsSomewhere q = d.leadsSomewhere q := by
  rw [Bool.eq_iff_iff]
  constructor
  · exact h.grows.leadsSomewhere
  · intro hthere
    obtain ⟨l, o, hstatus⟩ := exists_of_isOk_find hthere
    exact isOk_find (h.status_eq hq hstatus).2

/-- To make a directory behind an allowed name fails for the same cause on both disks, or succeeds on both and leaves
them related. -/
theorem makeDirectory_cases (h : Restricts allowed dest top d e) (hne : ns ≠ []) (mode : Nat) :
    (∃ c, d.makeDirectory q mode = .error c ∧ e.makeDirectory q mode = .error c) ∨
      ∃ d' e', d.makeDirectory q mode = .ok d' ∧ e.makeDirectory q mode = .ok e' ∧ Restricts allowed dest top d' e' := by
  have hwalk' := h.walk_eq hq hne .never
  cases hwalk : d.walk .never q with
  | error c =>
      rw [hwalk] at hwalk'
      exact .inl ⟨c, by rw [makeDirectory, hwalk]; rfl, by rw [makeDirectory, hwalk']; rfl⟩
  | ok spot =>
      rw [hwalk] at hwalk'
      obtain ⟨parent, n, rfl, hloc, hdir, hparent⟩ := h.exists_name hq hne hwalk
      have hget : e.get? (parent ++ [n]) = d.get? (parent ++ [n]) := by rw [hloc, h.get?_eq hq.head]
      have hdir' : e.isDirectoryAt parent = true := by rwa [isDirectoryAt, hparent]
      -- the new directory inherits from one that is the same on both disks
      have habove : e.modeAt parent = d.modeAt parent := by rw [modeAt, modeAt, hparent]
      rw [makeDirectory_of_walk hwalk hdir, makeDirectory_of_walk hwalk' hdir', hget, habove]
      cases hthere : d.get? (parent ++ [n]) with
      | some o => exact .inl ⟨_, rfl, rfl⟩
      | none =>
          refine .inr ⟨_, _, rfl, rfl, ?_⟩
          have hadm : e.Admits (parent ++ [n]) (.directory (newDirectoryMode (d.modeAt parent) mode)) :=
            .create (hget.trans hthere) hdir'
          rw [hloc] at hadm ⊢
          exact h.set_both hq.head hadm (by simp)

/-- A file that can be put on the first disk can be put on the second. The mode of a file that is already there is the
same on both, since it lies behind an allowed name. -/
theorem putFile_eq (h : Restricts allowed dest top d e) (hne : ns ≠ []) (hput : d.putFile q mode content = .ok d') :
    ∃ e', e.putFile q mode content = .ok e' ∧ Restricts allowed dest top d' e' := by
  have hwalk' := h.walk_eq hq hne .unlessSlash
  obtain ⟨parent, n, hcases⟩ := putFile_eq_ok hput
  have hwalk : d.walk .unlessSlash q = .ok (.name parent n false) := by
    rcases hcases with ⟨hfree, -⟩ | ⟨_, _, hwalk, -⟩
    · exact hfree.walk
    · exact hwalk
  -- both walks end at the same name in the same directory
  obtain ⟨_, _, heq, hloc, hdir, hparent⟩ := h.exists_name hq hne hwalk
  obtain ⟨rfl, rfl, -⟩ := Spot.name.inj heq
  have hdir' : e.isDirectoryAt parent = true := by rwa [isDirectoryAt, hparent]
  rw [hwalk] at hwalk'
  have hget : e.get? (parent ++ [n]) = d.get? (parent ++ [n]) := by rw [hloc, h.get?_eq hq.head]
  rw [putFile_of_walk hwalk' hdir', hget]
  -- the name is free on both disks, or a file has it on both
  rcases hcases with ⟨hfree, rfl⟩ | ⟨old, _, -, hthere, rfl⟩
  · rw [hfree.free]
    refine ⟨_, rfl, ?_⟩
    have hadm : e.Admits (parent ++ [n]) (.file (newFileMode mode) content) := .create (hget.trans hfree.free) hdir'
    rw [hloc] at hadm ⊢
    exact h.set_both hq.head hadm (by simp)
  · rw [hthere]
    refine ⟨_, rfl, ?_⟩
    have hadm : e.Admits (parent ++ [n]) (.file old content) := .rewrite (hget.trans hthere)
    rw [hloc] at hadm ⊢
    exact h.set_both hq.head hadm (by simp)

/-- A mode that can be set on the first disk can be set on the second. Since the destination itself may be meant, this
is not a matter of names below it only. -/
theorem setMode_eq (h : Restricts allowed dest top d e) (hset : d.setMode q mode = .ok d') :
    ∃ e', e.setMode q mode = .ok e' ∧ Restricts allowed dest top d' e' := by
  obtain ⟨l, ⟨old, hstatus, rfl⟩ | ⟨old, content, hstatus, rfl⟩⟩ := setMode_eq_ok hset
  · obtain ⟨rfl, hstatus'⟩ := h.status_eq hq hstatus
    obtain ⟨-, -, -, hget⟩ := find_eq_ok hstatus'
    exact ⟨_, by rw [setMode, hstatus']; rfl, h.set_both hq.head (.remode hget) (by simp)⟩
  · obtain ⟨rfl, hstatus'⟩ := h.status_eq hq hstatus
    obtain ⟨-, -, -, hget⟩ := find_eq_ok hstatus'
    exact ⟨_, by rw [setMode, hstatus']; rfl, h.set_both hq.head (.rewrite hget) (by simp)⟩

/-- A directory that is made or found on the first disk is made or found on the second, and afterwards the disks agree
again. -/
theorem made_eq (h : Restricts allowed dest top d e) (hne : ns ≠ []) (hmade : Made mode q d d') :
    ∃ e', Made mode q e e' ∧ Restricts allowed dest top d' e' := by
  -- the same in both: refused for the same reason, or made
  rcases h.makeDirectory_cases hq hne mode with ⟨c, hmake, hmake'⟩ | ⟨_, e', hmake, hmake', h'⟩
  · rcases hmade with hok | ⟨-, hdir, rfl⟩
    · rw [hmake] at hok
      cases hok
    · obtain ⟨l, old, hstatus⟩ := isDirectory_iff.mp hdir
      obtain ⟨-, hstatus'⟩ := h.status_eq hq hstatus
      exact ⟨e, .inr ⟨⟨c, hmake'⟩, isDirectory_iff.mpr ⟨l, old, hstatus'⟩, rfl⟩, h⟩
  · rcases hmade with hok | ⟨⟨c, herror⟩, -⟩
    · rw [hmake] at hok
      cases hok
      exact ⟨e', .inl hmake', h'⟩
    · rw [hmake] at herror
      cases herror

/-- The causes of a failure agree too. `makeDirectories` goes on or stops by the cause, so this is needed to keep the
runs in step. -/
theorem makeDirectory_eq_error_iff (h : Restricts allowed dest top d e) (hne : ns ≠ []) (c : Cause) :
    e.makeDirectory q mode = .error c ↔ d.makeDirectory q mode = .error c := by
  rcases h.makeDirectory_cases hq hne mode with ⟨c', hmake, hmake'⟩ | ⟨_, e', hmake, hmake', -⟩
  · rw [hmake, hmake']
  · rw [hmake, hmake']
    simp

/-- A directory above which nothing is missing. -/
theorem makeDirectories_eq {above : List Path} (h : Restricts allowed dest top d e) (hne : ns ≠ [])
    (hthere : d.makeDirectory q mode ≠ .error (.system .notFound)) (hmade : Made mode q d d') :
    ∃ e', runFrom (makeDirectories mode (q :: above)) e = (.ok (), e') ∧ Restricts allowed dest top d' e' := by
  obtain ⟨e', hmade', h'⟩ := h.made_eq hq hne hmade
  have hthere' := mt (h.makeDirectory_eq_error_iff hq hne _).mp hthere
  exact ⟨e', (runFrom_makeDirectories_eq_ok (hq.ne_nil hne)).mpr (.inl ⟨hthere', hmade'⟩), h'⟩

end Steps

section Actions

variable {above : List Path}

/-- Directories behind an allowed name. The paths above it are on the way to the destination, or behind the name too, so
at each step both disks make the directory or both find it. -/
theorem mirrors_makeDirectories (hq : Path.Behind allowed dest ns q) (hne : ns ≠ [])
    (habove : ∀ r ∈ above, r.names <+: dest.names ∧ (r.bytes ≠ [] → r.isAbsolute = dest.isAbsolute) ∨
      ∃ ms, ms ≠ [] ∧ Path.Behind allowed dest ms r) :
    Mirrors (Restricts allowed dest top) Eq (makeDirectories mode (q :: above)) (makeDirectories mode (q :: above)) := by
  -- induction on the paths above: what is missing above is made in the same way
  induction above generalizing q ns with
  | nil =>
      rintro d e h ⟨⟩ d' hrun
      rcases (runFrom_makeDirectories_eq_ok (hq.ne_nil hne)).mp hrun with ⟨hthere, hmade⟩ | ⟨-, _, hnothing, -⟩
      · obtain ⟨e', hrun', h'⟩ := h.makeDirectories_eq hq hne hthere hmade
        exact ⟨(), e', hrun', h', rfl⟩
      · cases hnothing
  | cons r above ih =>
      rintro d e h ⟨⟩ d' hrun
      rcases (runFrom_makeDirectories_eq_ok (hq.ne_nil hne)).mp hrun with ⟨hthere, hmade⟩ | ⟨hmissing, d₁, hfirst, hmade⟩
      · obtain ⟨e', hrun', h'⟩ := h.makeDirectories_eq hq hne hthere hmade
        exact ⟨(), e', hrun', h', rfl⟩
      · have hmissing' := (h.makeDirectory_eq_error_iff hq hne _).mpr hmissing
        rcases habove r (by simp) with ⟨hfront, habs⟩ | ⟨ms, hms, hr⟩
        · -- nothing is made on the way to the destination, so `q` is still missing
          obtain ⟨rfl, -⟩ := h.leads_both.eq_of_makeDirectories hfront habs hfirst
          rcases hmade with hok | ⟨-, hdir, -⟩
          · rw [hmissing] at hok
            cases hok
          · obtain ⟨l, hl⟩ := isDirectory_iff.mp hdir
            obtain ⟨c, herror, hc⟩ := hl.makeDirectory_eq_error List.prefix_rfl (fun _ => rfl) (hq.ne_nil hne) mode
            rw [hmissing] at herror
            exact absurd (Except.error.inj herror).symm hc
        · have hrest := ih hr hms fun r' hr' => habove r' (List.mem_cons_of_mem _ hr')
          obtain ⟨⟨⟩, e₁, hfirst', h₁, -⟩ := hrest d e h () d₁ hfirst
          obtain ⟨e', hmade', h'⟩ := h₁.made_eq hq hne hmade
          have hrun' := (runFrom_makeDirectories_eq_ok (hq.ne_nil hne)).mpr (.inr ⟨hmissing', e₁, hfirst', hmade'⟩)
          exact ⟨(), e', hrun', h', rfl⟩

/-- The directories above the path that are missing are made on both disks; where the way to the destination is spelled,
they are there on both. -/
theorem mirrors_makeDirectoryTree (hq : Path.Behind allowed dest ns q) :
    Mirrors (Restricts allowed dest top) Eq (makeDirectoryTree q mode) (makeDirectoryTree q mode) := by
  by_cases hne : ns = []
  · -- the destination itself, which is there
    rintro d e h ⟨⟩ d' hrun
    have hnames : q.names = dest.names := by rw [hq.names, hne, List.append_nil]
    obtain ⟨rfl, hdir⟩ := h.leads_both.eq_of_makeDirectories (hnames ▸ List.prefix_rfl) hq.isAbsolute hrun
    by_cases hempty : q.bytes = []
    · refine ⟨(), e, ?_, h, rfl⟩
      rw [makeDirectoryTree, makeDirectories, if_pos (by simp [hempty])]
      rfl
    · obtain ⟨l, hl⟩ := isDirectory_iff.mp (hdir hempty)
      have hdots : dest.names = q.names ++ [] := by rw [List.append_nil, hnames]
      have hthere := h.leads.of_dots hdots (by simp) (leadsTo_iff.mp hl).1 (hq.isAbsolute hempty)
      exact ⟨(), e, hthere.runFrom_makeDirectories, h, rfl⟩
  · refine mirrors_makeDirectories hq hne fun r hr => ?_
    have hr : Path.Along dest ns r := hq.along.mem_parents hr
    rcases hr.front_or_behind with hfront | ⟨ms, hms, hpre, hnames⟩
    · exact .inl ⟨hfront, hr.isAbsolute⟩
    · exact .inr ⟨ms, hms, hq.upTo hpre hnames hr.isAbsolute⟩

/-- The mode of what an allowed path leads to is set on both disks, or on neither. -/
theorem mirrors_pinMode (hq : Path.Behind allowed dest ns q) :
    Mirrors (Restricts allowed dest top) Eq (pinMode q mode) (pinMode q mode) := by
  rw [pinMode_none]
  exact (mirrors_change fun _ _ _ h hset => h.setMode_eq hq hset).during _

/-- A directory behind an allowed name, with those above it, is made on both disks. -/
theorem mirrors_createDirectory (hq : Path.Behind allowed dest ns q) :
    Mirrors (Restricts allowed dest top) Eq (createDirectory q mode) (createDirectory q mode) :=
  ((mirrors_makeDirectoryTree hq).during _).bind fun _ _ _ => mirrors_pinMode hq

/-- Opening a file and storing its content are two changes of one kind. -/
theorem mirrors_putFile (hq : Path.Behind allowed dest ns q) (hne : ns ≠ []) (activity : Activity) :
    Mirrors (Restricts allowed dest top) Eq (during activity (change (·.putFile q mode content)))
      (during activity (change (·.putFile q mode content))) :=
  (mirrors_change fun _ _ _ h hput => h.putFile_eq hq hne hput).during _

theorem mirrors_fillFile (hq : Path.Behind allowed dest ns q) (hne : ns ≠ []) :
    Mirrors (Restricts allowed dest top) Eq (fillFile q content mode) (fillFile q content mode) := by
  rw [fillFile, storeContent_none]
  exact (mirrors_putFile hq hne _).bind fun _ _ _ => mirrors_pinMode hq

/-- The directories above a file are missing on both disks or on neither. They are behind the name, or they are part of
the destination and not missing. -/
theorem mirrors_ensureParent {n : List UInt8} (hq : Path.Behind allowed dest (ns ++ [n]) q) :
    Mirrors (Restricts allowed dest top) Eq (ensureParent q) (ensureParent q) := by
  rintro d e h ⟨⟩ d' hrun
  -- where the path above leads somewhere on both disks, both of them stay as they are
  have hstays : (∀ r, q.parent? = some r → r.bytes = [] ∨ d.leadsSomewhere r = true ∧ e.leadsSomewhere r = true) →
      ∃ b e', runFrom (ensureParent q) e = (.ok b, e') ∧ Restricts allowed dest top d' e' ∧ () = b := by
    intro hthere
    rw [ensureParent_of_leadsSomewhere fun r hr => (hthere r hr).imp_right And.left] at hrun
    cases hrun
    exact ⟨(), e, ensureParent_of_leadsSomewhere fun r hr => (hthere r hr).imp_right And.right, h, rfl⟩
  cases hparent : q.parent? with
  | none => exact hstays fun r hr => absurd (hparent.symm.trans hr) (by simp)
  | some r =>
      have hone := fun hr => hstays fun x hx => Option.some.inj (hparent.symm.trans hx) ▸ hr
      by_cases hempty : r.bytes = []
      · exact hone (.inl hempty)
      · rcases (hq.parent? hparent).resolve_left hempty with hbehind | ⟨dots, hnames, hdots⟩
        · by_cases hthere : d.leadsSomewhere r = true
          · exact hone (.inr ⟨hthere, (h.leadsSomewhere_eq hbehind).trans hthere⟩)
          · have hmakes : ∀ {x : Disk}, x.leadsSomewhere r = false → runFrom (ensureParent q) x =
                runFrom (during (.createDirectory r) (makeDirectoryTree r parentMode)) x := by
              intro x hx
              simp [ensureParent, hparent, hempty, hx]
            have hmissing : d.leadsSomewhere r = false := by simpa using hthere
            rw [hmakes hmissing] at hrun
            rw [hmakes ((h.leadsSomewhere_eq hbehind).trans hmissing)]
            exact (mirrors_makeDirectoryTree hbehind).during _ d e h () d' hrun
        · -- the destination itself, which is there on both disks if its path can be looked at
          have husable := isUsable_of_leadsSomewhere ((leadsSomewhere_of_ensureParent hrun r hparent).resolve_left hempty)
          have habs : r.isAbsolute = dest.isAbsolute := (hq.along.parent? hparent).isAbsolute hempty
          have hthere : ∀ {x : Disk}, x.LeadsTo dest top → x.leadsSomewhere r = true := fun hx =>
            leadsSomewhere_of_isDirectory (isDirectory_iff.mpr ⟨top, hx.of_dots hnames hdots husable habs⟩)
          exact hone (.inr ⟨hthere h.leads_both, hthere h.leads⟩)

/-- A file behind an allowed name that is written on the first disk is written on the second. A name is needed: the
destination is no file. -/
theorem mirrors_writeFile (hq : Path.Behind allowed dest ns q) :
    Mirrors (Restricts allowed dest top) Eq (writeFile q content mode) (writeFile q content mode) := by
  rcases List.eq_nil_or_concat ns with hempty | ⟨front, n, rfl⟩
  · -- the destination is no file
    rintro d e h ⟨⟩ d' hrun
    exact absurd hempty (placedAt_of_writeFile h.isClear hq.plain hq.along hq.names h.leads_both hrun).1
  · rw [List.concat_eq_append] at hq
    exact (mirrors_ensureParent hq).bind fun _ _ _ =>
      (mirrors_putFile hq (by simp) _).bind fun _ _ _ => mirrors_fillFile hq (by simp)

end Actions

end Allowed

/-! ## Behind another name

What is set on the first disk there, the second one may do without: `kept` and `dropped` do not speak of it. -/

section Other

open Effect Bootstrap.Action

variable {n : List UInt8} {more : List (List UInt8)} {mode : Nat} {content : List UInt8}
  (hq : Path.Along dest (n :: more) q) (hplain : ∀ m ∈ n :: more, Path.IsPlain m)

include hq hplain

/-- A path behind another name leads below this name, since no link stands on the way. -/
theorem location_eq (hnames : q.names = dest.names ++ n :: more) (h : Restricts allowed dest top d e) {last : LastLink}
    {spot : Spot} (hwalk : d.walk last q = .ok spot) : spot.location = top ++ n :: more := by
  obtain ⟨front, x, hsplit, rfl, -⟩ :=
    h.leads_both.straight hnames hq.isAbsolute hplain h.isClear (by simp) hwalk
  rw [hsplit, Spot.location, List.append_assoc]

variable (hn : n ∉ allowed)

include hn

/-- What is made along the path on the first disk is made behind the name, which the second run passes over. -/
theorem set_of_isFree {last : LastLink} {parent : Location} {m : List UInt8} {slash : Bool}
    (h : Restricts allowed dest top d e) (hfree : d.IsFree last q parent m slash) (ho : ∀ target, o ≠ .link target) :
    Restricts allowed dest top (d.set (parent ++ [m]) o) e := by
  rcases h.leads_both.isPassage_or_straight hq hplain h.isClear hfree.walk with ⟨o, hget, -⟩ | hstraight
  · rw [hfree.free] at hget
    cases hget
  · obtain ⟨front, x, hpre, -, hspot, -⟩ := hstraight
    cases hspot
    rw [List.append_assoc]
    rcases List.prefix_cons_iff.mp hpre with hnil | ⟨rest, hrest, -⟩
    · exact absurd hnil (by simp)
    · rw [hrest]
      exact h.set_left hn ho

/-- A directory that is made behind another name is none of the second disk. -/
theorem keeps_makeDirectory (d d' : Disk) (h : Restricts allowed dest top d e) (hmake : d.makeDirectory q mode = .ok d') :
    Restricts allowed dest top d' e := by
  obtain ⟨parent, m, slash, hfree, rfl⟩ := makeDirectory_eq_ok hmake
  exact h.set_of_isFree hq hplain hn hfree (by simp)

variable (hnames : q.names = dest.names ++ n :: more)

include hnames

/-- A mode that is set behind another name is that of nothing on the second disk. -/
theorem keeps_setMode (d d' : Disk) (h : Restricts allowed dest top d e) (hset : d.setMode q mode = .ok d') :
    Restricts allowed dest top d' e := by
  obtain ⟨l, ⟨old, hstatus, rfl⟩ | ⟨old, content, hstatus, rfl⟩⟩ := setMode_eq_ok hset
  all_goals
    obtain ⟨spot, hwalk, rfl, -⟩ := find_eq_ok hstatus
    rw [h.location_eq hq hplain hnames hwalk]
    exact h.set_left hn (by simp)

/-- A file that is put behind another name is none of the second disk. -/
theorem keeps_putFile (d d' : Disk) (h : Restricts allowed dest top d e) (hput : d.putFile q mode content = .ok d') :
    Restricts allowed dest top d' e := by
  obtain ⟨parent, m, ⟨hfree, rfl⟩ | ⟨old, _, hwalk, -, rfl⟩⟩ := putFile_eq_ok hput
  · exact h.set_of_isFree hq hplain hn hfree (by simp)
  · have hloc : parent ++ [m] = top ++ n :: more := h.location_eq hq hplain hnames hwalk
    rw [hloc]
    exact h.set_left hn (by simp)

/-- A directory with all those above it: each of them stands behind the same other name. -/
theorem keeps_createDirectory : Keeps (fun d => Restricts allowed dest top d e) (createDirectory q mode) :=
  Action.keeps_createDirectory (fun _ hr => keeps_makeDirectory (hq.mem_self_parents hr) hplain hn)
    (keeps_setMode hq hplain hn hnames)

/-- Writing a file behind another name does not concern the second disk, whether it succeeds or not. -/
theorem keeps_writeFile : Keeps (fun d => Restricts allowed dest top d e) (writeFile q content mode) :=
  Action.keeps_writeFile
    (fun _ hparent _ hr => keeps_makeDirectory ((hq.parent? hparent).mem_self_parents hr) hplain hn)
    (fun _ => keeps_putFile hq hplain hn hnames) (keeps_setMode hq hplain hn hnames)

end Other

end Restricts

end Disk

end Bootstrap
