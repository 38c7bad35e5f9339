import Bootstrap.Proofs.Disk.Presence

/-!
# The way to a place below a destination

Where no link stands on the way, `Disk.IsClear`, a walk below a destination goes straight on: it takes one name after the
other, each of which is a directory, `Disk.WalksTo.straight`. Then it can be said exactly what a file action does that does
not fail: it makes the directories that are missing on the way, `Disk.OpensWay`, and puts one object at the place itself,
`Disk.PlacedAt`.
-/

namespace Bootstrap

/-- An object, but of a directory without the set-group-ID bit, which it may have inherited. -/
def Object.ungrouped : Object → Object
  | .directory mode => .directory (mode - (mode &&& 0o2000))
  | o => o

/-- Only directories have the bit that is taken away here. -/
@[simp] theorem Object.isFile_ungrouped (o : Object) : o.ungrouped.isFile = o.isFile := by cases o <;> rfl

namespace Disk

/-- What stands at a location, but of a directory without the set-group-ID bit. -/
def ungrouped? (d : Disk) (l : Location) : Option Object := (d.get? l).map Object.ungrouped

theorem ungrouped?_of_get? {d : Disk} {l : Location} {o : Object} (h : d.get? l = some o) :
    d.ungrouped? l = some o.ungrouped := by
  rw [ungrouped?, h, Option.map_some]

/-- No link stands at a name on the way from `top` along `ns`. -/
def IsClear (d : Disk) (top : Location) (ns : List (List UInt8)) : Prop :=
  ∀ pre, pre ≠ [] → pre <+: ns → ∀ target, d.get? (top ++ pre) ≠ some (.link target)

/-- Every name on the way from `top` along `ns` is a directory. -/
def IsOpen (d : Disk) (top : Location) (ns : List (List UInt8)) : Prop :=
  ∀ pre, pre ≠ [] → pre <+: ns → d.isDirectoryAt (top ++ pre) = true

section Walking

variable {d : Disk} {top : Location} {ns ms : List (List UInt8)} {n : List UInt8}

theorem IsClear.mono (h : d.IsClear top ns) (hms : ms <+: ns) : d.IsClear top ms :=
  fun pre hne hpre => h pre hne (hpre.trans hms)

theorem IsClear.tail (h : d.IsClear top (n :: ns)) : d.IsClear (top ++ [n]) ns := by
  intro pre _ hpre target hget
  rw [List.append_assoc] at hget
  exact h (n :: pre) (by simp) (List.cons_prefix_cons.mpr ⟨rfl, hpre⟩) target hget

theorem isOpen_nil (d : Disk) (top : Location) : d.IsOpen top [] :=
  fun _ hne hpre => absurd (List.prefix_nil.mp hpre) hne

/-- A way is open if its first name is a directory and it is open from there. -/
theorem IsOpen.cons (h : d.IsOpen (top ++ [n]) ns) (hn : d.isDirectoryAt (top ++ [n]) = true) :
    d.IsOpen top (n :: ns) := by
  intro pre hne hpre
  rcases List.prefix_cons_iff.mp hpre with rfl | ⟨more, rfl, hmore⟩
  · exact absurd rfl hne
  · by_cases hempty : more = []
    · rw [hempty]
      exact hn
    · have hthere := h more hempty hmore
      rwa [List.append_assoc] at hthere

/-- An open way goes on through a directory at its end. -/
theorem IsOpen.concat (h : d.IsOpen top ns) (hn : d.isDirectoryAt (top ++ (ns ++ [n])) = true) :
    d.IsOpen top (ns ++ [n]) := by
  intro pre hne hpre
  rcases List.prefix_concat_iff.mp hpre with rfl | hpre
  · exact hn
  · exact h pre hne hpre

/-- Along plain names a walk that meets no link takes one name after the other. All names but the last are directories,
and the last one may be missing. -/
theorem WalksTo.straight {last : LastLink} {links : Nat} {slash : Bool} {spot : Spot}
    (h : WalksTo d last links top ms slash spot) (hplain : ∀ n ∈ ms, Path.IsPlain n) (hclear : d.IsClear top ms)
    (hne : ms ≠ []) : ∃ front n, ms = front ++ [n] ∧ spot = .name (top ++ front) n slash ∧ d.IsOpen top front := by
  -- along the walk: a plain name is neither dot nor link, which leaves two steps
  induction h with
  | nil => exact absurd rfl hne
  | dot => exact absurd rfl (hplain Path.dot (by simp)).ne_dot
  | dotDot => exact absurd rfl (hplain Path.dotDot (by simp)).ne_dotDot
  | passDot => exact absurd rfl (hplain Path.dot (by simp)).ne_dot
  | passDotDot => exact absurd rfl (hplain Path.dotDot (by simp)).ne_dotDot
  | @name links current slash n _ _ => exact ⟨[], n, rfl, by rw [List.append_nil], isOpen_nil d current⟩
  | @pass links current rest slash spot n mode _ hrest hdir _ ih =>
      obtain ⟨front, m, rfl, rfl, hopen⟩ :=
        ih (fun x hx => hplain x (List.mem_cons_of_mem _ hx)) hclear.tail hrest
      have hn : d.isDirectoryAt (current ++ [n]) = true := by
        rw [isDirectoryAt, hdir]
        rfl
      exact ⟨n :: front, m, rfl, by rw [List.append_assoc]; rfl, hopen.cons hn⟩
  | @follow links current rest slash spot n target _ hget _ _ _ =>
      exact absurd hget (hclear [n] (by simp) (by simp) target)

variable {dest q : Path} {last : LastLink} {spot : Spot}

/-- Behind the destination a walk goes straight on. -/
theorem LeadsTo.straight (hdest : d.LeadsTo dest top) (hnames : q.names = dest.names ++ ms)
    (habs : q.bytes ≠ [] → q.isAbsolute = dest.isAbsolute) (hplain : ∀ n ∈ ms, Path.IsPlain n)
    (hclear : d.IsClear top ms) (hne : ms ≠ []) (hwalk : d.walk last q = .ok spot) :
    ∃ front n, ms = front ++ [n] ∧ spot = .name (top ++ front) n q.endsInSlash ∧ d.IsOpen top front := by
  obtain ⟨left, hrest⟩ := hdest.walksTo_behind hnames hne habs hwalk
  exact hrest.straight hplain hclear hne

/-- A walk along a written path ends where nothing can be made, or it goes straight on behind the destination. In the
second case its place is spelled by the path. -/
theorem LeadsTo.isPassage_or_straight (hdest : d.LeadsTo dest top) (hq : Path.Along dest ns q)
    (hplain : ∀ n ∈ ns, Path.IsPlain n) (hclear : d.IsClear top ns) (hwalk : d.walk last q = .ok spot) :
    d.IsPassage spot ∨ ∃ front n, front ++ [n] <+: ns ∧ q.names = dest.names ++ (front ++ [n]) ∧
      spot = .name (top ++ front) n q.endsInSlash ∧ d.IsOpen top front := by
  rcases hq.front_or_behind with hfront | ⟨ms, hms, hpre, hnames⟩
  · exact .inl (hdest.isPassage hfront hq.isAbsolute hwalk)
  · obtain ⟨front, n, rfl, hspot, hopen⟩ := hdest.straight hnames hq.isAbsolute
      (fun x hx => hplain x (hpre.subset hx)) (hclear.mono hpre) hms hwalk
    exact .inr ⟨front, n, hpre, hnames, hspot, hopen⟩

end Walking

/-! ## Directories on the way -/

/-- But for the bit that they inherit, directories on the way to a file have one mode. -/
theorem ungrouped_newDirectoryMode (above : Nat) :
    (Object.directory (newDirectoryMode above parentMode)).ungrouped = .directory parentMode := by
  rw [newDirectoryMode_eq]
  cases above.testBit 10 <;> decide

/-- Since `d₀` nothing changed but names on the way from `top` along `ns`: where nothing or a directory stood, there may now
be a directory as they are made on the way to a file. -/
structure OpensWay (d₀ : Disk) (dest : Path) (top : Location) (ns : List (List UInt8)) (d : Disk) : Prop where
  leads : d.LeadsTo dest top
  same : ∀ l, d.get? l = d₀.get? l ∨
    (∃ pre, pre ≠ [] ∧ pre <+: ns ∧ l = top ++ pre) ∧ (∀ o, d₀.get? l = some o → o.isDirectory = true) ∧
      ∃ mode, d.get? l = some (.directory mode) ∧ (Object.directory mode).ungrouped = .directory parentMode

/-- Since `d₀` the way from `top` along `ns` was opened, and then `o` was put at its end. -/
def PlacedAt (d₀ : Disk) (dest : Path) (top : Location) (ns : List (List UInt8)) (o : Object) (d : Disk) : Prop :=
  ∃ d₁, OpensWay d₀ dest top ns d₁ ∧
    (∀ pre, pre ≠ [] → pre <+: ns → pre ≠ ns → d₁.isDirectoryAt (top ++ pre) = true) ∧
    d₁.Admits (top ++ ns) o ∧ d = d₁.set (top ++ ns) o

namespace OpensWay

open Effect Bootstrap.Action

variable {d₀ d d' : Disk} {dest q : Path} {top : Location} {ns ms : List (List UInt8)}

theorem start (hdest : d.LeadsTo dest top) : OpensWay d dest top ns d := ⟨hdest, fun _ => .inl rfl⟩

/-- Opening the way makes no links on it. -/
theorem clear (h : OpensWay d₀ dest top ns d) (hclear : d₀.IsClear top ns) : d.IsClear top ns := by
  intro pre hne hpre target hget
  rcases h.same (top ++ pre) with hsame | ⟨-, -, _, hdir, -⟩
  · exact hclear pre hne hpre target (hsame ▸ hget)
  · rw [hget] at hdir
    cases hdir

/-- A directory on the way, where nothing or a directory is: setting it opens the way up to there, or keeps it open. -/
theorem set {mode : Nat} (h : OpensWay d₀ dest top ns d) (hne : ms ≠ []) (hms : ms <+: ns)
    (hmode : (Object.directory mode).ungrouped = .directory parentMode) (hadm : d.Admits (top ++ ms) (.directory mode))
    (hold : ∀ o, d.get? (top ++ ms) = some o → o.isDirectory = true) :
    OpensWay d₀ dest top ns (d.set (top ++ ms) (.directory mode)) where
  leads := h.leads.carry hadm.carries
  same l := by
    rw [get?_set]
    split
    · next hl =>
      refine .inr ⟨⟨ms, hne, hms, hl⟩, fun o hget => ?_, mode, rfl, hmode⟩
      rcases h.same l with hsame | ⟨-, hdir, -⟩
      · exact hold o (by rw [← hl, hsame, hget])
      · exact hdir o hget
    · exact h.same l

variable (hclear : d₀.IsClear top ns) (hplain : ∀ n ∈ ns, Path.IsPlain n)

include hclear hplain

/-- A directory that is made on the way opens it by one name; one above the destination cannot be made, it is there. -/
theorem makeDirectory (hq : Path.Along dest ns q) (d d' : Disk) (h : OpensWay d₀ dest top ns d)
    (hmake : d.makeDirectory q parentMode = .ok d') : OpensWay d₀ dest top ns d' := by
  obtain ⟨parent, n, slash, hfree, rfl⟩ := makeDirectory_eq_ok hmake
  rcases h.leads.isPassage_or_straight hq hplain (h.clear hclear) hfree.walk with ⟨o, hget, -⟩ | hstraight
  · rw [hfree.free] at hget
    cases hget
  · obtain ⟨front, m, hpre, -, hspot, -⟩ := hstraight
    cases hspot
    have hadm := hfree.admits (.directory (newDirectoryMode (d.modeAt (top ++ front)) parentMode))
    have hfree := hfree.free
    rw [List.append_assoc] at hadm hfree ⊢
    refine h.set (by simp) hpre (ungrouped_newDirectoryMode _) hadm fun o hget => ?_
    rw [hfree] at hget
    cases hget

/-- All directories that may be made for a path along the way stand on the way. -/
theorem keeps_makeDirectoryTree (hq : Path.Along dest ns q) :
    Keeps (OpensWay d₀ dest top ns) (makeDirectoryTree q parentMode) :=
  Action.keeps_makeDirectoryTree fun _ hr => makeDirectory hclear hplain (hq.mem_self_parents hr)

/-- A directory on the way that was made: all above it are directories, and its mode is set. Nothing else on the disk
has changed. -/
theorem of_createDirectory (hq : Path.Along dest ns q) (hnames : q.names = dest.names ++ ms) (hms : ms <+: ns)
    (h : OpensWay d₀ dest top ns d) (hrun : runFrom (createDirectory q parentMode) d = (.ok (), d')) :
    ∃ d₁, OpensWay d₀ dest top ns d₁ ∧ d₁.IsOpen top ms ∧ (∃ mode, d₁.get? (top ++ ms) = some (.directory mode)) ∧
      d' = d₁.set (top ++ ms) (.directory parentMode) := by
  obtain ⟨⟨⟩, d₁, hmake, hset⟩ := exists_of_runFrom_bind hrun
  rw [runFrom_during_eq_ok] at hmake
  have h₁ : OpensWay d₀ dest top ns d₁ := (keeps_makeDirectoryTree hclear hplain hq).of_runFrom hmake h
  obtain ⟨l, old, hstatus, rfl⟩ := setMode_of_makeDirectories hmake (setMode_of_pinMode hset)
  obtain ⟨spot, hwalk, rfl, hget⟩ := find_eq_ok hstatus
  refine ⟨d₁, h₁, ?_⟩
  by_cases hne : ms = []
  · -- the destination itself
    subst hne
    rw [List.append_nil] at hnames
    rw [h₁.leads.location_eq hnames hq.isAbsolute hwalk] at hget ⊢
    rw [List.append_nil]
    exact ⟨isOpen_nil _ _, ⟨old, hget⟩, rfl⟩
  · obtain ⟨front, n, rfl, rfl, hopen⟩ := h₁.leads.straight hnames hq.isAbsolute
      (fun x hx => hplain x (hms.subset hx)) ((h₁.clear hclear).mono hms) hne hwalk
    rw [Spot.location, List.append_assoc] at hget ⊢
    refine ⟨hopen.concat ?_, ⟨old, hget⟩, rfl⟩
    rw [isDirectoryAt, hget]
    rfl

end OpensWay

/-! ## What is placed -/

section Placing

open Effect Bootstrap.Action

variable {d d' : Disk} {dest q : Path} {top : Location} {ns : List (List UInt8)}
  (hclear : d.IsClear top ns) (hplain : ∀ n ∈ ns, Path.IsPlain n) (hq : Path.Along dest ns q)
  (hnames : q.names = dest.names ++ ns)

include hclear hplain hq hnames

/-- A directory is placed at its names, and the way to it was opened. -/
theorem placedAt_of_createDirectory (hdest : d.LeadsTo dest top)
    (hrun : runFrom (createDirectory q parentMode) d = (.ok (), d')) :
    PlacedAt d dest top ns (.directory parentMode) d' := by
  obtain ⟨d₁, h₁, hopen, ⟨mode, hget⟩, rfl⟩ :=
    OpensWay.of_createDirectory hclear hplain hq hnames List.prefix_rfl (.start hdest) hrun
  exact ⟨d₁, h₁, fun pre hne hpre _ => hopen pre hne hpre, .remode hget, rfl⟩

/-- What is set where a walk ends, and is no passage, is placed at the end of the way. With the way open in front of it,
the walk can only have ended there. -/
theorem OpensWay.placedAt {d₁ : Disk} {last : LastLink} {parent : Location} {n : List UInt8} {slash : Bool} {o : Object}
    (h₁ : OpensWay d dest top ns d₁) (hwalk : d₁.walk last q = .ok (.name parent n slash))
    (hadm : d₁.Admits (parent ++ [n]) o) (hnot : ¬ d₁.IsPassage (.name parent n slash)) :
    ns ≠ [] ∧ PlacedAt d dest top ns o (d₁.set (parent ++ [n]) o) := by
  rcases h₁.leads.isPassage_or_straight hq hplain (h₁.clear hclear) hwalk with hpassage | hstraight
  · exact absurd hpassage hnot
  · obtain ⟨front, m, -, hnames', hspot, hopen⟩ := hstraight
    cases hspot
    rw [hnames] at hnames'
    obtain rfl := List.append_cancel_left hnames'
    rw [List.append_assoc] at hadm ⊢
    refine ⟨by simp, d₁, h₁, fun pre hne hpre hproper => ?_, hadm, rfl⟩
    rcases List.prefix_concat_iff.mp hpre with rfl | hpre
    · exact absurd rfl hproper
    · exact hopen pre hne hpre

/-- So is a file that was written. It has at least one name, since the destination is a directory and no file can be put
there. -/
theorem placedAt_of_writeFile {content : List UInt8} {mode : Nat} (hdest : d.LeadsTo dest top)
    (hrun : runFrom (writeFile q content mode) d = (.ok (), d')) :
    ns ≠ [] ∧ PlacedAt d dest top ns (.file (mode &&& 0o7777) content) d' := by
  obtain ⟨⟨⟩, d₁, hensure, -⟩ := exists_of_runFrom_bind hrun
  have h₁ : OpensWay d dest top ns d₁ := by
    have hkeeps : Keeps (OpensWay d dest top ns) (ensureParent q) :=
      keeps_ensureParent fun _ hparent _ hr =>
        OpensWay.makeDirectory hclear hplain ((hq.parent? hparent).mem_self_parents hr)
    exact hkeeps.of_runFrom hensure (.start hdest)
  obtain ⟨c, hfails⟩ | ⟨parent, n, hopens, hwritten | ⟨e, left, fileMode, -, -, hfails⟩⟩ :=
    writeFile_cases hensure content mode .none
  · rw [hrun] at hfails
    cases hfails
  · rw [hrun] at hwritten
    cases hwritten
    refine h₁.placedAt hclear hplain hq hnames hopens.walk (hopens.admits _ _) fun ⟨o, hget, hfile⟩ => ?_
    -- a file is no passage
    have heq := (hopens.admits 0 []).isFile_eq hget
    rw [hfile] at heq
    cases heq
  · rw [hrun] at hfails
    cases hfails

/-- A link is placed where nothing stands, once there is a directory for it. -/
theorem placedAt_of_createLink {d₁ : Disk} {target : Path} (h₁ : OpensWay d dest top ns d₁)
    (hrun : runFrom (createLink q target) d₁ = (.ok (), d')) : ns ≠ [] ∧ PlacedAt d dest top ns (.link target) d' := by
  obtain ⟨parent, n, hfree, rfl⟩ := addLink_eq_ok (runFrom_change_eq_ok.mp hrun)
  refine h₁.placedAt hclear hplain hq hnames hfree.walk (hfree.admits _) fun ⟨o, hget, _⟩ => ?_
  rw [hfree.free] at hget
  cases hget

end Placing

namespace PlacedAt

variable {d₀ d : Disk} {dest : Path} {top : Location} {ns ms : List (List UInt8)} {o x : Object}

theorem leads (h : PlacedAt d₀ dest top ns o d) : d.LeadsTo dest top := by
  obtain ⟨d₁, h₁, -, hadm, rfl⟩ := h
  exact h₁.leads.carry hadm.carries

/-- What stood at the place was of the same kind. -/
theorem old (h : PlacedAt d₀ dest top ns o d) (hget : d₀.get? (top ++ ns) = some x) :
    x.isFile = true ∧ o.isFile = true ∨ x.isDirectory = true ∧ o.isDirectory = true := by
  obtain ⟨d₁, h₁, -, hadm, -⟩ := h
  have hsame := h₁.same (top ++ ns)
  generalize top ++ ns = l at hget hadm hsame
  -- what stood there stands there still, or it is a directory and was one
  have hthere : d₁.get? l = some x ∨ x.isDirectory = true ∧ ∃ mode, d₁.get? l = some (.directory mode) := by
    rcases hsame with hsame | ⟨-, hold, mode, hnew, -⟩
    · exact .inl (hsame.trans hget)
    · exact .inr ⟨hold x hget, mode, hnew⟩
  rcases hthere with hthere | ⟨hx, _, hthere⟩
  · cases hadm with
    | create free _ => rw [free] at hthere; cases hthere
    | rewrite was => rw [was] at hthere; cases hthere; exact .inl ⟨rfl, rfl⟩
    | remode was => rw [was] at hthere; cases hthere; exact .inr ⟨rfl, rfl⟩
  · cases hadm with
    | create free _ => rw [free] at hthere; cases hthere
    | rewrite was => rw [was] at hthere; cases hthere
    | remode _ => exact .inr ⟨hx, rfl⟩

/-- On the way to the place nothing or a directory stood. A link there would have covered the item, and a file would
have made the step fail. -/
theorem above (h : PlacedAt d₀ dest top ns o d) (hne : ms ≠ []) (hpre : ms <+: ns) (hproper : ms ≠ ns)
    (hget : d₀.get? (top ++ ms) = some x) : x.isDirectory = true := by
  obtain ⟨d₁, h₁, hopen, -, -⟩ := h
  obtain ⟨mode, hdir⟩ := eq_directory_of_isDirectoryAt (hopen ms hne hpre hproper)
  rcases h₁.same (top ++ ms) with hsame | ⟨-, hold, -⟩
  · rw [hsame, hget] at hdir
    cases hdir
    rfl
  · exact hold x hget

/-- What does not stand on the way to the placed object is as it was before. -/
theorem get?_of_not_above (h : PlacedAt d₀ dest top ns o d) (hpre : ¬ ms <+: ns) :
    d.get? (top ++ ms) = d₀.get? (top ++ ms) := by
  obtain ⟨d₁, h₁, -, -, rfl⟩ := h
  have hne : top ++ ms ≠ top ++ ns := by
    intro heq
    obtain rfl := List.append_cancel_left heq
    exact hpre List.prefix_rfl
  rw [get?_set, if_neg hne]
  rcases h₁.same (top ++ ms) with hsame | ⟨⟨pre, -, hpre', hl⟩, -⟩
  · exact hsame
  · exact absurd (List.append_cancel_left hl ▸ hpre') hpre

/-- **Everything below the destination after something was placed**, if the directories there have the mode that missing
ones get. Whether they have the set-group-ID bit too depends on the directory above and is left open. -/
theorem ungrouped?_iff (h : PlacedAt d₀ dest top ns o d)
    (hmodes : ∀ ms mode, ms ≠ [] → d₀.get? (top ++ ms) = some (.directory mode) →
      (Object.directory mode).ungrouped = .directory parentMode) (hne : ms ≠ []) :
    d.ungrouped? (top ++ ms) = some x ↔
      ms = ns ∧ x = o.ungrouped ∨ (ms <+: ns ∧ ms ≠ ns) ∧ x = .directory parentMode ∨
        ¬ ms <+: ns ∧ d₀.ungrouped? (top ++ ms) = some x := by
  unfold ungrouped?
  by_cases hpre : ms <+: ns
  · obtain ⟨d₁, h₁, hopen, -, rfl⟩ := h
    rw [get?_set]
    by_cases heq : ms = ns
    · subst heq
      simp [eq_comm]
    · -- a directory on the way, be it that it was made
      rw [if_neg fun h => heq (List.append_cancel_left h)]
      obtain ⟨mode, hdir⟩ := eq_directory_of_isDirectoryAt (hopen ms hne hpre heq)
      have hmode : (Object.directory mode).ungrouped = .directory parentMode := by
        rcases h₁.same (top ++ ms) with hsame | ⟨-, -, mode', hnew, hmode'⟩
        · exact hmodes ms mode hne (hsame ▸ hdir)
        · rw [hnew] at hdir
          cases hdir
          exact hmode'
      simp [heq, hpre, hdir, hmode, eq_comm]
  · have heq : ms ≠ ns := fun heq => hpre (heq ▸ List.prefix_rfl)
    simp [heq, hpre, h.get?_of_not_above hpre]

/-- What stood below the destination stands there still, unless it was a file and was replaced by one. A directory is only
replaced by a directory, and all of them have the mode that missing ones get. -/
theorem ungrouped?_of_old (h : PlacedAt d₀ dest top ns o d)
    (hmodes : ∀ ms mode, ms ≠ [] → d₀.get? (top ++ ms) = some (.directory mode) →
      (Object.directory mode).ungrouped = .directory parentMode)
    (hmode : ∀ mode, o = .directory mode → mode = parentMode) (hne : ms ≠ [])
    (hview : d₀.ungrouped? (top ++ ms) = some x) (hfile : ms = ns → x.isFile = true → o.isFile = false) :
    d.ungrouped? (top ++ ms) = some x := by
  rw [h.ungrouped?_iff hmodes hne]
  by_cases hpre : ms <+: ns
  · obtain ⟨y, hget, rfl⟩ := Option.map_eq_some_iff.mp hview
    by_cases heq : ms = ns
    · subst heq
      rcases h.old hget with ⟨hy, ho⟩ | ⟨hy, ho⟩
      · rw [hfile rfl (by rw [Object.isFile_ungrouped, hy])] at ho
        cases ho
      · obtain ⟨mode, rfl⟩ := Object.eq_directory_of_isDirectory hy
        obtain ⟨mode', rfl⟩ := Object.eq_directory_of_isDirectory ho
        rw [hmodes ms mode hne hget, hmode mode' rfl]
        exact .inl ⟨rfl, rfl⟩
    · obtain ⟨mode, rfl⟩ := Object.eq_directory_of_isDirectory (h.above hne hpre heq hget)
      exact .inr (.inl ⟨⟨hpre, heq⟩, hmodes ms mode hne hget⟩)
  · exact .inr (.inr ⟨hpre, hview⟩)

end PlacedAt

end Disk

end Bootstrap
