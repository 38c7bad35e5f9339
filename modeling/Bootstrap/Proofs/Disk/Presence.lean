import Bootstrap.Proofs.Disk.Growth

/-!
# What stands at a path

What an action made can be found at its path, and it is still found there on every disk that has grown since.

* `Disk.Grows.find` — whatever a path led to, it goes on leading there as long as nothing is lost.
* `Action.leadsSomewhere_of_writeFile`, `Action.isDirectory_of_createDirectory` — a path at which something was written
  leads somewhere.
* `Disk.IsTaken` — where something stands, be it a link that leads nowhere, a new file is not written:
  `Action.writeNewFile_of_isTaken`. Behind every such attempt the path is taken, `Action.isTaken_of_writeNewFile`.
-/

namespace Bootstrap

/-- A path that ends in a plain name, with no slash behind it. -/
structure Path.EndsInName (p : Path) : Prop where
  names : ∃ front n, p.names = front ++ [n] ∧ IsPlain n
  noSlash : p.endsInSlash = false

/-- A plain name that is joined to a path is what the longer path ends in. This is how every artifact of an install is
spelled. -/
theorem Path.endsInName_joinText (p : Path) {name : String} (h : IsPlain (Text.encode name)) :
    (p.joinText name).EndsInName where
  names := ⟨p.names, Text.encode name, names_joinText h, h⟩
  noSlash := by
    have hlast : ∀ front : List UInt8, (⟨front ++ Text.encode name⟩ : Path).endsInSlash = false := by
      intro front
      have hne : (Text.encode name).getLast h.ne_nil ≠ slash := fun heq => h.noSlash (heq ▸ List.getLast_mem h.ne_nil)
      simp [endsInSlash, List.getLast?_append, List.getLast?_eq_some_getLast h.ne_nil, hne]
    unfold joinText join ofText
    rw [h.isAbsolute, if_neg Bool.false_ne_true]
    split
    · exact hlast p.bytes
    · rw [← List.singleton_append, ← List.append_assoc]
      exact hlast (p.bytes ++ [slash])

theorem Path.EndsInName.ne_nil {p : Path} (hp : p.EndsInName) : p.bytes ≠ [] := by
  intro hnil
  obtain ⟨front, n, hnames, -⟩ := hp.names
  simp [Path.names, pieces, hnil] at hnames

/-- No slash stands at the end yet, so joining puts one in front of the name. -/
theorem Path.EndsInName.joinText_eq {p : Path} {name : String} (hp : p.EndsInName) (h : IsPlain (Text.encode name)) :
    p.joinText name = ⟨p.bytes ++ slash :: Text.encode name⟩ := by
  rw [joinText, join, ofText, h.isAbsolute, if_neg Bool.false_ne_true, if_neg (by simp [hp.ne_nil, hp.noSlash])]

/-- The path right above a name in a named directory is that of the directory. -/
theorem Path.parent?_joinText_joinText {p : Path} {g name : String} (hp : p.EndsInName) (hg : IsPlain (Text.encode g))
    (h : IsPlain (Text.encode name)) : ((p.joinText g).joinText name).parent? = some (p.joinText g) := by
  rw [(endsInName_joinText p hg).joinText_eq h, hp.joinText_eq hg]
  exact parent?_append_slash hp.ne_nil hg h

namespace Disk

variable {d d' : Disk} {p : Path} {last : LastLink} {spot : Spot} {l : Location} {o o' : Object}

/-! ## Paths on a disk that has grown -/

/-- What is found at a path: the object where the walk ends, which is a directory if a slash asks for one. This takes a
lookup apart into a walk and what stands at its end. -/
theorem find_eq_ok_iff :
    d.find last p = .ok (l, o) ↔ ∃ spot, d.walk last p = .ok spot ∧ l = spot.location ∧ d.get? l = some o ∧
      (o.isDirectory = true ∨ ∀ parent n, spot ≠ .name parent n true) := by
  unfold find
  constructor
  · intro h
    obtain ⟨spot, hwalk, h⟩ := exists_of_bind_eq_ok h
    refine ⟨spot, hwalk, ?_⟩
    -- what stands at the end of the walk: nothing, a directory, something with a slash behind it, or anything else
    split at h
    · cases h
    · next hget => cases h; exact ⟨rfl, hget, .inl rfl⟩
    · cases h
    · next hspot hget => cases h; exact ⟨rfl, by assumption, .inr hspot⟩
  · rintro ⟨spot, hwalk, rfl, hget, hkind⟩
    rw [hwalk]
    -- the same four cases, read from the other side
    simp only [bind, Except.bind, hget]
    split
    · next heq => cases heq
    · next heq => cases heq; rfl
    · next hnot heq =>
      cases heq
      rcases hkind with hdir | hspot
      · cases o with
        | directory mode => exact absurd rfl (hnot mode)
        | file mode content => cases hdir
        | link target => cases hdir
      · exact absurd rfl (hspot _ _)
    · next heq _ => cases heq; rfl

/-- A disk that has grown has the same directories and links, and more. -/
theorem Grows.carries (h : d.Grows d') : d.Carries d' where
  workingDirectory := h.workingDirectory
  directory l mode hget := ⟨mode, h.get? l _ hget⟩
  link l _ hget := h.get? l _ hget

/-- A walk that ends at something ends there wherever nothing is lost. New objects do not divert it, for every name on
its way was taken before. -/
theorem Grows.walk (h : d.Grows d') (hwalk : d.walk last p = .ok spot) (hget : d.get? spot.location = some o) :
    d'.walk last p = .ok spot := by
  obtain ⟨hp, hwalk⟩ := walk_eq_ok_iff.mp hwalk
  refine walk_eq_ok_iff.mpr ⟨hp, ?_⟩
  rw [h.workingDirectory]
  refine hwalk.carry h.carries fun target htarget => ?_
  rw [h.get? _ _ hget] at htarget
  rw [hget, htarget]

/-- What a path leads to, it leads to wherever nothing is lost. -/
theorem Grows.find (h : d.Grows d') (hfind : d.find last p = .ok (l, o)) : d'.find last p = .ok (l, o) := by
  obtain ⟨spot, hwalk, rfl, hget, hkind⟩ := find_eq_ok_iff.mp hfind
  exact find_eq_ok_iff.mpr ⟨spot, h.walk hwalk hget, rfl, h.get? _ _ hget, hkind⟩

/-- Something that was found was found. With `exists_of_isOk_find` this is how the tests of the model, which only say
whether, are opened. -/
theorem isOk_find (hfind : d.find last p = .ok (l, o)) : (d.find last p).isOk = true := by
  rw [hfind]
  rfl

/-- What is said to be found can be named. -/
theorem exists_of_isOk_find (h : (d.find last p).isOk = true) : ∃ l o, d.find last p = .ok (l, o) := by
  cases hfind : d.find last p with
  | ok x => exact ⟨x.1, x.2, rfl⟩
  | error c =>
      rw [hfind] at h
      cases h

/-- A path is occupied if something stands at it; the last link is not followed, so a link that leads nowhere counts. -/
theorem occupied_iff : d.occupied p = true ↔ ∃ l o, d.linkStatus p = .ok (l, o) :=
  ⟨exists_of_isOk_find, fun ⟨_, _, hstatus⟩ => isOk_find hstatus⟩

/-- What is found on a disk is found when the disk has grown. The three tests below ask for nothing else. -/
theorem Grows.isOk_find (h : d.Grows d') (hfind : (d.find last p).isOk = true) : (d'.find last p).isOk = true := by
  obtain ⟨l, o, hfind⟩ := exists_of_isOk_find hfind
  exact Disk.isOk_find (h.find hfind)

theorem Grows.leadsSomewhere (h : d.Grows d') (hp : d.leadsSomewhere p = true) : d'.leadsSomewhere p = true :=
  h.isOk_find hp

theorem Grows.occupied (h : d.Grows d') (hp : d.occupied p = true) : d'.occupied p = true := h.isOk_find hp

theorem Grows.isDirectory (h : d.Grows d') (hp : d.isDirectory p = true) : d'.isDirectory p = true := by
  obtain ⟨top, mode, hstatus⟩ := isDirectory_iff.mp hp
  exact isDirectory_iff.mpr ⟨top, mode, h.find hstatus⟩

/-- A file that a path leads to can be read: the modes of the model do not keep anyone from reading. -/
theorem readFile_of_status {mode : Nat} {content : List UInt8} (h : d.status p = .ok (l, .file mode content)) :
    d.readFile p = .ok content := by
  rw [readFile, h]
  rfl

/-- A file that can be read is read with the same content when the disk has grown. -/
theorem Grows.readFile {content : List UInt8} (h : d.Grows d') (hread : d.readFile p = .ok content) :
    d'.readFile p = .ok content := by
  unfold Disk.readFile at hread ⊢
  obtain ⟨⟨l, o⟩, hstatus, hread⟩ := exists_of_bind_eq_ok hread
  rw [show d'.status p = .ok (l, o) from h.find hstatus]
  exact hread

/-- So is a text. -/
theorem Grows.readText {s : String} (h : d.Grows d') (hread : d.readText p = .ok s) : d'.readText p = .ok s := by
  unfold Disk.readText at hread ⊢
  obtain ⟨content, hcontent, hread⟩ := exists_of_bind_eq_ok hread
  rw [h.readFile hcontent]
  exact hread

/-- A path that leads somewhere is one that the operating system looks at. -/
theorem isUsable_of_leadsSomewhere (h : d.leadsSomewhere p = true) : p.IsUsable := by
  obtain ⟨l, o, hstatus⟩ := exists_of_isOk_find h
  obtain ⟨spot, hwalk, -⟩ := find_eq_ok hstatus
  exact (walk_eq_ok_iff.mp hwalk).1

theorem leadsSomewhere_of_isDirectory (h : d.isDirectory p = true) : d.leadsSomewhere p = true := by
  obtain ⟨top, mode, hstatus⟩ := isDirectory_iff.mp h
  exact isOk_find hstatus

/-! ## What was changed -/

/-- What stands at a location is found there in its new form, if it stays a directory or a file. -/
theorem find_set (hfind : d.find last p = .ok (l, o)) (hadm : d.Admits l o')
    (hkind : o'.isDirectory = o.isDirectory) (hlink : ∀ target, o' ≠ .link target) :
    (d.set l o').find last p = .ok (l, o') := by
  obtain ⟨spot, hwalk, rfl, hget, hslash⟩ := find_eq_ok_iff.mp hfind
  obtain ⟨hp, hwalk⟩ := walk_eq_ok_iff.mp hwalk
  have hnew : (d.set spot.location o').get? spot.location = some o' := by rw [get?_set, if_pos rfl]
  refine find_eq_ok_iff.mpr ⟨spot, walk_eq_ok_iff.mpr ⟨hp, ?_⟩, rfl, hnew, hkind ▸ hslash⟩
  refine hwalk.carry hadm.carries fun target htarget => ?_
  rw [hnew] at htarget
  exact absurd (Option.some.inj htarget) (hlink target)

/-- A path whose mode was set leads to what has the mode. -/
theorem status_of_setMode {mode : Nat} (h : d.setMode p mode = .ok d') :
    ∃ l, d'.status p = .ok (l, .directory (mode &&& 0o7777)) ∨
      ∃ content, d'.status p = .ok (l, .file (mode &&& 0o7777) content) := by
  obtain ⟨l, ⟨oldMode, hstatus, rfl⟩ | ⟨oldMode, content, hstatus, rfl⟩⟩ := setMode_eq_ok h
  · have hget := get?_of_find hstatus
    exact ⟨l, .inl (find_set hstatus (.remode hget) rfl (by simp))⟩
  · have hget := get?_of_find hstatus
    exact ⟨l, .inr ⟨content, find_set hstatus (.rewrite hget) rfl (by simp)⟩⟩

/-- A mode is only set of something that is there, and there it is still. -/
theorem leadsSomewhere_of_setMode {mode : Nat} (h : d.setMode p mode = .ok d') : d'.leadsSomewhere p = true := by
  obtain ⟨l, hstatus | ⟨content, hstatus⟩⟩ := status_of_setMode h
  · exact isOk_find hstatus
  · exact isOk_find hstatus

/-! ## Places that are taken -/

/-- A walk that follows no link in the last place ends at the last name, if that is a plain one. Induction on the walk;
a link on the way only adds names in front of the last one. -/
theorem WalksTo.eq_name {links : Nat} {current : Location} {front : List (List UInt8)} {n : List UInt8} {slash : Bool}
    (h : WalksTo d .never links current (front ++ [n]) slash spot) (hn : Path.IsPlain n) :
    ∃ parent, spot = .name parent n slash := by
  -- as long as names follow, the last one is still to come
  have hbehind : ∀ {front rest : List (List UInt8)} {m : List UInt8}, front ++ [n] = m :: rest → rest ≠ [] →
      ∃ front', front' ++ [n] = rest := by
    intro front rest m heq hrest
    cases front with
    | nil => exact absurd (List.cons.inj heq).2.symm hrest
    | cons x front => exact ⟨front, (List.cons.inj heq).2⟩
  have hlast : ∀ {front : List (List UInt8)} {m : List UInt8}, front ++ [n] = [m] → m = n := by
    intro front m heq
    simpa using congrArg List.getLast? heq.symm
  generalize hnames : front ++ [n] = names at h
  induction h generalizing front with
  | nil => simp at hnames
  | dot => exact absurd (hlast hnames).symm hn.ne_dot
  | dotDot => exact absurd (hlast hnames).symm hn.ne_dotDot
  | name links current slash hseeks hlink => exact ⟨current, by rw [hlast hnames]⟩
  | passDot hrest _ ih =>
      obtain ⟨front', hfront⟩ := hbehind hnames hrest
      exact ih hfront
  | passDotDot hrest _ ih =>
      obtain ⟨front', hfront⟩ := hbehind hnames hrest
      exact ih hfront
  | pass _ hrest _ _ ih =>
      obtain ⟨front', hfront⟩ := hbehind hnames hrest
      exact ih hfront
  | @follow links current rest slash spot m target _ _ hstop _ ih =>
      have hrest : rest ≠ [] := fun hrest => absurd (hstop hrest) (by simp [LastLink.follows])
      obtain ⟨front', hfront⟩ := hbehind hnames hrest
      obtain ⟨parent, rfl⟩ := @ih (target.names ++ front') (by rw [List.append_assoc, hfront])
      exact ⟨parent, by simp [hrest]⟩

/-- Without a slash behind the path two ways of treating a last link that both leave it alone are the same way. So what
stands at a path and what is found there without following a last link agree. -/
theorem WalksTo.of_noSlash {last' : LastLink} {links : Nat} {current : Location} {names : List (List UInt8)}
    {slash : Bool} (h : WalksTo d last links current names slash spot) (hslash : slash = false)
    (hlast : last.follows false = false) (hlast' : last'.follows false = false) :
    WalksTo d last' links current names slash spot := by
  induction h with
  | nil => exact .nil ..
  | dot => exact .dot ..
  | dotDot => exact .dotDot ..
  | name links current slash hn _ => exact .name _ _ _ hn fun _ _ => hslash ▸ hlast'
  | passDot hrest _ ih => exact .passDot hrest (ih hslash)
  | passDotDot hrest _ ih => exact .passDotDot hrest (ih hslash)
  | pass hn hrest hdir _ ih => exact .pass hn hrest hdir (ih hslash)
  | @follow links current rest slash spot n target hn hlink hstop _ ih =>
      -- the link is not the last name, since the last one would not have been followed
      have hrest : rest ≠ [] := by
        intro hrest
        rw [hslash, hlast] at hstop
        cases hstop hrest
      exact .follow hn hlink (fun h => absurd h hrest) (ih (by simp [hrest, hslash]))

/-- A walk only looks, so it never finds that a name is taken. That error is left to the attempts to make something. -/
theorem walkNames_ne_alreadyExists (last : LastLink) (links : Nat) (current : Location) (names : List (List UInt8))
    (slash : Bool) : d.walkNames last links current names slash ≠ .error .alreadyExists := by
  -- links before names, as the names of a target replace the rest of the path
  induction links using Nat.strong_induction_on generalizing current names slash with
  | _ links ihLinks =>
  induction names generalizing current with
  | nil => simp [walkNames_nil]
  | cons n rest ihNames =>
      rw [walkNames_cons]
      split
      · split
        · simp
        · exact ihNames _
      split
      · split
        · simp
        · exact ihNames _
      split
      · simp
      split
      · split
        · simp
        · cases links with
          | zero => simp
          | succ links => exact ihLinks links (Nat.lt_succ_self _) _ _ _
      · split
        · simp
        · split
          · simp
          · exact ihNames _
          · simp

/-- No walk fails with `alreadyExists`, so wherever an operation reports it, the operation itself has found
something. -/
theorem walk_ne_alreadyExists (p : Path) : d.walk last p ≠ .error (.system .alreadyExists) := by
  unfold walk
  split_ifs
  · simp
  · simp
  · simp
  · split
    · simp
    · next e he =>
      rintro ⟨⟩
      exact walkNames_ne_alreadyExists _ _ _ _ _ he

/-- Something stands at a path that ends in a name: the name is found in a directory. Whether it is a link does not
matter. -/
theorem occupied_iff_of_endsInName (hp : p.EndsInName) :
    d.occupied p = true ↔ ∃ parent n o, d.walk .never p = .ok (.name parent n false) ∧
      d.get? (parent ++ [n]) = some o := by
  obtain ⟨⟨front, n, hnames, hn⟩, hslash⟩ := hp
  constructor
  · intro h
    obtain ⟨l, o, hfind⟩ := exists_of_isOk_find h
    obtain ⟨spot, hwalk, rfl, hget, -⟩ := find_eq_ok_iff.mp hfind
    obtain ⟨hp, hwalk⟩ := walk_eq_ok_iff.mp hwalk
    rw [hslash, hnames] at hwalk
    -- with no slash at the end, links are followed alike whether or not one would be followed there
    have hnever : WalksTo d .never _ _ _ _ _ := hwalk.of_noSlash rfl rfl rfl
    obtain ⟨parent, rfl⟩ := hnever.eq_name hn
    exact ⟨parent, n, o, walk_eq_ok_iff.mpr ⟨hp, by rw [hslash, hnames]; exact hnever⟩, hget⟩
  · rintro ⟨parent, m, o, hwalk, hget⟩
    obtain ⟨hp, hwalk⟩ := walk_eq_ok_iff.mp hwalk
    rw [hslash] at hwalk
    have hbefore : WalksTo d .beforeSlash _ _ _ _ _ := hwalk.of_noSlash rfl rfl rfl
    refine isOk_find (find_eq_ok_iff.mpr ⟨.name parent m false, ?_, rfl, hget, .inr (by simp)⟩)
    exact walk_eq_ok_iff.mpr ⟨hp, by rw [hslash]; exact hbefore⟩

/-- Where a walk finds something, a walk that stops at a last link finds something too: the link at least. So what can
be read is occupied. -/
theorem WalksTo.exists_never {links : Nat} {current : Location} {names : List (List UInt8)} {slash : Bool}
    (h : WalksTo d last links current names slash spot) (hthere : (d.get? spot.location).isSome) (slash' : Bool) :
    ∃ spot', WalksTo d .never links current names slash' spot' ∧ (d.get? spot'.location).isSome := by
  induction h generalizing slash' with
  | nil => exact ⟨_, .nil .., hthere⟩
  | dot => exact ⟨_, .dot .., hthere⟩
  | dotDot => exact ⟨_, .dotDot .., hthere⟩
  | name links current slash hn _ => exact ⟨_, .name _ _ _ hn fun _ _ => rfl, hthere⟩
  | passDot hrest _ ih =>
      obtain ⟨spot', hwalk, hspot⟩ := ih hthere slash'
      exact ⟨spot', .passDot hrest hwalk, hspot⟩
  | passDotDot hrest _ ih =>
      obtain ⟨spot', hwalk, hspot⟩ := ih hthere slash'
      exact ⟨spot', .passDotDot hrest hwalk, hspot⟩
  | pass hn hrest hdir _ ih =>
      obtain ⟨spot', hwalk, hspot⟩ := ih hthere slash'
      exact ⟨spot', .pass hn hrest hdir hwalk, hspot⟩
  | @follow links current rest slash spot n target hn hlink _ _ ih =>
      -- only a link at the very end matters: there the walk stops at the link
      by_cases hrest : rest = []
      · subst hrest
        exact ⟨.name current n slash', .name _ _ _ hn fun _ _ => rfl, by rw [Spot.location, hlink]; rfl⟩
      · obtain ⟨spot', hwalk, hspot⟩ := ih hthere slash'
        exact ⟨spot', .follow hn hlink (fun h => absurd h hrest) (by simpa [hrest] using hwalk), hspot⟩

/-- What a path leads to, or the link that leads there, stands at the path. -/
theorem occupied_of_leadsSomewhere (hp : p.EndsInName) (h : d.leadsSomewhere p = true) : d.occupied p = true := by
  obtain ⟨l, o, hfind⟩ := exists_of_isOk_find h
  obtain ⟨spot, hwalk, rfl, hget, -⟩ := find_eq_ok_iff.mp hfind
  obtain ⟨husable, hwalk⟩ := walk_eq_ok_iff.mp hwalk
  obtain ⟨front, n, hnames, hn⟩ := hp.names
  obtain ⟨spot', hnever, hthere⟩ := hwalk.exists_never (by rw [hget]; rfl) false
  obtain ⟨o', hget'⟩ := Option.isSome_iff_exists.mp hthere
  rw [hnames] at hnever
  obtain ⟨parent, rfl⟩ := hnever.eq_name hn
  refine (occupied_iff_of_endsInName hp).mpr ⟨parent, n, o', walk_eq_ok_iff.mpr ⟨husable, ?_⟩, hget'⟩
  rwa [hnames, hp.noSlash]

/-! ## Names in a directory -/

section Joined

variable {q : Path} {top : Location} {s : String}

/-- A path at which something was found is one that the operating system takes. -/
theorem isUsable_of_linkStatus (h : d.linkStatus p = .ok (l, o)) : p.IsUsable := by
  obtain ⟨spot, hwalk, -⟩ := find_eq_ok h
  exact (walk_eq_ok_iff.mp hwalk).1

/-- A walk to a name in a directory ends at this name. The directory may be spelled in any way; behind it one plain name
is left, and a link there is not followed. -/
theorem LeadsTo.walk_joinText (hdir : d.LeadsTo q top) (hs : Path.IsPlain (Text.encode s))
    (hlast : last.follows false = false) (hwalk : d.walk last (q.joinText s) = .ok spot) :
    spot = .name top (Text.encode s) false := by
  have habs : (q.joinText s).bytes ≠ [] → (q.joinText s).isAbsolute = q.isAbsolute :=
    fun _ => Path.isAbsolute_joinText hs
  obtain ⟨left, hrest⟩ := hdir.walksTo_behind (Path.names_joinText hs) (by simp) habs hwalk
  rw [(Path.endsInName_joinText q hs).noSlash] at hrest
  clear hwalk habs
  -- one name is left to walk, and its last link is not followed
  generalize Text.encode s = n at hs hrest ⊢
  cases hrest with
  | dot => exact absurd rfl hs.ne_dot
  | dotDot => exact absurd rfl hs.ne_dotDot
  | name => rfl
  | passDot hne => exact absurd rfl hne
  | passDotDot hne => exact absurd rfl hne
  | pass _ hne => exact absurd rfl hne
  | follow _ _ hfollows =>
      rw [hlast] at hfollows
      cases hfollows rfl

/-- The walk to a name in a directory does not depend on what has the name, as long as the last link is not followed. -/
theorem LeadsTo.walk_joinText_of_isUsable (hdir : d.LeadsTo q top) (hs : Path.IsPlain (Text.encode s))
    (hshort : (Text.encode s).length ≤ maxName) (hlast : last.follows false = false)
    (husable : (q.joinText s).IsUsable) : d.walk last (q.joinText s) = .ok (.name top (Text.encode s) false) := by
  obtain ⟨-, spot, mode, hwalk, rfl, hmode⟩ := leadsTo_iff.mp hdir
  obtain ⟨left, hleft⟩ := walkNames_append hwalk hmode
  have hname : d.walkNames last left spot.location [Text.encode s] false =
      .ok (.name spot.location (Text.encode s) false) :=
    walkNames_name _ _ _ _ _ ⟨hs.ne_dot, hs.ne_dotDot, hshort⟩ fun _ _ => hlast
  refine walk_eq_ok_iff.mpr ⟨husable, walksTo_of_walkNames ?_⟩
  rw [startFrom_congr (Path.isAbsolute_joinText hs), Path.names_joinText hs, (Path.endsInName_joinText q hs).noSlash,
    hleft _ _ _ (by simp), hname]

/-- A name of a directory that nothing has is free, under the path of the directory and the name. -/
theorem LeadsTo.isFree_joinText (hdir : d.LeadsTo q top) (hs : Path.IsPlain (Text.encode s))
    (hshort : (Text.encode s).length ≤ maxName) (husable : (q.joinText s).IsUsable)
    (hfree : d.get? (top ++ [Text.encode s]) = none) : d.IsFree .never (q.joinText s) top (Text.encode s) false :=
  ⟨hdir.walk_joinText_of_isUsable hs hshort rfl husable, hfree, hdir.isDirectoryAt⟩

/-- What stands at a name in a directory stands below the location of the directory. -/
theorem LeadsTo.eq_of_linkStatus (hdir : d.LeadsTo q top) (hs : Path.IsPlain (Text.encode s))
    (h : d.linkStatus (q.joinText s) = .ok (l, o)) : l = top ++ [Text.encode s] := by
  obtain ⟨spot, hwalk, rfl, -⟩ := find_eq_ok h
  rw [hdir.walk_joinText hs rfl hwalk]
  rfl

/-- The other way round, what has a name in a directory is found under the path of the directory and the name. -/
theorem LeadsTo.linkStatus_joinText (hdir : d.LeadsTo q top) (hs : Path.IsPlain (Text.encode s))
    (hshort : (Text.encode s).length ≤ maxName) (husable : (q.joinText s).IsUsable)
    (hget : d.get? (top ++ [Text.encode s]) = some o) : d.linkStatus (q.joinText s) = .ok (top ++ [Text.encode s], o) :=
  find_eq_ok_iff.mpr ⟨_, hdir.walk_joinText_of_isUsable hs hshort rfl husable, rfl, hget, .inr (by simp)⟩

/-- Above a name in a directory nothing is missing: the parent is the directory, spelled with more dots perhaps, or the
empty path. -/
theorem LeadsTo.parent?_joinText {r : Path} (hdir : d.LeadsTo q top) (hs : Path.IsPlain (Text.encode s))
    (husable : (q.joinText s).IsUsable) (hr : (q.joinText s).parent? = some r) : r.bytes = [] ∨ d.LeadsTo r top := by
  by_cases hne : r.bytes = []
  · exact .inl hne
  · have hmem : r ∈ (q.joinText s).parents := List.mem_of_mem_head? hr
    obtain ⟨more, hmore⟩ := (Path.cut_of_mem_parents hmem).1
    -- a piece of a usable path is usable
    have hr' : r.IsUsable := by
      refine ⟨fun hnul => husable.noNul ?_, hne, lt_of_le_of_lt ?_ husable.short⟩
      · rw [← hmore]
        exact List.mem_append_left _ hnul
      · rw [← hmore]
        simp
    -- the parent spells the same names, but for dots behind them
    rcases Path.exists_dots_of_parent? hr (Path.names_joinText hs) hs.ne_dot with rfl | ⟨dots, hnames, hdots⟩
    · exact absurd rfl hne
    · have habs : r.isAbsolute = q.isAbsolute :=
        (Path.isAbsolute_of_mem_parents hmem hne).trans (Path.isAbsolute_joinText hs)
      exact .inr (hdir.of_dots hnames hdots hr' habs)

end Joined

/-! ## Files where something stands -/

/-- No file is added where something stands, be it a link that leads nowhere. -/
theorem addFile_of_occupied {mode : Nat} {content : List UInt8} (hp : p.EndsInName) (h : d.occupied p = true) :
    d.addFile p mode content = .error (.system .alreadyExists) := by
  obtain ⟨parent, n, o, hwalk, hget⟩ := (occupied_iff_of_endsInName hp).mp h
  simp only [addFile, hwalk, bind, Except.bind, hget, Option.isSome_some, if_true]

/-- A file is refused as there only where something stands. The walk itself never gives this reason. -/
theorem occupied_of_addFile {mode : Nat} {content : List UInt8} (hp : p.EndsInName)
    (h : d.addFile p mode content = .error (.system .alreadyExists)) : d.occupied p = true := by
  obtain ⟨⟨front, n, hnames, hn⟩, hslash⟩ := id hp
  unfold addFile at h
  cases hwalk : d.walk .never p with
  | error c =>
      rw [hwalk] at h
      exact absurd hwalk (by cases h; exact walk_ne_alreadyExists p)
  | ok spot =>
      have hspot := (walk_eq_ok_iff.mp hwalk).2
      rw [hslash, hnames] at hspot
      obtain ⟨parent, rfl⟩ := hspot.eq_name hn
      rw [hwalk] at h
      cases hget : d.get? (parent ++ [n]) with
      | some o => exact (occupied_iff_of_endsInName hp).mpr ⟨parent, n, o, hwalk, hget⟩
      | none =>
          -- what is free is refused for another reason, if at all
          simp only [bind, Except.bind, hget, Option.isSome_none, Bool.false_eq_true, if_false, place] at h
          split at h <;> cases h

/-- A walk that stops at a last link goes the same way wherever directories and links are the same, whatever stands at
its end. -/
theorem WalksTo.carry_never {links : Nat} {current : Location} {names : List (List UInt8)} {slash : Bool}
    (h : WalksTo d .never links current names slash spot) (hcarry : d.Carries d') :
    WalksTo d' .never links current names slash spot := by
  induction h with
  | nil => exact .nil ..
  | dot => exact .dot ..
  | dotDot => exact .dotDot ..
  | name links current slash hn _ => exact .name _ _ _ hn fun _ _ => rfl
  | passDot hrest _ ih => exact .passDot hrest ih
  | passDotDot hrest _ ih => exact .passDotDot hrest ih
  | pass hn hrest hdir _ ih =>
      obtain ⟨_, hdir'⟩ := hcarry.directory _ _ hdir
      exact .pass hn hrest hdir' ih
  | follow hn hget hrest _ ih => exact .follow hn (hcarry.link _ _ hget) hrest ih

/-- Nothing stands at a free name. -/
theorem IsFree.occupied_eq_false {parent : Location} {n : List UInt8} {slash : Bool}
    (h : d.IsFree .never p parent n slash) (hp : p.EndsInName) : d.occupied p = false := by
  rw [Bool.eq_false_iff, ne_eq, occupied_iff_of_endsInName hp]
  rintro ⟨parent', n', o, hwalk, hget⟩
  cases hwalk.symm.trans h.walk
  exact absurd (hget.symm.trans h.free) (by simp)

/-- What was just made stands at its path, and so it is found the next time. -/
theorem IsFree.occupied_set {parent : Location} {n : List UInt8} {slash : Bool}
    (h : d.IsFree .never p parent n slash) (hp : p.EndsInName) (o : Object) :
    (d.set (parent ++ [n]) o).occupied p = true := by
  obtain ⟨husable, hwalk⟩ := walk_eq_ok_iff.mp h.walk
  have hslash : slash = false := by
    obtain ⟨front, m, hnames, hm⟩ := hp.names
    rw [hnames, hp.noSlash] at hwalk
    obtain ⟨_, heq⟩ := hwalk.eq_name hm
    cases heq
    rfl
  subst hslash
  have hwalk' : (d.set (parent ++ [n]) o).walk .never p = .ok (.name parent n false) :=
    walk_eq_ok_iff.mpr ⟨husable, hwalk.carry_never (h.admits o).carries⟩
  exact (occupied_iff_of_endsInName hp).mpr ⟨parent, n, o, hwalk', by rw [get?_set, if_pos rfl]⟩

/-! ## Taken places -/

/-- Something stands at a path, be it a link that leads nowhere, and the path above it leads somewhere. There nothing
new is written and no directory is made for it. -/
structure IsTaken (d : Disk) (p : Path) : Prop where
  occupied : d.occupied p = true
  parent : ∀ q, p.parent? = some q → q.bytes = [] ∨ d.leadsSomewhere q = true

/-- A place that is taken stays taken: nothing is ever taken away while a disk grows. -/
theorem Grows.isTaken (h : d.Grows d') (hp : d.IsTaken p) : d'.IsTaken p where
  occupied := h.occupied hp.occupied
  parent q hq := (hp.parent q hq).imp_right h.leadsSomewhere

end Disk

namespace Action

open Effect Disk

variable {d d' : Disk} {p : Path} {content : List UInt8} {mode : Nat}

/-- Behind `ensureParent` there is a place for a file: the parent leads somewhere, or the path has none and stands in
the working directory. -/
theorem leadsSomewhere_of_ensureParent (h : runFrom (ensureParent p) d = (.ok (), d')) (q : Path)
    (hq : p.parent? = some q) : q.bytes = [] ∨ d'.leadsSomewhere q = true := by
  simp only [ensureParent, hq, runFrom_get_bind] at h
  split at h
  · next hmissing =>
    have hne : q.bytes ≠ [] := by simp_all
    exact .inr (leadsSomewhere_of_isDirectory (isDirectory_of_makeDirectories hne (runFrom_during_eq_ok.mp h)))
  · next hthere =>
    cases h
    simp only [Bool.and_eq_true, Bool.not_eq_true', not_and, Bool.not_eq_false, List.isEmpty_eq_false_iff] at hthere
    exact or_iff_not_imp_left.mpr hthere

/-- Where there is a place for a file, no directory is made. -/
theorem ensureParent_of_leadsSomewhere (hparent : ∀ q, p.parent? = some q → q.bytes = [] ∨ d.leadsSomewhere q = true) :
    runFrom (ensureParent p) d = (.ok (), d) := by
  unfold ensureParent
  split
  · next q hq =>
    rw [runFrom_get_bind]
    rcases hparent q hq with h | h <;> simp [h]
  · rfl

/-- Where a place is taken, nothing is written. -/
theorem writeNewFile_of_isTaken (hname : p.EndsInName) (hp : d.IsTaken p) :
    runFrom (writeNewFile p content mode) d = (.ok false, d) := by
  rw [writeNewFile, runFrom_bind_ok (ensureParent_of_leadsSomewhere hp.parent), runFrom_get_bind,
    addFile_of_occupied hname hp.occupied]
  rfl

/-- Where a name is free and there is a place for a file, the file is made. This is the step as an equation, for runs
that are evaluated. -/
theorem writeNewFile_of_isFree {parent : Location} {n : List UInt8} (hfree : d.IsFree .never p parent n false)
    (hparent : ∀ q, p.parent? = some q → q.bytes = [] ∨ d.leadsSomewhere q = true) :
    runFrom (writeNewFile p content mode) d =
      (.ok true, d.set (parent ++ [n]) (.file (mode &&& 0o7777) content)) := by
  rw [writeNewFile, runFrom_bind_ok (ensureParent_of_leadsSomewhere hparent), runFrom_get_bind, hfree.addFile]
  dsimp only
  rw [runFrom_bind_ok (runFrom_set _ _), runFrom_bind_ok (runFrom_fillFile_none hfree.opensAt _ content mode)]
  rfl

/-- A new file is made under a free name of a directory. -/
theorem writeNewFile_of_leadsTo {q : Path} {top : Location} {s : String} (hdir : d.LeadsTo q top)
    (hs : Path.IsPlain (Text.encode s)) (hfree : d.IsFree .never (q.joinText s) top (Text.encode s) false) :
    runFrom (writeNewFile (q.joinText s) content mode) d =
      (.ok true, d.set (top ++ [Text.encode s]) (.file (mode &&& 0o7777) content)) := by
  refine writeNewFile_of_isFree hfree fun r hr => ?_
  exact (hdir.parent?_joinText hs (walk_eq_ok_iff.mp hfree.walk).1 hr).imp_right fun hr =>
    leadsSomewhere_of_isDirectory (isDirectory_iff.mpr ⟨top, hr⟩)

/-- What an attempt to write a new file does that does not fail: it finds something there, or it makes the file, with
the content and the mode that are asked for. -/
theorem writeNewFile_eq_ok {made : Bool} (h : runFrom (writeNewFile p content mode) d = (.ok made, d')) :
    ∃ d₁, runFrom (ensureParent p) d = (.ok (), d₁) ∧
      (made = false ∧ d' = d₁ ∧ d₁.addFile p mode [] = .error (.system .alreadyExists) ∨
        made = true ∧ ∃ parent n, d₁.IsFree .never p parent n false ∧
          d' = d₁.set (parent ++ [n]) (.file (mode &&& 0o7777) content)) := by
  obtain ⟨⟨⟩, d₁, hparent, h⟩ := exists_of_runFrom_bind h
  refine ⟨d₁, hparent, ?_⟩
  rw [runFrom_get_bind] at h
  split at h
  · next d₂ hadd =>
    -- the name was free, so the file is new and is filled
    obtain ⟨parent, n, hfree, rfl⟩ := addFile_eq_ok hadd
    rw [runFrom_bind_ok (runFrom_set _ _), runFrom_bind_ok (runFrom_fillFile_none hfree.opensAt _ content mode)] at h
    cases h
    exact .inr ⟨rfl, parent, n, hfree, rfl⟩
  · next hadd =>
    cases h
    exact .inl ⟨rfl, rfl, hadd⟩
  · cases h

/-- Behind every attempt to write a new file that does not fail the place is taken, be it by the new file. -/
theorem isTaken_of_writeNewFile {made : Bool} (hname : p.EndsInName)
    (h : runFrom (writeNewFile p content mode) d = (.ok made, d')) : d'.IsTaken p := by
  obtain ⟨d₁, hparent, ⟨-, rfl, hadd⟩ | ⟨-, parent, n, hfree, rfl⟩⟩ := writeNewFile_eq_ok h
  · exact ⟨occupied_of_addFile hname hadd, leadsSomewhere_of_ensureParent hparent⟩
  · have hgrows : d₁.Grows (d₁.set (parent ++ [n]) (.file (mode &&& 0o7777) content)) :=
      (Grows.refl d₁).set hfree.free _
    exact ⟨hfree.occupied_set hname _,
      fun q hq => (leadsSomewhere_of_ensureParent hparent q hq).imp_right hgrows.leadsSomewhere⟩

/-- Where nothing stands and nothing is missing above it, a new file is made or the attempt fails. It cannot be that the
file was found there. -/
theorem made_of_writeNewFile {made : Bool} (hname : p.EndsInName) (hfree : d.occupied p = false)
    (hparent : ∀ q, p.parent? = some q → q.bytes = [] ∨ d.leadsSomewhere q = true)
    (h : runFrom (writeNewFile p content mode) d = (.ok made, d')) : made = true := by
  obtain ⟨d₁, hensure, ⟨-, rfl, hadd⟩ | ⟨hmade, -⟩⟩ := writeNewFile_eq_ok h
  · rw [ensureParent_of_leadsSomewhere hparent] at hensure
    cases hensure
    rw [occupied_of_addFile hname hadd] at hfree
    cases hfree
  · exact hmade

/-- The path of a new file leads to its content. No link is in its place, as the name was free. -/
theorem readFile_of_writeNewFile (h : runFrom (writeNewFile p content mode) d = (.ok true, d')) :
    d'.readFile p = .ok content := by
  obtain ⟨d₁, -, ⟨hmade, -⟩ | ⟨-, parent, n, hfree, rfl⟩⟩ := writeNewFile_eq_ok h
  · cases hmade
  · have hfind : (d₁.set (parent ++ [n]) (.file (mode &&& 0o7777) content)).status p =
        .ok (parent ++ [n], .file (mode &&& 0o7777) content) :=
      find_eq_ok_iff.mpr ⟨_, hfree.walk_set (by simp), rfl, by rw [get?_set, if_pos rfl], .inr (by simp)⟩
    exact readFile_of_status hfind

/-! ## Links -/

/-- A link that was made stands at its path, wherever it leads. -/
theorem occupied_of_createLink {target : Path} (hname : p.EndsInName)
    (h : runFrom (createLink p target) d = (.ok (), d')) : d'.occupied p = true := by
  obtain ⟨parent, n, hfree, rfl⟩ := addLink_eq_ok (runFrom_change_eq_ok.mp h)
  exact hfree.occupied_set hname _

/-! ## Directories and files that were written -/

/-- The path of a directory that was made leads to a directory of its mode. -/
theorem status_of_createDirectory (h : runFrom (createDirectory p mode) d = (.ok (), d')) :
    ∃ l, d'.status p = .ok (l, .directory (mode &&& 0o7777)) := by
  obtain ⟨⟨⟩, d₁, hmake, h⟩ := exists_of_runFrom_bind h
  obtain ⟨l, old, hstatus, rfl⟩ := setMode_of_makeDirectories (runFrom_during_eq_ok.mp hmake) (setMode_of_pinMode h)
  have hget := get?_of_find hstatus
  exact ⟨l, find_set hstatus (.remode hget) rfl (by simp)⟩

/-- A directory that was made, or whose mode was set, is there. -/
theorem isDirectory_of_createDirectory (h : runFrom (createDirectory p mode) d = (.ok (), d')) :
    d'.isDirectory p = true := by
  obtain ⟨l, hstatus⟩ := status_of_createDirectory h
  exact isDirectory_iff.mpr ⟨l, _, hstatus⟩

/-- Behind an attempt to make a directory if it is missing there is one, be it the one that was there before. -/
theorem isDirectory_of_createDirectoryIfMissing {made : Bool}
    (h : runFrom (createDirectoryIfMissing p mode) d = (.ok made, d')) : d'.isDirectory p = true := by
  unfold createDirectoryIfMissing at h
  rw [runFrom_get_bind] at h
  split at h
  · next hdir => cases h; exact hdir
  · obtain ⟨⟨⟩, d₁, hmake, h⟩ := exists_of_runFrom_bind h
    cases h
    exact isDirectory_of_createDirectory hmake

theorem IsStable.isDirectory (p : Path) : IsStable fun d => d.isDirectory p = true := by
  intro d l o hdir hadm
  obtain ⟨top, hleads⟩ := isDirectory_iff.mp hdir
  exact isDirectory_iff.mpr ⟨top, hleads.carry hadm.carries⟩

/-- Where something stands, something goes on standing under every change. What stands there may be another object by
then. -/
theorem IsStable.occupied (hp : p.EndsInName) : IsStable fun d => d.occupied p = true := by
  intro d l o hthere hadm
  obtain ⟨parent, n, old, hwalk, hget⟩ := (occupied_iff_of_endsInName hp).mp hthere
  obtain ⟨husable, hwalk⟩ := walk_eq_ok_iff.mp hwalk
  have hwalk' : (d.set l o).walk .never p = .ok (.name parent n false) :=
    walk_eq_ok_iff.mpr ⟨husable, hwalk.carry_never hadm.carries⟩
  have hget' : ∃ o', (d.set l o).get? (parent ++ [n]) = some o' := by
    rw [get?_set]
    split
    · exact ⟨o, rfl⟩
    · exact ⟨old, hget⟩
  obtain ⟨o', hget'⟩ := hget'
  exact (occupied_iff_of_endsInName hp).mpr ⟨parent, n, o', hwalk', hget'⟩

/-- A directory that is there is left alone, with its mode. -/
theorem createDirectoryIfMissing_of_isDirectory (h : d.isDirectory p = true) :
    runFrom (createDirectoryIfMissing p mode) d = (.ok false, d) := by
  rw [createDirectoryIfMissing, runFrom_get_bind, if_pos h]
  rfl

/-- A file that was written without a failure is there. The mode that is set at the end is what shows it. -/
theorem leadsSomewhere_of_writeFile (h : runFrom (writeFile p content mode) d = (.ok (), d')) :
    d'.leadsSomewhere p = true := by
  obtain ⟨⟨⟩, d₁, -, h⟩ := exists_of_runFrom_bind h
  obtain ⟨⟨⟩, d₂, -, h⟩ := exists_of_runFrom_bind h
  obtain ⟨⟨⟩, d₃, -, h⟩ := exists_of_runFrom_bind h
  exact leadsSomewhere_of_setMode (setMode_of_pinMode h)

end Action

end Bootstrap
