import Bootstrap.Disk.Walk
import Bootstrap.Proofs.Path.Names

/-!
# Walks as derivations

`Disk.WalksTo` is the relation behind `Disk.walkNames`: one rule for each way in which a walk takes a name. All that is
known about walks is proved by induction on it.

* `Disk.walkNames_append` — a walk along a path that leads to a directory goes on in that directory.
* `Disk.exists_walkNames_prefix` — if a path leads to a directory, each of its first few names leads to a directory or
  to a link, so nothing can be made there.
* `Disk.WalksTo.within` — a walk that starts below a location stays below it when the links there descend.
* `Disk.WalksTo.carry` — a walk goes the same way on another disk that has the same directories and links.
-/

namespace Bootstrap

/-- The location of a spot and all locations that were passed below `top` lie below `top`. -/
def Spot.Within (top : Location) : Spot → Prop
  | .directory l _ => top <+: l
  | .name parent _ _ => top <+: parent

/-- The place that a walk within a location ends at lies in the location. -/
theorem Spot.Within.location {top : Location} {spot : Spot} (h : spot.Within top) : top <+: spot.location := by
  cases spot with
  | directory l here => exact h
  | name parent n slash => exact h.trans (List.prefix_append _ _)

namespace Disk

/-- A name at which a walk looks for an object. -/
structure Seeks (n : List UInt8) : Prop where
  ne_dot : n ≠ Path.dot
  ne_dotDot : n ≠ Path.dotDot
  short : n.length ≤ maxName

/-- A walk along `names` from the directory `current` that ends in a spot. -/
inductive WalksTo (d : Disk) (last : LastLink) :
    (links : Nat) → (current : Location) → (names : List (List UInt8)) → (slash : Bool) → Spot → Prop where
  | nil (links current slash) : WalksTo d last links current [] slash (.directory current .root)
  | dot (links current slash) : WalksTo d last links current [Path.dot] slash (.directory current .dot)
  | dotDot (links current slash) :
      WalksTo d last links current [Path.dotDot] slash (.directory current.dropLast .dotDot)
  | name (links current slash) {n : List UInt8} (hn : Seeks n)
      (hlink : ∀ target, d.get? (current ++ [n]) = some (.link target) → last.follows slash = false) :
      WalksTo d last links current [n] slash (.name current n slash)
  | passDot {links current rest slash spot} (hrest : rest ≠ [])
      (h : WalksTo d last links current rest slash spot) :
      WalksTo d last links current (Path.dot :: rest) slash spot
  | passDotDot {links current rest slash spot} (hrest : rest ≠ [])
      (h : WalksTo d last links current.dropLast rest slash spot) :
      WalksTo d last links current (Path.dotDot :: rest) slash spot
  | pass {links current rest slash spot} {n : List UInt8} {mode : Nat} (hn : Seeks n) (hrest : rest ≠ [])
      (hdir : d.get? (current ++ [n]) = some (.directory mode))
      (h : WalksTo d last links (current ++ [n]) rest slash spot) :
      WalksTo d last links current (n :: rest) slash spot
  | follow {links current rest slash spot} {n : List UInt8} {target : Path} (hn : Seeks n)
      (hlink : d.get? (current ++ [n]) = some (.link target)) (hrest : rest = [] → last.follows slash = true)
      (h : WalksTo d last links (startFrom current target) (target.names ++ rest)
        (if rest.isEmpty then slash || target.endsInSlash else slash) spot) :
      WalksTo d last (links + 1) current (n :: rest) slash spot

/-! ## The relation and the function -/

/-- The function only finds what the relation allows. The proof goes along the function: by induction on the links that
may still be followed, and for each number of links by induction on the names, one case for each kind of thing that a
name can be. -/
theorem walksTo_of_walkNames {d : Disk} {last : LastLink} {links : Nat} {current : Location}
    {names : List (List UInt8)} {slash : Bool} {spot : Spot}
    (h : d.walkNames last links current names slash = .ok spot) :
    WalksTo d last links current names slash spot := by
  -- the outer induction is for the names of a link that is followed, the inner one for the names behind the first
  induction links using Nat.strong_induction_on generalizing current names slash with
  | _ links ihLinks =>
  induction names generalizing current with
  | nil =>
      rw [walkNames_nil] at h
      cases h
      exact .nil ..
  | cons n rest ihNames =>
      rw [walkNames_cons] at h
      split at h
      · next hdot =>
        subst hdot
        split at h
        · next hrest =>
          cases h
          rw [List.isEmpty_iff.mp hrest]
          exact .dot ..
        · next hrest => exact .passDot (by simpa using hrest) (ihNames h)
      split at h
      · next hdotDot =>
        subst hdotDot
        split at h
        · next hrest =>
          cases h
          rw [List.isEmpty_iff.mp hrest]
          exact .dotDot ..
        · next hrest => exact .passDotDot (by simpa using hrest) (ihNames h)
      split at h
      · cases h
      have hn : Seeks n := ⟨‹_›, ‹_›, by omega⟩
      split at h
      · next target hlink =>
        split at h
        · next hstop =>
          cases h
          simp only [Bool.and_eq_true, List.isEmpty_iff, Bool.not_eq_true'] at hstop
          rw [hstop.1]
          exact .name _ _ _ hn fun _ _ => hstop.2
        · next hgo =>
          cases links with
          | zero => cases h
          | succ links =>
              refine .follow hn hlink (fun hrest => ?_) (ihLinks links (Nat.lt_succ_self _) h)
              simpa [hrest] using hgo
      · next hlink =>
        split at h
        · next hrest =>
          cases h
          rw [List.isEmpty_iff.mp hrest]
          exact .name _ _ _ hn fun target ht => (hlink target ht).elim
        · next hrest =>
          split at h
          · cases h
          · next hdir => exact .pass hn (by simpa using hrest) hdir (ihNames h)
          · cases h

/-! ### One step of a walk -/

section Steps

variable (d : Disk) (last : LastLink) (links : Nat) (current : Location) {rest : List (List UInt8)} (slash : Bool)

theorem walkNames_dot_cons (hrest : rest ≠ []) :
    d.walkNames last links current (Path.dot :: rest) slash = d.walkNames last links current rest slash := by
  rw [walkNames_cons, if_pos rfl, if_neg (by simpa using hrest)]

/-- `..` in the middle of a path goes one directory up; above the root it stays at the root. -/
theorem walkNames_dotDot_cons (hrest : rest ≠ []) :
    d.walkNames last links current (Path.dotDot :: rest) slash =
      d.walkNames last links current.dropLast rest slash := by
  rw [walkNames_cons, if_neg (by decide), if_pos rfl, if_neg (by simpa using hrest)]

/-- A directory in the middle of a path is entered. -/
theorem walkNames_directory_cons {n : List UInt8} {mode : Nat} (hn : Seeks n) (hrest : rest ≠ [])
    (hdir : d.get? (current ++ [n]) = some (.directory mode)) :
    d.walkNames last links current (n :: rest) slash =
      d.walkNames last links (current ++ [n]) rest slash := by
  have hshort := hn.short
  rw [walkNames_cons, if_neg hn.ne_dot, if_neg hn.ne_dotDot, if_neg (by omega), hdir]
  simp only [List.isEmpty_iff, hrest, if_false]

/-- A link is followed: its names come in front of those that are left, and one link less may be followed behind it. At
the end of a path this depends on what the caller asked for. -/
theorem walkNames_link_cons {n : List UInt8} {target : Path} (hn : Seeks n)
    (hlink : d.get? (current ++ [n]) = some (.link target)) (hrest : rest = [] → last.follows slash = true) :
    d.walkNames last (links + 1) current (n :: rest) slash =
      d.walkNames last links (startFrom current target) (target.names ++ rest)
        (if rest.isEmpty then slash || target.endsInSlash else slash) := by
  have hshort := hn.short
  rw [walkNames_cons, if_neg hn.ne_dot, if_neg hn.ne_dotDot, if_neg (by omega), hlink]
  have hgo : (rest.isEmpty && !last.follows slash) = false := by
    cases rest with
    | nil => simp [hrest rfl]
    | cons _ _ => rfl
  simp only [hgo, Bool.false_eq_true, if_false]

/-- The last name of a path is not looked at any further, unless it is a link that is to be followed. Nothing has to be
there. -/
theorem walkNames_name {n : List UInt8} (hn : Seeks n)
    (hlink : ∀ target, d.get? (current ++ [n]) = some (.link target) → last.follows slash = false) :
    d.walkNames last links current [n] slash = .ok (.name current n slash) := by
  have hshort := hn.short
  rw [walkNames_cons, if_neg hn.ne_dot, if_neg hn.ne_dotDot, if_neg (by omega)]
  split
  · next target hget => simp [hlink target hget]
  · rfl

end Steps

/-- The function finds all that the relation allows: with `walksTo_of_walkNames` the two say the same. Induction on the
walk, with one of the step equations above for each of its constructors. -/
theorem WalksTo.walkNames {d : Disk} {last : LastLink} {links : Nat} {current : Location}
    {names : List (List UInt8)} {slash : Bool} {spot : Spot}
    (h : WalksTo d last links current names slash spot) :
    d.walkNames last links current names slash = .ok spot := by
  induction h with
  | nil => exact walkNames_nil ..
  | dot => rw [walkNames_cons]; rfl
  | dotDot => rw [walkNames_cons]; rfl
  | name links current slash hn hlink => exact walkNames_name _ _ _ _ _ hn hlink
  | passDot hrest _ ih => rw [walkNames_dot_cons _ _ _ _ _ hrest, ih]
  | passDotDot hrest _ ih => rw [walkNames_dotDot_cons _ _ _ _ _ hrest, ih]
  | pass hn hrest hdir _ ih => rw [walkNames_directory_cons _ _ _ _ _ hn hrest hdir, ih]
  | follow hn hlink hrest _ ih => rw [walkNames_link_cons _ _ _ _ _ hn hlink hrest, ih]

/-! ## Going on behind a directory -/

/-- A walk along more names than those that lead to a directory goes on in that directory. The links that were followed
on the way there are used up. -/
theorem walkNames_append {d : Disk} {links : Nat} {current : Location} {names : List (List UInt8)} {slash : Bool}
    {spot : Spot} {mode : Nat} (h : WalksTo d .always links current names slash spot)
    (hdir : d.get? spot.location = some (.directory mode)) :
    ∃ left, ∀ last rest slash', rest ≠ [] →
      d.walkNames last links current (names ++ rest) slash' = d.walkNames last left spot.location rest slash' := by
  -- induction on the walk to the directory: each of its steps is also the first step of the longer walk
  induction h with
  | nil links current slash => exact ⟨links, fun last rest slash' _ => rfl⟩
  | dot links current slash =>
      exact ⟨links, fun last rest slash' hrest => walkNames_dot_cons _ _ _ _ _ hrest⟩
  | dotDot links current slash =>
      exact ⟨links, fun last rest slash' hrest => walkNames_dotDot_cons _ _ _ _ _ hrest⟩
  | name links current slash hn hlink =>
      exact ⟨links, fun last rest slash' hrest => walkNames_directory_cons _ _ _ _ _ hn hrest hdir⟩
  | passDot _ _ ih =>
      obtain ⟨left, hleft⟩ := ih hdir
      refine ⟨left, fun last rest slash' hrest => ?_⟩
      rw [List.cons_append, walkNames_dot_cons _ _ _ _ _ (by simp [hrest]), hleft last rest slash' hrest]
  | passDotDot _ _ ih =>
      obtain ⟨left, hleft⟩ := ih hdir
      refine ⟨left, fun last rest slash' hrest => ?_⟩
      rw [List.cons_append, walkNames_dotDot_cons _ _ _ _ _ (by simp [hrest]), hleft last rest slash' hrest]
  | pass hn _ hget _ ih =>
      obtain ⟨left, hleft⟩ := ih hdir
      refine ⟨left, fun last rest slash' hrest => ?_⟩
      rw [List.cons_append, walkNames_directory_cons _ _ _ _ _ hn (by simp [hrest]) hget,
        hleft last rest slash' hrest]
  | follow hn hget _ _ ih =>
      obtain ⟨left, hleft⟩ := ih hdir
      refine ⟨left, fun last rest slash' hrest => ?_⟩
      rw [List.cons_append, walkNames_link_cons _ _ _ _ _ hn hget (fun h => absurd h (by simp [hrest])),
        ← List.append_assoc, hleft _ _ _ hrest]
      -- only the slash behind all names differs, and names come behind the link
      congr 1
      simp [hrest]

/-! ## First names of a path that leads to a directory -/

/-- Something stands at the spot that is no file: a directory, or a link. -/
def IsPassage (d : Disk) : Spot → Prop
  | .directory _ _ => True
  | .name parent n _ => ∃ o, d.get? (parent ++ [n]) = some o ∧ o.isFile = false

/-- On the way to a directory a walk meets only directories and links. So the first few names of a path that leads to a
directory, walked in any manner, lead to one of these. -/
theorem exists_walkNames_prefix {d : Disk} {links : Nat} {current : Location} {names : List (List UInt8)}
    {slash : Bool} {spot : Spot} {mode : Nat} (h : WalksTo d .always links current names slash spot)
    (hdir : d.get? spot.location = some (.directory mode)) {front : List (List UInt8)} (hfront : front <+: names)
    (last : LastLink) (slash' : Bool) :
    ∃ spot', d.walkNames last links current front slash' = .ok spot' ∧ d.IsPassage spot' := by
  -- induction on the walk along all names; `front` is empty, ends with the next name or goes on behind it
  induction h generalizing front slash' with
  | nil links current slash =>
      rw [List.prefix_nil.mp hfront]
      exact ⟨_, (WalksTo.nil ..).walkNames, trivial⟩
  | dot links current slash =>
      rcases List.prefix_cons_iff.mp hfront with rfl | ⟨more, rfl, hmore⟩
      · exact ⟨_, (WalksTo.nil ..).walkNames, trivial⟩
      · rw [List.prefix_nil.mp hmore]
        exact ⟨_, (WalksTo.dot ..).walkNames, trivial⟩
  | dotDot links current slash =>
      rcases List.prefix_cons_iff.mp hfront with rfl | ⟨more, rfl, hmore⟩
      · exact ⟨_, (WalksTo.nil ..).walkNames, trivial⟩
      · rw [List.prefix_nil.mp hmore]
        exact ⟨_, (WalksTo.dotDot ..).walkNames, trivial⟩
  | name links current slash hn hlink =>
      rcases List.prefix_cons_iff.mp hfront with rfl | ⟨more, rfl, hmore⟩
      · exact ⟨_, (WalksTo.nil ..).walkNames, trivial⟩
      · rw [List.prefix_nil.mp hmore]
        have hget : d.get? (current ++ [_]) = some (.directory mode) := hdir
        refine ⟨_, walkNames_name _ _ _ _ _ hn fun target ht => ?_, ⟨_, hget, rfl⟩⟩
        rw [hget] at ht
        cases ht
  | @passDot links current rest slash spot hrest _ ih =>
      rcases List.prefix_cons_iff.mp hfront with rfl | ⟨more, rfl, hmore⟩
      · exact ⟨_, (WalksTo.nil ..).walkNames, trivial⟩
      · by_cases hempty : more = []
        · rw [hempty]
          exact ⟨_, (WalksTo.dot ..).walkNames, trivial⟩
        · rw [walkNames_dot_cons _ _ _ _ _ hempty]
          exact ih hdir hmore slash'
  | @passDotDot links current rest slash spot hrest _ ih =>
      rcases List.prefix_cons_iff.mp hfront with rfl | ⟨more, rfl, hmore⟩
      · exact ⟨_, (WalksTo.nil ..).walkNames, trivial⟩
      · by_cases hempty : more = []
        · rw [hempty]
          exact ⟨_, (WalksTo.dotDot ..).walkNames, trivial⟩
        · rw [walkNames_dotDot_cons _ _ _ _ _ hempty]
          exact ih hdir hmore slash'
  | @pass links current rest slash spot n _ hn hrest hget _ ih =>
      rcases List.prefix_cons_iff.mp hfront with rfl | ⟨more, rfl, hmore⟩
      · exact ⟨_, (WalksTo.nil ..).walkNames, trivial⟩
      · by_cases hempty : more = []
        · rw [hempty]
          refine ⟨_, walkNames_name _ _ _ _ _ hn fun target ht => ?_, ⟨_, hget, rfl⟩⟩
          rw [hget] at ht
          cases ht
        · rw [walkNames_directory_cons _ _ _ _ _ hn hempty hget]
          exact ih hdir hmore slash'
  | @follow links current rest slash spot n target hn hget hrest _ ih =>
      rcases List.prefix_cons_iff.mp hfront with rfl | ⟨more, rfl, hmore⟩
      · exact ⟨_, (WalksTo.nil ..).walkNames, trivial⟩
      · by_cases hstop : more = [] ∧ last.follows slash' = false
        · -- the walk stops at the link itself
          rw [hstop.1]
          exact ⟨_, walkNames_name _ _ _ _ _ hn fun _ _ => hstop.2, ⟨_, hget, rfl⟩⟩
        · rw [walkNames_link_cons _ _ _ _ _ hn hget fun h => by simpa [h] using hstop]
          exact ih hdir ((List.prefix_append_right_inj _).mpr hmore) _

/-! ## Walks below a location

Where a walk ends is settled by the names it takes and by the links it follows. If neither has a `..` and no link starts
at the root, the walk never turns back. -/

/-- The links below a location descend. -/
def LinksDescend (d : Disk) (top : Location) : Prop :=
  ∀ l target, isBelow top l = true → d.get? l = some (.link target) → target.Descends

/-- That all links below a location descend can be checked entry by entry, which is how it is decided of a given
disk. -/
theorem linksDescend_of_forall_mem {d : Disk} (top : Location)
    (h : ∀ entry ∈ d.objects, ∀ target, entry.2 = .link target → target.Descends) : d.LinksDescend top := by
  intro l target _ hget
  obtain ⟨before, after, hobjects, -⟩ := List.lookup_eq_some_iff.mp hget
  exact h (l, .link target) (by rw [hobjects]; simp) target rfl

theorem isBelow_iff {top l : Location} : isBelow top l = true ↔ top <+: l ∧ top ≠ l := by
  simp only [isBelow, Bool.and_eq_true, List.isPrefixOf_iff_prefix, bne_iff_ne, ne_eq]

/-- Nothing stands below a location that has nothing below it. Only one lookup is claimed, so entries that are shadowed
by others do not matter. -/
theorem get?_eq_none_of_hasBelow {d : Disk} {top l : Location} (h : d.hasBelow top = false)
    (hl : isBelow top l = true) : d.get? l = none := by
  cases hget : d.get? l with
  | none => rfl
  | some o =>
      obtain ⟨before, after, hobjects, -⟩ := List.lookup_eq_some_iff.mp hget
      simp only [hasBelow, List.any_eq_false] at h
      exact absurd hl (h (l, o) (by rw [hobjects]; simp))

theorem isBelow_self (top : Location) : isBelow top top = false := by
  simp [isBelow]

/-- What is entered from inside a location lies below it. -/
theorem isBelow_append_singleton {top current : Location} (h : top <+: current) (n : List UInt8) :
    isBelow top (current ++ [n]) = true := by
  refine isBelow_iff.mpr ⟨h.trans (List.prefix_append _ _), fun heq => ?_⟩
  have hlen := h.length_le
  have : top.length = current.length + 1 := by rw [heq]; simp
  omega

/-- Names that are added lead below, as long as there are any. -/
theorem isBelow_append {top ms : Location} (hne : ms ≠ []) : isBelow top (top ++ ms) = true := by
  refine isBelow_iff.mpr ⟨List.prefix_append _ _, fun heq => hne ?_⟩
  exact List.self_eq_append_right.mp heq

/-- A walk that starts at or below `top` and takes no `..` ends there, if the links below `top` descend. Induction on
the walk; the target of a link brings in names without `..` again. -/
theorem WalksTo.within {d : Disk} {last : LastLink} {links : Nat} {current top : Location}
    {names : List (List UInt8)} {slash : Bool} {spot : Spot} (h : WalksTo d last links current names slash spot)
    (hlinks : d.LinksDescend top) (hcurrent : top <+: current) (hnames : Path.dotDot ∉ names) :
    spot.Within top := by
  induction h with
  | nil => exact hcurrent
  | dot => exact hcurrent
  | dotDot => exact absurd hnames (by simp)
  | name => exact hcurrent
  | passDot _ _ ih => exact ih hcurrent fun h => hnames (List.mem_cons_of_mem _ h)
  | passDotDot => exact absurd hnames (by simp)
  | pass _ _ _ _ ih =>
      exact ih (hcurrent.trans (List.prefix_append _ _)) fun h => hnames (List.mem_cons_of_mem _ h)
  | @follow links current rest slash spot n target _ hget _ _ ih =>
      -- the link lies below `top`, so its target is walked from the same place and takes no `..` either
      have htarget : target.Descends := hlinks _ _ (isBelow_append_singleton hcurrent n) hget
      apply ih
      · rw [startFrom, htarget.relative]
        exact hcurrent
      · rw [List.mem_append]
        exact fun h => h.elim htarget.noParent fun h => hnames (List.mem_cons_of_mem _ h)

/-! ## Walks on a disk that has more

A walk depends on a disk only through the directories and the links it passes. Changes that keep these keep the way of
the walk, so paths that led to a directory go on leading there. -/

/-- `d'` has the directories and the links of `d`: all that a walk passes through. -/
structure Carries (d d' : Disk) : Prop where
  workingDirectory : d'.workingDirectory = d.workingDirectory
  directory : ∀ l mode, d.get? l = some (.directory mode) → ∃ mode', d'.get? l = some (.directory mode')
  link : ∀ l target, d.get? l = some (.link target) → d'.get? l = some (.link target)

/-- A walk goes the same way on a disk that has the same directories and links, unless a link stands where it ended.
Files may come and change, since no walk goes through one. -/
theorem WalksTo.carry {d d' : Disk} {last : LastLink} {links : Nat} {current : Location}
    {names : List (List UInt8)} {slash : Bool} {spot : Spot} (h : WalksTo d last links current names slash spot)
    (hcarry : d.Carries d')
    (hspot : ∀ target, d'.get? spot.location = some (.link target) → d.get? spot.location = some (.link target)) :
    WalksTo d' last links current names slash spot := by
  induction h with
  | nil => exact .nil ..
  | dot => exact .dot ..
  | dotDot => exact .dotDot ..
  | name links current slash hn hlink => exact .name _ _ _ hn fun target ht => hlink target (hspot target ht)
  | passDot hrest _ ih => exact .passDot hrest (ih hspot)
  | passDotDot hrest _ ih => exact .passDotDot hrest (ih hspot)
  | pass hn hrest hdir _ ih =>
      obtain ⟨_, hdir'⟩ := hcarry.directory _ _ hdir
      exact .pass hn hrest hdir' (ih hspot)
  | follow hn hget hrest _ ih => exact .follow hn (hcarry.link _ _ hget) hrest (ih hspot)

/-- Whether a link in the last place is followed does not matter where no link stands. So a path that names a file or a
directory can be walked in any mode. -/
theorem WalksTo.of_never {d : Disk} {links : Nat} {current : Location} {names : List (List UInt8)} {slash : Bool}
    {spot : Spot} (h : WalksTo d .never links current names slash spot)
    (hspot : ∀ target, d.get? spot.location ≠ some (.link target)) (last : LastLink) :
    WalksTo d last links current names slash spot := by
  induction h with
  | nil => exact .nil ..
  | dot => exact .dot ..
  | dotDot => exact .dotDot ..
  | name links current slash hn hlink => exact .name _ _ _ hn fun target ht => absurd ht (hspot target)
  | passDot hrest _ ih => exact .passDot hrest (ih hspot)
  | passDotDot hrest _ ih => exact .passDotDot hrest (ih hspot)
  | pass hn hrest hdir _ ih => exact .pass hn hrest hdir (ih hspot)
  | follow hn hget hrest _ ih =>
      -- a link in the last place was not followed, so names come behind this one
      exact .follow hn hget (fun hr => absurd (hrest hr) (by simp [LastLink.follows])) (ih hspot)

end Disk

end Bootstrap
