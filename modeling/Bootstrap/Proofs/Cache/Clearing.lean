import Bootstrap.Proofs.Cache.Expansion
import Bootstrap.Proofs.Disk.Absence

/-!
# What a cache list removes

The entries of a list are taken one after the other, each on the disk that the ones before it left. `Cache.Contributes`
says which path an entry contributes at its turn and `Cache.Clearing` what becomes of the disk, turn by turn; both hold for
every run that succeeds, `Cache.clearing_of_clear`. Of the whole run `Cache.clear_removes` says that the disk has lost what
goes with the paths that are reported, as they stood on the disk before the run, and nothing else.

What goes with a path is not always the directory it leads to. A path may lead to a directory through something in it: through
a name and `..`, or through a link. Once the directory is emptied such a path leads nowhere. Then the directory stays and is
reported all the same, `clear_turningBack`.
-/

namespace Bootstrap.Cache

open Effect Disk
open Bootstrap.Path (IsPlain)

variable {entry : String} {home p q : Path} {d d' d₁ : Disk} {start : List Char} {top : Location}

/-! ## Names that are text -/

/-- Every name of an object is text. -/
def HasTextNames (d : Disk) : Prop := ∀ l n, (d.get? (l ++ [n])).isSome = true → ∃ s, n = Text.encode s

/-- It is enough to look at every object once. -/
theorem hasTextNames_of_forall_mem (h : ∀ entry ∈ d.objects, ∀ n ∈ entry.1.getLast?, (Text.decode? n).isSome = true) :
    HasTextNames d := by
  intro l n hthere
  obtain ⟨entry, hmem, hloc⟩ := get?_isSome_iff.mp hthere
  obtain ⟨s, hs⟩ := Option.isSome_iff_exists.mp (h entry hmem n (by rw [hloc]; simp))
  exact ⟨s, (Text.encode_of_decode? hs).symm⟩

/-- What is there on what is left was there before. -/
theorem isSome_of_grows {l : Location} (h : d'.Grows d) (hthere : (d'.get? l).isSome = true) :
    (d.get? l).isSome = true := by
  obtain ⟨o, hget⟩ := Option.isSome_iff_exists.mp hthere
  rw [h.get? l o hget]
  rfl

/-- A tree whose names are plain texts. -/
structure IsNamed (d : Disk) : Prop where
  tree : d.IsTree
  plain : d.HasPlainNames
  text : HasTextNames d

/-- A disk that has lost something still is a tree of such names, so the next entry starts from one. -/
theorem IsNamed.loses (hd : IsNamed d) (h : d.Loses p d') : IsNamed d' where
  tree := h.without.isTree hd.tree h.root
  plain l n hthere := hd.plain l n (isSome_of_grows h.without.grows hthere)
  text l n hthere := hd.text l n (isSome_of_grows h.without.grows hthere)

/-! ## What an entry contributes -/

/-- A name in a directory that starts as a pattern asks. -/
structure Fits (d : Disk) (top : Location) (start : List Char) (name : String) : Prop where
  there : (d.get? (top ++ [Text.encode name])).isSome = true
  starts : start <+: name.toList

/-- The path that an entry contributes at its turn: the one it spells, if something stands there, or for a pattern the
least fitting name in the directory in which it is looked for. -/
inductive Contributes (home : Path) (d : Disk) (entry : String) : Option Path → Prop where
  | spelled (hpattern : pattern? (spelledPath entry home) = none) (hthere : d.occupied (spelledPath entry home) = true) :
      Contributes home d entry (some (spelledPath entry home))
  | missing (hpattern : pattern? (spelledPath entry home) = none)
      (hmissing : d.linkStatus (spelledPath entry home) = .error (.system .notFound)) : Contributes home d entry none
  | least {start : List Char} {top : Location} {name : String} (hpattern : pattern? (spelledPath entry home) = some start)
      (hdir : d.LeadsTo (above (spelledPath entry home)) top) (hfits : Fits d top start name)
      (hleast : ∀ name', Fits d top start name' → Text.encode name ≤ Text.encode name') :
      Contributes home d entry (some ((above (spelledPath entry home)).joinText name))
  | unmatched {start : List Char} (hpattern : pattern? (spelledPath entry home) = some start)
      (hnone : ∀ top name, d.LeadsTo (above (spelledPath entry home)) top → ¬ Fits d top start name) :
      Contributes home d entry none

/-- For a name that is text the pattern is compared with the characters of the text. -/
theorem startsWith_encode {s : String} : startsWith start (Text.encode s) = true ↔ start <+: s.toList := by
  rw [startsWith, Text.display_encode, List.isPrefixOf_iff_prefix]

/-- The path of a directory lists what stands in the directory it leads to. -/
theorem listDirectory_of_leadsTo (h : d.LeadsTo q top) : d.listDirectory q = .ok (d.namesIn top) := by
  obtain ⟨mode, hstatus⟩ := h
  rw [listDirectory, hstatus]
  rfl

/-- The walk to a name in a directory goes through the directory, or the path is too long. Either way it does not end
for the reason that something is missing. -/
theorem walk_joinText_ne_notFound {s : String} (hdir : d.LeadsTo q top) (hs : IsPlain (Text.encode s)) :
    d.walk .beforeSlash (q.joinText s) ≠ .error (.system .notFound) := by
  obtain ⟨-, spot, mode, hwalk, rfl, hmode⟩ := leadsTo_iff.mp hdir
  -- the walk gets to the directory with some links left, and has one name to go
  obtain ⟨left, hleft⟩ := walkNames_append hwalk hmode
  have hname := Path.endsInName_joinText q hs
  unfold walk
  split_ifs with hnul hempty hshort
  · simp
  · exact absurd (by simpa using hempty) hname.ne_nil
  · simp
  · rw [startFrom_congr (Path.isAbsolute_joinText hs), Path.names_joinText hs, hname.noSlash, hleft _ _ _ (by simp)]
    -- this name is too long, or the walk ends at it
    by_cases hlong : (Text.encode s).length > maxName
    · rw [walkNames_cons, if_neg hs.ne_dot, if_neg hs.ne_dotDot, if_pos hlong]
      simp
    · rw [walkNames_name _ _ _ _ _ ⟨hs.ne_dot, hs.ne_dotDot, by omega⟩ fun _ _ => rfl]
      simp

/-- A name that stands in a directory is found by the path of the directory, or the path is too long. So where the path
of a listed name is reported as missing, the directory must have been reached in another way. -/
theorem linkStatus_joinText_ne_notFound {s : String} (hdir : d.LeadsTo q top) (hs : IsPlain (Text.encode s))
    (hthere : (d.get? (top ++ [Text.encode s])).isSome = true) :
    d.linkStatus (q.joinText s) ≠ .error (.system .notFound) := by
  obtain ⟨o, hget⟩ := Option.isSome_iff_exists.mp hthere
  intro hfound
  unfold linkStatus find at hfound
  cases hwalk : d.walk .beforeSlash (q.joinText s) with
  | error c =>
      rw [hwalk] at hfound
      cases hfound
      exact walk_joinText_ne_notFound hdir hs hwalk
  | ok spot =>
      -- a walk that ends does so at the name in the directory, where something stands
      obtain rfl := hdir.walk_joinText hs rfl hwalk
      rw [hwalk] at hfound
      simp only [bind, Except.bind] at hfound
      split at hfound
      · next hnone =>
        rw [Spot.location, hget] at hnone
        cases hnone
      all_goals cases hfound

/-- What a removal without a failure does: nothing is there and nothing is done, or what stands at the path is gone. The
directory case empties first, so it may end with a path that leads nowhere although the directory stands. -/
theorem removePath_eq_ok {there : Bool} (ht : d.IsTree) (h : runFrom (removePath p) d = (.ok there, d')) :
    there = false ∧ d' = d ∧ d.linkStatus p = .error (.system .notFound) ∨ there = true ∧ d.Loses p d' := by
  unfold removePath at h
  rw [runFrom_get_bind] at h
  split at h
  · next hmissing =>
    cases h
    exact .inl ⟨rfl, rfl, hmissing⟩
  · cases h
  · next top o hstatus =>
    -- a directory goes with all that is below it, anything else alone
    split at h
    · next hdir =>
      obtain ⟨mode, rfl⟩ := Object.eq_directory_of_isDirectory hdir
      rw [runFrom_get_bind] at h
      rcases htree : d.removeTree p with ⟨c | ⟨⟩, d₁⟩
      · rw [htree] at h
        cases h
      · rw [htree] at h
        cases h
        exact .inr ⟨rfl, loses_of_removeTree ht hstatus htree⟩
    · obtain ⟨⟨⟩, d₁, hremove, h⟩ := exists_of_runFrom_bind h
      cases h
      exact .inr ⟨rfl, loses_of_removeFile ht (runFrom_change_eq_ok.mp (runFrom_during_eq_ok.mp hremove))⟩

/-- For a pattern the first listed name that fits is the least one that fits, in the order of bytes. -/
theorem find?_startsWith_eq_some {n : List UInt8} (hd : IsNamed d)
    (h : (d.namesIn top).find? (startsWith start) = some n) :
    ∃ name, n = Text.encode name ∧ Fits d top start name ∧
      ∀ name', Fits d top start name' → Text.encode name ≤ Text.encode name' := by
  obtain ⟨hstart, hthere, hleast⟩ := find?_namesIn_eq_some h
  obtain ⟨name, rfl⟩ := hd.text top n hthere
  exact ⟨name, rfl, ⟨hthere, startsWith_encode.mp hstart⟩,
    fun name' hfits => hleast _ hfits.there (startsWith_encode.mpr hfits.starts)⟩

/-- What an entry stands for it contributes, if something stands there: the spelled path, or the first sibling that fits
a pattern. -/
theorem Expands.contributes_some (hd : IsNamed d) (h : Expands home d entry (some p)) (hthere : d.occupied p = true) :
    Contributes home d entry (some p) := by
  generalize hr : some p = r at h
  cases h with
  | spelled hpattern =>
      cases hr
      exact .spelled hpattern hthere
  | missing => cases hr
  | listed hpattern hlist =>
      obtain ⟨n, hfind, rfl⟩ := Option.map_eq_some_iff.mp hr.symm
      obtain ⟨top, mode, hstatus, rfl⟩ := exists_of_listDirectory hlist
      obtain ⟨name, rfl, hfits, hleast⟩ := find?_startsWith_eq_some hd hfind
      rw [← hr]
      exact .least hpattern ⟨mode, hstatus⟩ hfits hleast

/-- Where nothing stands, nothing is contributed. This concerns spelled paths only, for a name that was found for a
pattern stands in its directory. -/
theorem Expands.contributes_none (hd : IsNamed d) (h : Expands home d entry (some p))
    (hmissing : d.linkStatus p = .error (.system .notFound)) : Contributes home d entry none := by
  generalize hr : some p = r at h
  cases h with
  | spelled hpattern =>
      cases hr
      exact .missing hpattern hmissing
  | missing => cases hr
  | listed hpattern hlist =>
      obtain ⟨n, hfind, rfl⟩ := Option.map_eq_some_iff.mp hr.symm
      obtain ⟨top, mode, hstatus, rfl⟩ := exists_of_listDirectory hlist
      obtain ⟨name, rfl, hfits, -⟩ := find?_startsWith_eq_some hd hfind
      have hplain : IsPlain (Text.encode name) := hd.plain top _ hfits.there
      exact absurd hmissing (linkStatus_joinText_ne_notFound ⟨mode, hstatus⟩ hplain hfits.there)

/-- An entry that stands for nothing contributes nothing: the directory of its pattern is missing, or nothing in it
fits. -/
theorem Expands.contributes_of_none (h : Expands home d entry none) : Contributes home d entry none := by
  generalize hr : (none : Option Path) = r at h
  cases h with
  | spelled => cases hr
  | missing hpattern hlist =>
      refine .unmatched hpattern fun top name hdir _ => ?_
      rw [listDirectory_of_leadsTo hdir] at hlist
      cases hlist
  | listed hpattern hlist =>
      have hfind := Option.map_eq_none_iff.mp hr.symm
      rw [← hr]
      obtain ⟨top, mode, hstatus, rfl⟩ := exists_of_listDirectory hlist
      refine .unmatched hpattern fun top' name hdir hfits => ?_
      -- a name that fits would have been found
      obtain rfl := hdir.unique ⟨mode, hstatus⟩
      have hno := find?_namesIn_eq_none.mp hfind _ hfits.there
      rw [startsWith_encode.mpr hfits.starts] at hno
      cases hno

/-- An entry that is handled without failure contributes a path that is removed, or nothing, and then nothing happens.
Which of them is settled by what stands at the path when it is the turn of the entry. -/
theorem clearEntry_eq_ok {removed removed' : List Path} (hd : IsNamed d)
    (h : runFrom (clearEntry home removed entry) d = (.ok removed', d')) :
    Contributes home d entry none ∧ removed' = removed ∧ d' = d ∨
      ∃ p, Contributes home d entry (some p) ∧ removed' = removed ++ [p] ∧ d.Loses p d' := by
  rw [runFrom_clearEntry] at h
  obtain ⟨r, hexpand⟩ : ∃ r, runFrom (expand entry home) d = (r, d) := ⟨_, Prod.ext rfl (runFrom_expand_snd ..)⟩
  rw [hexpand] at h
  -- the entry stands for nothing, or for a path
  rcases r with f | r
  · cases h
  · obtain ⟨-, -, -, hexpands⟩ := expand_eq_ok.mp hexpand
    cases r with
    | none =>
        cases h
        exact .inl ⟨hexpands.contributes_of_none, rfl, rfl⟩
    | some p =>
        dsimp only at h
        rcases hremove : runFrom (removePath p) d with ⟨f | there, d₁⟩
        · rw [hremove] at h
          cases h
        · rw [hremove] at h
          cases h
          -- at which nothing may be
          rcases removePath_eq_ok hd.tree hremove with ⟨rfl, rfl, hmissing⟩ | ⟨rfl, hloses⟩
          · exact .inl ⟨hexpands.contributes_none hd hmissing, rfl, rfl⟩
          · exact .inr ⟨p, hexpands.contributes_some hd hloses.occupied, rfl, hloses⟩

/-! ## Entry by entry -/

/-- What a list of entries removes, in order, and the disk behind it. -/
inductive Clearing (home : Path) : Disk → List String → List Path → Disk → Prop where
  | nil (d : Disk) : Clearing home d [] [] d
  | skip {d d' : Disk} {entry : String} {entries : List String} {removed : List Path}
      (h : Contributes home d entry none) (hrest : Clearing home d entries removed d') :
      Clearing home d (entry :: entries) removed d'
  | remove {d d₁ d' : Disk} {entry : String} {entries : List String} {p : Path} {removed : List Path}
      (h : Contributes home d entry (some p)) (hp : d.Loses p d₁) (hrest : Clearing home d₁ entries removed d') :
      Clearing home d (entry :: entries) (p :: removed) d'

/-- The loop over the entries takes them one by one. Induction on the entries, the disk and the removed paths changing
as they go. -/
theorem clearing_of_foldlM {entries : List String} {before removed : List Path} (hd : IsNamed d)
    (h : runFrom (entries.foldlM (clearEntry home) before) d = (.ok removed, d')) :
    ∃ more, removed = before ++ more ∧ Clearing home d entries more d' := by
  induction entries generalizing d before with
  | nil =>
      cases h
      exact ⟨[], (List.append_nil _).symm, .nil _⟩
  | cons entry entries ih =>
      rw [List.foldlM_cons] at h
      obtain ⟨removed₁, d₁, hentry, hrest⟩ := exists_of_runFrom_bind h
      rcases clearEntry_eq_ok hd hentry with ⟨hnone, rfl, rfl⟩ | ⟨p, hp, rfl, hloses⟩
      · obtain ⟨more, hremoved, hmore⟩ := ih hd hrest
        exact ⟨more, hremoved, .skip hnone hmore⟩
      · obtain ⟨more, rfl, hmore⟩ := ih (hd.loses hloses) hrest
        exact ⟨p :: more, by simp, .remove hp hloses hmore⟩

/-- Whatever was removed stood at its path before the first turn and does not behind the last one, and with all these paths
goes, on the disk before the first turn, just what is gone behind the last one. -/
theorem Clearing.without {entries : List String} {removed : List Path} (h : Clearing home d entries removed d') :
    d.Without removed d' ∧ (∀ p ∈ removed, d.occupied p = true) ∧ ∀ p ∈ removed, d'.occupied p = false := by
  induction h with
  | nil d => exact ⟨.refl d, by simp, by simp⟩
  | skip _ _ ih => exact ih
  | @remove d d₁ d' entry entries p removed _ hp _ ih =>
      obtain ⟨hwithout, hthere, hfree⟩ := ih
      have hgrows := hp.without.grows
      refine ⟨hp.without.append hwithout hthere, ?_, ?_⟩
      · intro q hq
        rcases List.mem_cons.mp hq with rfl | hq
        · exact hp.occupied
        · exact hgrows.occupied (hthere q hq)
      · intro q hq
        rcases List.mem_cons.mp hq with rfl | hq
        · -- what is gone stays away
          by_contra hocc
          have hback := hwithout.grows.occupied (by simpa using hocc)
          rw [hp.free] at hback
          cases hback
        · exact hfree q hq

/-- **Clearing.** A run that succeeds takes the entries of the list in order; of each the path that it contributes at its
turn is removed. Behind it the disk has lost what goes with the paths that are reported, as they stood before the run, and
nothing else. A run that fails does so at one entry, and goes like that whatever entries come behind. -/
theorem clear_removes {spec : String} (ht : d.IsTree) (hplain : d.HasPlainNames) (htext : HasTextNames d) :
    (∀ removed d', (clear spec home).runOn d = (.ok removed, d') →
      Clearing home d (Text.items spec) removed d' ∧ d.Without removed d' ∧
        (∀ p ∈ removed, d.occupied p = true) ∧ ∀ p ∈ removed, d'.occupied p = false) ∧
      ∀ f d', (clear spec home).runOn d = (.error f, d') →
        ∃ before entry after removed d₁, Text.items spec = before ++ entry :: after ∧
          Clearing home d before removed d₁ ∧ (clearEntry home removed entry).runOn d₁ = (.error f, d') ∧
            ∀ spec' after', Text.items spec' = before ++ entry :: after' →
              (clear spec' home).runOn d = (.error f, d') := by
  have hd : IsNamed d := ⟨ht, hplain, htext⟩
  constructor
  · intro removed d' hrun
    obtain ⟨_, rfl, hclearing⟩ := clearing_of_foldlM hd hrun
    exact ⟨hclearing, hclearing.without⟩
  · intro f d' hrun
    obtain ⟨before, entry, after, removed, d₁, hitems, hbefore, hfails⟩ := runFrom_foldlM_eq_error.mp hrun
    obtain ⟨_, rfl, hclearing⟩ := clearing_of_foldlM hd hbefore
    refine ⟨before, entry, after, _, d₁, hitems, hclearing, hfails, fun spec' after' hitems' => ?_⟩
    exact runFrom_foldlM_eq_error.mpr ⟨before, entry, after', _, d₁, hitems', hbefore, hfails⟩

/-- A cache directory with two plugins, and a link to it. -/
def cacheDisk : Disk :=
  ⟨[], [([], .directory 0o755), ([Text.encode "c"], .directory 0o755),
    ([Text.encode "c", Text.encode "p-a"], .directory 0o755),
    ([Text.encode "c", Text.encode "p-a", Text.encode "x"], .file 0o644 [0x78]),
    ([Text.encode "c", Text.encode "p-b"], .file 0o644 [0x78]), ([Text.encode "l"], .link (.ofText "/c"))]⟩

/-- The pattern stands for the first of the two plugins. -/
theorem expand_cacheDisk :
    runFrom (expand "/c/p-*" (.ofText "/home")) cacheDisk = (.ok (some (.ofText "/c/p-a")), cacheDisk) := by
  set q := above (spelledPath "/c/p-*" (.ofText "/home")) with hq
  have hpattern : pattern? (spelledPath "/c/p-*" (.ofText "/home")) = some ['p', '-'] := by decide +kernel
  -- sorting by merging is not unfolded here: the names are in order as they stand
  have hnames : cacheDisk.namesIn [Text.encode "c"] = [Text.encode "p-a", Text.encode "p-b"] :=
    List.mergeSort_of_pairwise (by decide +kernel)
  have hstatus : cacheDisk.status q = .ok ([Text.encode "c"], .directory 0o755) := by decide +kernel
  have hlist : cacheDisk.listDirectory q = .ok [Text.encode "p-a", Text.encode "p-b"] := by
    rw [listDirectory, hstatus, ← hnames]
    rfl
  have hfound : ([Text.encode "p-a", Text.encode "p-b"].find? (startsWith ['p', '-'])).map (q.join ⟨·⟩) =
      some (.ofText "/c/p-a") := by
    decide +kernel
  exact expand_eq_ok.mpr ⟨rfl, by decide, by decide, hfound ▸ .listed hpattern hlist⟩

/-- The pattern removes the first plugin with all it contains, the link is removed itself, and the second plugin stays. -/
theorem clear_removes_cacheDisk :
    cacheDisk.IsTree ∧ cacheDisk.HasPlainNames ∧ HasTextNames cacheDisk ∧ ∃ d',
      (clear "/c/p-*, /none, /l" (.ofText "/home")).runOn cacheDisk = (.ok [.ofText "/c/p-a", .ofText "/l"], d') ∧
        cacheDisk.Without [.ofText "/c/p-a", .ofText "/l"] d' ∧
          d'.get? [Text.encode "c", Text.encode "p-a", Text.encode "x"] = none ∧
            d'.get? [Text.encode "c", Text.encode "p-b"] = some (.file 0o644 [0x78]) := by
  have ht : cacheDisk.IsTree := isTree_of_forall_mem (by decide) (by decide +kernel)
  have hplain : cacheDisk.HasPlainNames := hasPlainNames_of_forall_mem (by decide +kernel)
  have htext : HasTextNames cacheDisk := hasTextNames_of_forall_mem (by decide +kernel)
  -- the first entry takes the least of the two names, with all below it
  let d₁ := (cacheDisk.eraseBelow [Text.encode "c", Text.encode "p-a"]).erase [Text.encode "c", Text.encode "p-a"]
  have hfirst : runFrom (clearEntry (.ofText "/home") [] "/c/p-*") cacheDisk = (.ok [.ofText "/c/p-a"], d₁) := by
    rw [clearEntry, runFrom_bind_ok expand_cacheDisk]
    decide +kernel
  -- the second is missing, and of the third the link goes and not what it leads to
  have hrest : runFrom (["/none", "/l"].foldlM (clearEntry (.ofText "/home")) [.ofText "/c/p-a"]) d₁ =
      (.ok [.ofText "/c/p-a", .ofText "/l"], d₁.erase [Text.encode "l"]) := by
    decide +kernel
  have hrun : (clear "/c/p-*, /none, /l" (.ofText "/home")).runOn cacheDisk =
      (.ok [.ofText "/c/p-a", .ofText "/l"], d₁.erase [Text.encode "l"]) := by
    have hitems : Text.items "/c/p-*, /none, /l" = ["/c/p-*", "/none", "/l"] := by decide +kernel
    rw [runOn_eq, clear, hitems, List.foldlM_cons, runFrom_bind_ok hfirst, hrest]
  obtain ⟨-, hwithout, -⟩ := (clear_removes ht hplain htext).1 _ _ hrun
  exact ⟨ht, hplain, htext, _, hrun, hwithout, by decide +kernel, by decide +kernel⟩

/-- A directory with a link in it that leads back to the directory above. -/
def turningDisk : Disk :=
  ⟨[], [([], .directory 0o755), ([Text.encode "a"], .directory 0o755),
    ([Text.encode "a", Text.encode "d"], .directory 0o755),
    ([Text.encode "a", Text.encode "d", Text.encode "up"], .link (.ofText ".."))]⟩

/-- The path `/a/d/up/d` leads to `/a/d` through a link in it. It is reported as removed: the directory is emptied, by then the
path leads nowhere, and the directory stays. -/
theorem clear_turningBack :
    turningDisk.linkStatus (.ofText "/a/d/up/d") = .ok ([Text.encode "a", Text.encode "d"], .directory 0o755) ∧ ∃ d',
      (clear "/a/d/up/d" (.ofText "/home")).runOn turningDisk = (.ok [.ofText "/a/d/up/d"], d') ∧
        d'.get? [Text.encode "a", Text.encode "d", Text.encode "up"] = none ∧
          d'.get? [Text.encode "a", Text.encode "d"] = some (.directory 0o755) := by
  have hrun : (clear "/a/d/up/d" (.ofText "/home")).runOn turningDisk =
      (.ok [.ofText "/a/d/up/d"], turningDisk.eraseBelow [Text.encode "a", Text.encode "d"]) := by decide +kernel
  exact ⟨by decide +kernel, _, hrun, by decide +kernel, by decide +kernel⟩

end Bootstrap.Cache
