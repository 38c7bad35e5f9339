import Bootstrap.Cache
import Bootstrap.Proofs.Disk.Change
import Bootstrap.Proofs.Disk.Listing
import Bootstrap.Proofs.Effect
import Bootstrap.Proofs.Path.Components
import Bootstrap.Proofs.Text.Encoding
import Mathlib.Tactic.Common

/-!
# What an entry of a cache list stands for

`Cache.expand` looks at the disk and changes nothing, so an entry stands for a path by what is on the disk at its turn:
`Cache.Expands` has one rule for each way.

An entry with `~/` in front is written below the home directory. Only the two spellings `~` and `~/` of the home directory
are refused, and the rest of an entry is not looked at: `~/.` is the home directory too, `~/../x` stands beside it and the
rest of `~//etc` is a path of its own. `Cache.expand_isInside` says which entries stay inside, `expand_dotHome` what comes
of the others.
-/

namespace Bootstrap.Cache

open Effect Disk
open Bootstrap.Path (IsPlain IsInside Component)

variable {entry : String} {home p : Path} {d d' : Disk} {r : Option Path} {start : List Char}

/-! ## Spelling -/

/-- An entry below the home directory is joined to it. -/
theorem spelledPath_home (rest : String) (home : Path) : spelledPath ("~/" ++ rest) home = home.joinText rest := by
  have hchars : ("~/" ++ rest).toList = '~' :: '/' :: rest.toList := by rw [String.toList_append]; rfl
  rw [spelledPath, hchars]
  show home.joinText (String.ofList rest.toList) = _
  rw [String.ofList_toList]

/-- A pattern is a last name that is text and ends in a star. What is in front of the star is what a sibling has to
start with. -/
theorem pattern?_eq_some : pattern? p = some start ↔
    ∃ name : String, p.fileName? = some (Text.encode name) ∧ name.toList = start ++ ['*'] := by
  unfold pattern?
  constructor
  · intro h
    obtain ⟨bytes, hfile, h⟩ := Option.bind_eq_some_iff.mp h
    obtain ⟨name, hdecode, h⟩ := Option.bind_eq_some_iff.mp h
    split at h
    · next hlast =>
      obtain rfl : name.toList.dropLast = start := Option.some.inj h
      -- without its last character, which is the star, the name is what a sibling has to start with
      obtain ⟨front, hfront⟩ := List.getLast?_eq_some_iff.mp hlast
      exact ⟨name, by rw [hfile, Text.encode_of_decode? hdecode], by rw [hfront, List.dropLast_concat]⟩
    · cases h
  · rintro ⟨name, hfile, hname⟩
    simp [hfile, hname]

/-! ## Expansion -/

/-- Where a pattern is looked for. -/
def above (p : Path) : Path := p.parent?.getD (Path.ofText "/")

def startsWith (start : List Char) (n : List UInt8) : Bool := start.isPrefixOf (Text.display n).toList

/-- What an entry stands for on a disk. -/
inductive Expands (home : Path) (d : Disk) (entry : String) : Option Path → Prop where
  | spelled (hpattern : pattern? (spelledPath entry home) = none) : Expands home d entry (some (spelledPath entry home))
  | missing {start : List Char} (hpattern : pattern? (spelledPath entry home) = some start)
      (hlist : d.listDirectory (above (spelledPath entry home)) = .error (.system .notFound)) : Expands home d entry none
  | listed {start : List Char} {names : List (List UInt8)} (hpattern : pattern? (spelledPath entry home) = some start)
      (hlist : d.listDirectory (above (spelledPath entry home)) = .ok names) :
      Expands home d entry ((names.find? (startsWith start)).map fun n => (above (spelledPath entry home)).join ⟨n⟩)

/-- An expansion only looks at the disk, whether it succeeds or not. -/
theorem runFrom_expand_snd (entry : String) (home : Path) (d : Disk) : (runFrom (expand entry home) d).2 = d := by
  unfold expand
  split
  · rfl
  · dsimp only
    split
    · rfl
    · rw [runFrom_get_bind]
      split <;> rfl

/-- What an entry stands for, without a failure. The disk is only looked at, and the two spellings that are refused are
not among these entries. -/
theorem expand_eq_ok : runFrom (expand entry home) d = (.ok r, d') ↔
    d' = d ∧ entry ≠ "~" ∧ entry ≠ "~/" ∧ Expands home d entry r := by
  constructor
  · intro h
    have hsame : d' = d := by
      have hsnd := runFrom_expand_snd entry home d
      rwa [h] at hsnd
    -- the arms of `expand`: the home directory itself, no pattern, no directory for a pattern, its names
    unfold expand at h
    split at h
    · cases h
    · next hhome =>
      simp only [Bool.or_eq_true, decide_eq_true_eq, not_or] at hhome
      refine ⟨hsame, hhome.1, hhome.2, ?_⟩
      dsimp only at h
      split at h
      · next hpattern =>
        cases h
        exact .spelled hpattern
      · next start hpattern =>
        rw [runFrom_get_bind] at h
        split at h
        · next hlist =>
          cases h
          exact .missing hpattern hlist
        · cases h
        · next names hlist =>
          cases h
          exact .listed hpattern hlist
  · rintro ⟨rfl, htilde, hslash, h⟩
    unfold expand
    rw [if_neg (by simp [htilde, hslash])]
    dsimp only
    cases h with
    | spelled hpattern => rw [hpattern]; rfl
    | missing hpattern hlist =>
        unfold above at hlist
        rw [hpattern]
        dsimp only
        rw [runFrom_get_bind, hlist]
        rfl
    | listed hpattern hlist =>
        unfold above at hlist
        rw [hpattern]
        dsimp only
        rw [runFrom_get_bind, hlist]
        rfl

/-- What is listed are the names in the directory to which the path leads. -/
theorem exists_of_listDirectory {q : Path} {names : List (List UInt8)} (h : d.listDirectory q = .ok names) :
    ∃ top mode, d.status q = .ok (top, .directory mode) ∧ names = d.namesIn top := by
  unfold listDirectory at h
  obtain ⟨⟨top, o⟩, hstatus, h⟩ := exists_of_bind_eq_ok h
  cases o with
  | directory mode => cases h; exact ⟨top, mode, hstatus, rfl⟩
  | file mode content => cases h
  | link target => cases h

/-! ## Entries below the home directory -/

section Home

variable {rest : String}

/-- What an entry below the home directory stands for goes on behind the components of the home directory with what the
rest of the entry says, the last component perhaps replaced by the name that was found for it. -/
theorem Expands.components (habs : home.isAbsolute = true) (hplain : d.HasPlainNames)
    (hrelative : (Path.ofText rest).isAbsolute = false) (h : Expands home d ("~/" ++ rest) (some p)) :
    p.components = home.components ++ (Path.ofText rest).names.filterMap Component.ofPiece? ∨
      ∃ (q : Path) (f n : List UInt8), home.components ++ (Path.ofText rest).names.filterMap Component.ofPiece? =
        q.components ++ [.normal f] ∧ IsPlain n ∧ p.components = q.components ++ [.normal n] := by
  have hspelled : (home.joinText rest).components =
      home.components ++ (Path.ofText rest).names.filterMap Component.ofPiece? := Path.components_join habs hrelative
  have hjoined : (home.joinText rest).isAbsolute = true := (Path.isAbsolute_join hrelative).trans habs
  generalize hr : some p = r at h
  cases h with
  | spelled hpattern =>
      cases hr
      exact .inl (by rw [spelledPath_home, hspelled])
  | missing => cases hr
  | listed hpattern hlist =>
      -- the name that was found stands where the pattern stood
      rw [spelledPath_home] at hpattern hlist hr
      obtain ⟨n, hfind, rfl⟩ := Option.map_eq_some_iff.mp hr.symm
      obtain ⟨name, hfile, -⟩ := pattern?_eq_some.mp hpattern
      obtain ⟨q, hparent, hqabs, hcs⟩ := Path.components_of_fileName? hjoined hfile
      have habove : above (home.joinText rest) = q := by rw [above, hparent, Option.getD_some]
      obtain ⟨top, mode, -, rfl⟩ := exists_of_listDirectory hlist
      have hn : IsPlain n := hplain.of_mem_namesIn (List.mem_of_find?_eq_some hfind)
      refine .inr ⟨q, Text.encode name, n, by rw [← hspelled, hcs], hn, ?_⟩
      rw [habove, Path.components_join_name hqabs hn]

/-- It lies inside the home directory if and only if the rest names something and never turns back. A wildcard makes no
difference: what it is replaced by is a plain name, found in the directory that the rest spells. -/
theorem Expands.isInside_iff (habs : home.isAbsolute = true) (hplain : d.HasPlainNames)
    (hrelative : (Path.ofText rest).isAbsolute = false) (h : Expands home d ("~/" ++ rest) (some p)) :
    IsInside home p ↔ Path.dotDot ∉ (Path.ofText rest).names ∧ ∃ n ∈ (Path.ofText rest).names, n ≠ Path.dot := by
  set said := (Path.ofText rest).names.filterMap Component.ofPiece? with hsaid
  have hsaidCases : ∀ c ∈ said, c = .parent ∨ c.IsName :=
    fun c hc => Path.eq_parent_or_isName (fun n hn => Path.noSlash_of_mem_names hn) hc
  have hrest : (Path.dotDot ∉ (Path.ofText rest).names ∧ ∃ n ∈ (Path.ofText rest).names, n ≠ Path.dot) ↔
      said ≠ [] ∧ Component.parent ∉ said := by
    rw [Ne, Path.said_eq_nil_iff, Path.parent_mem_said_iff, not_forall, and_comm]
    simp
  rw [hrest]
  rcases h.components habs hplain hrelative with hp | ⟨q, f, n, hq, hn, hp⟩
  · exact Path.isInside_iff hp hsaidCases
  · rcases List.eq_nil_or_concat said with hnil | ⟨front, c, hconcat⟩
    · -- nothing is said: the name that was found replaces the last component of the home directory
      rw [← hsaid, hnil, List.append_nil] at hq
      refine iff_of_false (fun hinside => ?_) (by simp [hnil])
      obtain ⟨cs, hne, -, hcs⟩ := hinside
      have hlength := congrArg List.length (hp.symm.trans hcs)
      have hpos := List.length_pos_iff.mpr hne
      simp only [hq, List.length_append, List.length_singleton] at hlength
      omega
    · -- it replaces the last thing that the rest says, so what is in front of it decides
      rw [List.concat_eq_append] at hconcat
      rw [← hsaid, hconcat, ← List.append_assoc] at hq
      obtain ⟨hfront, hlast⟩ := List.append_inj' hq rfl
      obtain rfl : c = .normal f := List.cons.inj hlast |>.1
      have hcs : p.components = home.components ++ (front ++ [.normal n]) := by
        rw [hp, ← hfront, List.append_assoc]
      have hcases : ∀ c ∈ front ++ [Component.normal n], c = .parent ∨ c.IsName := by
        intro c hc
        rcases List.mem_append.mp hc with hc | hc
        · exact hsaidCases c (by rw [hconcat]; exact List.mem_append_left _ hc)
        · rw [List.mem_singleton.mp hc]
          exact .inr hn
      rw [Path.isInside_iff hcs hcases, hconcat]
      simp

end Home

/-! ## One entry of a list -/

/-- One entry of the list: it is expanded, and then removed if it stands for anything. The expansion changes nothing, so
all that an entry does to the disk is one removal. -/
theorem runFrom_clearEntry (home : Path) (removed : List Path) (entry : String) (d : Disk) :
    runFrom (clearEntry home removed entry) d =
      match (runFrom (expand entry home) d).1 with
      | .error f => (.error f, d)
      | .ok none => (.ok removed, d)
      | .ok (some p) =>
        ((runFrom (removePath p) d).1.map fun there => if there then removed ++ [p] else removed,
          (runFrom (removePath p) d).2) := by
  obtain ⟨r, hexpand⟩ : ∃ r, runFrom (expand entry home) d = (r, d) := ⟨_, Prod.ext rfl (runFrom_expand_snd ..)⟩
  rw [clearEntry, runFrom_bind, hexpand]
  rcases r with f | none | p
  · rfl
  · rfl
  · dsimp only
    rw [runFrom_bind]
    rcases runFrom (removePath p) d with ⟨f | there, d'⟩
    · rfl
    · cases there <;> rfl

/-- **Entries of the home directory.** Let the rest of an entry `~/…` be a relative path. A path that the entry stands for
lies inside the home directory if and only if the rest names something and never turns back. Such an entry removes
nothing, or what a path inside the home directory stands for. -/
theorem expand_isInside {rest : String} (habs : home.isAbsolute = true) (hplain : d.HasPlainNames)
    (hrelative : (Path.ofText rest).isAbsolute = false) :
    ((expand ("~/" ++ rest) home).runOn d).2 = d ∧
      (∀ p, ((expand ("~/" ++ rest) home).runOn d).1 = .ok (some p) →
        (IsInside home p ↔ Path.dotDot ∉ (Path.ofText rest).names ∧ ∃ n ∈ (Path.ofText rest).names, n ≠ Path.dot)) ∧
      (Path.dotDot ∉ (Path.ofText rest).names → (∃ n ∈ (Path.ofText rest).names, n ≠ Path.dot) → ∀ removed,
        ((clearEntry home removed ("~/" ++ rest)).runOn d).2 = d ∨
          ∃ p, IsInside home p ∧
            ((clearEntry home removed ("~/" ++ rest)).runOn d).2 = ((removePath p).runOn d).2) := by
  have hsnd := runFrom_expand_snd ("~/" ++ rest) home d
  -- an expansion only looks at the disk, and what it gives is settled by how an entry expands
  have hinside : ∀ p, ((expand ("~/" ++ rest) home).runOn d).1 = .ok (some p) →
      (IsInside home p ↔ Path.dotDot ∉ (Path.ofText rest).names ∧ ∃ n ∈ (Path.ofText rest).names, n ≠ Path.dot) := by
    intro p hp
    have hrun : runFrom (expand ("~/" ++ rest) home) d = (.ok (some p), d) := Prod.ext hp hsnd
    obtain ⟨-, -, -, hexpands⟩ := expand_eq_ok.mp hrun
    exact hexpands.isInside_iff habs hplain hrelative
  refine ⟨hsnd, hinside, fun hback hnamed removed => ?_⟩
  show (runFrom (clearEntry home removed ("~/" ++ rest)) d).2 = d ∨ ∃ p, IsInside home p ∧
    (runFrom (clearEntry home removed ("~/" ++ rest)) d).2 = (runFrom (removePath p) d).2
  -- an entry that is refused or stands for nothing removes nothing
  rw [runFrom_clearEntry]
  split
  · exact .inl rfl
  · exact .inl rfl
  · next p hp => exact .inr ⟨p, (hinside p hp).mpr ⟨hback, hnamed⟩, rfl⟩

/-- A home directory with a file in it, in a directory with another file. -/
def homeDisk : Disk :=
  ⟨[], [([], .directory 0o755), ([Text.encode "home"], .directory 0o755),
    ([Text.encode "home", Text.encode "notes"], .file 0o644 [0x78]),
    ([Text.encode "home", Text.encode "op"], .directory 0o755),
    ([Text.encode "home", Text.encode "op", Text.encode "cache-1"], .file 0o644 [0x78])]⟩

/-- The entry `~/cache*` finds the file in the home directory. -/
theorem expand_isInside_homeDisk :
    homeDisk.HasPlainNames ∧
      (expand "~/cache*" (.ofText "/home/op")).runOn homeDisk = (.ok (some (.ofText "/home/op/cache-1")), homeDisk) ∧
        IsInside (.ofText "/home/op") (.ofText "/home/op/cache-1") := by
  have hplain : homeDisk.HasPlainNames := hasPlainNames_of_forall_mem (by decide +kernel)
  have hrun : (expand "~/cache*" (.ofText "/home/op")).runOn homeDisk =
      (.ok (some (.ofText "/home/op/cache-1")), homeDisk) := by
    have hpattern : pattern? (spelledPath "~/cache*" (.ofText "/home/op")) = some "cache".toList :=
      pattern?_eq_some.mpr ⟨"cache*", by decide +kernel, by decide⟩
    have hlist : homeDisk.listDirectory (above (spelledPath "~/cache*" (.ofText "/home/op"))) =
        .ok [Text.encode "cache-1"] := by decide +kernel
    have hfits : startsWith "cache".toList (Text.encode "cache-1") = true := by
      rw [startsWith, Text.display_encode]
      decide
    -- the directory is listed, and its only entry fits the pattern
    have hexpands := Expands.listed hpattern hlist
    have hjoin : (above (spelledPath "~/cache*" (.ofText "/home/op"))).join ⟨Text.encode "cache-1"⟩ =
        .ofText "/home/op/cache-1" := by decide +kernel
    rw [List.find?_cons_of_pos hfits, Option.map_some, hjoin] at hexpands
    exact expand_eq_ok.mpr ⟨rfl, by decide, by decide, hexpands⟩
  have hentry : "~/" ++ "cache*" = "~/cache*" := by decide
  have hhome : (Path.ofText "/home/op").isAbsolute = true := by decide
  have hrelative : (Path.ofText "cache*").isAbsolute = false := by decide
  obtain ⟨-, hinside, -⟩ := expand_isInside hhome hplain hrelative
  refine ⟨hplain, hrun, (hinside _ ?_).mpr (by decide)⟩
  rw [hentry, hrun]

/-- The entry `~/.` stands for the home directory, which it empties before it fails; `~/../notes` and `~//home/notes`
stand for a file beside it. -/
theorem expand_dotHome :
    (expand "~/." (.ofText "/home/op")).runOn homeDisk = (.ok (some (.ofText "/home/op/.")), homeDisk) ∧
      ¬ IsInside (.ofText "/home/op") (.ofText "/home/op/.") ∧
      ((clear "~/." (.ofText "/home/op")).runOn homeDisk).2.get?
        [Text.encode "home", Text.encode "op", Text.encode "cache-1"] = none ∧
      (expand "~/../notes" (.ofText "/home/op")).runOn homeDisk = (.ok (some (.ofText "/home/op/../notes")), homeDisk) ∧
      ¬ IsInside (.ofText "/home/op") (.ofText "/home/op/../notes") ∧
      (expand "~//home/notes" (.ofText "/home/op")).runOn homeDisk = (.ok (some (.ofText "/home/notes")), homeDisk) ∧
      ¬ IsInside (.ofText "/home/op") (.ofText "/home/notes") := by
  refine ⟨by decide +kernel, by decide, ?_, by decide +kernel, by decide, by decide +kernel, by decide⟩
  have hclear : (clear "~/." (.ofText "/home/op")).runOn homeDisk =
      (.error ⟨[.remove (.ofText "/home/op/.")], .system .invalidArgument⟩,
        homeDisk.eraseBelow [Text.encode "home", Text.encode "op"]) := by decide +kernel
  rw [hclear]
  decide +kernel

end Bootstrap.Cache
