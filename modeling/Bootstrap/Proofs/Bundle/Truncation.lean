import Bootstrap.Proofs.Bundle.Extraction
import Bootstrap.Proofs.Tar.Truncation

/-!
# Bundles that are cut off

A bundle whose archive is cut off is extracted as far as its members are there, and the cut is reported.

An extraction looks at the data of a member only to write a file, and then at all of it. So a member whose data is cut off is
a member like any other if it is no file, and nothing at all if it is one: `extractMember_data`,
`runFrom_extractMember_missing`. With what the reader finds of such an archive, `Tar.ReadsCut`, this gives `extract_take`:
what the extraction leaves is what the first members alone leave, and it succeeds only where the cut falls between two of
them, or in the trailer.
-/

namespace Bootstrap.Bundle

open Effect

variable {dest : Path} {adhoc : Bool} {d : Disk}

/-! ## Members whose data is cut off -/

/-- The data of what is no file plays no part, so it may be cut off. -/
theorem extractMember_data {m : Tar.Member} (hkind : m.kind ≠ .file) (data : List UInt8) (t : Tally) :
    extractMember dest adhoc t { m with data := data } = extractMember dest adhoc t m := by
  unfold extractMember placeMember
  cases hm : m.kind with
  | file => exact absurd hm hkind
  | directory => rfl
  | link => rfl
  | other => rfl

/-- A file that is not all there is not written. -/
theorem runFrom_extractMember_missing {m : Tar.Member} (hkind : m.kind = .file) (hdata : m.data.length ≠ m.size)
    (t : Tally) :
    (runFrom (extractMember dest adhoc t m) d).2 = d := by
  have hkeeps : Keeps (· = d) (extractMember dest adhoc t m) :=
    keeps_extractMember (fun at_ _ => ⟨fun h => absurd (hkind.symm.trans h) (by decide), fun _ h => absurd h hdata,
      fun h => absurd (hkind.symm.trans h) (by decide)⟩) t
  exact hkeeps d rfl

/-! ## Bundles that are cut off -/

/-- A bundle of some members, each of them given by its bytes. -/
def ofSegments (segments : List (List UInt8)) : Bundle := .compressed (segments.flatten ++ Tar.trailer)

/-- What an extraction has left when it has handled some members. -/
def diskBehind (dest : Path) (adhoc : Bool) (d : Disk) (members : List Tar.Member) : Disk :=
  (runFrom (members.foldlM (fun t m => extractMember dest adhoc t m) {}) d).2

/-- The disk behind an extraction is that behind its members, whether or not the archive is broken at its end. The break
is only found behind the last member and changes nothing. -/
theorem runFrom_extract_snd {b : Bundle} {members : List Tar.Member} {broken : Bool} (hcompressed : b.looksCompressed = true)
    (harchive : b.archive = ⟨members, broken⟩) : (runFrom (b.extract dest adhoc) d).2 = diskBehind dest adhoc d members := by
  rw [extract, if_pos hcompressed, extractArchive, harchive, runFrom_bind, diskBehind]
  split
  · next hrun =>
    rw [hrun]
    split <;> rfl
  · next hrun => rw [hrun]

/-- A member whose data is cut off leaves what the member leaves, or nothing. Only of a file are the data looked at, and
a file with too few of them is refused before anything of it is written. -/
theorem diskBehind_part {members : List Tar.Member} {m : Tar.Member} {data : List UInt8}
    (hdata : data = m.data ∨ data.length ≠ m.size) :
    diskBehind dest adhoc d (members ++ [{ m with data := data }]) = diskBehind dest adhoc d (members ++ [m]) ∨
      diskBehind dest adhoc d (members ++ [{ m with data := data }]) = diskBehind dest adhoc d members := by
  -- both runs are the same up to the last member
  have hlast : ∀ m', diskBehind dest adhoc d (members ++ [m']) =
      (runFrom (members.foldlM (fun t m => extractMember dest adhoc t m) {} >>= fun t => extractMember dest adhoc t m') d).2 := by
    intro m'
    simp only [diskBehind, List.foldlM_append, List.foldlM_cons, List.foldlM_nil, bind_pure]
  rw [hlast, hlast]
  -- only of a file is the data looked at, and one whose data are missing is refused before it is opened
  by_cases hkind : m.kind = .file
  · rcases hdata with rfl | hdata
    · exact .inl rfl
    · right
      rw [runFrom_bind, diskBehind]
      split
      · next hrun => rw [hrun, runFrom_extractMember_missing (m := { m with data := data }) hkind hdata]
      · next hrun => rw [hrun]
  · left
    simp only [extractMember_data hkind]

/-- **A bundle that is cut off never passes as something else.** Wherever the archive of some whole members is cut off, the
extraction leaves what the extraction of the first few of them leaves. It succeeds exactly if the cut falls where these end,
or behind the first block of the trailer if they are all of them, and their extraction succeeds; then it counts the same. -/
theorem extract_take {segments : List (List UInt8)} (hwhole : ∀ s ∈ segments, ∃ m, Tar.IsWhole {} s m) (n : Nat)
    (dest : Path) (adhoc : Bool) (d : Disk) :
    ∃ k ≤ segments.length,
      (((Bundle.compressed ((segments.flatten ++ Tar.trailer).take n)).extract dest adhoc).runOn d).2 =
        (((ofSegments (segments.take k)).extract dest adhoc).runOn d).2 ∧
      ∀ t, (((Bundle.compressed ((segments.flatten ++ Tar.trailer).take n)).extract dest adhoc).runOn d).1 = .ok t ↔
        Tar.EndsAt segments k n ∧ (((ofSegments (segments.take k)).extract dest adhoc).runOn d).1 = .ok t := by
  simp only [runOn_eq]
  set cut : Bundle := .compressed ((segments.flatten ++ Tar.trailer).take n) with hcut
  -- a broken archive is found out, so behind a cut that is noticed it is enough to compare the disks
  have hnoticed : ∀ {k : Nat} {members : List Tar.Member}, cut.archive = ⟨members, true⟩ → ¬ Tar.EndsAt segments k n →
      ∀ t, (runFrom (cut.extract dest adhoc) d).1 = .ok t ↔
        Tar.EndsAt segments k n ∧ (runFrom ((ofSegments (segments.take k)).extract dest adhoc) d).1 = .ok t := by
    intro k members harchive hinside t
    refine ⟨fun hok => ?_, fun h => absurd h.1 hinside⟩
    have hfine := (extract_eq_ok_iff.mp (Prod.ext hok rfl)).2.1
    rw [harchive] at hfine
    cases hfine
  have halone : ∀ {k : Nat} {members : List Tar.Member}, Tar.aloneFrom 0 (segments.take k) = ⟨members, false⟩ →
      (runFrom ((ofSegments (segments.take k)).extract dest adhoc) d).2 = diskBehind dest adhoc d members :=
    fun h => runFrom_extract_snd rfl h
  have hread : Tar.ReadsCut 0 segments n cut.archive := Tar.Archive.readFrom_take hwhole 0 n
  cases hread with
  | @clean k members hk alone ends read =>
      have hsame : cut.extract dest adhoc = (ofSegments (segments.take k)).extract dest adhoc := by
        rw [extract_eq_foldlM rfl read, extract_eq_foldlM (b := ofSegments (segments.take k)) rfl alone]
      exact ⟨k, hk, by rw [hsame], fun t => by rw [hsame]; exact (and_iff_right ends).symm⟩
  | @between k members hk alone inside read =>
      exact ⟨k, hk, (runFrom_extract_snd rfl read).trans (halone alone).symm, hnoticed read inside⟩
  | @within k members m data hk before alone inside read some_data =>
      -- the member that is cut off counts if it has been written
      rcases diskBehind_part some_data with hdisk | hdisk
      · exact ⟨k + 1, hk, (runFrom_extract_snd rfl read).trans (hdisk.trans (halone alone).symm),
          hnoticed read inside.2⟩
      · exact ⟨k, hk.le, (runFrom_extract_snd rfl read).trans (hdisk.trans (halone before).symm),
          hnoticed read inside.1⟩

/-! ### A cut within data -/

/-- A directory, a file whose name does not fit a header, with an attribute, and a link. -/
def longNameEntries : List Tar.Entry :=
  [⟨0x35, Text.encode "automation/", [], [], []⟩,
    ⟨0x30, Text.encode "automation/" ++ List.replicate 120 0x61, [], Text.encode "---",
      [(Text.encode "mtime", Text.encode "1")]⟩,
    ⟨0x32, Text.encode "automation/site.yaml", Text.encode "ping.yaml", [], []⟩]

/-- The entries with long names are written soundly: their names can be read as text, and their sizes can be counted. -/
theorem isSound_of_mem_longNameEntries : ∀ e ∈ longNameEntries, e.IsSound := by
  have hsound : ∀ e ∈ longNameEntries, 0 ∉ e.name ∧ 0 ∉ e.link ∧ e.header.announces = .member e.kind ∧
      e.described.dataSize e.header = e.content.length ∧ e.name.length + 1 < Tar.wordLimit ∧
      e.link.length + 1 < Tar.wordLimit ∧ e.records.length < Tar.wordLimit ∧ e.content.length < Tar.wordLimit := by
    decide +kernel
  intro e he
  obtain ⟨h₁, h₂, h₃, h₄, h₅, h₆, h₇, h₈⟩ := hsound e he
  exact ⟨h₁, h₂, h₃, h₄, h₅, h₆, h₇, h₈⟩

/-- Cut off behind two bytes of the data of the file, the bundle leaves what its first members leave. -/
theorem extract_take_longNameEntries :
    (∀ s ∈ longNameEntries.map Tar.Entry.encode, ∃ m, Tar.IsWhole {} s m) ∧
    ∃ k ≤ 3, (((Bundle.compressed (((longNameEntries.map Tar.Entry.encode).flatten ++ Tar.trailer).take 3074)).extract
          (.ofText "/") false).runOn .blank).2 =
        (((ofSegments ((longNameEntries.map Tar.Entry.encode).take k)).extract (.ofText "/") false).runOn .blank).2 ∧
      ∀ t, (((Bundle.compressed (((longNameEntries.map Tar.Entry.encode).flatten ++ Tar.trailer).take 3074)).extract
          (.ofText "/") false).runOn .blank).1 = .ok t ↔
        Tar.EndsAt (longNameEntries.map Tar.Entry.encode) k 3074 ∧
          (((ofSegments ((longNameEntries.map Tar.Entry.encode).take k)).extract (.ofText "/") false).runOn .blank).1 =
            .ok t := by
  have hwhole : ∀ s ∈ longNameEntries.map Tar.Entry.encode, ∃ m, Tar.IsWhole {} s m := by
    intro s hs
    obtain ⟨e, he, rfl⟩ := List.mem_map.mp hs
    exact ⟨_, (isSound_of_mem_longNameEntries e he).isWhole_encode⟩
  exact ⟨hwhole, extract_take hwhole 3074 (.ofText "/") false .blank⟩

end Bootstrap.Bundle
