import Bootstrap.Bundle.Extract
import Bootstrap.Proofs.Bundle.Extraction
import Bootstrap.Proofs.Bundle.Placement
import Bootstrap.Proofs.Bundle.Provenance
import Bootstrap.Proofs.Disk.Descent
import Bootstrap.Proofs.Tar.RoundTrip
import Mathlib.Tactic.Common

/-!
# What stands behind a packed bundle

A bundle that was packed from items and extracted without failure leaves exactly these items behind, and the directories above
them. `Bundle.Materialized` says what that is: where two files go to one place the last one wins, and what is unsafe or
metadata of the archive leaves nothing.

The items are followed one by one, `Bundle.Built` being what stands behind the first few. Each of them is placed on a way on
which no link stands, *as long as no item goes to the place of a link or below it*; that is the only condition on the items.
-/

namespace Bootstrap.Bundle

open Effect Disk
open Bootstrap.Path (IsPlain)

/-! ## What is materialized -/

namespace Item

def name : Item → Path
  | .directory name | .file name _ | .link name _ => name

def target? : Item → Option Path
  | .link _ target => some target
  | _ => none

def isDirectory : Item → Bool
  | .directory _ => true
  | _ => false

def isFile : Item → Bool
  | .file _ _ => true
  | _ => false

def isLink : Item → Bool
  | .link _ _ => true
  | _ => false

/-- Neither the name nor the target leads out of the destination. -/
def isSafe (i : Item) : Bool := !(escapes i.name || i.target?.any escapes)

/-- The names that lead to the item from the destination. -/
def place (i : Item) : Location := (inner i.name).names

/-- A file that only describes the archive. -/
def isMetadata (i : Item) : Bool := i.isFile && i.place == [Text.encode reservedName]

/-- The content that the item has for the place `ns`. -/
def contentAt? (ns : Location) : Item → Option (List UInt8)
  | .file name content =>
    if (Item.file name content).isSafe && (Item.file name content).place == ns then some content else none
  | _ => none

/-- A link whose place is that of the item `j`, or above it. -/
structure Covers (i j : Item) : Prop where
  safe : i.isSafe = true
  link : i.isLink = true
  other : j.isSafe = true
  above : i.place <+: j.place

/-- A name and a target that fit a header, and a content whose bytes can be counted. -/
structure IsPackable (i : Item) : Prop where
  name : i.name.bytes.length < 100
  nameNoNul : 0 ∉ i.name.bytes
  target : ∀ target ∈ i.target?, target.bytes.length < 100 ∧ 0 ∉ target.bytes
  content : i.entry.content.length < Tar.wordLimit

end Item

/-- What the items themselves leave behind: every directory and every link, and the last file of each place. -/
inductive Stands (items : List Item) : Location → Object → Prop where
  | directory {name : Path} {ns : Location} (mem : .directory name ∈ items) (safe : (Item.directory name).isSafe = true)
      (place : (Item.directory name).place = ns) (ne : ns ≠ []) : Stands items ns (.directory 0o750)
  | file {content : List UInt8} {ns : Location} (last : (items.filterMap (Item.contentAt? ns)).getLast? = some content)
      (ne : ns ≠ [Text.encode reservedName]) : Stands items ns (.file 0o640 content)
  | link {name target : Path} {ns : Location} (mem : .link name target ∈ items)
      (safe : (Item.link name target).isSafe = true) (place : (Item.link name target).place = ns) :
      Stands items ns (.link (inner target))

/-- What stands behind the items: they themselves and a directory at each place above one of them. -/
def Materialized (items : List Item) (ns : Location) (o : Object) : Prop :=
  Stands items ns o ∨ o = .directory 0o750 ∧ ∃ more o', more ≠ [] ∧ Stands items (ns ++ more) o'

/-- How many items have which fate. -/
def tally (items : List Item) : Tally where
  directories := items.countP fun i => i.isSafe && i.isDirectory
  files := items.countP fun i => i.isSafe && i.isFile && !i.isMetadata
  links := items.countP fun i => i.isSafe && i.isLink
  outside := items.countP fun i => !i.isSafe
  skipped := items.countP fun i => i.isSafe && i.isMetadata

/-! ## One more item -/

section OneMore

variable {done : List Item} {i : Item} {ns : Location} {o : Object}

/-- Of one more item stands what it leaves behind, and all else, unless it is a file in place of a file. Directories and
links are there as soon as one item asks for them; a file has the content that the last item for its place gives. -/
theorem stands_concat_iff :
    Stands (done ++ [i]) ns o ↔
      Stands [i] ns o ∨ Stands done ns o ∧ (o.isFile = true → ∀ o', Stands [i] ns o' → o'.isFile = false) := by
  -- only files look at all items, and of them at the last one that says what stands here
  have hlast : ((done ++ [i]).filterMap (Item.contentAt? ns)).getLast? =
      ([i].filterMap (Item.contentAt? ns)).getLast?.or (done.filterMap (Item.contentAt? ns)).getLast? := by
    rw [List.filterMap_append, List.getLast?_append]
  constructor
  · intro h
    cases h with
    | directory mem safe place ne =>
        rcases List.mem_append.mp mem with mem | mem
        · exact .inr ⟨.directory mem safe place ne, fun hfile => nomatch hfile⟩
        · exact .inl (.directory mem safe place ne)
    | link mem safe place =>
        rcases List.mem_append.mp mem with mem | mem
        · exact .inr ⟨.link mem safe place, fun hfile => nomatch hfile⟩
        · exact .inl (.link mem safe place)
    | @file content ns last ne =>
        rw [hlast] at last
        -- the new item says what the file holds, or it says nothing of it and the others do
        cases hone : ([i].filterMap (Item.contentAt? ns)).getLast? with
        | some content' =>
            rw [hone] at last
            cases last
            exact .inl (.file hone ne)
        | none =>
            rw [hone] at last
            refine .inr ⟨.file last ne, fun _ o' h' => ?_⟩
            cases h' with
            | directory => rfl
            | link => rfl
            | file last' => rw [hone] at last'; cases last'
  · rintro (h | ⟨h, hfile⟩)
    · cases h with
      | directory mem safe place ne => exact .directory (List.mem_append_right _ mem) safe place ne
      | link mem safe place => exact .link (List.mem_append_right _ mem) safe place
      | file last ne => exact .file (by rw [hlast, last]; rfl) ne
    · cases h with
      | directory mem safe place ne => exact .directory (List.mem_append_left _ mem) safe place ne
      | link mem safe place => exact .link (List.mem_append_left _ mem) safe place
      | @file content ns last ne =>
          refine .file ?_ ne
          rw [hlast]
          cases hone : ([i].filterMap (Item.contentAt? ns)).getLast? with
          | none => exact last
          -- a file of the new item would be the last one here
          | some content' => exact nomatch hfile rfl _ (.file hone ne)

/-- An item that leaves nothing behind changes nothing of what has materialized, neither what stands for an item nor the
directories on the way to it. -/
theorem materialized_concat_of_forall_not (hnone : ∀ ns o, ns ≠ [] → ¬ Stands [i] ns o) (hne : ns ≠ []) :
    Materialized (done ++ [i]) ns o ↔ Materialized done ns o := by
  have hstands : ∀ ns o, ns ≠ [] → (Stands (done ++ [i]) ns o ↔ Stands done ns o) := by
    intro ns o hne
    rw [stands_concat_iff]
    constructor
    · rintro (h | ⟨h, -⟩)
      · exact absurd h (hnone ns o hne)
      · exact h
    · intro h
      exact .inr ⟨h, fun _ o' h' => absurd h' (hnone ns o' hne)⟩
  have hbelow : ∀ more : Location, ns ++ more ≠ [] := fun more h => hne (List.append_eq_nil_iff.mp h).1
  unfold Materialized
  simp only [hstands _ _ hne, hstands _ _ (hbelow _)]

/-- Where what stands below a directory is what has materialized, directories have the mode that missing ones get, but for
the bit that they inherit. -/
theorem ungrouped_of_materialized {d : Disk} {top : Location} {mode : Nat}
    (htree : ∀ ns o, ns ≠ [] → (d.ungrouped? (top ++ ns) = some o ↔ Materialized done ns o)) (hne : ns ≠ [])
    (hget : d.get? (top ++ ns) = some (.directory mode)) : (Object.directory mode).ungrouped = .directory parentMode := by
  have hdir : (Object.directory mode).ungrouped.isDirectory = true := rfl
  rcases (htree ns _ hne).mp (ungrouped?_of_get? hget) with h | ⟨h, -⟩
  · generalize (Object.directory mode).ungrouped = x at h hdir
    cases h with
    | directory => rfl
    | file => cases hdir
    | link => cases hdir
  · exact h

/-- **Where an item was placed**, what stands behind the items is what stood there before and the new item. Above the
place stand directories, new or old, and everywhere else nothing has changed; a file that was there gives way to a
file. -/
theorem ungrouped?_iff_materialized_concat {d d' : Disk} {dest : Path} {top : Location}
    (htree : ∀ ns o, ns ≠ [] → (d.ungrouped? (top ++ ns) = some o ↔ Materialized done ns o))
    (hone : ∀ ms x, Stands [i] ms x ↔ ms = ns ∧ x = o) (hmode : ∀ mode, o = .directory mode → mode = 0o750)
    (hplaced : PlacedAt d dest top ns o d') (ms : Location) (x : Object) (hne : ms ≠ []) :
    d'.ungrouped? (top ++ ms) = some x ↔ Materialized (done ++ [i]) ms x := by
  have hmodes : ∀ ms mode, ms ≠ [] → d.get? (top ++ ms) = some (.directory mode) →
      (Object.directory mode).ungrouped = .directory parentMode := fun _ _ => ungrouped_of_materialized htree
  have ho : o.ungrouped = o := by
    cases o with
    | directory mode => rw [hmode mode rfl]; rfl
    | file mode content => rfl
    | link target => rfl
  have hnew : ∀ {ms x}, ms = ns ∧ x = o → Stands (done ++ [i]) ms x := fun h =>
    stands_concat_iff.mpr (.inl ((hone _ _).mpr h))
  have hview := hplaced.ungrouped?_iff (x := x) hmodes hne
  rw [ho] at hview
  constructor
  · intro h
    obtain hplace | ⟨⟨⟨more, rfl⟩, hproper⟩, rfl⟩ | ⟨hpre, hget⟩ := hview.mp h
    · exact .inl (hnew hplace)
    · -- above the new item
      have hmore : more ≠ [] := fun h => hproper (by rw [h, List.append_nil])
      exact .inr ⟨rfl, more, o, hmore, hnew ⟨rfl, rfl⟩⟩
    · -- elsewhere nothing is replaced
      rcases (htree ms x hne).mp hget with h | ⟨rfl, more, o', hmore, h⟩
      · refine .inl (stands_concat_iff.mpr (.inr ⟨h, fun _ o' h' => ?_⟩))
        exact absurd (((hone _ _).mp h').1 ▸ List.prefix_rfl) hpre
      · refine .inr ⟨rfl, more, o', hmore, stands_concat_iff.mpr (.inr ⟨h, fun _ o' h' => ?_⟩)⟩
        exact absurd (((hone _ _).mp h').1 ▸ List.prefix_append _ _) hpre
  · rintro (h | ⟨rfl, more, o', hmore, h⟩)
    · rcases stands_concat_iff.mp h with h | ⟨h, hfile⟩
      · exact hview.mpr (.inl ((hone _ _).mp h))
      · refine hplaced.ungrouped?_of_old hmodes hmode hne ((htree ms x hne).mpr (.inl h)) fun heq hx => ?_
        exact hfile hx o ((hone _ _).mpr ⟨heq, rfl⟩)
    · rcases stands_concat_iff.mp h with h | ⟨h, -⟩
      · -- on the way to the new item
        obtain ⟨rfl, rfl⟩ := (hone _ _).mp h
        refine hview.mpr (.inr (.inl ⟨⟨List.prefix_append _ _, fun heq => hmore ?_⟩, rfl⟩))
        exact List.append_cancel_left (heq.symm.trans (List.append_nil ms).symm)
      · have hold := (htree ms _ hne).mpr (.inr ⟨rfl, more, o', hmore, h⟩)
        exact hplaced.ungrouped?_of_old hmodes hmode hne hold fun _ hfile => nomatch hfile

end OneMore

/-! ### One item alone -/

section Alone

variable {name target : Path} {content : List UInt8} {ns : Location} {o : Object}

/-- What a single directory comes to: itself with its mode. An item that names the destination comes to nothing, since
the destination is there already. -/
theorem stands_directory_iff :
    Stands [.directory name] ns o ↔
      (Item.directory name).isSafe = true ∧ ns ≠ [] ∧ ns = (Item.directory name).place ∧ o = .directory 0o750 := by
  constructor
  · intro h
    cases h with
    | directory mem safe place ne =>
        cases List.mem_singleton.mp mem
        exact ⟨safe, ne, place.symm, rfl⟩
    | file last _ => cases last
    | link mem => cases List.mem_singleton.mp mem
  · rintro ⟨safe, ne, rfl, rfl⟩
    exact .directory (List.mem_singleton_self _) safe rfl ne

/-- What a single file comes to: its content at its place, unless it is the file that carries no content of the bundle,
of which nothing is left behind. -/
theorem stands_file_iff :
    Stands [.file name content] ns o ↔
      (Item.file name content).isSafe = true ∧ (Item.file name content).isMetadata = false ∧
        ns = (Item.file name content).place ∧ o = .file 0o640 content := by
  have hlast : ([Item.file name content].filterMap (Item.contentAt? ns)).getLast? = Item.contentAt? ns (.file name content) := by
    cases h : Item.contentAt? ns (.file name content) <;> simp [h]
  constructor
  · intro h
    cases h with
    | directory mem => cases List.mem_singleton.mp mem
    | link mem => cases List.mem_singleton.mp mem
    | file last ne =>
        -- the only item is the last one, so the file holds what it says
        rw [hlast, Item.contentAt?] at last
        split at last
        · next hthere =>
          cases last
          simp only [Bool.and_eq_true, beq_iff_eq] at hthere
          refine ⟨hthere.1, ?_, hthere.2.symm, rfl⟩
          rw [Item.isMetadata, hthere.2]
          simpa using fun _ => ne
        · cases last
  · rintro ⟨safe, hmetadata, rfl, rfl⟩
    refine .file ?_ ?_
    · rw [hlast, Item.contentAt?, safe]
      simp
    · intro heq
      rw [Item.isMetadata, heq] at hmetadata
      simp [Item.isFile] at hmetadata

/-- What a single link comes to. Its target loses the top directory like every name, and is not looked at any
further. -/
theorem stands_link_iff :
    Stands [.link name target] ns o ↔
      (Item.link name target).isSafe = true ∧ ns = (Item.link name target).place ∧ o = .link (inner target) := by
  constructor
  · intro h
    cases h with
    | directory mem => cases List.mem_singleton.mp mem
    | file last _ => cases last
    | link mem safe place =>
        cases List.mem_singleton.mp mem
        exact ⟨safe, place.symm, rfl⟩
  · rintro ⟨safe, rfl, rfl⟩
    exact .link (List.mem_singleton_self _) safe rfl

end Alone

/-! ## Items as members -/

namespace Item

variable {i : Item}

/-- An item that can be packed has a header of its own, without a description in front, because its name and its target
fit into the fields of a header. -/
theorem IsPackable.isShort (h : i.IsPackable) : i.entry.IsShort := by
  have hname := h.name.le
  cases i with
  | directory name => exact ⟨rfl, hname, h.nameNoNul, Nat.zero_le _, List.not_mem_nil, rfl⟩
  | file name content => exact ⟨rfl, hname, h.nameNoNul, Nat.zero_le _, List.not_mem_nil, rfl⟩
  | link name target =>
      obtain ⟨hlength, hnul⟩ := h.target target rfl
      exact ⟨rfl, hname, h.nameNoNul, hlength.le, hnul, rfl⟩

/-- What the policy says of the member for an item: it is placed without the top directory in its name and target if the
item is safe, and it is outside otherwise. -/
theorem classify_member (i : Item) :
    classify i.entry.member.name i.entry.member.link false =
      if i.isSafe then .place ⟨inner i.name, i.entry.member.link.map inner⟩ else .outside := by
  have hany : i.entry.member.link.any escapes = i.target?.any escapes := by
    cases i with
    | directory name => rfl
    | file name content => rfl
    | link name target =>
        show (if target.bytes.isEmpty then none else some target : Option Path).any escapes = escapes target
        split
        · next hempty =>
          -- an empty target leads nowhere
          obtain rfl : target = ⟨[]⟩ := congrArg Path.mk (List.isEmpty_iff.mp hempty)
          rfl
        · rfl
  have hname : i.entry.member.name = i.name := by cases i <;> rfl
  rw [classify, hname, hany, isSafe]
  cases escapes i.name || i.target?.any escapes <;> rfl

theorem descends_of_isSafe (h : i.isSafe = true) : i.name.Descends := by
  refine (escapes_eq_false_iff _).mp ?_
  simp only [isSafe, Bool.not_eq_true', Bool.or_eq_false_iff] at h
  exact h.1

theorem isPlain_of_mem_place (h : i.isSafe = true) : ∀ n ∈ i.place, IsPlain n := by
  obtain ⟨ns, hplain, -, hns⟩ := exists_inner (descends_of_isSafe h)
  rw [place, hns]
  exact hplain

/-- A safe item goes to a place below the destination. -/
theorem along_of_isSafe (h : i.isSafe = true) (dest : Path) :
    (∀ n ∈ i.place, IsPlain n) ∧ Path.Along dest i.place (dest.join (inner i.name)) ∧
      (dest.join (inner i.name)).names = dest.names ++ i.place := by
  have hrelative := (descends_inner (descends_of_isSafe h)).relative
  exact ⟨isPlain_of_mem_place h, .join hrelative, Path.names_join hrelative⟩

/-- Metadata of the archive is what has its name, directly in the destination. The check looks at the path as it is
spelled, which for a safe item is its place. -/
theorem isReserved_inner (h : i.isSafe = true) :
    isReserved (inner i.name) = (i.place == [Text.encode reservedName]) := by
  have hreserved : IsPlain (Text.encode reservedName) := by decide
  obtain ⟨ns, hplain, hinner, hns⟩ := exists_inner (descends_of_isSafe h)
  rw [Bool.eq_iff_iff, isReserved, place, beq_iff_eq, beq_iff_eq]
  constructor
  · intro hbytes
    rw [← hreserved.names, ← hbytes]
  · intro hnames
    rw [hns] at hnames
    rw [hinner, hnames, List.map_singleton, Path.ofComponents_singleton hreserved]

end Item

/-! ## Items followed one by one -/

/-- The first few items stand behind an extraction. -/
structure Built (dest : Path) (top : Location) (done : List Item) (t : Tally) (d : Disk) : Prop where
  leads : d.LeadsTo dest top
  tree : ∀ ns o, ns ≠ [] → (d.ungrouped? (top ++ ns) = some o ↔ Materialized done ns o)
  counted : t = tally done

namespace Built

variable {dest : Path} {top : Location} {done : List Item} {i : Item} {t t' : Tally} {d d' : Disk}

/-- Nothing stands below the destination at the start, and no item has been followed. This is where the induction over
the items begins. -/
theorem start (hdest : d.LeadsTo dest top) (hempty : ∀ l, isBelow top l = true → d.get? l = none) :
    Built dest top [] {} d where
  leads := hdest
  tree ns o hne := by
    -- before the first item nothing is due, and below an empty directory nothing is
    have hnone : ∀ ns o, ¬ Stands [] ns o := by
      intro ns o h
      cases h with
      | directory mem => cases mem
      | file last => cases last
      | link mem => cases mem
    rw [ungrouped?, hempty _ (isBelow_append hne)]
    constructor
    · intro h
      cases h
    · rintro (h | ⟨-, more, o', -, h⟩)
      · exact absurd h (hnone _ _)
      · exact absurd h (hnone _ _)
  counted := rfl

/-- No link stands on the way to an item that no link covers. -/
theorem isClear (h : Built dest top done t d) (hi : i.isSafe = true) (hcover : ∀ j ∈ done, ¬ j.Covers i) :
    d.IsClear top i.place := by
  intro pre hne hpre target hget
  rcases (h.tree pre _ hne).mp (ungrouped?_of_get? hget) with hstands | ⟨hdir, -⟩
  · cases hstands with
    | link mem safe place => exact hcover _ mem ⟨safe, rfl, hi, place ▸ hpre⟩
  · cases hdir

/-- An item that is passed over. Nothing on the disk may have changed below the destination, and nothing may stand for
the item. -/
theorem concat_of_forall_not (h : Built dest top done t d) (hleads : d'.LeadsTo dest top)
    (hsame : ∀ ns, ns ≠ [] → d'.get? (top ++ ns) = d.get? (top ++ ns))
    (hnone : ∀ ns o, ns ≠ [] → ¬ Stands [i] ns o) (hcounted : t' = tally (done ++ [i])) :
    Built dest top (done ++ [i]) t' d' where
  leads := hleads
  tree ns o hne := by
    rw [ungrouped?, hsame ns hne, ← ungrouped?, h.tree ns o hne, materialized_concat_of_forall_not hnone hne]
  counted := hcounted

/-- An item that is placed. -/
theorem concat_of_placedAt {o : Object} (h : Built dest top done t d)
    (hone : ∀ ms x, Stands [i] ms x ↔ ms = i.place ∧ x = o) (hmode : ∀ mode, o = .directory mode → mode = 0o750)
    (hplaced : PlacedAt d dest top i.place o d') (hcounted : t' = tally (done ++ [i])) :
    Built dest top (done ++ [i]) t' d' where
  leads := hplaced.leads
  tree := ungrouped?_iff_materialized_concat h.tree hone hmode hplaced
  counted := hcounted

end Built

/-- A link and the directory for it: where that directory is missing it lies behind the destination. A part of the
destination itself cannot be missing, because the destination is there, and so making it would have failed. -/
theorem placedAt_of_placeLink {d d' : Disk} {dest q target : Path} {top : Location} {ns : List (List UInt8)}
    (hclear : d.IsClear top ns) (hplain : ∀ n ∈ ns, IsPlain n) (hq : Path.Along dest ns q)
    (hnames : q.names = dest.names ++ ns) (hdest : d.LeadsTo dest top)
    (hrun : runFrom (placeLink q target) d = (.ok (), d')) : ns ≠ [] ∧ PlacedAt d dest top ns (.link target) d' := by
  have hlink : ∀ d₁, OpensWay d dest top ns d₁ →
      runFrom (Action.during (.createLink q target) (Action.createLink q target)) d₁ = (.ok (), d') →
        ns ≠ [] ∧ PlacedAt d dest top ns (.link target) d' :=
    fun d₁ h₁ h => placedAt_of_createLink hclear hplain hq hnames h₁ (runFrom_during_eq_ok.mp h)
  unfold placeLink at hrun
  split at hrun
  · next parent hparent =>
    rw [runFrom_get_bind] at hrun
    split at hrun
    · next hmissing =>
      obtain ⟨⟨⟩, d₁, hcreate, hrun⟩ := exists_of_runFrom_bind hrun
      have hparent : Path.Along dest ns parent := hq.parent? hparent
      have hmissing : d.leadsSomewhere parent = false := by simpa using hmissing
      refine hlink d₁ ?_ hrun
      rcases hparent.front_or_behind with hfront | ⟨ms, hms, hpre, hparentNames⟩
      · -- a part of the destination is not made, and so it would still be missing
        have hsame := hdest.runFrom_createDirectory_of_missing hparent hfront hmissing directoryMode .none
        rw [hcreate] at hsame
        obtain ⟨l, hstatus⟩ := Action.status_of_createDirectory hcreate
        rw [show d₁ = d from hsame] at hstatus
        rw [leadsSomewhere, hstatus] at hmissing
        cases hmissing
      · obtain ⟨d₂, h₂, hopen, ⟨mode, hget⟩, rfl⟩ :=
          OpensWay.of_createDirectory hclear hplain hparent hparentNames hpre (.start hdest) hcreate
        refine h₂.set hms hpre rfl (.remode hget) fun o ho => ?_
        rw [hget] at ho
        cases ho
        rfl
    · exact hlink d (.start hdest) hrun
  · exact hlink d (.start hdest) hrun

/-- Only what is safe stands anywhere. -/
theorem isSafe_of_stands {i : Item} {ns : Location} {o : Object} (h : Stands [i] ns o) : i.isSafe = true := by
  cases i with
  | directory name => exact (stands_directory_iff.mp h).1
  | file name content => exact (stands_file_iff.mp h).1
  | link name target => exact (stands_link_iff.mp h).1

/-- The count of one more item: it is unsafe, or it is counted by its kind, where the file that carries no content
counts as skipped. -/
theorem tally_concat (done : List Item) (i : Item) :
    tally (done ++ [i]) =
      if i.isSafe = false then (tally done).countOutside
      else if i.isMetadata then (tally done).countSkipped
      else
        match i with
        | .directory _ => (tally done).countDirectory
        | .file _ _ => (tally done).countFile
        | .link _ _ => (tally done).countLink := by
  simp only [tally, List.countP_append, List.countP_singleton]
  cases hsafe : i.isSafe with
  | false => simp [Tally.countOutside]
  | true =>
      cases i with
      | directory name => simp [Tally.countDirectory, Item.isDirectory, Item.isFile, Item.isLink, Item.isMetadata]
      | link name target => simp [Tally.countLink, Item.isDirectory, Item.isFile, Item.isLink, Item.isMetadata]
      | file name content =>
          cases hmetadata : (Item.file name content).isMetadata with
          | true => simp [Tally.countSkipped, Item.isDirectory, Item.isFile, Item.isLink]
          | false => simp [Tally.countFile, Item.isDirectory, Item.isFile, Item.isLink]

/-- What becomes of a file at its placement. The data of an item is all there, so the check for data that is missing
falls away. -/
theorem placeMember_file (dest name relative : Path) (content : List UInt8) (link : Option Path) (t : Tally) :
    placeMember dest (Item.file name content).entry.member ⟨relative, link⟩ t =
      if isReserved relative then pure t.countSkipped
      else do
        Action.writeFile (dest.join relative) content fileMode
        return t.countFile := by
  show (if content.length ≠ content.length then _ else _) = _
  rw [if_neg (by simp)]
  rfl

namespace Built

variable {dest name target : Path} {content : List UInt8} {top : Location} {done : List Item} {i : Item} {t t' : Tally}
  {d d' : Disk} {field : Option Path}

/-- A directory is made, or its mode is set anew. The two cases of the proof are the destination itself, at which
nothing is placed, and all other places. -/
theorem directory (h : Built dest top done t d) (hi : (Item.directory name).isSafe = true)
    (hcover : ∀ j ∈ done, ¬ j.Covers (.directory name))
    (hrun : runFrom (placeMember dest (Item.directory name).entry.member ⟨inner name, field⟩ t) d = (.ok t', d')) :
    Built dest top (done ++ [.directory name]) t' d' := by
  obtain rfl := h.counted
  obtain ⟨⟨⟩, d₁, hcreate, hreturn⟩ := exists_of_runFrom_bind hrun
  cases hreturn
  obtain ⟨hplain, halong, hnames⟩ := Item.along_of_isSafe hi dest
  have hplaced := placedAt_of_createDirectory (h.isClear hi hcover) hplain halong hnames h.leads hcreate
  have hcounted : (tally done).countDirectory = tally (done ++ [.directory name]) := by
    rw [tally_concat, hi]
    rfl
  by_cases hne : (Item.directory name).place = []
  · -- the destination itself, which gets a mode and nothing new
    rw [hne] at hplaced
    refine h.concat_of_forall_not hplaced.leads (fun ns hns => ?_) (fun ns o hns hstands => ?_) hcounted
    · exact hplaced.get?_of_not_above fun hpre => hns (List.prefix_nil.mp hpre)
    · obtain ⟨-, -, rfl, -⟩ := stands_directory_iff.mp hstands
      exact hns hne
  · refine h.concat_of_placedAt (fun ms x => ?_) (fun mode hmode => ?_) hplaced hcounted
    · rw [stands_directory_iff]
      constructor
      · rintro ⟨-, -, hms, hx⟩
        exact ⟨hms, hx⟩
      · rintro ⟨rfl, rfl⟩
        exact ⟨hi, hne, rfl, rfl⟩
    · cases hmode
      rfl

/-- A file is written, unless it is the one that carries no content; this one is counted and skipped. No link covers its
place, so that it is written where its name says. -/
theorem file (h : Built dest top done t d) (hi : (Item.file name content).isSafe = true)
    (hcover : ∀ j ∈ done, ¬ j.Covers (.file name content))
    (hrun : runFrom (placeMember dest (Item.file name content).entry.member ⟨inner name, field⟩ t) d = (.ok t', d')) :
    Built dest top (done ++ [.file name content]) t' d' := by
  obtain rfl := h.counted
  have hreserved : isReserved (inner name) = (Item.file name content).isMetadata := Item.isReserved_inner hi
  rw [placeMember_file, hreserved] at hrun
  -- a file under a reserved name is only counted, any other is written
  split at hrun
  · next hmetadata =>
    cases hrun
    refine h.concat_of_forall_not h.leads (fun _ _ => rfl) (fun ns o _ hstands => ?_) ?_
    · rw [(stands_file_iff.mp hstands).2.1] at hmetadata
      cases hmetadata
    · rw [tally_concat, hi, if_neg (by decide), if_pos hmetadata]
  · next hmetadata =>
    rw [Bool.not_eq_true] at hmetadata
    obtain ⟨⟨⟩, d₁, hwrite, hreturn⟩ := exists_of_runFrom_bind hrun
    cases hreturn
    obtain ⟨hplain, halong, hnames⟩ := Item.along_of_isSafe hi dest
    -- nothing that came before is in the way of the file, so its path leads into plain directories
    obtain ⟨-, hplaced⟩ := placedAt_of_writeFile (h.isClear hi hcover) hplain halong hnames h.leads hwrite
    refine h.concat_of_placedAt (fun ms x => ?_) (fun mode hmode => ?_) hplaced ?_
    · rw [stands_file_iff]
      constructor
      · rintro ⟨-, -, hms, hx⟩
        exact ⟨hms, hx⟩
      · rintro ⟨rfl, rfl⟩
        exact ⟨hi, hmetadata, rfl, rfl⟩
    · cases hmode
    · rw [tally_concat, hi, hmetadata]
      rfl

/-- A link is made where its name says, whatever its target is. Without a target the member fails, so nothing has to be
shown of it. -/
theorem link (h : Built dest top done t d) (hi : (Item.link name target).isSafe = true)
    (hcover : ∀ j ∈ done, ¬ j.Covers (.link name target))
    (hrun : runFrom (placeMember dest (Item.link name target).entry.member
      ⟨inner name, (Item.link name target).entry.member.link.map inner⟩ t) d = (.ok t', d')) :
    Built dest top (done ++ [.link name target]) t' d' := by
  obtain rfl := h.counted
  have htarget : (Item.link name target).entry.member.link = if target.bytes.isEmpty then none else some target := rfl
  rw [htarget] at hrun
  split at hrun
  · -- an empty target is no target
    cases hrun
  · obtain ⟨⟨⟩, d₁, hlink, hreturn⟩ := exists_of_runFrom_bind hrun
    cases hreturn
    obtain ⟨hplain, halong, hnames⟩ := Item.along_of_isSafe hi dest
    obtain ⟨-, hplaced⟩ := placedAt_of_placeLink (h.isClear hi hcover) hplain halong hnames h.leads hlink
    refine h.concat_of_placedAt (fun ms x => ?_) (fun mode hmode => ?_) hplaced ?_
    · rw [stands_link_iff]
      constructor
      · rintro ⟨-, hms, hx⟩
        exact ⟨hms, hx⟩
      · rintro ⟨rfl, rfl⟩
        exact ⟨hi, rfl, rfl⟩
    · cases hmode
    · rw [tally_concat, hi]
      rfl

/-- **One more item.** If no link covers it and it is handled without failure, it stands behind the others, and it is
counted. This is the step of the induction over the items. -/
theorem extractMember (h : Built dest top done t d) (hcover : ∀ j ∈ done, ¬ j.Covers i)
    (hrun : runFrom (extractMember dest false t i.entry.member) d = (.ok t', d')) :
    Built dest top (done ++ [i]) t' d' := by
  unfold Bundle.extractMember at hrun
  rw [i.classify_member] at hrun
  cases hi : i.isSafe with
  | false =>
      rw [hi] at hrun
      cases hrun
      -- an unsafe item makes nothing, as the tree of the items has nothing of it
      refine h.concat_of_forall_not h.leads (fun _ _ => rfl) (fun ns o _ hstands => ?_) ?_
      · rw [isSafe_of_stands hstands] at hi
        cases hi
      · rw [tally_concat, if_pos hi, h.counted]
  | true =>
      rw [hi, if_pos rfl] at hrun
      cases i with
      | directory name => exact h.directory hi hcover hrun
      | file name content => exact h.file hi hcover hrun
      | link name target => exact h.link hi hcover hrun

end Built

/-- All items, one after the other, if none is covered by a link that comes before it. -/
theorem Built.foldlM {dest : Path} {top : Location} {done rest : List Item} {t t' : Tally} {d d' : Disk}
    (h : Built dest top done t d) (hcover : (done ++ rest).Pairwise fun i j => ¬ i.Covers j)
    (hrun : runFrom ((rest.map fun i => i.entry.member).foldlM (fun t m => Bundle.extractMember dest false t m) t) d = (.ok t', d')) :
    Built dest top (done ++ rest) t' d' := by
  induction rest generalizing done t d with
  | nil =>
      cases hrun
      rwa [List.append_nil]
  | cons i rest ih =>
      rw [List.map_cons, List.foldlM_cons] at hrun
      obtain ⟨t₁, d₁, hfirst, hothers⟩ := exists_of_runFrom_bind hrun
      have hone : ∀ j ∈ done, ¬ j.Covers i := fun j hj => (List.pairwise_append.mp hcover).2.2 j hj i (by simp)
      rw [List.append_cons] at hcover ⊢
      exact ih (h.extractMember hone hfirst) hcover hothers

/-! ## Packed bundles -/

/-- Every item is counted once. Induction on the items, the last one being taken off. -/
theorem total_tally (items : List Item) : (tally items).total = items.length := by
  induction items using List.reverseRecOn with
  | nil => rfl
  | append_singleton items i ih =>
      rw [tally_concat, List.length_append, List.length_singleton, ← ih]
      split_ifs
      · exact Tally.total_countOutside _
      · exact Tally.total_countSkipped _
      · cases i with
        | directory name => exact Tally.total_countDirectory _
        | file name content => exact Tally.total_countFile _
        | link name target => exact Tally.total_countLink _

/-- Where no directory has the set-group-ID bit, what stands without it stands as it is. So the result for a destination
without the bit follows from the one that leaves the bit open. -/
theorem get?_eq_some_iff_of_sourced {b : Bundle} {d : Disk} {top ns : Location} {o : Object}
    (h : Sourced b false top d) (hne : ns ≠ []) : d.get? (top ++ ns) = some o ↔ d.ungrouped? (top ++ ns) = some o := by
  cases hget : d.get? (top ++ ns) with
  | none => simp [ungrouped?, hget]
  | some x =>
      have hx : x.ungrouped = x := by
        cases h.below _ _ (isBelow_append hne) hget with
        | directory => rfl
        | inherited hbit => cases hbit
        | file => rfl
        | link => rfl
      rw [ungrouped?_of_get? hget, hx]

/-- **Materialization.** Let a destination lead to an empty directory, and let items be packed of which no safe one goes to the
place of another one that is a safe link, or below it. If the bundle is extracted there without failure, then below the
directory stands exactly what the items leave behind and the directories above it, and the items are counted by their fate. In
a destination with the set-group-ID bit some of the directories have this bit too. -/
theorem extract_pack (items : List Item) (d : Disk) (dest : Path) (top : Location) (mode : Nat) (t : Tally)
    (hdest : d.status dest = .ok (top, .directory mode)) (hempty : ∀ l, isBelow top l = true → d.get? l = none)
    (hitems : ∀ i ∈ items, i.IsPackable) (hcover : items.Pairwise fun i j => ¬ i.Covers j ∧ ¬ j.Covers i)
    (hrun : (((pack items).extract dest false).runOn d).1 = .ok t) :
    let d' := (((pack items).extract dest false).runOn d).2
    d'.LeadsTo dest top ∧ (∀ ns o, ns ≠ [] → (d'.ungrouped? (top ++ ns) = some o ↔ Materialized items ns o)) ∧
      (mode.testBit 10 = false → ∀ ns o, ns ≠ [] → (d'.get? (top ++ ns) = some o ↔ Materialized items ns o)) ∧
      t = tally items ∧ t.total = items.length := by
  intro d'
  have hresult : runFrom ((pack items).extract dest false) d = (.ok t, d') := Prod.ext hrun rfl
  obtain ⟨-, hbroken, hfold⟩ := extract_eq_ok_iff.mp hresult
  -- the members that are read are those that were packed, in order
  have hmembers : (pack items).archive.members = items.map fun i => i.entry.member := by
    have hshort : ∀ e ∈ items.map Item.entry, e.IsShort ∧ e.content.length < Tar.wordLimit := by
      intro e he
      obtain ⟨i, hi, rfl⟩ := List.mem_map.mp he
      exact ⟨(hitems i hi).isShort, (hitems i hi).content⟩
    exact (Tar.Archive.members_readFrom_encodeArchive hshort hbroken).trans List.map_map
  rw [hmembers] at hfold
  -- following them item by item gives the tree and the count
  have hbuilt := (Built.start ⟨mode, hdest⟩ hempty).foldlM (hcover.imp And.left) hfold
  rw [List.nil_append] at hbuilt
  -- without the bit at the destination no directory has it
  have hsourced := sourced_extract (pack items) dest false (.start (get?_of_find hdest) hempty)
  refine ⟨hbuilt.leads, hbuilt.tree, fun hbit ns o hne => ?_, hbuilt.counted, by rw [hbuilt.counted, total_tally]⟩
  rw [hbit] at hsourced
  rw [get?_eq_some_iff_of_sourced hsourced hne, hbuilt.tree ns o hne]

/-! ### A packed site -/

instance (i j : Item) : Decidable (i.Covers j) :=
  decidable_of_iff (i.isSafe = true ∧ i.isLink = true ∧ j.isSafe = true ∧ i.place <+: j.place)
    ⟨fun ⟨h₁, h₂, h₃, h₄⟩ => ⟨h₁, h₂, h₃, h₄⟩, fun h => ⟨h.safe, h.link, h.other, h.above⟩⟩

instance (i : Item) : Decidable i.IsPackable :=
  decidable_of_iff (i.name.bytes.length < 100 ∧ 0 ∉ i.name.bytes ∧
      (∀ target ∈ i.target?, target.bytes.length < 100 ∧ 0 ∉ target.bytes) ∧ i.entry.content.length < Tar.wordLimit)
    ⟨fun ⟨h₁, h₂, h₃, h₄⟩ => ⟨h₁, h₂, h₃, h₄⟩, fun h => ⟨h.name, h.nameNoNul, h.target, h.content⟩⟩

/-- A log that is written twice, under two spellings, a link to it, and two items of which nothing is to stand. -/
def loggedItems : List Item :=
  [.directory (.ofText "automation/"), .file (.ofText "./automation//logs/now") [1], .file (.ofText "logs/now") [2],
    .link (.ofText "automation/latest") (.ofText "automation/logs/now"), .file (.ofText "../key") [3],
    .file (.ofText "pax_global_header") [4]]

/-- What the reader makes of the packed site. This is an instance of the round trip for archives and is not
evaluated. -/
theorem archive_loggedItems : (pack loggedItems).archive =
    ⟨[⟨.directory, .ofText "automation/", none, 0, [], false⟩,
      ⟨.file, .ofText "./automation//logs/now", none, 1, [1], false⟩,
      ⟨.file, .ofText "logs/now", none, 1, [2], false⟩,
      ⟨.link, .ofText "automation/latest", some (.ofText "automation/logs/now"), 0, [], false⟩,
      ⟨.file, .ofText "../key", none, 1, [3], false⟩,
      ⟨.file, .ofText "pax_global_header", none, 1, [4], false⟩], false⟩ :=
  Tar.Archive.read_encodeArchive (by decide) (by decide +kernel)

/-- A packed site in which a file is written twice, a link has a target, one name escapes and one file is metadata: the
result of the extraction, and what stands behind it. -/
theorem extract_pack_loggedItems :
    Disk.blank.status (.ofText "/") = .ok ([], .directory 0o755) ∧
      (∀ l, isBelow [] l = true → Disk.blank.get? l = none) ∧ (∀ i ∈ loggedItems, i.IsPackable) ∧
      (loggedItems.Pairwise fun i j => ¬ i.Covers j ∧ ¬ j.Covers i) ∧
      (((pack loggedItems).extract (.ofText "/") false).runOn .blank).1 =
        .ok { directories := 1, files := 2, links := 1, outside := 1, skipped := 1 } ∧
      let d' := (((pack loggedItems).extract (.ofText "/") false).runOn .blank).2
      (∀ ns o, ns ≠ [] → (d'.get? ns = some o ↔ Materialized loggedItems ns o)) ∧
        d'.get? [Text.encode "logs", Text.encode "now"] = some (.file 0o640 [2]) := by
  have hdest : Disk.blank.status (.ofText "/") = .ok ([], .directory 0o755) := by decide +kernel
  have hempty : ∀ l, isBelow [] l = true → Disk.blank.get? l = none := fun l =>
    get?_eq_none_of_hasBelow (by decide)
  have hitems : ∀ i ∈ loggedItems, i.IsPackable := by decide +kernel
  have hcover : loggedItems.Pairwise fun i j => ¬ i.Covers j ∧ ¬ j.Covers i := by decide +kernel
  -- one disk for each of the four items that are placed
  let d₁ := Disk.blank.set [] (.directory 0o750)
  let d₂ := (d₁.set [Text.encode "logs"] (.directory 0o750)).set [Text.encode "logs", Text.encode "now"] (.file 0o640 [1])
  let d₃ := d₂.set [Text.encode "logs", Text.encode "now"] (.file 0o640 [2])
  let d₄ := d₃.set [Text.encode "latest"] (.link (.ofText "logs/now"))
  have htop : runFrom (extractMember (.ofText "/") false {} ⟨.directory, .ofText "automation/", none, 0, [], false⟩)
      .blank = (.ok { directories := 1 }, d₁) := by
    decide +kernel
  have hwrite : runFrom (Action.writeFile ((Path.ofText "/").join (.ofText "logs/now")) [1] fileMode) d₁ =
      (.ok (), d₂) := by
    decide +kernel
  have hagain : runFrom (Action.writeFile ((Path.ofText "/").join (.ofText "logs/now")) [2] fileMode) d₂ =
      (.ok (), d₃) := by
    decide +kernel
  have hclass : classify (.ofText "./automation//logs/now") none false = .place ⟨.ofText "logs/now", none⟩ := by
    decide +kernel
  have hclass' : classify (.ofText "logs/now") none false = .place ⟨.ofText "logs/now", none⟩ := by decide +kernel
  have hfirst := extractMember_file (t := { directories := 1 })
    (m := ⟨.file, .ofText "./automation//logs/now", none, 1, [1], false⟩) hclass rfl rfl (by decide) hwrite
  have hsecond := extractMember_file (t := { directories := 1, files := 1 })
    (m := ⟨.file, .ofText "logs/now", none, 1, [2], false⟩) hclass' rfl rfl (by decide) hagain
  have hlink : runFrom (extractMember (.ofText "/") false { directories := 1, files := 2 }
      ⟨.link, .ofText "automation/latest", some (.ofText "automation/logs/now"), 0, [], false⟩) d₃ =
        (.ok { directories := 1, files := 2, links := 1 }, d₄) := by
    decide +kernel
  have houtside : ∀ t d, runFrom (extractMember (.ofText "/") false t ⟨.file, .ofText "../key", none, 1, [3], false⟩) d =
      (.ok t.countOutside, d) := by
    intro t d
    rw [extractMember, show classify (.ofText "../key") none false = .outside by decide +kernel]
    rfl
  have hmetadata : ∀ t d, runFrom (extractMember (.ofText "/") false t
      ⟨.file, .ofText "pax_global_header", none, 1, [4], false⟩) d = (.ok t.countSkipped, d) := by
    intro t d
    rw [extractMember, show classify (.ofText "pax_global_header") none false =
      .place ⟨.ofText "pax_global_header", none⟩ by decide +kernel]
    rfl
  have hrun : (((pack loggedItems).extract (.ofText "/") false).runOn .blank).1 =
      .ok { directories := 1, files := 2, links := 1, outside := 1, skipped := 1 } := by
    rw [runOn_eq, extract_eq_foldlM rfl archive_loggedItems]
    simp only [List.foldlM_cons, List.foldlM_nil, runFrom_bind, htop, hfirst, hsecond, hlink, houtside, hmetadata,
      runFrom_pure, Tally.countFile, Tally.countOutside, Tally.countSkipped]
  obtain ⟨-, -, hexact, -⟩ := extract_pack loggedItems _ _ _ _ _ hdest hempty hitems hcover hrun
  have htree := hexact (by decide)
  refine ⟨hdest, hempty, hitems, hcover, hrun, htree, (htree _ _ (by simp)).mpr (.inl (.file ?_ ?_))⟩
  · decide +kernel
  · decide +kernel

end Bootstrap.Bundle
