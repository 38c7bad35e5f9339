import Bootstrap.Proofs.Disk.Confinement

/-!
# Writing behind allowed names

A writer that is given a few allowed names takes only paths below the destination that start with one of them. Where links
stand in the directory, the names do not say where such a path leads: a link at an allowed name may have another name of
the same directory as its target, and what is written through it stands there. `Disk.Fenced` is what holds nevertheless:

* the first name of everything below the directory is allowed, *except for files at a name to which a link at an allowed
  name leads directly*,
* so no directory and no link stands at another name, and a walk cannot go on behind one.
-/

namespace Bootstrap

namespace Path

/-- A relative path of one or more plain names. -/
structure IsPlainPath (p : Path) : Prop where
  relative : p.isAbsolute = false
  plain : ∀ n ∈ p.names, IsPlain n
  ne_nil : p.names ≠ []
  /-- One name is written as it is. -/
  single : ∀ n, p.names = [n] → p = ⟨n⟩

/-- A path that is put together from plain names has just these names, and one name alone is written without anything
around it. The targets of links are put together like this. -/
theorem isPlainPath_ofComponents {ns : List (List UInt8)} (hplain : ∀ n ∈ ns, IsPlain n) (hne : ns ≠ []) :
    (ofComponents (ns.map Component.normal)).IsPlainPath where
  relative := isAbsolute_ofComponents hplain
  plain := by rwa [names_ofComponents hplain]
  ne_nil := by rwa [names_ofComponents hplain]
  single n hn := by
    have hn' : IsPlain n := hplain n (by rw [← names_ofComponents hplain, hn]; simp)
    rw [names_ofComponents hplain] at hn
    subst hn
    exact ofComponents_singleton hn'

end Path

namespace Disk

/-- A link at an allowed name in `top` has the name `n` as its target. -/
def IsLinked (d : Disk) (allowed : List (List UInt8)) (top : Location) (n : List UInt8) : Prop :=
  ∃ m ∈ allowed, d.get? (top ++ [m]) = some (.link ⟨n⟩)

/-- The directory `top`, to which `dest` leads, is written to behind allowed names only. -/
structure Fenced (allowed : List (List UInt8)) (dest : Path) (top : Location) (d : Disk) : Prop where
  leads : d.LeadsTo dest top
  links : ∀ l target, isBelow top l = true → d.get? l = some (.link target) → target.IsPlainPath
  fence : ∀ n more o, d.get? (top ++ n :: more) = some o →
    n ∈ allowed ∨ more = [] ∧ o.isFile = true ∧ d.IsLinked allowed top n

variable {allowed : List (List UInt8)} {dest q : Path} {top : Location} {d d' : Disk} {last : LastLink}

/-- No change takes a link away, so what a link leads to directly goes on being linked. -/
theorem IsLinked.carry {n : List UInt8} (h : d.IsLinked allowed top n) (hcarry : d.Carries d') :
    d'.IsLinked allowed top n := by
  obtain ⟨m, hm, hget⟩ := h
  exact ⟨m, hm, hcarry.link _ _ hget⟩

namespace Fenced

/-- In an empty directory nothing stands behind a name that is not allowed. This is where the invariant begins. -/
theorem start (hdest : d.LeadsTo dest top) (hempty : ∀ l, isBelow top l = true → d.get? l = none) :
    Fenced allowed dest top d where
  leads := hdest
  links l target hbelow hget := by
    rw [hempty l hbelow] at hget
    cases hget
  fence n more o hget := by
    rw [hempty _ (isBelow_append (by simp))] at hget
    cases hget

/-- No file, no other name. -/
theorem mem_of_not_isFile {n : List UInt8} {more : List (List UInt8)} {o : Object} (h : Fenced allowed dest top d)
    (hget : d.get? (top ++ n :: more) = some o) (ho : o.isFile = false) : n ∈ allowed := by
  rcases h.fence n more o hget with hn | ⟨-, hfile, -⟩
  · exact hn
  · rw [ho] at hfile
    cases hfile

/-! ## Walks behind the fence -/

/-- A walk that starts in `top` and is not about to end at another name ends behind an allowed name, or at the target of a
link that it followed. -/
theorem walk {links : Nat} {current : Location} {names : List (List UInt8)} {slash : Bool} {spot : Spot}
    (h : Fenced allowed dest top d) (hwalk : WalksTo d last links current names slash spot)
    (hplain : ∀ n ∈ names, Path.IsPlain n) (hne : names ≠ [])
    (hcurrent : current = top ∧ (∀ n, names = [n] → n ∈ allowed ∨ last ≠ .never ∧ d.IsLinked allowed top n) ∨
      ∃ m more, m ∈ allowed ∧ current = top ++ m :: more) :
    ∃ n more, spot.location = top ++ n :: more ∧
      (n ∈ allowed ∨ more = [] ∧ last ≠ .never ∧ d.IsLinked allowed top n) := by
  induction hwalk with
  | nil => exact absurd rfl hne
  | dot => exact absurd rfl (hplain Path.dot (by simp)).ne_dot
  | dotDot => exact absurd rfl (hplain Path.dotDot (by simp)).ne_dotDot
  | passDot => exact absurd rfl (hplain Path.dot (by simp)).ne_dot
  | passDotDot => exact absurd rfl (hplain Path.dotDot (by simp)).ne_dotDot
  | @name links current slash n _ _ =>
      rcases hcurrent with ⟨rfl, hlast⟩ | ⟨m, more, hm, rfl⟩
      · refine ⟨n, [], rfl, ?_⟩
        rcases hlast n rfl with hn | hn
        · exact .inl hn
        · exact .inr ⟨rfl, hn⟩
      · exact ⟨m, more ++ [n], by simp [Spot.location], .inl hm⟩
  | @pass links current rest slash spot n mode _ hrest hdir _ ih =>
      refine ih (fun x hx => hplain x (List.mem_cons_of_mem _ hx)) hrest (.inr ?_)
      rcases hcurrent with ⟨rfl, -⟩ | ⟨m, more, hm, rfl⟩
      · exact ⟨n, [], h.mem_of_not_isFile hdir rfl, rfl⟩
      · exact ⟨m, more ++ [n], hm, by simp⟩
  | @follow links current rest slash spot n target _ hget hstop _ ih =>
      have hbelow : isBelow top (current ++ [n]) = true := by
        apply isBelow_append_singleton
        rcases hcurrent with ⟨rfl, -⟩ | ⟨m, more, -, rfl⟩
        · exact List.prefix_rfl
        · exact List.prefix_append _ _
      have htarget : target.IsPlainPath := h.links _ _ hbelow hget
      have hstart : startFrom current target = current := by
        rw [startFrom, htarget.relative]
        rfl
      refine ih (fun x hx => ?_) (by simp [htarget.ne_nil]) ?_
      · rcases List.mem_append.mp hx with hx | hx
        · exact htarget.plain x hx
        · exact hplain x (List.mem_cons_of_mem _ hx)
      · rw [hstart]
        rcases hcurrent with ⟨rfl, -⟩ | hdeep
        · -- the link stands in `top`, so at an allowed name; if only one name is left, it is the whole target
          refine .inl ⟨rfl, fun x hx => .inr ?_⟩
          obtain ⟨hnames, hrest⟩ : target.names = [x] ∧ rest = [] := by
            rcases List.append_eq_singleton_iff.mp hx with ⟨hnil, -⟩ | hx
            · exact absurd hnil htarget.ne_nil
            · exact hx
          have hnever : last ≠ .never := by
            rintro rfl
            exact absurd (hstop hrest) (by simp [LastLink.follows])
          exact ⟨hnever, n, h.mem_of_not_isFile hget rfl, by rw [hget, htarget.single x hnames]⟩
        · exact .inr hdeep

/-- Something new along a path that starts with an allowed name is made behind the fence; or directly in the
destination, if links at the last name are followed, and then a link at an allowed name leads there. -/
theorem of_isFree {ns : List (List UInt8)} {parent : Location} {n : List UInt8} {slash : Bool}
    (h : Fenced allowed dest top d) (hq : Path.Along dest ns q) (hplain : ∀ n ∈ ns, Path.IsPlain n)
    (hhead : ∀ n ∈ ns.head?, n ∈ allowed) (hfree : d.IsFree last q parent n slash) :
    ∃ m more, parent ++ [n] = top ++ m :: more ∧
      (m ∈ allowed ∨ more = [] ∧ last ≠ .never ∧ d.IsLinked allowed top m) := by
  rcases hq.front_or_behind with hfront | ⟨ms, hms, hpre, hnames⟩
  · -- on the way to the destination nothing is free
    obtain ⟨o, hget, -⟩ := h.leads.isPassage hfront hq.isAbsolute hfree.walk
    rw [hfree.free] at hget
    cases hget
  · obtain ⟨left, hrest⟩ := h.leads.walksTo_behind hnames hms hq.isAbsolute hfree.walk
    refine h.walk hrest (fun x hx => hplain x (hpre.subset hx)) hms (.inl ⟨rfl, fun x hx => .inl ?_⟩)
    obtain ⟨more, rfl⟩ := hpre
    exact hhead x (by simp [hx])

/-! ## Changes behind the fence -/

/-- What is there may change as changes go; what is new needs a place behind the fence. Links stay, so that what was
linked when a file was made is linked at the end of the run. -/
theorem set {l : Location} {o : Object} (h : Fenced allowed dest top d) (hadm : d.Admits l o)
    (hl : d.get? l = none → ∀ n more, l = top ++ n :: more →
      n ∈ allowed ∨ more = [] ∧ o.isFile = true ∧ d.IsLinked allowed top n)
    (ho : ∀ target, o = .link target → target.IsPlainPath) : Fenced allowed dest top (d.set l o) where
  leads := h.leads.carry hadm.carries
  links l' target hbelow hget := by
    rw [get?_set] at hget
    split at hget
    · exact ho target (Option.some.inj hget)
    · exact h.links l' target hbelow hget
  fence n more o' hget := by
    -- links stay, so a name that was linked is linked
    have hcarry : n ∈ allowed ∨ more = [] ∧ o'.isFile = true ∧ d.IsLinked allowed top n →
        n ∈ allowed ∨ more = [] ∧ o'.isFile = true ∧ (d.set l o).IsLinked allowed top n :=
      .imp_right fun ⟨hmore, hfile, hlinked⟩ => ⟨hmore, hfile, hlinked.carry hadm.carries⟩
    rw [get?_set] at hget
    split at hget
    · -- the location that is set: it is new, or what stands there is a file if and only if a file stood there
      next heq =>
      cases hget
      apply hcarry
      cases hold : d.get? l with
      | none => exact hl hold n more heq.symm
      | some old =>
          rw [hadm.isFile_eq hold]
          exact h.fence n more old (by rw [heq, hold])
    · exact hcarry (h.fence n more o' hget)

/-- Whatever is there may be replaced by something that is no link: its name was inside the fence. -/
theorem set_of_get? {l : Location} {o old : Object} (h : Fenced allowed dest top d) (hadm : d.Admits l o)
    (hget : d.get? l = some old) (ho : ∀ target, o ≠ .link target) : Fenced allowed dest top (d.set l o) := by
  refine h.set hadm (fun hfree => ?_) fun target ht => absurd ht (ho target)
  rw [hget] at hfree
  cases hfree

section

variable {ns : List (List UInt8)} {mode : Nat}

/-- A mode is set of something that is there. -/
theorem setMode (d d' : Disk) (h : Fenced allowed dest top d) (hset : d.setMode q mode = .ok d') :
    Fenced allowed dest top d' := by
  obtain ⟨l, ⟨oldMode, hstatus, rfl⟩ | ⟨oldMode, content, hstatus, rfl⟩⟩ := setMode_eq_ok hset
  · have hget := get?_of_find hstatus
    exact h.set_of_get? (.remode hget) hget (by simp)
  · have hget := get?_of_find hstatus
    exact h.set_of_get? (.rewrite hget) hget (by simp)

variable (hq : Path.Along dest ns q) (hplain : ∀ n ∈ ns, Path.IsPlain n) (hhead : ∀ n ∈ ns.head?, n ∈ allowed)

include hq hplain hhead

/-- What is made at the name itself, not through a link there, has an allowed first name. This concerns directories and
links, which are never made through a link. -/
theorem mem_of_isFree {parent : Location} {n m : List UInt8} {more : List (List UInt8)} {slash : Bool}
    (h : Fenced allowed dest top d) (hfree : d.IsFree .never q parent n slash) (hl : parent ++ [n] = top ++ m :: more) :
    m ∈ allowed := by
  obtain ⟨m', more', hl', hm | ⟨-, hnever, -⟩⟩ := h.of_isFree hq hplain hhead hfree
  · rw [hl] at hl'
    cases List.append_cancel_left hl'
    exact hm
  · exact absurd rfl hnever

/-- A directory along the destination is made behind an allowed name: the walk to it follows no link at its end, so it
does not end at a name that is only linked. -/
theorem makeDirectory (d d' : Disk) (h : Fenced allowed dest top d) (hmake : d.makeDirectory q mode = .ok d') :
    Fenced allowed dest top d' := by
  obtain ⟨parent, n, slash, hfree, rfl⟩ := makeDirectory_eq_ok hmake
  exact h.set (hfree.admits _) (fun _ m more hl => .inl (h.mem_of_isFree hq hplain hhead hfree hl)) (by simp)

/-- A link is made at an allowed name; its target has to be a plain path for later walks to be understood. -/
theorem addLink {target : Path} (htarget : target.bytes ≠ [] → target.IsPlainPath) (d d' : Disk)
    (h : Fenced allowed dest top d) (hadd : d.addLink q target = .ok d') : Fenced allowed dest top d' := by
  have hplainTarget := htarget (ne_nil_of_addLink hadd)
  obtain ⟨parent, n, hfree, rfl⟩ := addLink_eq_ok hadd
  refine h.set (hfree.admits _) (fun _ m more hl => .inl (h.mem_of_isFree hq hplain hhead hfree hl)) fun t ht => ?_
  cases ht
  exact hplainTarget

/-- A file is the one thing that may stand at another name: when it is put through a link at an allowed name whose
target is this name. -/
theorem putFile {content : List UInt8} (d d' : Disk) (h : Fenced allowed dest top d)
    (hput : d.putFile q mode content = .ok d') : Fenced allowed dest top d' := by
  obtain ⟨parent, n, ⟨hfree, rfl⟩ | ⟨oldMode, old, -, hget, rfl⟩⟩ := putFile_eq_ok hput
  · refine h.set (hfree.admits _) (fun _ m more hl => ?_) (by simp)
    obtain ⟨m', more', hl', hm⟩ := h.of_isFree hq hplain hhead hfree
    rw [hl] at hl'
    cases List.append_cancel_left hl'
    exact hm.imp_right fun ⟨hmore, _, hlinked⟩ => ⟨hmore, rfl, hlinked⟩
  · exact h.set_of_get? (.rewrite hget) hget (by simp)

end

/-! ## File actions behind the fence -/

section

open Effect Bootstrap.Action

variable {ns : List (List UInt8)} {mode : Nat} {faults : Faults} (hq : Path.Along dest ns q)
  (hplain : ∀ n ∈ ns, Path.IsPlain n) (hhead : ∀ n ∈ ns.head?, n ∈ allowed)

include hq hplain hhead

theorem keeps_createDirectory : Keeps (Fenced allowed dest top) (createDirectory q mode faults) :=
  Action.keeps_createDirectory (fun _ hr => makeDirectory (hq.mem_self_parents hr) hplain hhead) setMode

theorem keeps_writeFile {content : List UInt8} : Keeps (Fenced allowed dest top) (writeFile q content mode faults) :=
  Action.keeps_writeFile (fun _ hparent _ hr => makeDirectory ((hq.parent? hparent).mem_self_parents hr) hplain hhead)
    (fun _ => putFile hq hplain hhead) setMode

theorem keeps_createLink {target : Path} (htarget : target.bytes ≠ [] → target.IsPlainPath) :
    Keeps (Fenced allowed dest top) (createLink q target) :=
  Action.keeps_createLink (addLink hq hplain hhead htarget)

end

end Fenced

end Disk

end Bootstrap
