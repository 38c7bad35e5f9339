import Bootstrap.Bundle.EntryPath
import Bootstrap.Proofs.Path.Spelling
import Mathlib.Data.List.Basic

/-!
# Placements descend

`Bundle.classify` looks at a name and a link target as sequences of components. What it lets through is, as a sequence
of names to walk, a path that descends: `Bundle.descends_of_classify_eq_place` is all that the extraction has to know
of the policy.
-/

namespace Bootstrap.Bundle

open Bootstrap.Path

/-! ## What the policy refuses -/

/-- What the policy refuses is what may lead a walk out of the directory where it starts: a path from the root, or one
with `..` in it. The policy looks at the components that the path says, `Descends` at its pieces. -/
theorem escapes_eq_false_iff (p : Path) : escapes p = false ↔ p.Descends := by
  constructor
  · intro h
    have hno : ∀ c ∈ p.components, c ≠ .root ∧ c ≠ .parent := by
      simpa [escapes] using h
    refine ⟨?_, fun hmem => (hno _ (parent_mem_components hmem)).2 rfl⟩
    by_contra habs
    exact (hno _ (root_mem_components (by simpa using habs))).1 rfl
  · intro h
    have hno : ∀ c ∈ p.components, c ≠ .root ∧ c ≠ .parent := by
      intro c hc
      -- a component is the root, a dot in front, or said by a piece
      rcases mem_components hc with ⟨-, habs⟩ | rfl | ⟨piece, hpiece, hc⟩
      · exact absurd habs (by simp [h.relative])
      · exact ⟨by simp, by simp⟩
      · rcases ofPiece?_eq_some (not_mem_of_mem_splitOn hpiece) hc with ⟨rfl, -⟩ | ⟨-, rfl⟩
        · exact absurd (List.mem_filter.mpr ⟨hpiece, by decide⟩) h.noParent
        · exact ⟨by simp, by simp⟩
    simpa [escapes] using hno

/-! ## What is placed -/

/-- Takes one leading top directory off. -/
def belowTop : List (List UInt8) → List (List UInt8)
  | [] => []
  | n :: ns => if n = Text.encode topDirectory then ns else n :: ns

/-- On plain names the model drops the top directory as `belowTop` does. The model works on components, the
specification on names. -/
theorem dropTop_map_normal (ns : List (List UInt8)) : dropTop (ns.map .normal) = (belowTop ns).map .normal := by
  cases ns with
  | nil => rfl
  | cons n ns =>
      have hbytes : (Component.normal n).bytes = n := rfl
      by_cases htop : n = Text.encode topDirectory
      · rw [List.map_cons, dropTop, belowTop, hbytes, if_pos htop, if_pos htop]
      · rw [List.map_cons, dropTop, belowTop, hbytes, if_neg htop, if_neg htop, List.map_cons]

/-- What is left are names that were there. -/
theorem mem_of_mem_belowTop {ns : List (List UInt8)} {n : List UInt8} (h : n ∈ belowTop ns) : n ∈ ns := by
  unfold belowTop at h
  split at h
  · exact h
  · split at h
    · exact List.mem_cons_of_mem _ h
    · exact h

/-- Below the top directory a descending path says its steps. -/
theorem innerComponents_of_descends {p : Path} (h : p.Descends) :
    innerComponents p = (belowTop p.steps).map .normal := by
  have hplain : ∀ n ∈ p.steps, IsPlain n := fun n hn => h.isPlain_of_mem_steps hn
  rw [innerComponents, filter_components, if_neg (by simp [h.relative]), List.nil_append,
    filterMap_ofPiece?_of_isPlain hplain, dropTop_map_normal]

theorem exists_innerComponents {p : Path} (h : p.Descends) :
    ∃ ns : List (List UInt8), (∀ n ∈ ns, IsPlain n) ∧ innerComponents p = ns.map Component.normal :=
  ⟨belowTop p.steps, fun _ hn => h.isPlain_of_mem_steps (mem_of_mem_belowTop hn), innerComponents_of_descends h⟩

/-- What is left of a path that descends is written with plain names, which are its names. -/
theorem exists_inner {p : Path} (h : p.Descends) :
    ∃ ns : List (List UInt8), (∀ n ∈ ns, IsPlain n) ∧ inner p = Path.ofComponents (ns.map .normal) ∧
      (inner p).names = ns := by
  obtain ⟨ns, hplain, hcs⟩ := exists_innerComponents h
  have hinner : inner p = Path.ofComponents (ns.map .normal) := by rw [inner, hcs]
  exact ⟨ns, hplain, hinner, by rw [hinner, Path.names_ofComponents hplain]⟩

theorem descends_inner {p : Path} (h : p.Descends) : (inner p).Descends := by
  obtain ⟨ns, hplain, hinner, -⟩ := exists_inner h
  rw [hinner]
  exact Path.descends_ofComponents hplain

/-- What is placed and where: name and target descend, an ad-hoc extraction has the name on its list, and both lose the
top directory of the bundle in front. -/
theorem classify_eq_place_iff {name : Path} {link : Option Path} {adhoc : Bool} {at_ : Placement} :
    classify name link adhoc = .place at_ ↔
      name.Descends ∧ (∀ target ∈ link, target.Descends) ∧ (adhoc = true → keptForAdhoc (inner name) = true) ∧
        at_ = ⟨inner name, link.map inner⟩ := by
  have hlink : link.any escapes = false ↔ ∀ target ∈ link, target.Descends := by
    cases link with
    | none => simp
    | some target => simp [escapes_eq_false_iff]
  unfold classify
  constructor
  · intro h
    -- the name and the target are checked before the list is asked
    split_ifs at h with hout hneeded
    simp only [Bool.not_eq_true, Bool.or_eq_false_iff] at hout
    cases h
    exact ⟨(escapes_eq_false_iff name).mp hout.1, hlink.mp hout.2, by simpa using hneeded, rfl⟩
  · rintro ⟨hname, htarget, hkept, rfl⟩
    rw [(escapes_eq_false_iff name).mpr hname, hlink.mpr htarget, if_neg (by simp), if_neg (by simpa using hkept)]

/-- Whatever is placed goes to a descending path, and so does its link target. -/
theorem descends_of_classify_eq_place {name : Path} {link : Option Path} {adhoc : Bool} {at_ : Placement}
    (h : classify name link adhoc = .place at_) :
    at_.relative.Descends ∧ ∀ target, at_.linkTarget = some target → target.Descends := by
  obtain ⟨hname, hlink, -, rfl⟩ := classify_eq_place_iff.mp h
  refine ⟨descends_inner hname, fun target htarget => ?_⟩
  obtain ⟨t, rfl, rfl⟩ := Option.map_eq_some_iff.mp htarget
  exact descends_inner (hlink t rfl)

end Bootstrap.Bundle
