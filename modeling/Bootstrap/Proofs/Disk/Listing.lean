import Bootstrap.Disk.Change
import Bootstrap.Proofs.Path.Names
import Mathlib.Data.List.Sort

/-!
# What stands in a directory

`Disk.namesIn` lists the names of a directory in byte order. A name is listed if and only if an object has it, so the
first listed name with a property is the least name with the property: `Disk.find?_namesIn_eq_some`.
-/

namespace Bootstrap.Disk

variable {d : Disk} {top : Location} {n : List UInt8}

/-- Something stands at a location if and only if some entry has it. An entry may be shadowed by another one at the same
location, but then the location is occupied all the same. -/
theorem get?_isSome_iff {l : Location} : (d.get? l).isSome = true ↔ ∃ entry ∈ d.objects, entry.1 = l := by
  constructor
  · intro h
    obtain ⟨o, hget⟩ := Option.isSome_iff_exists.mp h
    obtain ⟨before, after, hobjects, -⟩ := List.lookup_eq_some_iff.mp hget
    exact ⟨(l, o), by rw [hobjects]; simp, rfl⟩
  · rintro ⟨entry, hmem, rfl⟩
    by_contra hnone
    have hlookup : d.objects.lookup entry.1 = none := by
      rwa [Bool.not_eq_true, Option.isSome_eq_false_iff, Option.isNone_iff_eq_none] at hnone
    have hother := List.lookup_eq_none_iff.mp hlookup entry hmem
    simp at hother

/-- A location right below another one is that one with a last name. -/
theorem dropLast_eq_and_isBelow_iff {l : Location} :
    (l.dropLast == top && isBelow top l) = true ∧ l.getLast? = some n ↔ l = top ++ [n] := by
  constructor
  · rintro ⟨h, hlast⟩
    obtain ⟨hdrop, -⟩ := Bool.and_eq_true_iff.mp h
    obtain ⟨front, rfl⟩ := List.getLast?_eq_some_iff.mp hlast
    rw [List.dropLast_concat, beq_iff_eq] at hdrop
    rw [hdrop]
  · rintro rfl
    have hprefix : top <+: top ++ [n] := List.prefix_append _ _
    simp [isBelow, hprefix]

/-- A name is listed if and only if something in the directory has it. The list is sorted and without repetitions, which
does not matter here. -/
theorem mem_namesIn_iff : n ∈ d.namesIn top ↔ (d.get? (top ++ [n])).isSome = true := by
  rw [get?_isSome_iff, namesIn, List.mem_mergeSort, List.mem_filterMap]
  constructor
  · rintro ⟨entry, hmem, hname⟩
    split at hname
    · next h => exact ⟨entry, hmem, dropLast_eq_and_isBelow_iff.mp ⟨h, hname⟩⟩
    · cases hname
  · rintro ⟨entry, hmem, hloc⟩
    obtain ⟨h, hlast⟩ := dropLast_eq_and_isBelow_iff.mpr hloc
    exact ⟨entry, hmem, by rw [if_pos h, hlast]⟩

/-- The list is in byte order, which is how a list of files is expanded from a pattern. -/
theorem pairwise_namesIn (d : Disk) (top : Location) : (d.namesIn top).Pairwise (· ≤ ·) := by
  have hsorted : (d.namesIn top).Pairwise fun a b => nameBefore a b = true := by
    refine List.pairwise_mergeSort (fun a b c hab hbc => ?_) (fun a b => ?_) _
    · simp only [nameBefore, decide_eq_true_eq] at hab hbc ⊢
      exact List.le_trans hab hbc
    · simpa [nameBefore] using List.le_total a b
  exact hsorted.imp fun h => by simpa [nameBefore] using h

/-- The first name with a property is the least one, because the names of a directory are listed in the order of their
bytes. -/
theorem find?_namesIn_eq_some {fits : List UInt8 → Bool} (h : (d.namesIn top).find? fits = some n) :
    fits n = true ∧ (d.get? (top ++ [n])).isSome = true ∧
      ∀ m, (d.get? (top ++ [m])).isSome = true → fits m = true → n ≤ m := by
  obtain ⟨hfits, before, after, hsplit, hbefore⟩ := List.find?_eq_some_iff_append.mp h
  have hsorted := pairwise_namesIn d top
  rw [hsplit] at hsorted
  refine ⟨hfits, mem_namesIn_iff.mp (by rw [hsplit]; simp), fun m hm hfit => ?_⟩
  have hmem : m ∈ before ++ n :: after := hsplit ▸ mem_namesIn_iff.mpr hm
  rcases List.mem_append.mp hmem with hm | hm
  · have hunfit := hbefore m hm
    rw [hfit] at hunfit
    cases hunfit
  · rcases List.mem_cons.mp hm with rfl | hm
    · exact List.le_refl _
    · exact (List.pairwise_cons.mp (List.pairwise_append.mp hsorted).2.1).1 m hm

/-- No name is found only if nothing in the directory has the property. -/
theorem find?_namesIn_eq_none {fits : List UInt8 → Bool} :
    (d.namesIn top).find? fits = none ↔ ∀ m, (d.get? (top ++ [m])).isSome = true → fits m = false := by
  simp only [List.find?_eq_none, mem_namesIn_iff, Bool.not_eq_true]

/-! ## Names of a real disk -/

/-- Every object but the root has a plain name. -/
def HasPlainNames (d : Disk) : Prop := ∀ l n, (d.get? (l ++ [n])).isSome = true → Path.IsPlain n

/-- It is enough to look at every object once. -/
theorem hasPlainNames_of_forall_mem (h : ∀ entry ∈ d.objects, ∀ n ∈ entry.1.getLast?, Path.IsPlain n) :
    d.HasPlainNames := by
  intro l n hthere
  obtain ⟨entry, hmem, hloc⟩ := get?_isSome_iff.mp hthere
  exact h entry hmem n (by rw [hloc]; simp)

theorem HasPlainNames.of_mem_namesIn (h : d.HasPlainNames) (hn : n ∈ d.namesIn top) : Path.IsPlain n :=
  h top n (mem_namesIn_iff.mp hn)

end Bootstrap.Disk
