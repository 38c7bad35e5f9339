import Bootstrap.Proofs.Disk.Confinement

/-!
# Removing what was made

A directory that was made at a free name can be removed by the same path, whatever happened below it since then:
`Disk.removeTree_eq`. The walk to it passes through what was there before, and nothing of that lies below the new
directory, so it still goes the same way when the directory is already emptied.
-/

namespace Bootstrap.Disk

variable {d₁ d : Disk} {top l : Location}

/-! ## Below a name that was free -/

/-- Whatever stands on a tree stands outside a name that is free, as it would need a directory of that name above it. -/
theorem IsTree.not_prefix_of_get? (ht : d₁.IsTree) (hfree : d₁.get? top = none) {o : Object}
    (hget : d₁.get? l = some o) : ¬ top <+: l := by
  intro hpre
  by_cases heq : top = l
  · rw [← heq, hfree] at hget
    cases hget
  · rw [ht.get?_eq_none_of_isBelow hfree (isBelow_iff.mpr ⟨hpre, heq⟩)] at hget
    cases hget

/-- A tree is carried by every disk that agrees with it outside a name that is free. -/
theorem IsTree.carries_of_outside (ht : d₁.IsTree) (hfree : d₁.get? top = none)
    (hwd : d.workingDirectory = d₁.workingDirectory) (hout : ∀ l, ¬ top <+: l → d.get? l = d₁.get? l) :
    d₁.Carries d where
  workingDirectory := hwd
  directory l mode hget := ⟨mode, (hout l (ht.not_prefix_of_get? hfree hget)).trans hget⟩
  link l _ hget := (hout l (ht.not_prefix_of_get? hfree hget)).trans hget

/-- Behind an emptying nothing lies below. -/
theorem hasBelow_eraseBelow (d : Disk) (top : Location) : (d.eraseBelow top).hasBelow top = false := by
  simp only [hasBelow, eraseBelow, List.any_eq_false, List.mem_filter, Bool.not_eq_true']
  intro entry hentry
  rw [hentry.2]
  exact Bool.false_ne_true

/-! ## The removal -/

section Removal

variable {p : Path} {parent : Location} {n : List UInt8} {slash : Bool}

/-- **Removal.** Let a directory stand where the path was the name of nothing on the tree `d₁`, and let nothing else
have changed since then but what is below it. Then removing the tree at the path succeeds, and it removes the directory
with all that is below it. -/
theorem removeTree_eq {mode : Nat} (ht : d₁.IsTree) (hfree : d₁.IsFree .never p parent n slash)
    (hwd : d.workingDirectory = d₁.workingDirectory)
    (hout : ∀ l, ¬ parent ++ [n] <+: l → d.get? l = d₁.get? l)
    (hdir : d.get? (parent ++ [n]) = some (.directory mode)) :
    d.removeTree p = (.ok (), (d.eraseBelow (parent ++ [n])).erase (parent ++ [n])) := by
  have hcarries : d₁.Carries d := ht.carries_of_outside hfree.free hwd hout
  have hfound : d.linkStatus p = .ok (parent ++ [n], .directory mode) :=
    find_of_directory (hfree.walk_of_carries hcarries (by simp [hdir]) .beforeSlash) hdir
  have hdir' : (d.eraseBelow (parent ++ [n])).get? (parent ++ [n]) = some (.directory mode) := by
    rw [get?_eraseBelow, isBelow_self, if_neg Bool.false_ne_true]
    exact hdir
  -- the emptied directory is found by the same walk, which passes through nothing that was removed
  have hcarries' : d₁.Carries (d.eraseBelow (parent ++ [n])) := by
    refine ht.carries_of_outside hfree.free hwd fun l hl => ?_
    rw [get?_eraseBelow, if_neg fun hbelow => hl (isBelow_iff.mp hbelow).1]
    exact hout l hl
  have hempty : (d.eraseBelow (parent ++ [n])).removeEmptyDirectory p =
      .ok ((d.eraseBelow (parent ++ [n])).erase (parent ++ [n])) := by
    unfold removeEmptyDirectory
    rw [hfree.walk_of_carries hcarries' (by simp [hdir']) .never]
    simp only [bind, Except.bind, hdir', hasBelow_eraseBelow, Bool.false_eq_true, if_false]
  unfold removeTree
  rw [hfound]
  simp only [hempty]

/-- A removal takes away what starts with the location, and nothing else. -/
theorem get?_eraseBelow_erase (d : Disk) (top l : Location) :
    ((d.eraseBelow top).erase top).get? l = if top <+: l then none else d.get? l := by
  rw [get?_erase, get?_eraseBelow]
  by_cases heq : l = top
  · rw [if_pos heq, if_pos (heq ▸ List.prefix_rfl)]
  · rw [if_neg heq]
    by_cases hpre : top <+: l
    · rw [if_pos hpre, if_pos (isBelow_iff.mpr ⟨hpre, fun h => heq h.symm⟩)]
    · rw [if_neg hpre, if_neg fun hbelow => hpre (isBelow_iff.mp hbelow).1]

end Removal

end Bootstrap.Disk
