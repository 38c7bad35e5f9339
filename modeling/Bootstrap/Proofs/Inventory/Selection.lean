import Bootstrap.Proofs.Disk.Writing
import Bootstrap.Proofs.Inventory.Resolution

/-!
# The selection of inventories

Of the candidates in a comma list exactly those are used that exist.

* `keptItems_joinItems` — what was selected is selected again, as a whole.
* `warning?_eq_none_iff` — there is a warning unless every candidate was selected: a shorter list is another text.
* `resolve_selects` — so a resolution with a candidate that exists cannot fail, changes nothing and agrees with a second one.
  Without such a candidate it leaves the inventory that it made, as it was rendered, and every other file as it was.
-/

namespace Bootstrap.Inventory

open Effect Bootstrap.Action Disk

variable {spec : String} {workspace : Path} {config : Configuration} {template : Template} {d d' : Disk} {r : Resolved}
  {keeps : Path → Bool}

/-! ## Candidates -/

/-- Something is kept if and only if one of the named paths is there. -/
theorem keptItems_ne_nil_iff : keptItems spec keeps ≠ [] ↔ ∃ item ∈ Text.items spec, keeps (.ofText item) = true := by
  rw [keptItems, ne_eq, List.filter_eq_nil_iff]
  simp

theorem keptItems_joinItems : keptItems (Text.joinItems (keptItems spec keeps)) keeps = keptItems spec keeps := by
  rw [keptItems, Text.items_joinItems_of_isItem fun _ => isItem_of_mem_keptItems]
  exact List.filter_eq_self.mpr fun item hitem => (List.mem_filter.mp hitem).2

/-- The selection is the text that was asked for only if nothing was left out. Blanks around the items do not count. -/
theorem warning?_eq_none_iff : warning? spec (Text.joinItems (keptItems spec keeps)) = none ↔
    ∀ item ∈ Text.items spec, keeps (.ofText item) = true := by
  have hjoin : Text.joinItems (keptItems spec keeps) = Text.joinItems (Text.items spec) ↔
      keptItems spec keeps = Text.items spec :=
    Text.joinItems_inj (fun _ => isItem_of_mem_keptItems) fun _ => Text.isItem_of_mem_items
  unfold warning?
  rw [ite_eq_left_iff, ← List.filter_eq_self, ← keptItems, ← hjoin]
  simp

/-- A selection is what is selected from it, so a second resolution has nothing to warn of. -/
theorem resolve_joinItems (hkept : keptItems spec d.leadsSomewhere ≠ []) :
    runFrom (resolve (Text.joinItems (keptItems spec d.leadsSomewhere)) workspace config template) d =
      (.ok ⟨Text.joinItems (keptItems spec d.leadsSomewhere), none, none⟩, d) := by
  have hwarning : warning? (Text.joinItems (keptItems spec d.leadsSomewhere))
      (Text.joinItems (keptItems spec d.leadsSomewhere)) = none := by
    rw [warning?, Text.items_joinItems_of_isItem fun _ => isItem_of_mem_keptItems, if_pos rfl]
  rw [resolve_of_kept (by rwa [keptItems_joinItems]), keptItems_joinItems, hwarning]

/-! ## The selection -/

/-- **Exactly the candidates that exist are used**, in order and with repetitions. If there is one, the resolution succeeds,
makes and changes nothing, warns exactly if a candidate is missing, and resolving its outcome gives the same outcome
without a warning. If there is none and the resolution succeeds, its outcome names the inventory in the workspace, which is
the rendered template with its mode; everything else on the disk is as before, but for new directories above it. -/
theorem resolve_selects (spec : String) (workspace : Path) (config : Configuration) (template : Template) (d : Disk) :
    ((∃ item ∈ Text.items spec, d.leadsSomewhere (.ofText item) = true) →
      ∃ r, (resolve spec workspace config template).runOn d = (.ok r, d) ∧
        r.paths = (Text.items spec).filter (fun item => d.leadsSomewhere (.ofText item)) ∧
        r.effective = String.intercalate "," r.paths ∧ r.synthesized = none ∧
        (r.warning = none ↔ ∀ item ∈ Text.items spec, d.leadsSomewhere (.ofText item) = true) ∧
        ∀ workspace' config' template', ∃ r', (resolve r.effective workspace' config' template').runOn d = (.ok r', d) ∧
          r'.effective = r.effective ∧ r'.warning = none) ∧
    ((∀ item ∈ Text.items spec, d.leadsSomewhere (.ofText item) = false) →
      ∀ r d', (resolve spec workspace config template).runOn d = (.ok r, d') →
        r.effective = (workspace.joinText synthesizedName).display ∧
        ∃ content l, template.render config = .ok content ∧
          d'.status (workspace.joinText synthesizedName) = .ok (l, .file 0o640 (Text.encode content)) ∧
          d'.readFile (workspace.joinText synthesizedName) = .ok (Text.encode content) ∧
          ∀ l', l' ≠ l → d'.get? l' = d.get? l' ∨ d.get? l' = none ∧ d'.AsMade parentMode l') := by
  constructor
  · intro hsome
    -- some item leads somewhere: the answer is made of the items and the disk is only asked
    have hkept := keptItems_ne_nil_iff.mpr hsome
    have hpaths : Text.items (Text.joinItems (keptItems spec d.leadsSomewhere)) = keptItems spec d.leadsSomewhere :=
      Text.items_joinItems_of_isItem fun _ => isItem_of_mem_keptItems
    refine ⟨_, resolve_of_kept hkept, hpaths, ?_, rfl, warning?_eq_none_iff, fun workspace' config' template' => ?_⟩
    · rw [Resolved.paths, hpaths, Text.joinItems]
    · exact ⟨_, resolve_joinItems hkept, rfl, rfl⟩
  · intro hnone r d' hrun
    -- none does: the answer is the file that is written
    have hkept : keptItems spec d.leadsSomewhere = [] := by
      by_contra hne
      obtain ⟨item, hitem, hthere⟩ := keptItems_ne_nil_iff.mp hne
      rw [hnone item hitem] at hthere
      cases hthere
    obtain ⟨rfl, content, hrender, hwrite⟩ := resolve_eq_ok_of_missing hkept hrun
    obtain ⟨l, hstatus, -, hothers⟩ := writeFile_eq_ok hwrite
    exact ⟨rfl, content, l, hrender, hstatus, readFile_of_status hstatus,
      fun l' hne => (hothers l' hne).imp_right fun hmade => ⟨hmade.free, hmade.made⟩⟩

/-! ### Two lists on one disk -/

/-- Of `/w` and a path that leads nowhere the former is used, twice if it is asked for twice; the latter alone is replaced by
an inventory in `/w`. -/
theorem resolve_selects_workspacesDisk :
    (∃ r, (resolve " /w,,/none,/w" (.ofText "/w") {} lineTemplate).runOn workspacesDisk = (.ok r, workspacesDisk) ∧
      r.paths = ["/w", "/w"] ∧ r.warning ≠ none) ∧
    ∃ r, (resolve "/none" (.ofText "/w") {} lineTemplate).runOn workspacesDisk = (.ok r, inventoryDisk "w") ∧
      r.effective = "/w/temp-inventory.yaml" ∧
      (inventoryDisk "w").readFile (.ofText "/w/temp-inventory.yaml") = .ok (Text.encode "x\n") := by
  have hthere : workspacesDisk.leadsSomewhere (.ofText "/w") = true := by decide +kernel
  have hmissing : workspacesDisk.leadsSomewhere (.ofText "/none") = false := by decide +kernel
  have hitems : Text.items " /w,,/none,/w" = ["/w", "/none", "/w"] := by decide +kernel
  have hnone : Text.items "/none" = ["/none"] := by decide +kernel
  constructor
  · -- one of the items is there, so nothing is made
    obtain ⟨r, hrun, hpaths, -, -, hwarning, -⟩ :=
      (resolve_selects " /w,,/none,/w" (.ofText "/w") {} lineTemplate workspacesDisk).1
        ⟨"/w", by rw [hitems]; simp, hthere⟩
    refine ⟨r, hrun, ?_, fun h => ?_⟩
    · rw [hpaths, hitems]
      simp [hthere, hmissing]
    · have hall := hwarning.mp h "/none" (by rw [hitems]; simp)
      rw [hmissing] at hall
      cases hall
  · -- none is there, so an inventory is made in the workspace
    have hkept : keptItems "/none" workspacesDisk.leadsSomewhere = [] := by simp [keptItems, hnone, hmissing]
    have hwrite : runFrom (writeFile ((Path.ofText "/w").joinText synthesizedName) (Text.encode "x\n") synthesizedMode)
        workspacesDisk = (.ok (), inventoryDisk "w") := by decide +kernel
    have hrun := resolve_of_writeFile hkept render_lineTemplate hwrite
    obtain ⟨heffective, content, l, hrender, -, hread, -⟩ :=
      (resolve_selects "/none" (.ofText "/w") {} lineTemplate workspacesDisk).2 (by simp [hnone, hmissing]) _ _ hrun
    rw [render_lineTemplate] at hrender
    cases hrender
    have hpath : (Path.ofText "/w").joinText synthesizedName = .ofText "/w/temp-inventory.yaml" := by decide
    rw [hpath] at hread
    exact ⟨_, hrun, by decide, hread⟩

end Bootstrap.Inventory
