import Bootstrap.Inventory.Resolved
import Bootstrap.Proofs.Disk.Presence
import Bootstrap.Proofs.Text.Encoding
import Bootstrap.Proofs.Text.Items
import Bootstrap.Runner.Arguments
import Mathlib.Tactic.Common

/-!
# The inventories in use

What `resolve` finds or makes is handed on as one comma list, and whoever needs the paths takes the list apart again.
Candidates came out of a comma list, so they survive the journey: `resolve_kept`. The path of an inventory that was made
starts with the path of the workspace, which is no item of a list: with a comma in it, or a blank at its start, the list
names other paths than the one that was made, `resolve_commaWorkspace`. So `resolve_paths` asks for workspaces whose
paths are texts without these.
-/

namespace Bootstrap.Inventory

open Effect Bootstrap.Action Disk

variable {spec : String} {workspace : Path} {config : Configuration} {template : Template} {d d' : Disk} {r : Resolved}

/-! ## Candidates -/

theorem isItem_of_mem_keptItems {keeps : Path → Bool} {x : String} (hx : x ∈ keptItems spec keeps) : Text.IsItem x :=
  Text.isItem_of_mem_items (List.mem_filter.mp hx).1

/-- Candidates that exist are joined, and nothing else happens: neither is the template rendered nor the disk
changed. -/
theorem resolve_of_kept (hkept : keptItems spec d.leadsSomewhere ≠ []) :
    runFrom (resolve spec workspace config template) d =
      (.ok ⟨Text.joinItems (keptItems spec d.leadsSomewhere), none,
        warning? spec (Text.joinItems (keptItems spec d.leadsSomewhere))⟩, d) := by
  rw [resolve, runFrom_get_bind]
  split
  · next hnil => exact absurd hnil hkept
  · rfl

/-- Candidates that exist are used as they are, and nothing is made. -/
theorem resolve_kept (hkept : keptItems spec d.leadsSomewhere ≠ [])
    (hrun : runFrom (resolve spec workspace config template) d = (.ok r, d')) :
    d' = d ∧ r.synthesized = none ∧ r.paths = keptItems spec d.leadsSomewhere := by
  rw [resolve_of_kept hkept] at hrun
  cases hrun
  exact ⟨rfl, rfl, Text.items_joinItems_of_isItem fun _ => isItem_of_mem_keptItems⟩

/-! ## Inventories that are made -/

/-- An inventory that is made is the rendered template, written with its own mode. -/
theorem synthesize_eq_ok {p : Path} (hrun : runFrom (synthesize workspace config template) d = (.ok p, d')) :
    p = workspace.joinText synthesizedName ∧ ∃ content, template.render config = .ok content ∧
      runFrom (writeFile (workspace.joinText synthesizedName) (Text.encode content) synthesizedMode) d = (.ok (), d') := by
  unfold synthesize at hrun
  cases hrender : template.render config with
  | error f =>
      rw [hrender] at hrun
      cases hrun
  | ok content =>
      rw [hrender] at hrun
      obtain ⟨⟨⟩, d₁, hwrite, hreturn⟩ := exists_of_runFrom_bind (x := writeFile _ (Text.encode content) _) hrun
      cases hreturn
      exact ⟨rfl, content, rfl, hwrite⟩

/-- Without a candidate that exists, the inventory is made in the workspace, and the answer names it alone. -/
theorem resolve_eq_ok_of_missing (hkept : keptItems spec d.leadsSomewhere = [])
    (hrun : runFrom (resolve spec workspace config template) d = (.ok r, d')) :
    r = ⟨(workspace.joinText synthesizedName).display, some (workspace.joinText synthesizedName),
        warning? spec (workspace.joinText synthesizedName).display⟩ ∧
      ∃ content, template.render config = .ok content ∧
        runFrom (writeFile (workspace.joinText synthesizedName) (Text.encode content) synthesizedMode) d =
          (.ok (), d') := by
  rw [resolve, runFrom_get_bind, hkept] at hrun
  obtain ⟨p, d₁, hmake, hreturn⟩ := exists_of_runFrom_bind hrun
  cases hreturn
  obtain ⟨rfl, hwrite⟩ := synthesize_eq_ok hmake
  exact ⟨rfl, hwrite⟩

/-- It is there afterwards. -/
theorem resolve_synthesized (hkept : keptItems spec d.leadsSomewhere = [])
    (hrun : runFrom (resolve spec workspace config template) d = (.ok r, d')) :
    r.synthesized = some (workspace.joinText synthesizedName) ∧
      r.effective = (workspace.joinText synthesizedName).display ∧
      d'.leadsSomewhere (workspace.joinText synthesizedName) = true := by
  obtain ⟨rfl, content, -, hwrite⟩ := resolve_eq_ok_of_missing hkept hrun
  exact ⟨rfl, rfl, leadsSomewhere_of_writeFile hwrite⟩

/-- Where the inventory can be rendered and written, the resolution succeeds. -/
theorem resolve_of_writeFile {content : String} (hkept : keptItems spec d.leadsSomewhere = [])
    (hrender : template.render config = .ok content)
    (hwrite : runFrom (writeFile (workspace.joinText synthesizedName) (Text.encode content) synthesizedMode) d =
      (.ok (), d')) :
    runFrom (resolve spec workspace config template) d =
      (.ok ⟨(workspace.joinText synthesizedName).display, some (workspace.joinText synthesizedName),
        warning? spec (workspace.joinText synthesizedName).display⟩, d') := by
  have hmake : runFrom (synthesize workspace config template) d = (.ok (workspace.joinText synthesizedName), d') := by
    unfold synthesize
    rw [hrender]
    exact runFrom_bind_ok hwrite _
  rw [resolve, runFrom_get_bind, hkept]
  exact runFrom_bind_ok hmake _

/-- The path of a workspace that a comma list leaves whole: a text without a comma and without a blank at its start. -/
structure IsListed (workspace : String) : Prop where
  noComma : ',' ∉ workspace.toList
  head : ∀ c ∈ workspace.toList.head?, Text.isBlank c = false

/-- A workspace whose path is without commas and without blanks at its ends has an inventory that is read back from the
list as it was written. -/
theorem IsListed.isItem {s : String} (h : IsListed s) :
    ∃ t, (Path.ofText s).joinText synthesizedName = Path.ofText t ∧ Text.IsItem t := by
  have hrelative : (Path.ofText synthesizedName).isAbsolute = false := by decide
  obtain ⟨between, hbetween, hempty, hjoin⟩ := Path.exists_joinText_ofText s hrelative
  refine ⟨_, hjoin, ?_⟩
  have hname : synthesizedName.toList = "temp-inventory.yam".toList ++ ['l'] := by decide
  have hchars : (s ++ between ++ synthesizedName).toList = s.toList ++ between.toList ++ synthesizedName.toList := by
    rw [String.toList_append, String.toList_append]
  -- not empty, no comma, no blank at the start and none at the end
  constructor
  · rw [hchars, hname]
    simp
  · rw [hchars, List.mem_append, List.mem_append, not_or, not_or]
    exact ⟨⟨h.noComma, by rcases hbetween with rfl | rfl <;> decide⟩, by decide⟩
  · intro c hc
    cases hs : s.toList with
    | nil =>
        -- below the root the name of the inventory comes first
        have hs' : s = "" := String.toList_inj.mp hs
        have hfirst : ([] ++ "".toList ++ synthesizedName.toList).head? = some 't' := by decide
        rw [hchars, hs, hempty hs', hfirst] at hc
        cases hc
        decide
    | cons a more =>
        rw [hchars, hs] at hc
        exact h.head c (by rw [hs]; exact hc)
  · intro c hc
    rw [hchars, hname, ← List.append_assoc, List.getLast?_concat] at hc
    cases hc
    decide

/-! ## The inventories in use -/

/-- **The inventories in use exist.** There is at least one, each of them is there behind the resolution, the one that was
made is used alone, and the runner gets one option for each, in order. Where an inventory has to be made, the path of the
workspace must be one that a comma list leaves whole. -/
theorem resolve_paths (spec : String) (workspace : Path) (config : Configuration) (template : Template) (d d' : Disk)
    (r : Resolved) (hrun : (resolve spec workspace config template).runOn d = (.ok r, d'))
    (hworkspace : keptItems spec d.leadsSomewhere = [] → ∃ s, workspace = Path.ofText s ∧ IsListed s) :
    r.paths ≠ [] ∧ (∀ p ∈ r.paths, d'.leadsSomewhere (Path.ofText p) = true) ∧
      (keptItems spec d.leadsSomewhere = [] →
        ∃ p, r.synthesized = some (Path.ofText p) ∧ r.paths = [p]) ∧
      Runner.inventoryArguments r.effective = r.paths.flatMap fun p => ["--inventory", p] := by
  -- no item leads somewhere: the answer names the file in the workspace, and read as items it is this one path
  by_cases hkept : keptItems spec d.leadsSomewhere = []
  · obtain ⟨s, rfl, hs⟩ := hworkspace hkept
    obtain ⟨hsynthesized, heffective, hthere⟩ := resolve_synthesized hkept hrun
    obtain ⟨p, hp, hitem⟩ := hs.isItem
    have hpaths : r.paths = [p] := by
      rw [Resolved.paths, heffective, hp, Path.display_ofText, Text.items_of_isItem hitem]
    rw [hp] at hsynthesized hthere
    refine ⟨by simp [hpaths], ?_, fun _ => ⟨p, hsynthesized, hpaths⟩, rfl⟩
    intro q hq
    rw [hpaths, List.mem_singleton] at hq
    exact hq ▸ hthere
  · obtain ⟨rfl, -, hpaths⟩ := resolve_kept hkept hrun
    refine ⟨hpaths ▸ hkept, fun p hp => ?_, fun h => absurd h hkept, rfl⟩
    rw [hpaths] at hp
    exact (List.mem_filter.mp hp).2

/-! ### Two workspaces -/

/-- A template that is one line. -/
def lineTemplate : Template := ⟨"line", "x"⟩

/-- A template without anything to fill in. -/
theorem render_lineTemplate : lineTemplate.render {} = .ok "x\n" := by
  have hrender : (lineTemplate.render {}).toOption = some "x\n" := by decide
  cases h : lineTemplate.render {} with
  | error f => simp [h, Except.toOption] at hrender
  | ok s => simp_all [Except.toOption]

/-- A disk with the two workspaces `/w` and `/a,b`. -/
def workspacesDisk : Disk :=
  ⟨[], [([], .directory 0o755), ([Text.encode "w"], .directory 0o755), ([Text.encode "a,b"], .directory 0o755)]⟩

/-- The same with an inventory in one of them. -/
def inventoryDisk (workspace : String) : Disk :=
  workspacesDisk.set [Text.encode workspace, Text.encode synthesizedName] (.file 0o640 (Text.encode "x\n"))

/-- An inventory that is made in `/w` is used alone, since nothing in its path parts the list. -/
theorem resolve_paths_plainWorkspace : keptItems "/none" workspacesDisk.leadsSomewhere = [] ∧
    ∃ r, (resolve "/none" (.ofText "/w") {} lineTemplate).runOn workspacesDisk = (.ok r, inventoryDisk "w") ∧
      r.paths ≠ [] ∧ (∀ p ∈ r.paths, (inventoryDisk "w").leadsSomewhere (Path.ofText p) = true) ∧
      (∃ p, r.synthesized = some (Path.ofText p) ∧ r.paths = [p]) ∧
      Runner.inventoryArguments r.effective = r.paths.flatMap fun p => ["--inventory", p] := by
  have hkept : keptItems "/none" workspacesDisk.leadsSomewhere = [] := by decide +kernel
  have hwrite : runFrom (writeFile ((Path.ofText "/w").joinText synthesizedName) (Text.encode "x\n") synthesizedMode)
      workspacesDisk = (.ok (), inventoryDisk "w") := by decide +kernel
  have hrun := resolve_of_writeFile hkept render_lineTemplate hwrite
  have hworkspace : IsListed "/w" := by
    refine ⟨by decide, fun c hc => ?_⟩
    have hfirst : "/w".toList.head? = some '/' := by decide
    rw [hfirst] at hc
    cases hc
    decide
  obtain ⟨hne, hthere, hmade, harguments⟩ := resolve_paths _ _ _ _ _ _ _ hrun fun _ => ⟨"/w", rfl, hworkspace⟩
  exact ⟨hkept, _, hrun, hne, hthere, hmade hkept, harguments⟩

/-- An inventory that is made in `/a,b` is there, but the list names two other paths, and nothing is at either. -/
theorem resolve_commaWorkspace :
    ∃ r, (resolve "/none" (.ofText "/a,b") {} lineTemplate).runOn workspacesDisk = (.ok r, inventoryDisk "a,b") ∧
      r.synthesized = some (.ofText "/a,b/temp-inventory.yaml") ∧ r.paths = ["/a", "b/temp-inventory.yaml"] ∧
      ∀ p ∈ r.paths, (inventoryDisk "a,b").leadsSomewhere (Path.ofText p) = false := by
  have hkept : keptItems "/none" workspacesDisk.leadsSomewhere = [] := by decide +kernel
  have hwrite : runFrom (writeFile ((Path.ofText "/a,b").joinText synthesizedName) (Text.encode "x\n") synthesizedMode)
      workspacesDisk = (.ok (), inventoryDisk "a,b") := by decide +kernel
  have hpaths : Text.items (((Path.ofText "/a,b").joinText synthesizedName).display) =
      ["/a", "b/temp-inventory.yaml"] := by decide
  have hfirst : (inventoryDisk "a,b").leadsSomewhere (.ofText "/a") = false := by decide +kernel
  have hsecond : (inventoryDisk "a,b").leadsSomewhere (.ofText "b/temp-inventory.yaml") = false := by decide +kernel
  refine ⟨_, resolve_of_writeFile hkept render_lineTemplate hwrite, by decide, hpaths, ?_⟩
  rw [Resolved.paths, hpaths]
  simp [hfirst, hsecond]

end Bootstrap.Inventory
