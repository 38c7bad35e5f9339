import Bootstrap.Proofs.Invocation.Preparation

/-!
# What a child is asked to do

The stages and branches build their requests from what the preparation left behind: a runner, a configuration and a
resolved inventory. This module writes the requests down once more as a child gets them, with the names of programs,
variables and options spelled out, and shows that the two agree.

* `Prepared.StandsIn` — the runner and its configuration stand in the workspace. That is what the preparation comes to,
  whatever the bundle holds: `standsIn_of_prepare`.
* `toolCall` and `editCall` — a call of one tool of the runner, and a call of an editor.
* `playbookWords`, `adhocWords`, `queryWords` — the words that each tool is called with.
* `Prepared.StandsIn.playbookRequest_eq` and the lemmas behind it — the requests of a prepared workspace are such calls.
-/

namespace Bootstrap.Invocation

open Effect

/-! ## Where the runner stands -/

/-- A prepared workspace: the runner stands in it under its own name, and so does the configuration it is pointed at.
That is the one with absolute paths if the bundle ships a configuration; otherwise the path of the shipped one is used,
although nothing stands there. -/
structure Prepared.StandsIn (p : Prepared) (workspace : Path) : Prop where
  place : p.workspace = workspace
  executable : p.runner.executable = workspace.joinText "ansible.pex"
  config : p.runner.config = workspace.joinText (if p.runnerConfig.isSome then "gascan.cfg" else "default.cfg")

/-- A configuration is reported exactly if it was written, and the runner is pointed at what was written. -/
theorem config_of_prepareConfig {workspace home path : Path} {text : Option String} {d d' : Disk}
    (h : runFrom (prepareConfig workspace home) d = (.ok (path, text), d')) :
    path = workspace.joinText (if text.isSome then "gascan.cfg" else "default.cfg") := by
  rw [prepareConfig, runFrom_get_bind] at h
  split at h
  · cases h
    rfl
  · obtain ⟨shipped, d₁, -, h⟩ := exists_of_runFrom_bind h
    obtain ⟨_, d₂, -, h⟩ := exists_of_runFrom_bind h
    cases h
    rfl

/-- What the steps of a preparation give is what it gives, if the cache is left alone. This puts the steps together
where each of them was evaluated alone. -/
theorem runFrom_prepare {surroundings : Surroundings} {config : Configuration} {workspace configPath : Path}
    {t : Bundle.Tally} {runnerConfig : Option String} {template : Inventory.Template} {inventory : Inventory.Resolved}
    {d d₁ d₂ d₃ d₄ d₅ : Disk}
    (hextract : runFrom (surroundings.payload.bundle.extract workspace (config.mode.contains (.branch .adhoc))) d =
      (.ok t, d₁))
    (hrunner : runFrom (Action.writeFile (workspace.joinText runnerName) surroundings.payload.runner runnerMode) d₁ =
      (.ok (), d₂))
    (hconfig : runFrom (prepareConfig workspace surroundings.host.home) d₂ = (.ok (configPath, runnerConfig), d₃))
    (htemplate : runFrom (Inventory.Template.ofWorkspace workspace) d₃ = (.ok template, d₄))
    (hresolve : runFrom (Inventory.resolve config.inventory workspace config template) d₄ = (.ok inventory, d₅))
    (hcache : config.clearInventoryCache = false) :
    runFrom (prepare surroundings config workspace) d =
      (.ok ⟨workspace, ⟨workspace.joinText runnerName, configPath⟩, runnerConfig, inventory⟩, d₅) := by
  unfold prepare
  rw [runFrom_bind_ok hextract, runFrom_bind_ok hrunner, runFrom_bind_ok hconfig, runFrom_bind_ok htemplate,
    runFrom_bind_ok hresolve, hcache]
  rfl

/-- What the preparation of a workspace gives stands in it. Of the six steps only the one for the configuration matters:
the paths of all else are fixed, and clearing the cache changes nothing of what is given. -/
theorem standsIn_of_prepare {surroundings : Surroundings} {config : Configuration} {workspace : Path} {p : Prepared}
    {d d' : Disk} (h : runFrom (prepare surroundings config workspace) d = (.ok p, d')) : p.StandsIn workspace := by
  obtain ⟨_, d₁, -, h⟩ := exists_of_runFrom_bind h
  obtain ⟨_, d₂, -, h⟩ := exists_of_runFrom_bind h
  obtain ⟨⟨configPath, runnerConfig⟩, d₃, hconfig, h⟩ := exists_of_runFrom_bind h
  obtain ⟨template, d₄, -, h⟩ := exists_of_runFrom_bind h
  obtain ⟨inventory, d₅, -, h⟩ := exists_of_runFrom_bind h
  -- clearing the cache is the last step and gives nothing
  have hp : p = ⟨workspace, ⟨workspace.joinText runnerName, configPath⟩, runnerConfig, inventory⟩ := by
    split at h
    · obtain ⟨_, d₆, -, h⟩ := exists_of_runFrom_bind h
      cases h
      rfl
    · cases h
      rfl
  subst hp
  exact ⟨rfl, rfl, config_of_prepareConfig hconfig⟩

/-- The first half of a run gives a workspace and what stands in it. -/
theorem standsIn_of_openPrepared {surroundings : Surroundings} {config : Configuration} {workspace : Workspace}
    {p : Prepared} {w w' : World}
    (h : runFrom (openPrepared surroundings config) w = (.ok (workspace, p), w')) : p.StandsIn workspace.path := by
  obtain ⟨_, w₁, -, h⟩ := exists_of_runFrom_bind h
  obtain ⟨_, w₂, hprepare, h⟩ := exists_of_runFrom_bind h
  cases h
  exact standsIn_of_prepare (runFrom_onDisk_eq_ok.mp hprepare).1

/-! ## Calls -/

/-- A call of one tool of the runner in a workspace. All tools are in one program, so a variable says which of them is
meant, and a second one names the configuration. -/
def toolCall (workspace configuration : Path) (tool : String) (words : List String) : Launch.Request where
  program := workspace.joinText "ansible.pex"
  arguments := words
  environment := [("PEX_SCRIPT", Text.encode tool), ("ANSIBLE_CONFIG", configuration.bytes)]

/-- A call of an editor. Its words are the files to open, and it gets no variable. -/
def editCall (editor : String) (files : List String) : Launch.Request := ⟨.ofText editor, files, []⟩

/-- Every path behind an option of its own, in order. -/
def inventoryWords (paths : List String) : List String := paths.flatMap fun path => ["--inventory", path]

/-- The settings that narrow a playbook run, each behind its option. One that is absent or empty is left out. -/
def narrowingWords (config : Configuration) : List String :=
  [("--tags", config.tags), ("--skip-tags", config.skipTags), ("--limit", config.limit)].flatMap
    fun (option, setting) => (setting.toList.filter (· ≠ "")).flatMap fun value => [option, value]

/-- The words of a playbook run: the playbook in the workspace, the settings that narrow the run, the request to be
asked for a password where one is needed and none was given, the inventories, and what the operator passes on. -/
def playbookWords (host : Host) (config : Configuration) (workspace : Path) (inventory : List String)
    (playbook : String) : List String :=
  (workspace.joinText playbook).display ::
    (narrowingWords config ++
      (if config.passwordlessSudo = false ∧ host.becomePasswordProvided = false then ["--ask-become-pass"] else []) ++
      inventoryWords inventory ++ config.extraArguments)

/-- The words of an ad-hoc command: the inventories, and the command itself, which the operator passes on. -/
def adhocWords (config : Configuration) (inventory : List String) : List String :=
  inventoryWords inventory ++ config.extraArguments

/-- The words of a query of the inventory, which is to list everything unless the operator passes a query on. -/
def queryWords (config : Configuration) (inventory : List String) : List String :=
  inventoryWords inventory ++ if config.extraArguments = [] then ["--list"] else config.extraArguments

/-! ## The requests are such calls -/

theorem inventoryArguments_eq (inventory : Inventory.Resolved) :
    Runner.inventoryArguments inventory.effective = inventoryWords inventory.paths := rfl

/-- The three settings are looked at one after the other, and all of them in the same way: one that is absent or empty
gives no words. -/
theorem optionArguments_eq (option : String) (setting : Option String) :
    Runner.optionArguments option setting =
      (setting.toList.filter (· ≠ "")).flatMap fun value => [option, value] := by
  cases setting with
  | none => rfl
  | some value =>
      by_cases hempty : value = ""
      · simp [Runner.optionArguments, hempty]
      · simp [Runner.optionArguments, hempty]

namespace Prepared

variable {p : Prepared} {workspace : Path} (h : p.StandsIn workspace) (host : Host) (config : Configuration)

include h

/-- Every request to the runner goes to the one in the workspace, with the two variables set. -/
theorem StandsIn.request_eq (tool : Runner.Persona) (words : List String) :
    p.runner.request tool words = toolCall workspace p.runner.config tool.script words := by
  rw [Runner.Bundled.request, h.executable]
  rfl

/-- The request for a playbook: the runner of the workspace as the program, the persona of a playbook run, and first of
all the path of the playbook in the workspace. -/
theorem StandsIn.playbookRequest_eq (playbook : String) :
    p.playbookRequest host config playbook =
      toolCall workspace p.runner.config "ansible-playbook"
        (playbookWords host config workspace p.inventory.paths playbook) := by
  have hasks : (if asksPassword host config then ["--ask-become-pass"] else []) =
      if config.passwordlessSudo = false ∧ host.becomePasswordProvided = false then ["--ask-become-pass"] else [] := by
    simp only [asksPassword, Bool.and_eq_true, Bool.not_eq_true']
  have hwords : (p.workspace.joinText playbook).display :: p.playbookArguments host config =
      playbookWords host config workspace p.inventory.paths playbook := by
    rw [playbookWords, playbookArguments, Runner.playbookArguments, h.place, hasks, inventoryArguments_eq,
      optionArguments_eq, optionArguments_eq, optionArguments_eq]
    simp only [narrowingWords, List.flatMap_cons, List.flatMap_nil, List.append_nil, List.append_assoc]
  rw [playbookRequest, Runner.Bundled.playbookRequest, h.request_eq, hwords]
  rfl

/-- The request for a single command: first the inventory, then the words of the operator. -/
theorem StandsIn.adhocRequest_eq :
    adhocRequest config p = toolCall workspace p.runner.config "ansible" (adhocWords config p.inventory.paths) := by
  rw [adhocRequest, h.request_eq, Runner.adhocArguments, inventoryArguments_eq]
  rfl

/-- The request for the inventory. -/
theorem StandsIn.queryRequest_eq :
    queryRequest config p =
      toolCall workspace p.runner.config "ansible-inventory" (queryWords config p.inventory.paths) := by
  rw [queryRequest, h.request_eq, Runner.inventoryQueryArguments, inventoryArguments_eq, queryWords]
  simp only [List.isEmpty_iff]
  rfl

end Prepared

end Bootstrap.Invocation
