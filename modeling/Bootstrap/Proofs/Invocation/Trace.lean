import Bootstrap.Proofs.Bundle.Extraction
import Bootstrap.Proofs.Inventory.Resolution
import Bootstrap.Proofs.Invocation.Requests
import Bootstrap.Proofs.Tar.RoundTrip
import Bootstrap.Proofs.Workspace
import Mathlib.Tactic.Common

/-!
# The children of an invocation

Which children an invocation starts, in which order, and what their outcomes make of its exit code.

* `Runs` says of a program that it starts the children of a list one after the other and stops behind the first one that
  fails. It is built up along the text of the stages: `runs_runStages`.
* `Trace` is what that means for the recorded launches and the exit code: `Goes.trace`, by induction on the children
  that were started.
* `Settles` says for every mode which children there are, by the requests of `toolCall` and `editCall`.
* `run_launches` — the statement about a whole invocation.
-/

namespace Bootstrap.Invocation

open Effect
open Launch (Launcher Outcome)

/-! ## Children -/

/-- A child that a mode asks for. -/
inductive Child where
  | editor (request : Launch.Request)
  | runner (request : Launch.Request)

namespace Child

def request : Child → Launch.Request
  | editor r => r
  | runner r => r

/-- What becomes of an invocation whose child ends like this: an editor that fails is a failure of the invocation, a
runner that fails is none. -/
def ending (editorName : String) (o : Outcome) : Child → Except Failure Outcome
  | editor _ => .error (.ofRefusal (.editorFailed editorName o.exitCode))
  | runner _ => .ok o

end Child

section Stages

variable (surroundings : Surroundings) (config : Configuration) (p : Prepared)

/-- The run of a playbook, for a mode with the stage that runs it. -/
def playbookChildren (stage : Stage) (playbook : String) : List Child :=
  if config.mode.contains (.stage stage) then [.runner (p.playbookRequest surroundings.host config playbook)] else []

def testChildren : List Child := playbookChildren surroundings config p .test testPlaybookName

def deployChildren : List Child := playbookChildren surroundings config p .deploy config.playbook

def editorChildren : List Child :=
  if config.mode.contains (.stage .config) then [.editor (Runner.editRequest config.editor p.inventory.paths)] else []

/-- The children of the stages, in order: the editor, the test playbook and the selected playbook. -/
def stageChildren : List Child :=
  editorChildren config p ++ (testChildren surroundings config p ++ deployChildren surroundings config p)

end Stages

/-- How the recorded children ended, the first of them being the `n`-th. -/
def outcomes (launcher : Launcher) : (n : Nat) → List (Launch.Request × Disk) → List Outcome
  | _, [] => []
  | n, (r, d) :: rest => (launcher n r d).outcome :: outcomes launcher (n + 1) rest

/-! ## Starting children one after the other -/

/-- Children are started in order, from the `n`-th on, up to the first one that fails. -/
inductive Goes (launcher : Launcher) (editorName : String) :
    (n : Nat) → List Child → List (Launch.Request × Disk) → Except Failure Outcome → Prop where
  /-- All are started, and the last one or the absence of any counts as success. -/
  | done (n) {o : Outcome} (h : o.succeeded = true) : Goes launcher editorName n [] [] (.ok o)
  | go {n} (child) {rest new result} (d : Disk) (hok : (launcher n child.request d).outcome.succeeded = true)
      (h : Goes launcher editorName (n + 1) rest new result) :
      Goes launcher editorName n (child :: rest) ((child.request, d) :: new) result
  | fails {n} (child rest) (d : Disk) (hfail : (launcher n child.request d).outcome.succeeded = false) :
      Goes launcher editorName n (child :: rest) [(child.request, d)]
        (child.ending editorName (launcher n child.request d).outcome)

/-- From any world a program starts the children of a list in this way. -/
def Runs (launcher : Launcher) (editorName : String) (x : Program Outcome) (children : List Child) : Prop :=
  ∀ w, ∃ new, (runFrom x w).2.launches = w.launches ++ new ∧
    Goes launcher editorName w.launches.length children new (runFrom x w).1

namespace Runs

variable {launcher : Launcher} {editorName : String}

theorem nothing : Runs launcher editorName (pure .success) [] := fun _ => ⟨[], by simp, .done _ rfl⟩

/-- One child, and what follows it. Behind a child that fails, nothing is started any more. The stages are made of such
steps, one inside the other. -/
theorem launch_bind (child : Child) {rest : List Child} {f : Outcome → Program Outcome}
    (hgo : ∀ o, o.succeeded = true → Runs launcher editorName (f o) rest)
    (hfail : ∀ o w, o.succeeded = false → runFrom (f o) w = (child.ending editorName o, w)) :
    Runs launcher editorName (Program.launch launcher child.request >>= f) (child :: rest) := by
  intro w
  rw [runFrom_bind_ok (runFrom_launch launcher child.request w)]
  -- the child is started in either case, and the rest is only if it succeeds
  cases hok : (launcher w.launches.length child.request w.disk).outcome.succeeded with
  | true =>
      obtain ⟨new, hlaunches, hgoes⟩ := hgo _ hok
        { w with
          disk := (launcher w.launches.length child.request w.disk).disk
          printed := w.printed ++ (launcher w.launches.length child.request w.disk).printed
          launches := w.launches ++ [(child.request, w.disk)] }
      refine ⟨(child.request, w.disk) :: new, ?_, .go child w.disk hok ?_⟩
      · rw [hlaunches, List.append_assoc, List.singleton_append]
      · rwa [List.length_append, List.length_singleton] at hgoes
  | false =>
      rw [hfail _ _ hok]
      exact ⟨[(child.request, w.disk)], rfl, .fails child rest w.disk hok⟩

/-- A run of the runner whose outcome is the outcome of it all. -/
theorem launch_runner (r : Launch.Request) : Runs launcher editorName (Program.launch launcher r) [.runner r] := by
  intro w
  rw [runFrom_launch]
  refine ⟨[(r, w.disk)], rfl, ?_⟩
  cases hok : (launcher w.launches.length r w.disk).outcome.succeeded with
  | true => exact .go (.runner r) w.disk hok (.done _ hok)
  | false => exact .fails (.runner r) [] w.disk hok

end Runs

/-! ## The stages -/

section Stages

variable (surroundings : Surroundings) (config : Configuration) (p : Prepared)

/-- The last stage starts the selected playbook. -/
theorem runs_deploy :
    Runs surroundings.launcher config.editor (deploy surroundings config p) (deployChildren surroundings config p) := by
  unfold deploy deployChildren playbookChildren
  split
  · exact .launch_runner _
  · exact .nothing

/-- The stages one after the other: the editor, the test playbook, the selected playbook, each of which may be left out.
The proof follows the text of the stages and joins what each of them starts. -/
theorem runs_runStages :
    Runs surroundings.launcher config.editor (runStages surroundings config p)
      (stageChildren surroundings config p) := by
  -- from the last stage to the first, each in front of those behind it
  have hdeploy := runs_deploy surroundings config p
  unfold runStages stageChildren
  extract_lets fromDeploy fromTest
  have htest : Runs surroundings.launcher config.editor (fromTest ())
      (testChildren surroundings config p ++ deployChildren surroundings config p) := by
    dsimp only [fromTest]
    unfold testChildren playbookChildren
    split
    · refine Runs.launch_bind (.runner _) (fun o hok => ?_) fun o w hfail => ?_
      · rw [hok]
        exact hdeploy
      · rw [hfail]
        rfl
    · exact hdeploy
  unfold editorChildren
  split
  · rw [configure, bind_assoc]
    refine Runs.launch_bind (.editor _) (fun o hok => ?_) fun o w hfail => ?_
    · rw [hok]
      exact htest
    · rw [hfail]
      rfl
  · exact htest

end Stages

/-! ## What was started, and the exit code -/

/-- The launches `new` of an invocation that asks for `children`, and its result. They follow the order of the children,
only the last of them may have failed, and if none has failed they are complete. A runner that failed gives the exit
code, and an editor that failed is a failure of the invocation. -/
structure Trace (launcher : Launcher) (editorName : String) (n : Nat) (children : List Child)
    (new : List (Launch.Request × Disk)) (result : Except Failure Int) : Prop where
  ordered : new.map Prod.fst <+: children.map Child.request
  onlyLastFails : ∀ o ∈ (outcomes launcher n new).dropLast, o.succeeded = true
  complete : (∀ o ∈ outcomes launcher n new, o.succeeded = true) →
    new.map Prod.fst = children.map Child.request ∧ result = .ok 0
  failed : ∀ o, (outcomes launcher n new).getLast? = some o → o.succeeded = false →
    ∃ child, children[new.length - 1]? = some child ∧ result = (child.ending editorName o).map Outcome.exitCode

/-- What a run of children comes to, as a list: the launches are those of the children that were reached, every child
but the last succeeded, and the result is that of the last one. Induction on the children. -/
theorem Goes.trace {launcher : Launcher} {editorName : String} {n : Nat} {children : List Child}
    {new : List (Launch.Request × Disk)} {result : Except Failure Outcome}
    (h : Goes launcher editorName n children new result) :
    Trace launcher editorName n children new (result.map exitCode) := by
  -- induction on the children that were started: the trace of the rest, one child in front of it
  induction h with
  | done n hok =>
      refine ⟨List.nil_prefix, by simp [outcomes], fun _ => ⟨rfl, ?_⟩, by simp [outcomes]⟩
      simp [Except.map, exitCode, hok]
  | @go n child rest new result d hok _ ih =>
      refine ⟨?_, ?_, fun hall => ?_, fun o hlast hfail => ?_⟩
      · exact List.cons_prefix_cons.mpr ⟨rfl, ih.ordered⟩
      · intro o ho
        cases hrest : outcomes launcher (n + 1) new with
        | nil =>
            rw [outcomes, hrest] at ho
            cases ho
        | cons o' os =>
            rw [outcomes, hrest, List.dropLast_cons_cons] at ho
            rcases List.mem_cons.mp ho with rfl | ho
            · exact hok
            · exact ih.onlyLastFails o (hrest ▸ ho)
      · obtain ⟨hnew, hresult⟩ := ih.complete fun o ho => hall o (List.mem_cons_of_mem _ ho)
        exact ⟨by rw [List.map_cons, List.map_cons, hnew], hresult⟩
      · cases new with
        | nil =>
            -- the first child is the last one, and it did not fail
            simp only [outcomes, List.getLast?_singleton, Option.some.injEq] at hlast
            rw [← hlast, hok] at hfail
            cases hfail
        | cons first more =>
            rw [outcomes, outcomes, List.getLast?_cons_cons] at hlast
            obtain ⟨child', hchild, hresult⟩ := ih.failed o hlast hfail
            exact ⟨child', by simpa using hchild, hresult⟩
  | fails child rest d hfail =>
      refine ⟨?_, by simp [outcomes], fun hall => ?_, fun o hlast hfail' => ⟨child, rfl, ?_⟩⟩
      · exact List.cons_prefix_cons.mpr ⟨rfl, List.nil_prefix⟩
      · rw [hall _ List.mem_cons_self] at hfail
        cases hfail
      · simp only [outcomes, List.getLast?_singleton, Option.some.injEq] at hlast
        subst hlast
        cases child with
        | editor r => rfl
        | runner r => simp [Child.ending, Except.map, exitCode_of_failed hfail]

/-- The outcomes are those of the launches, counted on from the first, each with the disk at which it was started. -/
theorem mem_outcomes {launcher : Launcher} {n : Nat} {new : List (Launch.Request × Disk)} {o : Outcome}
    (h : o ∈ outcomes launcher n new) : ∃ k < new.length, ∃ r d, o = (launcher (n + k) r d).outcome := by
  induction new generalizing n with
  | nil => cases h
  | cons first rest ih =>
      rcases List.mem_cons.mp h with rfl | h
      · exact ⟨0, Nat.succ_pos _, first.1, first.2, rfl⟩
      · obtain ⟨k, hk, r, d, rfl⟩ := ih h
        exact ⟨k + 1, Nat.succ_lt_succ hk, r, d, by rw [Nat.add_right_comm, Nat.add_assoc]⟩

/-- If none but the last child can fail, all of them are started. -/
theorem Trace.started {launcher : Launcher} {editorName : String} {n : Nat} {children : List Child}
    {new : List (Launch.Request × Disk)} {result : Except Failure Int}
    (h : Trace launcher editorName n children new result)
    (hok : ∀ k r d, k + 1 < children.length → (launcher (n + k) r d).outcome.succeeded = true) :
    new.map Prod.fst = children.map Child.request := by
  have hle : new.length ≤ children.length := by simpa using h.ordered.length_le
  rcases hle.eq_or_lt with heq | hlt
  · exact h.ordered.eq_of_length (by simpa using heq)
  · refine (h.complete fun o ho => ?_).1
    obtain ⟨k, hk, r, d, rfl⟩ := mem_outcomes ho
    exact hok k r d (by omega)

/-- The outcome of children that are started in this way is a success if none of them failed. Induction on how they
went. -/
theorem Goes.succeeded_iff {launcher : Launcher} {editorName : String} {n : Nat} {children : List Child}
    {new : List (Launch.Request × Disk)} {result : Except Failure Outcome}
    (h : Goes launcher editorName n children new result) {o : Outcome} (hresult : result = .ok o) :
    o.succeeded = true ↔ ∀ o' ∈ outcomes launcher n new, o'.succeeded = true := by
  induction h with
  | done n hok =>
      cases hresult
      simp [outcomes, hok]
  | go child d hok _ ih =>
      rw [ih hresult, outcomes]
      simp only [List.forall_mem_cons, hok, true_and]
  | fails child rest d hfail =>
      cases child with
      | editor r => cases hresult
      | runner r =>
          cases hresult
          simp [outcomes, Child.request]

/-! ## The halves of a run -/

/-- An action starts no child. -/
theorem keeps_launches_onDisk {α : Type} {x : Action α} (launches : List (Launch.Request × Disk)) :
    Keeps (fun w => w.launches = launches) (Program.onDisk x) := by
  intro w hw
  rw [runFrom_onDisk]
  exact hw

theorem keeps_launches_print (launches : List (Launch.Request × Disk)) (line : String) :
    Keeps (fun w => w.launches = launches) (Program.print line) := fun _ hw => hw

section Halves

variable (surroundings : Surroundings) (config : Configuration) (p : Prepared)

/-- Opening a workspace starts no child, and neither does preparing it. -/
theorem keeps_launches_openIn (base : Option Path) (launches : List (Launch.Request × Disk)) :
    Keeps (fun w => w.launches = launches) (Workspace.openIn base) := by
  refine Keeps.get_bind fun w hw => ?_
  refine Keeps.bind ((keeps_launches_onDisk launches).programDuring _) (fun _ => ?_) w hw
  refine Keeps.get_bind fun w hw => ?_
  refine Keeps.bind ((keeps_launches_onDisk launches).programDuring _) (fun ⟨workspace, drawn⟩ => ?_) w hw
  exact Keeps.bind (fun _ hw => hw) fun _ => .pure _

theorem keeps_launches_openPrepared (launches : List (Launch.Request × Disk)) :
    Keeps (fun w => w.launches = launches) (openPrepared surroundings config) :=
  (keeps_launches_openIn _ launches).bind fun _ => (keeps_launches_onDisk launches).bind fun _ => .pure _

/-- An install starts no child. -/
theorem keeps_launches_installHost (launches : List (Launch.Request × Disk)) :
    Keeps (fun w => w.launches = launches) (installHost surroundings config p) := by
  refine (keeps_launches_print launches _).bind fun _ => Keeps.bind (.look _) fun d => ?_
  refine Keeps.bind (fun w hw => ?_) fun report => keeps_launches_print launches _
  exact Host.keeps_install (I := fun _ => True) ⟨fun _ _ _ _ _ => trivial, fun _ _ _ _ => trivial⟩
    (keeps_launches_print launches) (fun _ => keeps_launches_onDisk launches) (keeps_launches_onDisk launches w hw)

end Halves

/-! ## Sound outcomes -/

/-- A launcher with a script of sound outcomes gives sound outcomes, also when the script is over. -/
theorem isSound_scripted {script : List Outcome} (h : ∀ o ∈ script, o.IsSound) (n : Nat) (r : Launch.Request)
    (d : Disk) : (Launcher.scripted script n r d).outcome.IsSound := by
  rw [Launch.Launcher.outcome_scripted, Launch.Launcher.scriptedOutcome]
  cases ho : script[n]? with
  | none => decide
  | some o => exact h o (List.mem_of_getElem? ho)

section Sound

variable {launcher : Launcher} (hsound : ∀ n r d, (launcher n r d).outcome.IsSound)

include hsound

/-- Every outcome that is read off the launches is one that the launcher gave. -/
theorem isSound_of_mem_outcomes {n : Nat} {new : List (Launch.Request × Disk)} {o : Outcome}
    (h : o ∈ outcomes launcher n new) : o.IsSound := by
  obtain ⟨k, -, r, d, rfl⟩ := mem_outcomes h
  exact hsound (n + k) r d

/-- The exit code tells whether a child failed: a runner that fails gives its own code, which is not zero, and an editor
that fails makes a failure of the run. -/
theorem Trace.succeeded_of_zero {editorName : String} {n : Nat} {children : List Child}
    {new : List (Launch.Request × Disk)} {result : Except Failure Int}
    (h : Trace launcher editorName n children new result) (hzero : result = .ok 0) :
    ∀ o ∈ outcomes launcher n new, o.succeeded = true := by
  intro o ho
  have hne : outcomes launcher n new ≠ [] := List.ne_nil_of_mem ho
  -- only the last child may have failed, and its exit code would not be zero
  have hlast : ((outcomes launcher n new).getLast hne).succeeded = true := by
    by_contra hfail
    obtain ⟨child, -, hresult⟩ := h.failed _ (List.getLast?_eq_some_getLast hne) (by simpa using hfail)
    rw [hzero] at hresult
    cases child with
    | editor r => cases hresult
    | runner r =>
        have hcode : 0 = ((outcomes launcher n new).getLast hne).exitCode := Except.ok.inj hresult
        exact hfail ((isSound_of_mem_outcomes hsound (List.getLast_mem hne)).mpr hcode.symm)
  rw [← List.dropLast_concat_getLast hne] at ho
  rcases List.mem_append.mp ho with ho | ho
  · exact h.onlyLastFails o ho
  · rw [List.mem_singleton.mp ho]
    exact hlast

end Sound

/-! ## An invocation -/

/-- The options ask for something to be printed, and for nothing else. -/
def Informs (options : CommandLine.Options) : Prop :=
  options.version = true ∨ options.listPlaybooks = true ∨ options.generateHash = true

/-- The options ask for what cannot be done: a playbook that is not in the registry, or an ad-hoc command without a
command. An ad-hoc command needs no playbook. -/
def Refuses (options : CommandLine.Options) (registry : Playbook.Registry) : Prop :=
  options.version = false ∧ options.listPlaybooks = false ∧
    (options.adhoc = false ∧ registry.contains options.playbook = false ∨
      options.adhoc = true ∧ options.extraArguments = [])

/-- What a mode owes to the options. A branch that they ask for takes the place of the stages: ad-hoc before extract
before inventory query. The first stage is left on only if nobody says otherwise: neither an option, nor a named
inventory, nor the toggle. -/
structure Takes (options : CommandLine.Options) (host : Host) (registry : Playbook.Registry) (mode : Mode) : Prop where
  asked : ¬ Informs options
  possible : ¬ Refuses options registry
  adhoc : options.adhoc = true → mode = .branch .adhoc
  extract : options.adhoc = false → options.extractBundle = true → mode = .branch .extract
  inventoryQuery : options.adhoc = false → options.extractBundle = false → options.showInventory = true →
    mode = .branch .inventoryQuery
  stages : options.adhoc = false → options.extractBundle = false → options.showInventory = false →
    ∃ configure, mode = .stages configure options.test (!options.skipDeploy) ∧
      (configure = true ↔ options.skipConfigure = false ∧ options.explicitInventory = none ∧
        Toggle.isOn host.defaultInventory = true)

/-- The options are gone through in a fixed order, and each outcome of that has its own cause: a question that is
answered, a request that is refused, or a mode. -/
theorem decision_cause (options : CommandLine.Options) (host : Host) (registry : Playbook.Registry) :
    match (options.request host).decision registry with
    | .error _ => Refuses options registry
    | .ok (.run mode) => ¬ Informs options ∧ ¬ Refuses options registry ∧
      mode = (options.request host).branch?.elim (options.request host).stages .branch
    | .ok _ => Informs options := by
  unfold Request.decision
  split_ifs with hversion hlist hunknown hhash hnothing
  · -- the questions in their order, and what each of them asks for
    exact .inl hversion
  · exact .inr (.inl hlist)
  · refine ⟨Bool.eq_false_of_not_eq_true hversion, Bool.eq_false_of_not_eq_true hlist, .inl ?_⟩
    simpa [CommandLine.Options.request] using hunknown
  · exact .inr (.inr hhash)
  · refine ⟨Bool.eq_false_of_not_eq_true hversion, Bool.eq_false_of_not_eq_true hlist, .inr ?_⟩
    simpa [CommandLine.Options.request] using hnothing
  · -- none of them applies, so a mode is chosen
    have hasked : ¬ Informs options := by
      rintro (h | h | h)
      · exact hversion h
      · exact hlist h
      · exact hhash h
    have hpossible : ¬ Refuses options registry := by
      rintro ⟨-, -, ⟨hadhoc, hcontains⟩ | ⟨hadhoc, hargs⟩⟩
      · exact hunknown (by simp [CommandLine.Options.request, hadhoc, hcontains])
      · exact hnothing (by simp [CommandLine.Options.request, hadhoc, hargs])
    cases hbranch : (options.request host).branch? with
    | none => exact ⟨hasked, hpossible, rfl⟩
    | some b => exact ⟨hasked, hpossible, rfl⟩

/-- A mode is decided for only by the arguments that ask for it, and by a registry that has the selected playbook. Of
the three branches the first one that is asked for wins. -/
theorem takes_of_decision {options : CommandLine.Options} {host : Host} {registry : Playbook.Registry} {mode : Mode}
    (h : (options.request host).decision registry = .ok (.run mode)) : Takes options host registry mode := by
  have hcause := decision_cause options host registry
  rw [h] at hcause
  obtain ⟨hasked, hpossible, hmode⟩ := hcause
  -- three options ask for a branch, the first of them wins
  have hbranch : (options.request host).branch? =
      if options.adhoc then some .adhoc
      else if options.extractBundle then some .extract
      else if options.showInventory then some .inventoryQuery
      else none := rfl
  rw [hbranch] at hmode
  refine ⟨hasked, hpossible, fun ha => ?_, fun ha he => ?_, fun ha he hq => ?_, fun ha he hq => ?_⟩
  · rw [hmode, ha]; rfl
  · rw [hmode, ha, he]; rfl
  · rw [hmode, ha, he, hq]; rfl
  · rw [ha, he, hq] at hmode
    exact ⟨_, hmode, by simp [Request.configures, CommandLine.Options.request, and_assoc]⟩

/-- The request is the only one, and its exit code is that of the invocation. -/
def IsCall (launcher : Launcher) (n : Nat) (r : Launch.Request) (new : List (Launch.Request × Disk))
    (result : Except Failure Int) : Prop :=
  ∃ d, new = [(r, d)] ∧ result = .ok (launcher n r d).outcome.exitCode

/-- A launch starts one child, and its exit code is the result. -/
theorem isCall_launch {launcher : Launcher} (hsound : ∀ n r d, (launcher n r d).outcome.IsSound)
    (r : Launch.Request) (w : World) :
    ∃ new, (runFrom (Program.launch launcher r) w).2.launches = w.launches ++ new ∧
      IsCall launcher w.launches.length r new ((runFrom (Program.launch launcher r) w).1.map exitCode) := by
  rw [runFrom_launch]
  refine ⟨[(r, w.disk)], rfl, w.disk, rfl, ?_⟩
  rw [← exitCode_of_isSound (hsound _ _ _)]
  rfl

/-- What a run has started in the end, and its result, depending on what its first half came to. The children are told
apart by what they are asked to do: an editor gets the paths of the inventory, each tool of the runner is called by its
name and from the workspace, and the two playbooks are the test and the selected one. -/
def Settles (surroundings : Surroundings) (config : Configuration) (n : Nat)
    (prepared : Except Failure (Workspace × Prepared)) (new : List (Launch.Request × Disk))
    (result : Except Failure Int) : Prop :=
  match prepared with
  | .error f => result = .error f ∧ new = []
  | .ok (workspace, p) =>
    p.StandsIn workspace.path ∧
      match config.mode with
      | .branch .extract => new = []
      | .branch .adhoc =>
        IsCall surroundings.launcher n
          (toolCall workspace.path p.runner.config "ansible" (adhocWords config p.inventory.paths)) new result
      | .branch .inventoryQuery =>
        IsCall surroundings.launcher n
          (toolCall workspace.path p.runner.config "ansible-inventory" (queryWords config p.inventory.paths)) new result
      | .stages configure test deploy =>
        let playbookRun := fun playbook => toolCall workspace.path p.runner.config "ansible-playbook"
          (playbookWords surroundings.host config workspace.path p.inventory.paths playbook)
        Trace surroundings.launcher config.editor n
          ((if configure then [.editor (editCall config.editor p.inventory.paths)] else []) ++
            ((if test then [.runner (playbookRun "ping.yaml")] else []) ++
              (if deploy then [.runner (playbookRun config.playbook)] else [])))
          new result

/-- Zero is the result only if every child that was started succeeded. Each mode has its own list of children, and the
argument is the same for each: a child that fails is the last one, and its exit code is not zero. -/
theorem Settles.succeeded_of_zero {surroundings : Surroundings} {config : Configuration} {n : Nat}
    {prepared : Except Failure (Workspace × Prepared)} {new : List (Launch.Request × Disk)}
    {result : Except Failure Int} (hsound : ∀ n r d, (surroundings.launcher n r d).outcome.IsSound)
    (h : Settles surroundings config n prepared new result) (hzero : result = .ok 0) :
    ∀ o ∈ outcomes surroundings.launcher n new, o.succeeded = true := by
  -- a mode with a single child
  have hcall : ∀ {r}, IsCall surroundings.launcher n r new result →
      ∀ o ∈ outcomes surroundings.launcher n new, o.succeeded = true := by
    rintro r ⟨d, rfl, hresult⟩ o ho
    rw [hzero] at hresult
    rw [List.mem_singleton.mp ho]
    exact (hsound n r d).mpr (Except.ok.inj hresult).symm
  unfold Settles at h
  split at h
  · rw [h.2]
    intro o ho
    cases ho
  · have hmode := h.2
    split at hmode
    · rw [hmode]
      intro o ho
      cases ho
    · exact hcall hmode
    · exact hcall hmode
    · -- the stages
      exact hmode.succeeded_of_zero hsound hzero

/-- The children that the stages start, as they are asked: the editor, the test playbook and the selected playbook. -/
theorem stageChildren_eq {surroundings : Surroundings} {config : Configuration} {p : Prepared} {workspace : Path}
    {configure test deploy : Bool} (h : p.StandsIn workspace) (hmode : config.mode = .stages configure test deploy) :
    stageChildren surroundings config p =
      (if configure then [.editor (editCall config.editor p.inventory.paths)] else []) ++
        ((if test then [.runner (toolCall workspace p.runner.config "ansible-playbook"
            (playbookWords surroundings.host config workspace p.inventory.paths "ping.yaml"))] else []) ++
          (if deploy then [.runner (toolCall workspace p.runner.config "ansible-playbook"
            (playbookWords surroundings.host config workspace p.inventory.paths config.playbook))] else [])) := by
  rw [stageChildren, editorChildren, testChildren, deployChildren, playbookChildren, playbookChildren, hmode,
    h.playbookRequest_eq, h.playbookRequest_eq]
  rfl

/-- What a run in a workspace does settles what it was decided for. The two halves are taken apart, and the launches of
the second are those that the theorem speaks of. -/
theorem settles_runInWorkspace {surroundings : Surroundings} (config : Configuration) (w : World)
    (hsound : ∀ n r d, (surroundings.launcher n r d).outcome.IsSound) :
    ∃ new, (runFrom (runInWorkspace surroundings config) w).2.launches = w.launches ++ new ∧
      Settles surroundings config w.launches.length (runFrom (openPrepared surroundings config) w).1 new
        (runFrom (runInWorkspace surroundings config) w).1 := by
  have hfirst := keeps_launches_openPrepared surroundings config w.launches w rfl
  rw [runInWorkspace_eq]
  rcases hprepared : runFrom (openPrepared surroundings config) w with ⟨f | ⟨workspace, p⟩, w₁⟩
  · rw [hprepared] at hfirst
    -- nothing was prepared, so nothing is started and the failure is the result
    rw [runFrom_bind_error hprepared]
    exact ⟨[], by rw [hfirst, List.append_nil], rfl, rfl⟩
  · rw [hprepared] at hfirst
    rw [runFrom_bind_ok hprepared]
    have hstands := standsIn_of_openPrepared hprepared
    show ∃ new, (runFrom (proceed surroundings config workspace p) w₁).2.launches = _ ∧
      Settles _ _ _ _ _ (runFrom (proceed surroundings config workspace p) w₁).1
    -- what the second half starts, and its result, are those of the mode
    rw [proceed_launches, proceed_result]
    rw [← hfirst, act_eq]
    cases hmode : config.mode with
    | stages configure test deploy =>
        obtain ⟨new, hlaunches, hgoes⟩ := runs_runStages surroundings config p w₁
        rw [stageChildren_eq hstands hmode] at hgoes
        refine ⟨new, hlaunches, ?_⟩
        simp only [Settles, hmode]
        exact ⟨hstands, hgoes.trace⟩
    | branch b =>
        simp only [Settles, hmode]
        cases b with
        | inventoryQuery =>
            rw [hstands.queryRequest_eq]
            obtain ⟨new, hlaunches, hcall⟩ := isCall_launch hsound _ w₁
            exact ⟨new, hlaunches, hstands, hcall⟩
        | adhoc =>
            rw [hstands.adhocRequest_eq]
            obtain ⟨new, hlaunches, hcall⟩ := isCall_launch hsound _ w₁
            exact ⟨new, hlaunches, hstands, hcall⟩
        | extract =>
            -- an install starts no child
            have hinstall := (keeps_launches_installHost surroundings config p w₁.launches).bind
              (fun _ => Keeps.pure Outcome.success) w₁ rfl
            exact ⟨[], by rw [List.append_nil]; exact hinstall, hstands, rfl⟩

/-- An invocation that decides not to run starts no child. -/
theorem launches_run_of_no_mode {surroundings : Surroundings} {options : CommandLine.Options}
    (h : ∀ mode, (options.request surroundings.host).decision surroundings.payload.playbooks ≠ .ok (.run mode))
    (w : World) : (runFrom (run surroundings options) w).2.launches = w.launches :=
  keeps_run_of_no_mode h (keeps_launches_print w.launches) (fun _ => keeps_launches_onDisk w.launches) w rfl

/-- **Launches and exit code.** Let a child exit with zero exactly if it succeeds. An invocation that only informs, that
is refused, that fails before its workspace is prepared, or that extracts starts no child. An ad-hoc command and a query
of the inventory are one call of `ansible` or `ansible-inventory` each. The stages start the editor, the run of
`ping.yaml` and the run of the selected playbook, as far as the options leave them on, in this order and up to the first
one that fails. The invocation exits with zero only if no child failed. -/
theorem run_launches (surroundings : Surroundings) (options : CommandLine.Options) (w : World)
    (hsound : ∀ n r d, (surroundings.launcher n r d).outcome.IsSound) :
    let result := ((run surroundings options).runOn w).1
    ∃ new, ((run surroundings options).runOn w).2.launches = w.launches ++ new ∧
      (result = .ok 0 → ∀ o ∈ outcomes surroundings.launcher w.launches.length new, o.succeeded = true) ∧
      match (options.request surroundings.host).decision surroundings.payload.playbooks with
      | .error f => Refuses options surroundings.payload.playbooks ∧ result = .error f ∧ new = []
      | .ok (.run mode) =>
        Takes options surroundings.host surroundings.payload.playbooks mode ∧
          Settles surroundings (options.configuration mode) w.launches.length
            ((openPrepared surroundings (options.configuration mode)).runOn w).1 new result
      | .ok _ => Informs options ∧ new = [] := by
  intro result
  have hcause := decision_cause options surroundings.host surroundings.payload.playbooks
  cases hdecision : (options.request surroundings.host).decision surroundings.payload.playbooks with
  | error f =>
      rw [hdecision] at hcause
      -- a request that is refused leaves the world alone
      have hrun : (run surroundings options).runOn w = (.error f, w) := by
        rw [run_of_error hdecision]
        rfl
      refine ⟨[], ?_, fun _ => by simp [outcomes], hcause, ?_, rfl⟩
      · rw [hrun, List.append_nil]
      · exact congrArg Prod.fst hrun
  | ok decision =>
      cases decision with
      | run mode =>
          obtain ⟨new, hlaunches, hsettles⟩ := settles_runInWorkspace (options.configuration mode) w hsound
          rw [← run_of_decision hdecision] at hlaunches hsettles
          exact ⟨new, hlaunches, hsettles.succeeded_of_zero hsound, takes_of_decision hdecision, hsettles⟩
      | _ =>
          rw [hdecision] at hcause
          -- and so does one that only asks for information
          have hno : ∀ mode, (options.request surroundings.host).decision surroundings.payload.playbooks ≠
              .ok (.run mode) := by
            simp [hdecision]
          refine ⟨[], ?_, fun _ => by simp [outcomes], hcause, rfl⟩
          rw [List.append_nil]
          exact launches_run_of_no_mode hno w

/-- A site with one playbook, whose deployment fails. -/
def failingSite : Surroundings where
  payload := ⟨.pack [], [], [], ⟨["site.yaml"]⟩, ⟨"", "", "", ""⟩, "", false, false⟩
  host := ⟨.ofText "/home", .ofText "/id", none, false⟩
  launcher := Launcher.scripted [.success, .failure 4]
  now := ⟨0, 0⟩

def siteWorld : World where
  disk := ⟨[], [([], .directory 0o755), ([Text.encode "hosts"], .file 0o644 []),
    ([Text.encode "tmp"], .directory 0o777)]⟩
  temporary := .ofText "/tmp"
  draw n := n.repr

def testOptions : CommandLine.Options := { test := true, inventory := some "/hosts" }

/-- A site whose bundle ships a template for the inventory, an empty one, and whose deployment fails. -/
def attendedSite : Surroundings where
  payload := ⟨.pack [.file (.ofText "automation/templates/defaultInventory.j2") []], [], [], ⟨["site.yaml"]⟩,
    ⟨"", "", "", ""⟩, "", false, false⟩
  host := ⟨.ofText "/home", .ofText "/id", none, false⟩
  launcher := Launcher.scripted [.success, .success, .failure 4]
  now := ⟨0, 0⟩

/-- No inventory is named and no stage is left out. -/
def attendedOptions : CommandLine.Options := { test := true, tags := some "web" }

def attendedConfiguration : Configuration := attendedOptions.configuration (.stages true true true)

def attendedWorkspace : Path := .ofText "/tmp/gascan-0"

/-- What stands in its workspace when the first child is started. -/
def attended : Prepared where
  workspace := attendedWorkspace
  runner := ⟨attendedWorkspace.joinText runnerName, attendedWorkspace.joinText shippedConfigName⟩
  runnerConfig := none
  inventory := ⟨(attendedWorkspace.joinText Inventory.synthesizedName).display,
    some (attendedWorkspace.joinText Inventory.synthesizedName),
    Inventory.warning? "" (attendedWorkspace.joinText Inventory.synthesizedName).display⟩

theorem archive_attendedSite : attendedSite.payload.bundle.archive =
    ⟨[⟨.file, .ofText "automation/templates/defaultInventory.j2", none, 0, [], false⟩], false⟩ :=
  Tar.Archive.read_encodeArchive (by decide) (by decide +kernel)

/-- What the first half of a run comes to at the attended site. Each step is evaluated on the disk that the one before
it leaves. -/
theorem openPrepared_attendedSite :
    ((openPrepared attendedSite attendedConfiguration).runOn siteWorld).1 = .ok (⟨attendedWorkspace⟩, attended) := by
  -- one disk for each of the steps that write: the workspace, the template, the runner and the inventory
  let below := fun names : List String => [Text.encode "tmp", Text.encode "gascan-0"] ++ names.map Text.encode
  let d₀ := siteWorld.disk.set (below []) (.directory 0o755)
  let d₁ := (d₀.set (below ["templates"]) (.directory 0o750)).set (below ["templates", "defaultInventory.j2"])
    (.file 0o640 [])
  let d₂ := d₁.set (below ["ansible.pex"]) (.file 0o550 [])
  let d₃ := d₂.set (below ["temp-inventory.yaml"]) (.file 0o640 (Text.encode "\n"))
  let w₀ : World := { siteWorld with disk := d₀, drawn := 1 }
  have hbase : runFrom (Action.makeDirectoryTree (.ofText "/tmp") 0o777) siteWorld.disk = (.ok (), siteWorld.disk) := by
    decide +kernel
  have hopen : runFrom (Workspace.openIn none) siteWorld = (.ok ⟨attendedWorkspace⟩, w₀) :=
    Workspace.openIn_eq_ok_of_make hbase (by decide +kernel)
  have hclass : Bundle.classify (.ofText "automation/templates/defaultInventory.j2") none false =
      .place ⟨.ofText "templates/defaultInventory.j2", none⟩ := by
    decide +kernel
  have hplace : runFrom (Action.writeFile (attendedWorkspace.join (.ofText "templates/defaultInventory.j2")) []
      Bundle.fileMode) d₀ = (.ok (), d₁) := by
    decide +kernel
  have hmember : runFrom (Bundle.extractMember attendedWorkspace false {}
      ⟨.file, .ofText "automation/templates/defaultInventory.j2", none, 0, [], false⟩) d₀ = (.ok { files := 1 }, d₁) :=
    Bundle.extractMember_file hclass rfl rfl (by decide) hplace
  have hextract : runFrom (attendedSite.payload.bundle.extract attendedWorkspace false) d₀ =
      (.ok { files := 1 }, d₁) := by
    rw [Bundle.extract_eq_foldlM rfl archive_attendedSite, List.foldlM_cons, runFrom_bind_ok hmember, List.foldlM_nil,
      runFrom_pure]
  have hrunner : runFrom (Action.writeFile (attendedWorkspace.joinText runnerName) [] runnerMode) d₁ = (.ok (), d₂) := by
    decide +kernel
  have hconfig : runFrom (prepareConfig attendedWorkspace (.ofText "/home")) d₂ =
      (.ok (attendedWorkspace.joinText shippedConfigName, none), d₂) := by
    decide +kernel
  have htemplate : runFrom (Inventory.Template.ofWorkspace attendedWorkspace) d₂ =
      (.ok ⟨Inventory.Template.bundledName, ""⟩, d₂) := by
    decide +kernel
  have hinventory : runFrom (Action.writeFile (attendedWorkspace.joinText Inventory.synthesizedName)
      (Text.encode "\n") Inventory.synthesizedMode) d₂ = (.ok (), d₃) := by
    decide +kernel
  have hresolve : runFrom (Inventory.resolve "" attendedWorkspace attendedConfiguration
      ⟨Inventory.Template.bundledName, ""⟩) d₂ = (.ok attended.inventory, d₃) :=
    Inventory.resolve_of_writeFile rfl (by decide +kernel) hinventory
  have hprepare : runFrom (prepare attendedSite attendedConfiguration attendedWorkspace) d₀ = (.ok attended, d₃) :=
    runFrom_prepare hextract hrunner hconfig htemplate hresolve rfl
  have hprepared : runFrom (Program.onDisk (prepare attendedSite attendedConfiguration attendedWorkspace)) w₀ =
      (.ok attended, { w₀ with disk := d₃ }) :=
    runFrom_onDisk_eq_ok.mpr ⟨hprepare, rfl⟩
  show (runFrom (Workspace.openIn none >>= _) siteWorld).1 = _
  rw [runFrom_bind_ok hopen, runFrom_bind_ok hprepared]
  rfl

/-- What the children of the attended site are asked to do. -/
def attendedRequests : List Launch.Request :=
  let playbookRun := fun playbook : String =>
    ⟨.ofText "/tmp/gascan-0/ansible.pex",
      ["/tmp/gascan-0/" ++ playbook, "--tags", "web", "--ask-become-pass", "--inventory",
        "/tmp/gascan-0/temp-inventory.yaml"],
      [("PEX_SCRIPT", Text.encode "ansible-playbook"), ("ANSIBLE_CONFIG", Text.encode "/tmp/gascan-0/default.cfg")]⟩
  [⟨.ofText "vi", ["/tmp/gascan-0/temp-inventory.yaml"], []⟩, playbookRun "ping.yaml", playbookRun "site.yaml"]

/-- At the attended site the editor is opened with the inventory that was made, the test playbook is run and then the
selected one, whose exit code is that of the invocation. -/
theorem run_launches_attendedSite :
    (∀ n r d, (attendedSite.launcher n r d).outcome.IsSound) ∧
      ((run attendedSite attendedOptions).runOn siteWorld).2.launches.map Prod.fst = attendedRequests ∧
      ((run attendedSite attendedOptions).runOn siteWorld).1 = .ok 4 := by
  have hsound : ∀ n r d, (attendedSite.launcher n r d).outcome.IsSound := by
    refine isSound_scripted fun o ho => ?_
    revert o
    decide
  have hdecision : (attendedOptions.request attendedSite.host).decision attendedSite.payload.playbooks =
      .ok (.run (.stages true true true)) := by decide +kernel
  obtain ⟨new, hlaunches, -, hsettles⟩ := run_launches attendedSite attendedOptions siteWorld hsound
  rw [hdecision] at hsettles
  have hprepared : ((openPrepared attendedSite (attendedOptions.configuration (.stages true true true))).runOn
      siteWorld).1 = .ok (⟨attendedWorkspace⟩, attended) := openPrepared_attendedSite
  obtain ⟨-, hsettles⟩ := hsettles
  rw [hprepared] at hsettles
  obtain ⟨-, htrace⟩ := hsettles
  have hstarted : new.map Prod.fst = attendedRequests := by
    refine (htrace.started fun k r d hk => ?_).trans (by decide +kernel)
    -- the script has a success for each of the first two
    match k, hk with
    | 0, _ => rfl
    | 1, _ => rfl
    | k + 2, hk => exact absurd hk (by simp)
  have hlength : new.length = 3 := by simpa [attendedRequests] using congrArg List.length hstarted
  obtain ⟨first, second, third, rfl⟩ := List.length_eq_three.mp hlength
  obtain ⟨child, hchild, hresult⟩ := htrace.failed (.failure 4) rfl rfl
  cases hchild
  exact ⟨hsound, by rw [hlaunches]; exact hstarted, hresult⟩

end Bootstrap.Invocation
