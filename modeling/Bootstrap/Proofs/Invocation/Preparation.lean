import Bootstrap.Invocation.Run
import Bootstrap.Proofs.Host.Additions

/-!
# Before and behind the preparation

A run in a workspace has two halves: a workspace is opened and prepared, and then something is done in it. The first
half, `openPrepared`, depends on no child, and the second one, `proceed`, starts from a world in which the first one
succeeded. How the second half ends is decided by one outcome: `runFrom_finish`.
-/

namespace Bootstrap.Invocation

open Effect

/-! ## The decision -/

theorem run_of_decision {surroundings : Surroundings} {options : CommandLine.Options} {mode : Mode}
    (h : (options.request surroundings.host).decision surroundings.payload.playbooks = .ok (.run mode)) :
    run surroundings options = runInWorkspace surroundings (options.configuration mode) := by
  rw [run, h]

/-- A request that is refused ends the run before anything is done. -/
theorem run_of_error {surroundings : Surroundings} {options : CommandLine.Options} {f : Failure}
    (h : (options.request surroundings.host).decision surroundings.payload.playbooks = .error f) :
    run surroundings options = throw f := by
  rw [run, h]

/-- An invocation that decides not to run prints at most, and reads the identity of the machine. So it keeps whatever
printing and reading keep. -/
theorem keeps_run_of_no_mode {J : World → Prop} {surroundings : Surroundings} {options : CommandLine.Options}
    (h : ∀ mode, (options.request surroundings.host).decision surroundings.payload.playbooks ≠ .ok (.run mode))
    (hprint : ∀ line, Keeps J (Program.print line))
    (hhash : ∀ label, Keeps J (Program.onDisk (Host.machineHash surroundings.host.machineId label surroundings.now))) :
    Keeps J (run surroundings options) := by
  unfold run
  cases hdecision : (options.request surroundings.host).decision surroundings.payload.playbooks with
  | error f => exact .throw f
  | ok decision =>
      cases decision with
      | showVersion => exact (hprint _).bind fun _ => .pure _
      | listPlaybooks => exact (hprint _).bind fun _ => .pure _
      | generateHash =>
          exact (((hhash _).programDuring _).bind fun hash => hprint _).bind fun _ => .pure _
      | run mode => exact absurd hdecision (h mode)

/-! ## The two halves -/

/-- The first half of a run: a workspace, and what the preparation made of it. -/
def openPrepared (surroundings : Surroundings) (config : Configuration) : Program (Workspace × Prepared) := do
  let workspace ← Workspace.openIn config.extractPath
  let p ← Program.onDisk (prepare surroundings config workspace.path)
  return (workspace, p)

/-- The second half of a run. -/
def proceed (surroundings : Surroundings) (config : Configuration) (workspace : Workspace) (p : Prepared) :
    Program Int := do
  let outcome ← act surroundings config p
  finish surroundings.host config workspace p outcome

/-- A run in a workspace has two halves. In the first one nothing is started, and the second one cannot be reached
without what the first one prepared. -/
theorem runInWorkspace_eq (surroundings : Surroundings) (config : Configuration) :
    runInWorkspace surroundings config =
      openPrepared surroundings config >>= fun (workspace, p) => proceed surroundings config workspace p := by
  simp only [runInWorkspace, openPrepared, proceed, bind_assoc, pure_bind]

/-- What is done in a workspace, mode by mode: the stages, one call of a tool, or an install. Everything that is proved
of a run by its mode goes through this. -/
theorem act_eq (surroundings : Surroundings) (config : Configuration) (p : Prepared) :
    act surroundings config p =
      match config.mode with
      | .stages _ _ _ => runStages surroundings config p
      | .branch .inventoryQuery => Program.launch surroundings.launcher (queryRequest config p)
      | .branch .adhoc => Program.launch surroundings.launcher (adhocRequest config p)
      | .branch .extract => installHost surroundings config p >>= fun _ => pure .success := by
  unfold act
  cases config.mode with
  | stages configure test deploy => rfl
  | branch b => cases b <;> rfl

/-- A child is started on the disk as it is, and recorded. -/
theorem runFrom_launch (launcher : Launch.Launcher) (r : Launch.Request) (w : World) :
    runFrom (Program.launch launcher r) w =
      (.ok (launcher w.launches.length r w.disk).outcome,
        { w with
          disk := (launcher w.launches.length r w.disk).disk
          printed := w.printed ++ (launcher w.launches.length r w.disk).printed
          launches := w.launches ++ [(r, w.disk)] }) := rfl

/-- The exit code of an invocation whose last child ended like this. -/
def exitCode (o : Launch.Outcome) : Int := if o.succeeded then 0 else o.exitCode

theorem exitCode_of_failed {o : Launch.Outcome} (h : o.succeeded = false) : exitCode o = o.exitCode := by
  rw [exitCode, h]
  rfl

/-- The exit code is that of the child, if what the launcher tells about it is sound. -/
theorem exitCode_of_isSound {o : Launch.Outcome} (h : o.IsSound) : exitCode o = o.exitCode := by
  unfold exitCode
  split
  · next hok => exact (h.mp hok).symm
  · rfl

/-- Whatever becomes of the workspace, the run goes on. A removal that fails leaves behind what it leaves behind. -/
theorem runFrom_finalize (workspace : Workspace) (remove : Bool) (w : World) :
    ∃ fate, runFrom (workspace.finalize remove) w =
      (.ok fate, { w with disk := if remove then (w.disk.removeTree workspace.path).2 else w.disk }) := by
  cases remove with
  | false => exact ⟨_, rfl⟩
  | true => exact ⟨_, rfl⟩

/-- To finish cannot fail. It gives the exit code, and behind a success it removes the workspace unless the mode leaves
it to the operator. -/
theorem runFrom_finish (host : Host) (config : Configuration) (workspace : Workspace) (p : Prepared)
    (o : Launch.Outcome) (w : World) :
    ∃ printed, runFrom (finish host config workspace p o) w =
      (.ok (exitCode o),
        { w with
          disk := if o.succeeded && config.mode.removesWorkspace then (w.disk.removeTree workspace.path).2 else w.disk
          printed := printed }) := by
  unfold finish exitCode
  cases o.succeeded with
  | false => exact ⟨_, rfl⟩
  | true =>
      obtain ⟨fate, hfate⟩ := runFrom_finalize workspace config.mode.removesWorkspace w
      rw [if_pos rfl, runFrom_bind_ok hfate]
      split
      · exact ⟨_, rfl⟩
      · exact ⟨_, rfl⟩

/-- The second half fails where the mode's own part fails, and otherwise gives the exit code of its outcome. What
happens to the workspace in between has no influence on this. -/
theorem runFrom_proceed (surroundings : Surroundings) (config : Configuration) (workspace : Workspace) (p : Prepared)
    (w : World) :
    ∃ printed, runFrom (proceed surroundings config workspace p) w =
      match runFrom (act surroundings config p) w with
      | (.error f, w') => (.error f, w')
      | (.ok o, w') =>
        (.ok (exitCode o),
          { w' with
            disk :=
              if o.succeeded && config.mode.removesWorkspace then (w'.disk.removeTree workspace.path).2 else w'.disk
            printed := printed }) := by
  unfold proceed
  rcases hact : runFrom (act surroundings config p) w with ⟨f | o, w'⟩
  · exact ⟨"", runFrom_bind_error hact _⟩
  · obtain ⟨printed, hfinish⟩ := runFrom_finish surroundings.host config workspace p o w'
    exact ⟨printed, (runFrom_bind_ok hact _).trans hfinish⟩

/-- Removing the workspace and telling how to go on do not change the result. -/
theorem proceed_result (surroundings : Surroundings) (config : Configuration) (workspace : Workspace) (p : Prepared)
    (w : World) :
    (runFrom (proceed surroundings config workspace p) w).1 =
      (runFrom (act surroundings config p) w).1.map exitCode := by
  obtain ⟨printed, hproceed⟩ := runFrom_proceed surroundings config workspace p w
  rw [hproceed]
  rcases runFrom (act surroundings config p) w with ⟨f | o, w'⟩
  · rfl
  · rfl

/-- Removing the workspace and telling how to go on start no child, so the launches are those of the mode's own part. -/
theorem proceed_launches (surroundings : Surroundings) (config : Configuration) (workspace : Workspace) (p : Prepared)
    (w : World) :
    (runFrom (proceed surroundings config workspace p) w).2.launches =
      (runFrom (act surroundings config p) w).2.launches := by
  obtain ⟨printed, hproceed⟩ := runFrom_proceed surroundings config workspace p w
  rw [hproceed]
  rcases runFrom (act surroundings config p) w with ⟨f | o, w'⟩
  · rfl
  · rfl

end Bootstrap.Invocation
