import Bootstrap.Invocation.Recovery
import Bootstrap.Proofs.Invocation.Trace
import Bootstrap.Proofs.Shell.Words
import Bootstrap.Proofs.Text.Encoding

/-!
# Recovery lines repeat what was run

The lines that an operator is told behind a failed run and the children that the stages start are built in two places: the
lines as text that is quoted for a shell, the children as lists of arguments. `Prepared.recoveryRecipe_repeats` says that
pasting a line starts the child again: the shell sets the two variables of the runner and starts the same program with the
same arguments.

The program is a path from the root. That is what keeps the shell from taking its word for a third assignment.
-/

namespace Bootstrap.Shell

/-! ## Assignments in front of a command -/

/-- The characters of an assignment as they are read. -/
def assignmentGlyphs (name value : String) : List Glyph := (name.toList ++ ['=']).map (⟨·, true⟩) ++ glyphs value.toList

/-- The characters of a name stand for themselves. -/
theorem isInert_of_isNameChar {c : Char} (h : isNameChar c = true) : isInert c = true := by
  rcases Bool.or_eq_true_iff.mp h with halnum | hscore
  · simp [isInert, halnum]
  · rw [beq_iff_eq.mp hscore]
    decide

/-- All characters of a name are such characters. The first one may not be a digit, which does not matter here. -/
theorem isNameChar_of_isName {cs : List Char} (h : isName cs = true) : ∀ c ∈ cs, isNameChar c = true := by
  cases cs with
  | nil => cases h
  | cons c cs =>
      obtain ⟨hstart, hall⟩ := Bool.and_eq_true_iff.mp h
      have hfirst : isNameChar c = true := by
        rcases Bool.or_eq_true_iff.mp hstart with halpha | hscore
        · simp [isNameChar, Char.isAlphanum, halpha]
        · simp [isNameChar, hscore]
      intro c' hc'
      rcases List.mem_cons.mp hc' with rfl | hc'
      · exact hfirst
      · exact List.all_eq_true.mp hall c' hc'

/-- A name, an equals sign and a word are read as an assignment of this word. The name has to be unquoted, which is why
the glyphs carry whether they are. -/
theorem assignment?_assignmentGlyphs {name : String} (value : String) (h : isName name.toList = true) :
    assignment? (assignmentGlyphs name value) = some (name, value) := by
  have hchars := isNameChar_of_isName h
  -- the name is what can be taken from the start, up to the equals sign
  have hname : (assignmentGlyphs name value).takeWhile (fun g => g.bare && isNameChar g.char) =
      name.toList.map (⟨·, true⟩) := by
    have hpos : ∀ g ∈ name.toList.map (⟨·, true⟩ : Char → Glyph), (g.bare && isNameChar g.char) = true := by
      intro g hg
      obtain ⟨c, hc, rfl⟩ := List.mem_map.mp hg
      exact hchars c hc
    have hsign : isNameChar '=' = false := by decide
    rw [assignmentGlyphs, List.map_append, List.append_assoc, List.takeWhile_append_of_pos hpos, List.map_singleton,
      List.singleton_append, List.takeWhile_cons_of_neg (by simp [hsign]), List.append_nil]
  -- and the value is what stands behind the sign
  have hrest : (assignmentGlyphs name value).drop (name.toList.map (⟨·, true⟩ : Char → Glyph)).length =
      ⟨'=', true⟩ :: glyphs value.toList := by
    rw [assignmentGlyphs, List.map_append, List.append_assoc, List.drop_left]
    rfl
  have htext : (name.toList.map (⟨·, true⟩ : Char → Glyph)).map Glyph.char = name.toList := by
    rw [List.map_map, show (Glyph.char ∘ fun c => ⟨c, true⟩) = id from rfl, List.map_id]
  have hnameText : Glyph.text (name.toList.map (⟨·, true⟩ : Char → Glyph)) = name := by
    rw [Glyph.text, htext, String.ofList_toList]
  have hvalueText : Glyph.text (glyphs value.toList) = value := by rw [text_glyphs, String.ofList_toList]
  simp only [assignment?, hname, hrest, htext, h, if_true, hnameText, hvalueText]

/-- An assignment is read as a word of its own, with the name as it stands and the value as it was before it was
quoted. -/
theorem wordsFrom_assignment {name : String} (value : String) (h : isName name.toList = true) (rest : List Char) :
    wordsFrom isGap .bare none ((name ++ "=" ++ quote value).toList ++ ' ' :: rest) =
      (wordsFrom isGap .bare none rest).map (assignmentGlyphs name value :: ·) := by
  -- name and equals sign are read as they stand, and the value is one quoted word
  have hinert : ∀ c ∈ name.toList ++ ['='], isInert c = true := by
    intro c hc
    rcases List.mem_append.mp hc with hc | hc
    · exact isInert_of_isNameChar (isNameChar_of_isName h c hc)
    · rw [List.mem_singleton.mp hc]
      decide
  have hline : (name ++ "=" ++ quote value).toList ++ ' ' :: rest =
      (name.toList ++ ['=']) ++ (quoteChars value.toList ++ ' ' :: rest) := by
    simp only [String.toList_append, quote, String.toList_ofList, List.append_assoc]
    rfl
  rw [hline, wordsFrom_inert isSeparator_isGap hinert (by simp), wordsFrom_quoteChars isSeparator_isGap,
    wordsFrom_blank isSeparator_isGap]
  simp [assignmentGlyphs]

theorem assignment?_of_slash {s : String} (h : s.toList.head? = some '/') : assignment? (glyphs s.toList) = none := by
  obtain ⟨cs, hcs⟩ := List.head?_eq_some_iff.mp h
  have hslash : isNameChar '/' = false := by decide
  simp [assignment?, hcs, glyphs, hslash]

namespace SimpleCommand

/-- A line of assignments and a program by its path from the root is the command that it looks like: the path starts
with a slash, so it cannot be taken for one more assignment. -/
theorem read?_assignments {a b : String} (x y : String) {program : String} (arguments : List String)
    (ha : isName a.toList = true) (hb : isName b.toList = true) (hprogram : program.toList.head? = some '/') :
    read? (a ++ "=" ++ quote x ++ " " ++ (b ++ "=" ++ quote y) ++ " " ++ join (program :: arguments)) =
      some ⟨[(a, x), (b, y)], program :: arguments⟩ := by
  have hline : (a ++ "=" ++ quote x ++ " " ++ (b ++ "=" ++ quote y) ++ " " ++ join (program :: arguments)).toList =
      (a ++ "=" ++ quote x).toList ++ ' ' :: ((b ++ "=" ++ quote y).toList ++ ' ' :: (join (program :: arguments)).toList) := by
    simp [String.toList_append]
  have hwords := wordsFrom_join isSeparator_isGap (program :: arguments)
  have htexts : (arguments.map fun word => glyphs word.toList).map Glyph.text = arguments := by
    rw [List.map_map]
    refine List.map_id'' (fun word => ?_) arguments
    rw [Function.comp, text_glyphs, String.ofList_toList]
  rw [read?, hline, wordsFrom_assignment x ha, wordsFrom_assignment y hb, hwords]
  simp [ofWords, assignment?_assignmentGlyphs, ha, hb, assignment?_of_slash hprogram, htexts, text_glyphs]

end SimpleCommand

end Bootstrap.Shell

namespace Bootstrap.Invocation

open Effect
open Launch (Launcher)

/-! ## Sessions -/

/-- A session in a workspace: the runner stands in the workspace, and so does its configuration. -/
structure Prepared.IsIn (p : Prepared) (workspace : String) : Prop where
  absolute : (Path.ofText workspace).isAbsolute = true
  workspace : p.workspace = .ofText workspace
  executable : p.runner.executable = p.workspace.joinText runnerName
  config : p.runner.config = p.workspace.joinText shippedConfigName ∨
    p.runner.config = p.workspace.joinText absoluteConfigName

/-- What the preparation of a workspace gives is a session in it, so the results about sessions hold of every run. -/
theorem isIn_of_prepare {surroundings : Surroundings} {config : Configuration} {workspace : String} {p : Prepared}
    {d d' : Disk} (habsolute : (Path.ofText workspace).isAbsolute = true)
    (h : runFrom (prepare surroundings config (.ofText workspace)) d = (.ok p, d')) : p.IsIn workspace := by
  have hstands := standsIn_of_prepare h
  refine ⟨habsolute, hstands.place, hstands.place ▸ hstands.executable, ?_⟩
  rw [hstands.place, hstands.config]
  split
  · exact .inr rfl
  · exact .inl rfl

/-- The runner of a session has a path from the root, and it is text like all other paths of the session. Only text can
be written into a line for the operator. -/
theorem Prepared.IsIn.texts {p : Prepared} {workspace : String} (h : p.IsIn workspace) :
    (∃ program, p.runner.executable = .ofText program ∧ program.toList.head? = some '/') ∧
      ∃ config, p.runner.config = .ofText config := by
  have hjoin : ∀ name : String, (Path.ofText name).isAbsolute = false → ∃ between,
      p.workspace.joinText name = .ofText (workspace ++ between ++ name) := by
    intro name hname
    obtain ⟨between, -, -, heq⟩ := Path.exists_joinText_ofText workspace hname
    exact ⟨between, h.workspace ▸ heq⟩
  constructor
  · obtain ⟨between, hexecutable⟩ := hjoin runnerName (by decide)
    refine ⟨_, h.executable.trans hexecutable, ?_⟩
    obtain ⟨rest, hrest⟩ := List.head?_eq_some_iff.mp (Path.head?_of_isAbsolute h.absolute)
    rw [String.toList_append, String.toList_append, hrest]
    rfl
  · rcases h.config with hconfig | hconfig
    · obtain ⟨between, htext⟩ := hjoin shippedConfigName (by decide)
      exact ⟨_, hconfig.trans htext⟩
    · obtain ⟨between, htext⟩ := hjoin absoluteConfigName (by decide)
      exact ⟨_, hconfig.trans htext⟩

/-! ## Lines and children -/

/-- Pasting a line starts the child of a request: the shell sets the variables of the runner for the program and nothing
else, and it starts the same program with the same arguments and the same variables. -/
def Repeats (line : String) (r : Launch.Request) : Prop :=
  ∃ command started, Shell.SimpleCommand.read? line = some command ∧
    command.assignments.map Prod.fst = [Runner.configVariable, Runner.personaVariable] ∧
    command.request? = some started ∧ started.program = r.program ∧ started.arguments = r.arguments ∧
    started.environment.Perm r.environment

/-- The line for a playbook repeats the run of the playbook: the same program, the same words and the same two
variables. -/
theorem Prepared.IsIn.repeats {p : Prepared} {workspace : String} (h : p.IsIn workspace) (host : Host)
    (config : Configuration) (playbook : String) :
    Repeats (p.recoveryCommand host config playbook) (p.playbookRequest host config playbook) := by
  obtain ⟨⟨program, hprogram, hslash⟩, configText, hconfig⟩ := h.texts
  set arguments := (p.workspace.joinText playbook).display :: p.playbookArguments host config with harguments
  have hpersona : Runner.Persona.script .playbook = Shell.quote (Runner.Persona.script .playbook) := by decide +kernel
  have hline : p.recoveryCommand host config playbook =
      Runner.configVariable ++ "=" ++ Shell.quote configText ++ " " ++
        (Runner.personaVariable ++ "=" ++ Shell.quote (Runner.Persona.script .playbook)) ++ " " ++
        Shell.join (program :: arguments) := by
    rw [← hpersona, recoveryCommand, assignment, hconfig, hprogram, Path.display_ofText, Path.display_ofText, harguments]
    simp only [String.append_assoc]
  have hread := Shell.SimpleCommand.read?_assignments configText (Runner.Persona.script .playbook) arguments
    (a := Runner.configVariable) (b := Runner.personaVariable) (by decide) (by decide) hslash
  rw [← hline] at hread
  have hcontains : program.toList.contains '/' = true :=
    List.contains_iff_mem.mpr (List.mem_of_mem_head? hslash)
  set command : Shell.SimpleCommand :=
    ⟨[(Runner.configVariable, configText), (Runner.personaVariable, Runner.Persona.script .playbook)],
      program :: arguments⟩ with hcommand
  have hstarted : command.request? = some ⟨.ofText program, arguments,
      [(Runner.configVariable, Text.encode configText),
        (Runner.personaVariable, Text.encode (Runner.Persona.script .playbook))]⟩ := by
    rw [Shell.SimpleCommand.request?]
    simp only [hcommand, hcontains, if_true, List.map_cons, List.map_nil]
  -- the request names the tool first, the line the configuration
  have henvironment : [(Runner.configVariable, Text.encode configText),
      (Runner.personaVariable, Text.encode (Runner.Persona.script .playbook))].Perm
        (p.playbookRequest host config playbook).environment := by
    rw [Prepared.playbookRequest, Runner.Bundled.playbookRequest, Runner.Bundled.request, hconfig]
    exact List.Perm.swap ..
  exact ⟨command, _, hread, rfl, hstarted, hprogram.symm, rfl, henvironment⟩

/-- **The recovery recipe repeats what the session runs.** The test stage and the deploy stage of a session start one child
each, and the recipe has one line for each of them: pasting the line starts that child again. -/
theorem Prepared.recoveryRecipe_repeats (surroundings : Surroundings) (config : Configuration) (p : Prepared)
    (workspace : String) (h : p.IsIn workspace) :
    ∃ test deploy : Launch.Request, ∃ pingLine deployLine : String,
      Runs surroundings.launcher config.editor (runStages surroundings config p)
        (editorChildren config p ++
          ((if config.mode.contains (.stage .test) then [.runner test] else []) ++
            (if config.mode.contains (.stage .deploy) then [.runner deploy] else []))) ∧
      p.recoveryRecipe surroundings.host config =
        "Your workspace has been left in place: " ++ workspace ++ "\nRun ping test: " ++ pingLine ++
          "\nRun deploy: " ++ deployLine ∧
      Repeats pingLine test ∧ Repeats deployLine deploy := by
  refine ⟨_, _, _, _, runs_runStages surroundings config p, ?_, h.repeats _ _ testPlaybookName,
    h.repeats _ _ config.playbook⟩
  rw [recoveryRecipe, h.workspace, Path.display_ofText]
  simp only [String.intercalate_cons_cons, String.intercalate_singleton, String.append_assoc]
  rfl

/-- A session whose texts ask for quotes: in the path of the workspace, in an inventory and in an argument. -/
def quotedSession : Prepared where
  workspace := .ofText "/w s"
  runner := ⟨(Path.ofText "/w s").joinText runnerName, (Path.ofText "/w s").joinText shippedConfigName⟩
  runnerConfig := none
  inventory := ⟨"/it's", none, none⟩

def quotedConfiguration : Configuration := { extraArguments := ["$HOME\n", "A=b"], mode := .stages false true true }

/-- A workspace whose path contains a blank, and arguments with a line end and an equals sign: both lines are read back
as the requests that were sent, words and all. -/
theorem recoveryRecipe_repeats_quotedSession :
    quotedSession.IsIn "/w s" ∧ ∃ test deploy : Launch.Request, ∃ pingLine deployLine : String,
      Runs failingSite.launcher "vi" (runStages failingSite quotedConfiguration quotedSession)
        [.runner test, .runner deploy] ∧
      quotedSession.recoveryRecipe failingSite.host quotedConfiguration =
        "Your workspace has been left in place: " ++ "/w s" ++ "\nRun ping test: " ++ pingLine ++
          "\nRun deploy: " ++ deployLine ∧
      Repeats pingLine test ∧ Repeats deployLine deploy := by
  have hsession : quotedSession.IsIn "/w s" := ⟨by decide, rfl, rfl, .inl rfl⟩
  exact ⟨hsession, Prepared.recoveryRecipe_repeats failingSite quotedConfiguration quotedSession "/w s" hsession⟩

example : quotedSession.recoveryCommand failingSite.host quotedConfiguration "ping.yaml" =
    "ANSIBLE_CONFIG='/w s/default.cfg' PEX_SCRIPT=ansible-playbook '/w s/ansible.pex' '/w s/ping.yaml' " ++
      "--ask-become-pass --inventory '/it'\"'\"'s' '$HOME\n' A=b" := by decide +kernel

end Bootstrap.Invocation
