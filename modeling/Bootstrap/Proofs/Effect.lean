import Bootstrap.Program

/-!
# Effects on a state

`Action` (on a disk) and `Program` (on a world) are one construction: an effect on a state that may fail, and that
leaves a state also when it fails.

* `Effect.runFrom` — how an effect ends and which state it leaves, with one equation for each way of building one.
* `Effect.Keeps` — an invariant of the state that holds before an effect holds after it, *be it that the effect fails*.
  Each building block keeps what its parts keep, so what a long effect keeps is read off its text.
* `Effect.EndsIn` — an invariant that an effect keeps if it succeeds, and what holds in its place if it fails.
* `Effect.Raises` — what is true of every failure of an effect. It is read off the text of the effect as well.
* `Effect.Mirrors` — where one effect succeeds, another one succeeds on related states and leaves related states.
-/

namespace Bootstrap

/-- What `Action` and `Program` have in common. -/
abbrev Effect (σ α : Type) := ExceptT Failure (StateM σ) α

namespace Effect

variable {σ α β : Type}

/-- How an effect ends on a state, and the state it leaves. -/
def runFrom (x : Effect σ α) (s : σ) : Except Failure α × σ := x.run.run s

/-- What a caller sees of an action is `runFrom` of it. The theorems about whole actions are stated with `runOn`, and
everything below is stated with `runFrom`, so this is the first rewriting step of most proofs. -/
theorem runOn_eq (x : Action α) (d : Disk) : x.runOn d = runFrom x d := rfl

theorem program_runOn_eq (x : Program α) (w : World) : x.runOn w = runFrom x w := rfl

/-! ## Equations -/

@[simp] theorem runFrom_pure (a : α) (s : σ) : runFrom (pure a) s = (.ok a, s) := rfl

@[simp] theorem runFrom_throw (f : Failure) (s : σ) : runFrom (throw f : Effect σ α) s = (.error f, s) := rfl

@[simp] theorem runFrom_set (s s' : σ) : runFrom (set s' : Effect σ PUnit) s = (.ok ⟨⟩, s') := rfl

/-- What is read is the state itself, so a reader goes on from it. -/
@[simp] theorem runFrom_get_bind (f : σ → Effect σ β) (s : σ) : runFrom (get >>= f) s = runFrom (f s) s := rfl

/-- One action behind another: the second starts where the first ended, and does not start at all if the first failed.
`runFrom_bind_ok` and `runFrom_bind_error` are the two cases. -/
theorem runFrom_bind (x : Effect σ α) (f : α → Effect σ β) (s : σ) :
    runFrom (x >>= f) s =
      match runFrom x s with
      | (.ok a, s') => runFrom (f a) s'
      | (.error e, s') => (.error e, s') := by
  show (match x.run.run s with | (r, s') => (ExceptT.bindCont f r).run s') = _
  unfold runFrom
  rcases x.run.run s with ⟨r | r, s'⟩ <;> rfl

theorem runFrom_bind_ok {x : Effect σ α} {s s' : σ} {a : α} (h : runFrom x s = (.ok a, s'))
    (f : α → Effect σ β) : runFrom (x >>= f) s = runFrom (f a) s' := by
  rw [runFrom_bind, h]

/-- Behind an effect that fails, nothing happens any more. -/
theorem runFrom_bind_error {x : Effect σ α} {s s' : σ} {e : Failure} (h : runFrom x s = (.error e, s'))
    (f : α → Effect σ β) : runFrom (x >>= f) s = (.error e, s') := by
  rw [runFrom_bind, h]

/-- A handler starts where the action failed; nothing is rolled back. -/
theorem runFrom_tryCatch (x : Effect σ α) (handler : Failure → Effect σ α) (s : σ) :
    runFrom (tryCatch x handler) s =
      match runFrom x s with
      | (.ok a, s') => (.ok a, s')
      | (.error e, s') => runFrom (handler e) s' := by
  unfold runFrom
  rw [ExceptT.run_tryCatch, StateT.run_bind]
  rcases x.run.run s with ⟨r | r, s'⟩ <;> rfl

/-- Naming the interrupted activity changes the failure and nothing else. -/
theorem runFrom_during (a : Activity) (x : Action α) (d : Disk) :
    runFrom (Action.during a x) d = ((runFrom x d).1.mapError (Failure.within a), (runFrom x d).2) := by
  rw [Action.during, runFrom_tryCatch]
  rcases runFrom x d with ⟨r | r, d'⟩ <;> rfl

/-- An activity of a program only adds to what is said of a failure, as for an action: `runFrom_during`. -/
theorem runFrom_program_during (a : Activity) (x : Program α) (w : World) :
    runFrom (Program.during a x) w = ((runFrom x w).1.mapError (Failure.within a), (runFrom x w).2) := by
  rw [Program.during, runFrom_tryCatch]
  rcases runFrom x w with ⟨r | r, w'⟩ <;> rfl

/-- A question leaves the disk alone, whatever the answer. -/
theorem runFrom_ask (question : Disk → Except Cause α) (d : Disk) :
    runFrom (Action.ask question) d = ((question d).mapError Failure.of, d) := by
  simp only [Action.ask, runFrom_get_bind]
  cases question d <;> rfl

/-- A change of the disk either happens as a whole or leaves the disk as it was. -/
theorem runFrom_change (step : Disk → Except Cause Disk) (d : Disk) :
    runFrom (Action.change step) d =
      match step d with
      | .ok d' => (.ok (), d')
      | .error c => (.error (.of c), d) := by
  simp only [Action.change, runFrom_get_bind]
  cases step d <;> rfl

/-- An action on the disk of a world touches nothing else of it. -/
theorem runFrom_onDisk (x : Action α) (w : World) :
    runFrom (Program.onDisk x) w = ((runFrom x w.disk).1, { w with disk := (runFrom x w.disk).2 }) := by
  simp only [Program.onDisk, runFrom_get_bind, runOn_eq]
  rcases runFrom x w.disk with ⟨r | r, d⟩ <;> rfl

/-- Actions in a row are taken one by one. -/
theorem onDisk_bind (x : Action α) (f : α → Action β) :
    Program.onDisk (x >>= f) = Program.onDisk x >>= fun a => Program.onDisk (f a) := by
  refine funext fun w => ?_
  show runFrom (Program.onDisk (x >>= f)) w = runFrom (Program.onDisk x >>= fun a => Program.onDisk (f a)) w
  rw [runFrom_onDisk, runFrom_bind, runFrom_bind, runFrom_onDisk]
  rcases runFrom x w.disk with ⟨e | a, d⟩
  · rfl
  · exact (runFrom_onDisk (f a) { w with disk := d }).symm

/-- A question to the disk of a world is answered, and nothing else happens. -/
@[simp] theorem runFrom_look_bind (question : Disk → α) (f : α → Program β) (w : World) :
    runFrom (Program.look question >>= f) w = runFrom (f (question w.disk)) w := rfl

/-! ## Effects that succeed -/

/-- What succeeds went through a first part that succeeded. Runs are taken apart with this lemma, one step at a time. -/
theorem exists_of_runFrom_bind {x : Effect σ α} {f : α → Effect σ β} {s s'' : σ} {b : β}
    (h : runFrom (x >>= f) s = (.ok b, s'')) :
    ∃ a s', runFrom x s = (.ok a, s') ∧ runFrom (f a) s' = (.ok b, s'') := by
  rw [runFrom_bind] at h
  rcases hx : runFrom x s with ⟨e | a, s'⟩
  · rw [hx] at h
    cases h
  · rw [hx] at h
    exact ⟨a, s', rfl, h⟩

/-- Steps in a row fail at one of them: the ones before it succeed, and the ones behind it are not taken. Induction on
the list, with the state in front of each step. -/
theorem runFrom_foldlM_eq_error {step : β → α → Effect σ β} {xs : List α} {b : β} {s s' : σ} {f : Failure} :
    runFrom (xs.foldlM step b) s = (.error f, s') ↔
      ∃ before x after b₁ s₁, xs = before ++ x :: after ∧ runFrom (before.foldlM step b) s = (.ok b₁, s₁) ∧
        runFrom (step b₁ x) s₁ = (.error f, s') := by
  constructor
  · intro h
    induction xs generalizing b s with
    | nil => cases h
    | cons x xs ih =>
        rw [List.foldlM_cons, runFrom_bind] at h
        rcases hstep : runFrom (step b x) s with ⟨e | b₁, s₁⟩
        · -- this step fails, or a later one does
          rw [hstep] at h
          cases h
          exact ⟨[], x, xs, b, s, rfl, rfl, hstep⟩
        · rw [hstep] at h
          obtain ⟨before, y, after, b₂, s₂, rfl, hbefore, hfails⟩ := ih h
          refine ⟨x :: before, y, after, b₂, s₂, rfl, ?_, hfails⟩
          rw [List.foldlM_cons, runFrom_bind_ok hstep]
          exact hbefore
  · rintro ⟨before, x, after, b₁, s₁, rfl, hbefore, hfails⟩
    -- the steps in front succeed, so the loop comes to the one that fails
    rw [List.foldlM_append, runFrom_bind_ok hbefore, List.foldlM_cons]
    exact runFrom_bind_error hfails _

/-- That it was part of an activity is only seen of an action that fails. -/
theorem runFrom_during_eq_ok {a : Activity} {x : Action α} {d d' : Disk} {b : α} :
    runFrom (Action.during a x) d = (.ok b, d') ↔ runFrom x d = (.ok b, d') := by
  rw [runFrom_during]
  rcases runFrom x d with ⟨e | b', d''⟩
  · constructor <;> intro h <;> cases h
  · exact Iff.rfl

/-- A change succeeds if and only if the disk admits it. -/
theorem runFrom_change_eq_ok {step : Disk → Except Cause Disk} {d d' : Disk} :
    runFrom (Action.change step) d = (.ok (), d') ↔ step d = .ok d' := by
  rw [runFrom_change]
  cases step d with
  | ok d'' => constructor <;> intro h <;> cases h <;> rfl
  | error c => constructor <;> intro h <;> cases h

/-- A question that is answered gives the answer of the disk it is put to. The two conjuncts are what a caller needs of
it: the answer, and that the disk is the same. -/
theorem runFrom_ask_eq_ok {question : Disk → Except Cause α} {d d' : Disk} {a : α} :
    runFrom (Action.ask question) d = (.ok a, d') ↔ question d = .ok a ∧ d' = d := by
  rw [runFrom_ask]
  cases question d with
  | ok b =>
      constructor
      · intro h
        cases h
        exact ⟨rfl, rfl⟩
      · rintro ⟨⟨⟩, rfl⟩
        rfl
  | error c =>
      constructor
      · intro h
        cases h
      · rintro ⟨⟨⟩, -⟩

/-- A program that is an action on the disk succeeds where the action does, and changes nothing but the disk. -/
theorem runFrom_onDisk_eq_ok {x : Action α} {w w' : World} {a : α} :
    runFrom (Program.onDisk x) w = (.ok a, w') ↔
      runFrom x w.disk = (.ok a, w'.disk) ∧ w' = { w with disk := w'.disk } := by
  rw [runFrom_onDisk]
  constructor
  · intro h
    obtain ⟨hresult, rfl⟩ := Prod.mk.inj h
    exact ⟨Prod.ext hresult rfl, rfl⟩
  · rintro ⟨hrun, hw⟩
    rw [hrun, ← hw]

/-! ## Invariants -/

/-- If `I` holds before `x`, it holds after `x`, with or without success. -/
def Keeps (I : σ → Prop) (x : Effect σ α) : Prop := ∀ s, I s → I (runFrom x s).2

namespace Keeps

variable {I : σ → Prop}

/-- The form in which an invariant is used: of a run that is given by its result. -/
theorem of_runFrom {x : Effect σ α} {s s' : σ} {result : Except Failure α} (hx : Keeps I x)
    (hrun : runFrom x s = (result, s')) (hs : I s) : I s' := by
  simpa [hrun] using hx s hs

theorem pure (a : α) : Keeps I (pure a) := fun _ hs => hs

theorem throw (f : Failure) : Keeps I (throw f : Effect σ α) := fun _ hs => hs

/-- One run is enough: what leaves the invariant true goes on from a state in which it is true. -/
theorem runFrom_bind {x : Effect σ α} {f : α → Effect σ β} {s : σ} (hf : ∀ a, Keeps I (f a))
    (hx : I (runFrom x s).2) : I (runFrom (x >>= f) s).2 := by
  rw [Effect.runFrom_bind]
  rcases h : runFrom x s with ⟨e | a, s'⟩
  · simpa [h] using hx
  · exact hf a s' (by simpa [h] using hx)

/-- An invariant of two parts is one of both in a row. A part that fails ends the run where the invariant still
holds. -/
theorem bind {x : Effect σ α} {f : α → Effect σ β} (hx : Keeps I x) (hf : ∀ a, Keeps I (f a)) :
    Keeps I (x >>= f) := fun s hs => runFrom_bind hf (hx s hs)

/-- What follows a reader may depend on the state that was read, and that state satisfies the invariant. -/
theorem get_bind {f : σ → Effect σ β} (hf : ∀ s, I s → I (runFrom (f s) s).2) : Keeps I (get >>= f) := hf

/-- Either arm may be taken. -/
theorem ite {c : Prop} [Decidable c] {x y : Effect σ α} (hx : Keeps I x) (hy : Keeps I y) :
    Keeps I (if c then x else y) := by
  split
  · exact hx
  · exact hy

/-- An invariant of every step is one of the loop, wherever it breaks off. Induction on the list. -/
theorem foldlM {step : β → α → Effect σ β} {xs : List α} (h : ∀ b, ∀ a ∈ xs, Keeps I (step b a)) (b : β) :
    Keeps I (xs.foldlM step b) := by
  induction xs generalizing b with
  | nil => exact .pure b
  | cons a xs ih =>
      rw [List.foldlM_cons]
      exact (h b a (by simp)).bind fun b' => ih (fun b a ha => h b a (by simp [ha])) b'

/-- What one of many steps brings about and all of them keep is there behind the last one. Induction on the list, up to
the step that brings it about. -/
theorem of_runFrom_foldlM {step : β → α → Effect σ β} {xs : List α} (h : ∀ b, ∀ a ∈ xs, Keeps I (step b a)) {a : α}
    (ha : a ∈ xs) (hstep : ∀ b b' s s', runFrom (step b a) s = (.ok b', s') → I s') {b b' : β} {s s' : σ}
    (hrun : runFrom (xs.foldlM step b) s = (.ok b', s')) : I s' := by
  induction xs generalizing b s with
  | nil => cases ha
  | cons x xs ih =>
      have hrest : ∀ b, ∀ a ∈ xs, Keeps I (step b a) := fun b a ha => h b a (List.mem_cons_of_mem _ ha)
      rw [List.foldlM_cons] at hrun
      obtain ⟨b₁, s₁, hfirst, hothers⟩ := exists_of_runFrom_bind hrun
      rcases List.mem_cons.mp ha with rfl | ha
      · -- brought about by the first step, kept by the others
        exact (Keeps.foldlM hrest b₁).of_runFrom hothers (hstep _ _ _ _ hfirst)
      · exact ih hrest ha hothers

end Keeps

variable {I : Disk → Prop}

theorem Keeps.during {x : Action α} (a : Activity) (hx : Keeps I x) : Keeps I (Action.during a x) := by
  intro d hd
  rw [runFrom_during]
  exact hx d hd

/-- Naming an activity keeps what the program keeps. -/
theorem Keeps.programDuring {J : World → Prop} {x : Program α} (a : Activity) (hx : Keeps J x) :
    Keeps J (Program.during a x) := by
  intro w hw
  rw [runFrom_program_during]
  exact hx w hw

theorem Keeps.refuse (r : Refusal) : Keeps I (Action.refuse r : Action α) := fun _ hd => hd

theorem Keeps.ask (question : Disk → Except Cause α) : Keeps I (Action.ask question) := by
  intro d hd
  rw [runFrom_ask]
  exact hd

/-- What an action keeps of the disk, a program keeps that runs it. -/
theorem Keeps.onDisk {x : Action α} (hx : Keeps I x) : Keeps (fun w : World => I w.disk) (Program.onDisk x) := by
  intro w hw
  rw [runFrom_onDisk]
  exact hx w.disk hw

theorem Keeps.look {J : World → Prop} (question : Disk → α) : Keeps J (Program.look question) := fun _ hw => hw

theorem Keeps.print (line : String) : Keeps (fun w : World => I w.disk) (Program.print line) := fun _ hw => hw

/-- A change keeps an invariant if and only if the disks that it may lead to have it. This is where the invariants of
the disk operations enter. -/
theorem keeps_change_iff {step : Disk → Except Cause Disk} :
    Keeps I (Action.change step) ↔ ∀ d d', I d → step d = .ok d' → I d' := by
  constructor
  · intro h d d' hd hstep
    have := h d hd
    rwa [runFrom_change, hstep] at this
  · intro h d hd
    rw [runFrom_change]
    cases hstep : step d with
    | ok d' => exact h d d' hd hstep
    | error c => exact hd

/-! ## Invariants up to a failure

An effect may break an invariant for good when it fails in the middle. What follows a failure is not run, so it is enough that
every part keeps the invariant as long as it succeeds. -/

/-- If `I` holds before `x` and `x` succeeds, `I` holds after it; if `x` fails, `J` holds of the failure and the state. -/
def EndsIn (I : σ → Prop) (J : Failure → σ → Prop) (x : Effect σ α) : Prop :=
  ∀ s, I s → (∀ a s', runFrom x s = (.ok a, s') → I s') ∧ ∀ e s', runFrom x s = (.error e, s') → J e s'

namespace EndsIn

variable {I : σ → Prop} {J : Failure → σ → Prop}

/-- An invariant that survives failures holds also there. -/
theorem of_keeps {x : Effect σ α} (hx : Keeps I x) (hJ : ∀ e s, I s → J e s) : EndsIn I J x := fun _ hs =>
  ⟨fun _ _ hrun => hx.of_runFrom hrun hs, fun _ _ hrun => hJ _ _ (hx.of_runFrom hrun hs)⟩

/-- Of a run that is known to succeed, only the state at its end has to be looked at. -/
theorem of_runFrom_ok {x : Effect σ α} {s s' : σ} {a : α} (hrun : runFrom x s = (.ok a, s')) (hs' : I s') :
    (∀ a s', runFrom x s = (.ok a, s') → I s') ∧ ∀ e s', runFrom x s = (.error e, s') → J e s' := by
  rw [hrun]
  refine ⟨fun a' s₁ heq => ?_, fun e s₁ heq => ?_⟩
  · cases heq
    exact hs'
  · cases heq

/-- The same of a run that is known to fail. -/
theorem of_runFrom_error {x : Effect σ α} {s s' : σ} {e : Failure} (hrun : runFrom x s = (.error e, s')) (hs' : J e s') :
    (∀ a s', runFrom x s = (.ok a, s') → I s') ∧ ∀ e s', runFrom x s = (.error e, s') → J e s' := by
  rw [hrun]
  refine ⟨fun a s₁ heq => ?_, fun e' s₁ heq => ?_⟩
  · cases heq
  · cases heq
    exact hs'

/-- The first part ends with the invariant or has failed already; a failure of it is a failure of both. -/
theorem bind {x : Effect σ α} {f : α → Effect σ β} (hx : EndsIn I J x) (hf : ∀ a, EndsIn I J (f a)) :
    EndsIn I J (x >>= f) := by
  intro s hs
  obtain ⟨hok, herror⟩ := hx s hs
  rcases hfirst : runFrom x s with ⟨e | a, s₁⟩
  · exact of_runFrom_error (runFrom_bind_error hfirst f) (herror _ _ hfirst)
  · rw [runFrom_bind_ok hfirst]
    exact hf a s₁ (hok _ _ hfirst)

/-- The loop: before every step the invariant holds, so it is enough to know of one step how it ends. Induction on the
list. -/
theorem foldlM {step : β → α → Effect σ β} {xs : List α} (hJ : ∀ e s, I s → J e s)
    (h : ∀ b, ∀ a ∈ xs, EndsIn I J (step b a)) (b : β) : EndsIn I J (xs.foldlM step b) := by
  induction xs generalizing b with
  | nil => exact of_keeps (.pure b) hJ
  | cons a xs ih =>
      rw [List.foldlM_cons]
      exact (h b a (by simp)).bind fun b' => ih (fun b a ha => h b a (List.mem_cons_of_mem _ ha)) b'

end EndsIn

/-! ## Failures -/

/-- Whatever state `x` starts from, if it fails, the failure satisfies `P`. -/
def Raises (P : Failure → Prop) (x : Effect σ α) : Prop := ∀ s e s', runFrom x s = (.error e, s') → P e

namespace Raises

variable {P : Failure → Prop}

theorem pure (a : α) : Raises P (pure a : Effect σ α) := by
  intro s e s' hrun
  cases hrun

theorem set (s₁ : σ) : Raises P (set s₁ : Effect σ PUnit) := by
  intro s e s' hrun
  cases hrun

theorem throw {f : Failure} (hf : P f) : Raises P (throw f : Effect σ α) := by
  intro s e s' hrun
  cases hrun
  exact hf

/-- A failure comes of the first part, or of the second one behind it. So a property of the failures of both is one of
the failures of the whole. -/
theorem bind {x : Effect σ α} {f : α → Effect σ β} (hx : Raises P x) (hf : ∀ a, Raises P (f a)) :
    Raises P (x >>= f) := by
  intro s e s' hrun
  rw [runFrom_bind] at hrun
  split at hrun
  · next a s₁ _ => exact hf a s₁ e s' hrun
  · next e₁ s₁ hfirst =>
    cases hrun
    exact hx s e s' hfirst

theorem get_bind {f : σ → Effect σ β} (hf : ∀ s, Raises P (f s)) : Raises P (get >>= f) := fun s e s' hrun =>
  hf s s e s' hrun

/-- Either arm may fail. -/
theorem ite {c : Prop} [Decidable c] {x y : Effect σ α} (hx : Raises P x) (hy : Raises P y) :
    Raises P (if c then x else y) := by
  split
  · exact hx
  · exact hy

/-- A loop fails with a failure of one of its steps. Induction on the list. -/
theorem foldlM {step : β → α → Effect σ β} {xs : List α} (h : ∀ b, ∀ a ∈ xs, Raises P (step b a)) (b : β) :
    Raises P (xs.foldlM step b) := by
  induction xs generalizing b with
  | nil => exact .pure b
  | cons a xs ih =>
      -- the rest of the list starts from what the first step gives
      rw [List.foldlM_cons]
      exact (h b a (by simp)).bind fun b' => ih (fun b a ha => h b a (List.mem_cons_of_mem _ ha)) b'

end Raises

section

variable {P : Failure → Prop}

/-- Within an activity the failure is told with the activity in front, so the property has to survive this. -/
theorem Raises.during {a : Activity} {x : Action α} (ha : ∀ f, P f → P (f.within a)) (hx : Raises P x) :
    Raises P (Action.during a x) := by
  intro d e d' hrun
  rw [runFrom_during] at hrun
  rcases hfirst : runFrom x d with ⟨e₁ | r, d₁⟩
  · rw [hfirst] at hrun
    cases hrun
    exact ha e₁ (hx d e₁ d₁ hfirst)
  · rw [hfirst] at hrun
    cases hrun

/-- A change fails with the cause that the disk gives. -/
theorem raises_change {step : Disk → Except Cause Disk} (h : ∀ d c, step d = .error c → P (.of c)) :
    Raises P (Action.change step) := by
  intro d e d' hrun
  rw [runFrom_change] at hrun
  split at hrun
  · cases hrun
  · next c hstep =>
    cases hrun
    exact h d c hstep

end

/-! ## Two runs

`Effect.Mirrors` compares the runs of two effects on two states. Only a first run that succeeds is compared, so the second
effect may do less. -/

/-- Where `x` succeeds, `y` succeeds on every related state. What they return is related, and so are the states behind
them. -/
def Mirrors (R : σ → σ → Prop) (S : α → β → Prop) (x : Effect σ α) (y : Effect σ β) : Prop :=
  ∀ s s', R s s' → ∀ a t, runFrom x s = (.ok a, t) → ∃ b t', runFrom y s' = (.ok b, t') ∧ R t t' ∧ S a b

namespace Mirrors

variable {γ δ : Type} {R : σ → σ → Prop} {S : α → β → Prop} {T : γ → δ → Prop}

theorem pure {a : α} {b : β} (h : S a b) : Mirrors R S (pure a : Effect σ α) (pure b) := by
  intro s s' hs a' t hrun
  cases hrun
  exact ⟨b, s', rfl, hs, h⟩

theorem throw (f : Failure) (y : Effect σ β) : Mirrors R S (throw f) y := by
  intro s s' _ a t hrun
  cases hrun

/-- Two runs in step with each other: the relation holds behind the first parts, so the second parts start related. -/
theorem bind {x : Effect σ α} {y : Effect σ β} {f : α → Effect σ γ} {g : β → Effect σ δ} (hx : Mirrors R S x y)
    (hf : ∀ a b, S a b → Mirrors R T (f a) (g b)) : Mirrors R T (x >>= f) (y >>= g) := by
  intro s s' hs c u hrun
  obtain ⟨a, t, hfirst, hrest⟩ := exists_of_runFrom_bind hrun
  obtain ⟨b, t', hfirst', ht, hab⟩ := hx s s' hs a t hfirst
  rw [runFrom_bind_ok hfirst']
  exact hf a b hab t t' ht c u hrest

/-- Steps that are mirrored one by one are mirrored in a row. -/
theorem foldlM {ι : Type} {step : α → ι → Effect σ α} {step' : β → ι → Effect σ β} {xs : List ι}
    (h : ∀ i ∈ xs, ∀ a b, S a b → Mirrors R S (step a i) (step' b i)) {a : α} {b : β} (hab : S a b) :
    Mirrors R S (xs.foldlM step a) (xs.foldlM step' b) := by
  induction xs generalizing a b with
  | nil => exact .pure hab
  | cons i xs ih =>
      rw [List.foldlM_cons, List.foldlM_cons]
      exact (h i (by simp) a b hab).bind fun a' b' => ih fun j hj => h j (List.mem_cons_of_mem _ hj)

/-- What leaves the first state related to every second one is mirrored by doing nothing. -/
theorem of_keeps {x : Effect σ α} {b : β} (hx : ∀ s', Keeps (fun s => R s s') x)
    (hresult : ∀ s a t, runFrom x s = (.ok a, t) → S a b) : Mirrors R S x (Pure.pure b : Effect σ β) := by
  intro s s' hs a t hrun
  exact ⟨b, s', rfl, (hx s').of_runFrom hrun hs, hresult s a t hrun⟩

end Mirrors

/-- The activity may be named in both runs alike. -/
theorem Mirrors.during {R : Disk → Disk → Prop} {S : α → β → Prop} {x : Action α} {y : Action β} (a : Activity)
    (h : Mirrors R S x y) : Mirrors R S (Action.during a x) (Action.during a y) := by
  intro s s' hs r t hrun
  obtain ⟨r', t', hrun', ht, hr⟩ := h s s' hs r t (runFrom_during_eq_ok.mp hrun)
  exact ⟨r', t', runFrom_during_eq_ok.mpr hrun', ht, hr⟩

/-- Changes that mirror each other: whenever the first disk admits its change, the second admits its own, and the
results are related. -/
theorem mirrors_change {R : Disk → Disk → Prop} {step step' : Disk → Except Cause Disk}
    (h : ∀ d e d', R d e → step d = .ok d' → ∃ e', step' e = .ok e' ∧ R d' e') :
    Mirrors R Eq (Action.change step) (Action.change step') := by
  rintro d e hde ⟨⟩ d' hrun
  obtain ⟨e', hstep, hrelated⟩ := h d e d' hde (runFrom_change_eq_ok.mp hrun)
  exact ⟨(), e', runFrom_change_eq_ok.mpr hstep, hrelated, rfl⟩

end Effect

end Bootstrap
