import Bootstrap.Proofs.Disk.Files

/-!
# How writing fails

What is written to a disk fails for reasons that the disk has, and the failure names nothing but the writing itself:
`Failure.IsOfWriting`. Each operation refuses with a cause of its own or with that of its walk, so the property is read off
the text of the operations, `Disk.Refuses`, and from there off that of the actions.
-/

namespace Bootstrap

/-- Whether a cause is one that a disk has: an error of the system, or a path or a target with a NUL byte. -/
def Cause.isOfDisk : Cause → Bool
  | .system _ | .unreadable => true
  | .json | .template | .refused _ => false

/-- Whether an activity is one of writing directories, files and links. -/
def Activity.isWriting : Activity → Bool
  | .createDirectory _ | .setPermissions _ | .openFile _ | .createFile _ | .writeFile _ | .createLink _ _ => true
  | _ => false

/-- A failure of writing for a reason that the disk has. -/
structure Failure.IsOfWriting (f : Failure) : Prop where
  cause : f.cause.isOfDisk = true
  during : ∀ a ∈ f.during, a.isWriting = true

/-- A failure that names no activity yet is one of writing if its cause is one of the disk. -/
theorem Failure.IsOfWriting.of {c : Cause} (h : c.isOfDisk = true) : (Failure.of c).IsOfWriting := ⟨h, by simp [Failure.of]⟩

/-- It stays one when an activity of writing is put in front of it. Every activity in which these actions run is one of
writing. -/
theorem Failure.IsOfWriting.within {f : Failure} {a : Activity} (ha : a.isWriting = true) (h : f.IsOfWriting) :
    (f.within a).IsOfWriting where
  cause := h.cause
  during b hb := by
    rcases List.mem_cons.mp hb with rfl | hb
    · exact ha
    · exact h.during b hb

namespace Disk

/-- What is refused is refused for a reason that the disk has. -/
def Refuses {α : Type} (x : Except Cause α) : Prop := ∀ c, x = .error c → c.isOfDisk = true

namespace Refuses

variable {α β : Type}

theorem ok (a : α) : Refuses (.ok a : Except Cause α) := by
  rintro c ⟨⟩

theorem error {c : Cause} (h : c.isOfDisk = true) : Refuses (.error c : Except Cause α) := by
  rintro c' ⟨⟩
  exact h

/-- Two parts in a row refuse for a reason of the disk if both do. The operations are such rows: first a walk, then a
look at what is there. -/
theorem bind {x : Except Cause α} {f : α → Except Cause β} (hx : Refuses x) (hf : ∀ a, Refuses (f a)) :
    Refuses (x >>= f) := by
  cases x with
  | error c => exact .error (hx c rfl)
  | ok a => exact hf a

end Refuses

variable {d : Disk} {p : Path} {mode : Nat}

/-- A walk fails with an error of the system, or because the path cannot be handed to it at all. All the operations
below start with one. -/
theorem refuses_walk (last : LastLink) : Refuses (d.walk last p) := by
  unfold walk
  split_ifs
  · exact .error rfl
  · exact .error rfl
  · exact .error rfl
  · split
    · exact .ok _
    · exact .error rfl

/-- A status is a walk and a look at what stands at its end. -/
theorem refuses_status : Refuses (d.status p) := by
  refine (refuses_walk _).bind fun spot => ?_
  split
  · exact .error rfl
  · exact .ok _
  · exact .error rfl
  · exact .ok _

/-- A name is only refused where its directory is missing. -/
theorem refuses_place (parent : Location) (n : List UInt8) (o : Object) : Refuses (d.place parent n o) := by
  unfold place
  split
  · exact .ok _
  · exact .error rfl

/-- No directory is made where something stands. -/
theorem refuses_makeDirectory : Refuses (d.makeDirectory p mode) := by
  refine (refuses_walk _).bind fun spot => ?_
  split
  · exact .error rfl
  · split
    · exact .error rfl
    · exact refuses_place _ _ _

/-- No file is put in place of a directory or a link, nor where a slash stands behind the name. -/
theorem refuses_putFile (content : List UInt8) : Refuses (d.putFile p mode content) := by
  refine (refuses_walk _).bind fun spot => ?_
  split
  · exact .error rfl
  · exact .error rfl
  · split
    · exact refuses_place _ _ _
    · exact .ok _
    · exact .error rfl
    · exact .error rfl

/-- A target that cannot be written is refused before anything is looked at, and then the path is. -/
theorem refuses_addLink (target : Path) : Refuses (d.addLink p target) := by
  unfold addLink
  split_ifs
  · exact .error rfl
  · exact .error rfl
  · exact .error rfl
  · refine (refuses_walk _).bind fun spot => ?_
    split
    · exact .error rfl
    · split_ifs
      · exact .error rfl
      · exact .error rfl
      · exact refuses_place _ _ _

/-- No mode is set of a link, since the path is followed to its end. -/
theorem refuses_setMode : Refuses (d.setMode p mode) := by
  refine refuses_status.bind fun found => ?_
  split
  · exact .ok _
  · exact .ok _
  · exact .error rfl

end Disk

namespace Action

open Effect Disk

variable {p : Path} {mode : Nat}

/-- A change fails as its operation refuses. Here the causes of the disk become the failures of the actions. -/
theorem raises_change_of_refuses {step : Disk → Except Cause Disk} (h : ∀ d, Refuses (step d)) :
    Raises Failure.IsOfWriting (change step) := raises_change fun d c hc => .of (h d c hc)

/-- The recursion goes up the path and comes back down. It fails with the failure of one attempt, so it is by induction
on the directories above. -/
theorem raises_makeDirectories (ps : List Path) : Raises Failure.IsOfWriting (makeDirectories mode ps) := by
  have hthere : ∀ {p : Path} {c : Cause}, c.isOfDisk = true →
      Raises Failure.IsOfWriting (do if (← get).isDirectory p then Pure.pure () else throw (.of c) : Action Unit) :=
    fun hc => .get_bind fun _ => .ite (.pure _) (.throw (.of hc))
  induction ps with
  | nil => exact .throw (.of rfl)
  | cons p above ih =>
      unfold makeDirectories
      refine .ite (.pure _) (.get_bind fun d => ?_)
      split
      · exact .set _
      · -- the second attempt fails like the first one
        refine ih.bind fun _ => .get_bind fun d => ?_
        split
        · exact .set _
        · next hmake => exact hthere (refuses_makeDirectory _ hmake)
      · next hmake => exact hthere (refuses_makeDirectory _ hmake)

variable {faults : Faults}

/-- The mode of what was made is set last. -/
theorem raises_pinMode : Raises Failure.IsOfWriting (pinMode p mode faults) := by
  refine Raises.during (fun _ => .within rfl) (.get_bind fun d => ?_)
  split
  · exact .throw (.of rfl)
  · exact raises_change_of_refuses fun _ => refuses_setMode

theorem raises_createDirectory : Raises Failure.IsOfWriting (createDirectory p mode faults) :=
  ((raises_makeDirectories _).during fun _ => .within rfl).bind fun _ => raises_pinMode

/-- The directories above a file. -/
theorem raises_ensureParent : Raises Failure.IsOfWriting (ensureParent p) := by
  unfold ensureParent
  split
  · exact .get_bind fun d => .ite ((raises_makeDirectories _).during fun _ => .within rfl) (.pure _)
  · exact .pure _

/-- A fault of the device is a failure of writing like any other. -/
theorem raises_fillFile (content : List UInt8) : Raises Failure.IsOfWriting (fillFile p content mode faults) := by
  have hstore : Raises Failure.IsOfWriting (storeContent p content mode faults) := by
    refine Raises.during (fun _ => .within rfl) (.get_bind fun d => ?_)
    split
    · exact (raises_change_of_refuses fun _ => refuses_putFile _).bind fun _ => .throw (.of rfl)
    · exact raises_change_of_refuses fun _ => refuses_putFile _
  exact hstore.bind fun _ => raises_pinMode

/-- A file: the directories above it are made, it is opened, its content is stored and its mode is set. Whatever the
faults of the device are, the failure is one of writing. -/
theorem raises_writeFile (content : List UInt8) : Raises Failure.IsOfWriting (writeFile p content mode faults) :=
  raises_ensureParent.bind fun _ =>
    ((raises_change_of_refuses fun _ => refuses_putFile []).during fun _ => .within rfl).bind fun _ => raises_fillFile content

theorem raises_createLink (target : Path) : Raises Failure.IsOfWriting (createLink p target) :=
  raises_change_of_refuses fun _ => refuses_addLink target

end Action

end Bootstrap
