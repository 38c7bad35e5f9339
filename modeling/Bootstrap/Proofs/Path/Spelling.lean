import Bootstrap.Proofs.Path.Components
import Mathlib.Data.List.Induction
import Mathlib.Logic.Relation

/-!
# Spellings of a path

A path may be written in many ways and still lead along the same names from the same place: slashes may be repeated or
stand at the end, and a `.` may stand anywhere. `Path.steps` is what all these spellings have in common, besides whether
they start at the root.

* `Path.filter_components`: what a path says, a leading `.` apart, comes from its steps and from where it starts.
* `Path.respells_iff_alike`: two spellings come from each other by writing in and leaving out pieces that say nothing.
* `Path.bytes_ofComponents`: the spelling that is built from plain names has one slash between each two of them and
  nothing else.
-/

namespace Bootstrap.Path

variable {p q : Path} {a b i n : List UInt8} {ns : List (List UInt8)}

/-! ## Steps -/

/-- The names of a path, `.` apart. -/
def steps (p : Path) : List (List UInt8) := p.names.filter (· ≠ dot)

/-- Another spelling of the same path. -/
structure Respells (p q : Path) : Prop where
  isAbsolute : p.isAbsolute = q.isAbsolute
  steps : p.steps = q.steps

instance (p q : Path) : Decidable (p.Respells q) :=
  decidable_of_iff (p.isAbsolute = q.isAbsolute ∧ p.steps = q.steps)
    ⟨fun h => ⟨h.1, h.2⟩, fun h => ⟨h.1, h.2⟩⟩

/-- Steps are the pieces that are neither empty nor a dot. -/
theorem mem_steps : n ∈ p.steps ↔ n ∈ p.pieces ∧ n ≠ [] ∧ n ≠ dot := by
  simp only [steps, names, List.mem_filter, and_assoc]
  simp

theorem steps_append_slash (a b : List UInt8) :
    (⟨a ++ slash :: b⟩ : Path).steps = (⟨a⟩ : Path).steps ++ (⟨b⟩ : Path).steps := by
  rw [steps, names_append_slash, List.filter_append, steps, steps]

/-- A piece that says nothing is no step. -/
theorem steps_of_isIdle (hi : isIdle i = true) : (⟨i⟩ : Path).steps = [] := by
  simp only [isIdle, Bool.or_eq_true, List.isEmpty_iff, beq_iff_eq] at hi
  rcases hi with rfl | rfl
  · decide
  · decide

/-- A dot is left out of what is said in any case, so steps and names say the same. -/
theorem filterMap_ofPiece?_steps (p : Path) :
    p.steps.filterMap Component.ofPiece? = p.names.filterMap Component.ofPiece? := by
  rw [steps, List.filterMap_filter]
  congr 1
  funext piece
  by_cases hdot : piece = dot
  · simp [hdot, ofPiece?_dot]
  · simp [hdot]

/-- What a path says, a leading `.` apart: the root, if it starts there, and what each of its pieces says. -/
theorem filter_components (p : Path) :
    p.components.filter (· ≠ .current) =
      (if p.isAbsolute then [.root] else []) ++ p.steps.filterMap Component.ofPiece? := by
  -- a dot is only ever a component in front, and a piece behind it says none
  have hsaid : ∀ c ∈ p.pieces.filterMap Component.ofPiece?, c ≠ .current := by
    intro c hc hcur
    obtain ⟨piece, hpiece, hc⟩ := List.mem_filterMap.mp hc
    rcases ofPiece?_eq_some (not_mem_of_mem_splitOn hpiece) hc with ⟨-, rfl⟩ | ⟨-, rfl⟩
    · cases hcur
    · cases hcur
  have hkept : (p.pieces.filterMap Component.ofPiece?).filter (· ≠ .current) =
      p.steps.filterMap Component.ofPiece? := by
    rw [filterMap_ofPiece?_steps, filterMap_ofPiece?_names]
    exact List.filter_eq_self.mpr fun c hc => by simpa using hsaid c hc
  -- what is left is the root, or a dot that the filter drops
  rw [components, List.filter_append, hkept]
  congr 1
  split
  · rfl
  · split
    · rfl
    · rfl

/-! ## Writing in what says nothing -/

/-- What stands behind a slash does not decide whether the path is absolute. -/
theorem isAbsolute_append_slash (a b c : List UInt8) :
    (⟨a ++ slash :: b⟩ : Path).isAbsolute = (⟨a ++ slash :: c⟩ : Path).isAbsolute := by
  unfold isAbsolute
  cases a with
  | nil => rfl
  | cons x a => rfl

/-- One piece that says nothing is written in: between two slashes, at the end, or in front of a relative path (there
only a `.`, since a slash alone would be the root). -/
inductive Padded : Path → Path → Prop
  | inside {i : List UInt8} (a b : List UInt8) (hi : isIdle i = true) :
      Padded ⟨a ++ slash :: b⟩ ⟨a ++ slash :: (i ++ slash :: b)⟩
  | behind {a i : List UInt8} (hi : isIdle i = true) (ha : a ≠ []) : Padded ⟨a⟩ ⟨a ++ slash :: i⟩
  | front {b : List UInt8} (hb : (⟨b⟩ : Path).isAbsolute = false) : Padded ⟨b⟩ ⟨dot ++ slash :: b⟩

/-- What is written in says nothing, so the steps stay. Only at the start of a path one has to see that it does not become
absolute, which is why a dot and no slash is written there. -/
theorem Padded.respells (h : Padded p q) : p.Respells q := by
  cases h with
  -- an idle piece between two slashes is no step
  | inside a b hi =>
      refine ⟨isAbsolute_append_slash a _ _, ?_⟩
      rw [steps_append_slash, steps_append_slash, steps_append_slash, steps_of_isIdle hi, List.nil_append]
  -- nor is one at the end, if the path is not empty without it
  | behind hi ha =>
      refine ⟨?_, ?_⟩
      · unfold isAbsolute
        rw [List.head?_append, Option.or_of_isSome (List.isSome_head?.mpr ha)]
      · rw [steps_append_slash, steps_of_isIdle hi, List.append_nil]
  -- nor is a dot in front of a relative path
  | front hb =>
      have hdot : isIdle dot = true := by decide
      refine ⟨hb, ?_⟩
      rw [steps_append_slash, steps_of_isIdle hdot, List.nil_append]

/-- Written in and left out again, any number of times. -/
abbrev Alike : Path → Path → Prop := Relation.EqvGen Padded

/-- A single padding is the simplest case of paths that are alike. -/
theorem Padded.alike (h : Padded p q) : Alike p q := .rel _ _ h

/-- Paths that are alike say the same. The other direction is `respells_iff_alike`, which takes longer. -/
theorem Alike.respells (h : Alike p q) : p.Respells q := by
  induction h with
  | rel _ _ h => exact h.respells
  | refl p => exact ⟨rfl, rfl⟩
  | symm _ _ _ ih => exact ⟨ih.isAbsolute.symm, ih.steps.symm⟩
  | trans _ _ _ _ _ ih ih' => exact ⟨ih.isAbsolute.trans ih'.isAbsolute, ih.steps.trans ih'.steps⟩

/-- A slash behind a name may go when nothing is left behind it. -/
theorem alike_intercalate_cons (a : List UInt8) (hn : n ≠ []) (ns : List (List UInt8)) :
    Alike ⟨a ++ n ++ slash :: [slash].intercalate ns⟩ ⟨a ++ [slash].intercalate (n :: ns)⟩ := by
  by_cases hns : ns = []
  · have hidle : isIdle [] = true := rfl
    have hne : a ++ n ≠ [] := by simp [hn]
    have hpad : Padded ⟨a ++ n⟩ ⟨a ++ n ++ slash :: []⟩ := .behind hidle hne
    have hbytes : [slash].intercalate [n] = n := by simp
    rw [hns, List.intercalate_nil, hbytes]
    exact .symm _ _ hpad.alike
  · rw [List.intercalate_cons_of_ne_nil hns, List.append_assoc]
    simpa using Relation.EqvGen.refl _

/-- The last piece may go when it says nothing. -/
theorem alike_of_isIdle (a : List UInt8) (hi : isIdle i = true) : Alike ⟨a ++ slash :: i⟩ ⟨a ++ [slash]⟩ := by
  have hidle : isIdle [] = true := rfl
  have hbehind : Padded ⟨a ++ slash :: i⟩ ⟨a ++ slash :: i ++ slash :: []⟩ := .behind hidle (by simp)
  have hinside : Padded ⟨a ++ slash :: []⟩ ⟨a ++ slash :: (i ++ slash :: [])⟩ := .inside a [] hi
  rw [List.append_assoc, List.cons_append] at hbehind
  exact .trans _ _ _ hbehind.alike (.symm _ _ hinside.alike)

/-- Behind a slash only the pieces that say something need to stay. They are dropped one by one, from the end, and each
is one edit of the spelling. -/
theorem alike_filter (a : List UInt8) (ns : List (List UInt8)) :
    Alike ⟨a ++ slash :: [slash].intercalate ns⟩
      ⟨a ++ slash :: [slash].intercalate (ns.filter fun n => !isIdle n)⟩ := by
  induction ns generalizing a with
  | nil => exact .refl _
  | cons n ns ih =>
      by_cases hidle : isIdle n = true
      · -- the piece says nothing: it is dropped, with the slash behind it if there is one
        have hkept : (n :: ns).filter (fun n => !isIdle n) = ns.filter fun n => !isIdle n := by simp [hidle]
        rw [hkept]
        refine .trans _ _ _ ?_ (ih a)
        by_cases hns : ns = []
        · rw [hns]
          simpa using alike_of_isIdle a hidle
        · rw [List.intercalate_cons_of_ne_nil hns]
          have hpad : Padded ⟨a ++ slash :: [slash].intercalate ns⟩ _ := .inside a _ hidle
          simpa using Relation.EqvGen.symm _ _ hpad.alike
      · -- the piece stays, and the rest is put behind it
        have hkept : (n :: ns).filter (fun n => !isIdle n) = n :: ns.filter fun n => !isIdle n := by simp [hidle]
        have hne : n ≠ [] := by
          rintro rfl
          exact hidle rfl
        have hbefore := alike_intercalate_cons (a ++ [slash]) hne ns
        have hbehind := alike_intercalate_cons (a ++ [slash]) hne (ns.filter fun n => !isIdle n)
        have hrest := ih (a ++ slash :: n)
        simp only [List.append_assoc, List.cons_append] at hbefore hbehind hrest
        rw [hkept]
        exact .trans _ _ _ (.symm _ _ hbefore) (.trans _ _ _ hrest hbehind)

/-- The steps in terms of the test for idle pieces. -/
theorem steps_eq_filter (p : Path) : p.steps = p.pieces.filter fun n => !isIdle n := by
  rw [steps, names, List.filter_filter]
  congr 1
  funext n
  by_cases hdot : n = dot
  · simp [isIdle, hdot]
  · simp [isIdle, hdot]

/-- Names that are put together with slashes between them are a relative path, as long as the first one is a name. -/
theorem isAbsolute_intercalate_cons (hne : n ≠ []) (hslash : slash ∉ n) (ns : List (List UInt8)) :
    (⟨[slash].intercalate (n :: ns)⟩ : Path).isAbsolute = false := by
  cases n with
  | nil => exact absurd rfl hne
  | cons x n =>
      have hx : x ≠ slash := fun e => hslash (by simp [e])
      cases ns with
      | nil => simp [isAbsolute, hx]
      | cons m ns =>
          rw [List.intercalate_cons_cons]
          simp [isAbsolute, hx]

/-- The first piece of a relative path goes as well when it says nothing; it is a `.` then, and its slash goes with
it. -/
theorem alike_filter_relative (hn : n ≠ []) (hslash : ∀ m ∈ ns, slash ∉ m) :
    Alike ⟨[slash].intercalate (n :: ns)⟩ ⟨[slash].intercalate ((n :: ns).filter fun n => !isIdle n)⟩ := by
  have hbefore : Alike ⟨n ++ slash :: [slash].intercalate ns⟩ ⟨[slash].intercalate (n :: ns)⟩ :=
    alike_intercalate_cons [] hn ns
  have hrest := alike_filter n ns
  refine .trans _ _ _ (.trans _ _ _ (.symm _ _ hbefore) hrest) ?_
  -- the first piece is not empty, so it is a dot or says something
  by_cases hdot : n = dot
  · have hkept : (n :: ns).filter (fun n => !isIdle n) = ns.filter fun n => !isIdle n := by simp [isIdle, hdot]
    have hfront : (⟨[slash].intercalate (ns.filter fun n => !isIdle n)⟩ : Path).isAbsolute = false := by
      cases hcases : ns.filter fun n => !isIdle n with
      | nil => rfl
      | cons m ms =>
          have hm : m ∈ ns.filter fun n => !isIdle n := by simp [hcases]
          obtain ⟨hmem, hidle⟩ := List.mem_filter.mp hm
          have hne : m ≠ [] := by
            rintro rfl
            cases hidle
          exact isAbsolute_intercalate_cons hne (hslash m hmem) ms
    have hpad := Padded.front hfront
    rw [hkept, hdot]
    exact .symm _ _ hpad.alike
  · have hkept : (n :: ns).filter (fun n => !isIdle n) = n :: ns.filter fun n => !isIdle n := by
      simp [isIdle, hn, hdot]
    rw [hkept]
    exact alike_intercalate_cons [] hn _

/-- Every path is another spelling of the one that has its steps and no more. So two paths with the same steps are
spellings of each other. -/
theorem alike_steps (p : Path) :
    Alike p ⟨(if p.isAbsolute then [slash] else []) ++ [slash].intercalate p.steps⟩ := by
  obtain ⟨n, ns, hpieces⟩ : ∃ n ns, p.pieces = n :: ns :=
    List.exists_cons_of_ne_nil (List.splitOn_ne_nil slash p.bytes)
  have hp : p = ⟨[slash].intercalate (n :: ns)⟩ := by rw [← hpieces, pieces, List.intercalate_splitOn]
  have hsteps : p.steps = (n :: ns).filter fun n => !isIdle n := by rw [← hpieces, steps_eq_filter]
  have hslash : ∀ m ∈ n :: ns, slash ∉ m := fun m hm => not_mem_of_mem_splitOn (hpieces ▸ hm)
  by_cases hn : n = []
  · subst hn
    by_cases hns : ns = []
    · -- the empty path
      subst hns
      rw [hp]
      exact .refl _
    · -- from the root
      have hroot : [slash].intercalate ([] :: ns) = slash :: [slash].intercalate ns := by
        rw [List.intercalate_cons_of_ne_nil hns]
        rfl
      have hkept : p.steps = ns.filter fun n => !isIdle n := by simpa [isIdle] using hsteps
      rw [hroot] at hp
      have habs : p.isAbsolute = true := by rw [hp]; rfl
      rw [habs, hkept, hp]
      exact alike_filter [] ns
  · have hrelative : p.isAbsolute = false := by
      rw [hp]
      exact isAbsolute_intercalate_cons hn (hslash n (by simp)) ns
    rw [hrelative, if_neg Bool.false_ne_true, List.nil_append, hsteps, hp]
    exact alike_filter_relative hn fun m hm => hslash m (by simp [hm])

/-- **Spellings.** Paths that start alike and have the same steps are those that come from each other by writing in and
leaving out what says nothing. -/
theorem respells_iff_alike : p.Respells q ↔ Alike p q := by
  constructor
  · intro h
    have hq := alike_steps q
    rw [← h.isAbsolute, ← h.steps] at hq
    exact .trans _ _ _ (alike_steps p) (.symm _ _ hq)
  · exact Alike.respells

/-! ## Leading out -/

/-- By its bytes: a slash in front, or `..` between slashes (or between one of them and an end). -/
def LeadsOut (p : Path) : Prop := p.bytes.head? = some slash ∨ dotDot ∈ p.bytes.splitOn slash

/-- Whether a path descends is seen of its steps, so it is the same for all of its spellings. -/
theorem descends_iff_steps : p.Descends ↔ p.isAbsolute = false ∧ dotDot ∉ p.steps := by
  have hmem : dotDot ∈ p.steps ↔ dotDot ∈ p.names := by
    rw [steps, List.mem_filter]
    exact and_iff_left (by decide)
  rw [hmem]
  exact ⟨fun h => ⟨h.relative, h.noParent⟩, fun h => ⟨h.1, h.2⟩⟩

/-- The form in which it is used: a path descends if and only if its respelling does. -/
theorem Respells.descends_iff (h : p.Respells q) : p.Descends ↔ q.Descends := by
  rw [descends_iff_steps, descends_iff_steps, h.isAbsolute, h.steps]

/-- What does not descend leads out, in words that look at the bytes only. -/
theorem not_descends_iff : ¬p.Descends ↔ p.LeadsOut := by
  have hroot : p.isAbsolute = true ↔ p.bytes.head? = some slash := by simp [isAbsolute]
  have hdots : dotDot ∈ p.steps ↔ dotDot ∈ p.bytes.splitOn slash := by
    rw [mem_steps]
    exact and_iff_left (by decide)
  rw [descends_iff_steps, not_and_or, Bool.not_eq_false, not_not, hroot, hdots]
  rfl

/-- The steps of a path that descends are plain names: it turns back nowhere, and what says nothing is no step. -/
theorem Descends.isPlain_of_mem_steps (h : p.Descends) (hn : n ∈ p.steps) : IsPlain n := by
  obtain ⟨hpiece, hne, hdot⟩ := mem_steps.mp hn
  refine ⟨hne, not_mem_of_mem_splitOn hpiece, hdot, ?_⟩
  rintro rfl
  exact (descends_iff_steps.mp h).2 hn

/-! ## The shortest spelling -/

/-- No slash stands behind the last of the names that are put together, so the next one that is joined gets a slash of
its own. -/
theorem endsInSlash_intercalate (h : ∀ n ∈ ns, IsPlain n) :
    (⟨[slash].intercalate ns⟩ : Path).endsInSlash = false := by
  rcases List.eq_nil_or_concat ns with rfl | ⟨front, n, rfl⟩
  · rfl
  · rw [List.concat_eq_append] at h ⊢
    have hn : IsPlain n := h n (by simp)
    -- the names end in the last of them, and a name has no slash
    have hend : ∃ before, [slash].intercalate (front ++ [n]) = before ++ n := by
      by_cases hfront : front = []
      · exact ⟨[], by rw [hfront]; simp⟩
      · exact ⟨[slash].intercalate front ++ [slash], by rw [intercalate_append slash hfront (by simp)]; simp⟩
    obtain ⟨before, hbefore⟩ := hend
    have hlast : n.getLast? ≠ some slash := fun hslash => hn.noSlash (List.mem_of_getLast? hslash)
    have hsome : n.getLast?.isSome = true := by simp [hn.ne_nil]
    rw [endsInSlash, hbefore, List.getLast?_append, Option.or_of_isSome hsome]
    simpa using hlast

/-- One name is enough for a path that is not empty. -/
theorem intercalate_ne_nil (h : ∀ n ∈ ns, IsPlain n) (hne : ns ≠ []) : [slash].intercalate ns ≠ [] := by
  intro hnil
  have hnames := names_intercalate (fun n hn => (h n hn).noSlash)
  rw [hnil, names_mk_nil, eq_comm, List.filter_eq_nil_iff] at hnames
  obtain ⟨n, hn⟩ := List.exists_mem_of_ne_nil ns hne
  exact hnames n hn (by simp [(h n hn).ne_nil])

/-- Names that are joined one after another get one slash between each two of them. Induction from the end, as they are
joined from the front. -/
theorem bytes_ofComponents (h : ∀ n ∈ ns, IsPlain n) :
    (ofComponents (ns.map .normal)).bytes = [slash].intercalate ns := by
  -- induction from the end, as a path is built by joining one more name
  induction ns using List.reverseRecOn with
  | nil => rfl
  | append_singleton front n ih =>
      have hfront : ∀ m ∈ front, IsPlain m := fun m hm => h m (by simp [hm])
      have hn : IsPlain n := h n (by simp)
      have hjoin : ofComponents ((front ++ [n]).map .normal) = (ofComponents (front.map .normal)).join ⟨n⟩ := by
        rw [ofComponents, List.map_append, List.foldl_append]
        rfl
      have hbuilt : ofComponents (front.map .normal) = ⟨[slash].intercalate front⟩ := by rw [← ih hfront]
      rw [hjoin, hbuilt, join, if_neg (by simp [hn.isAbsolute]), endsInSlash_intercalate hfront, Bool.or_false]
      -- a slash comes in between unless the name is the first
      by_cases hne : front = []
      · simp [hne]
      · have hbytes : ([slash].intercalate front).isEmpty = false := by
          simpa using intercalate_ne_nil hfront hne
        rw [hbytes, if_neg Bool.false_ne_true, intercalate_append slash hne (by simp)]
        simp

end Bootstrap.Path
