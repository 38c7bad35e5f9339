import Bootstrap.Proofs.Path.Names
import Mathlib.Data.List.Basic

/-!
# What a path says

A walk reads the names of a path, comparisons and parents read its components. Both come from the same pieces, so each
way of building a path says something about the components too:

* `Path.components_join` — below an absolute path the components of the lower one are added, its front apart.
* `Path.components_of_fileName?` — a path with a last name says what the path right above it says and then this name.

`Path.IsInside` is the place that a path claims by its spelling alone: strictly below another one.
-/

namespace Bootstrap.Path

variable {p q : Path}

/-! ## Pieces that say something -/

/-- Behind the first piece only plain names and `..` are said. Dots and the nothing between two slashes say nothing. -/
theorem ofPiece?_eq_some {piece : List UInt8} {c : Component} (hslash : slash ∉ piece)
    (h : Component.ofPiece? piece = some c) :
    piece = dotDot ∧ c = .parent ∨ IsPlain piece ∧ c = .normal piece := by
  unfold Component.ofPiece? at h
  split at h
  · exact absurd h (by simp)
  · next hidle =>
    simp only [isIdle, Bool.not_eq_true, Bool.or_eq_false_iff, List.isEmpty_eq_false_iff,
      beq_eq_false_iff_ne] at hidle
    split at h
    · next hdots => exact .inl ⟨hdots, (Option.some.inj h).symm⟩
    · next hdots => exact .inr ⟨⟨hidle.1, hslash, hidle.2, hdots⟩, (Option.some.inj h).symm⟩

/-- A component of a path is its front, or what one of its pieces says. -/
theorem mem_components {p : Path} {c : Component} (h : c ∈ p.components) :
    c = .root ∧ p.isAbsolute = true ∨ c = .current ∨
      ∃ piece ∈ p.pieces, Component.ofPiece? piece = some c := by
  rcases List.mem_append.mp h with h | h
  · split at h
    · next habs => exact .inl ⟨List.mem_singleton.mp h, habs⟩
    · split at h
      · exact .inr (.inl (List.mem_singleton.mp h))
      · exact absurd h (by simp)
  · exact .inr (.inr (List.mem_filterMap.mp h))

/-- A name that turns back is a component that turns back. -/
theorem parent_mem_components {p : Path} (h : dotDot ∈ p.names) : Component.parent ∈ p.components := by
  refine List.mem_append_right _ (List.mem_filterMap.mpr ⟨dotDot, (List.mem_filter.mp h).1, ?_⟩)
  decide

theorem root_mem_components {p : Path} (h : p.isAbsolute = true) : Component.root ∈ p.components := by
  refine List.mem_append_left _ ?_
  rw [if_pos h]
  exact List.mem_singleton_self _

/-- Pieces that say nothing may be left out. -/
theorem filterMap_ofPiece?_names (p : Path) :
    p.names.filterMap Component.ofPiece? = p.pieces.filterMap Component.ofPiece? := by
  rw [names, List.filterMap_filter]
  congr 1
  funext piece
  cases hpiece : piece.isEmpty <;> simp [Component.ofPiece?, isIdle, hpiece]

theorem filterMap_ofPiece?_of_isPlain {ns : List (List UInt8)} (h : ∀ n ∈ ns, IsPlain n) :
    ns.filterMap Component.ofPiece? = ns.map Component.normal := by
  refine List.filterMap_eq_map_iff_forall_eq_some.mpr fun n hn => ?_
  simp [Component.ofPiece?, (h n hn).not_isIdle, (h n hn).ne_dotDot]

/-- A relative path of plain names says these names and nothing else. -/
theorem components_of_isPlain {p : Path} (hrelative : p.isAbsolute = false) (hplain : ∀ n ∈ p.names, IsPlain n) :
    p.components = p.names.map Component.normal := by
  have hfront : p.pieces.head? ≠ some dot := by
    intro hdot
    have hmem : dot ∈ p.names := List.mem_filter.mpr ⟨List.mem_of_mem_head? hdot, by decide⟩
    exact (hplain _ hmem).ne_dot rfl
  rw [components, hrelative, if_neg Bool.false_ne_true, if_neg hfront, ← filterMap_ofPiece?_names,
    filterMap_ofPiece?_of_isPlain hplain, List.nil_append]

theorem components_of_isAbsolute (h : p.isAbsolute = true) :
    p.components = .root :: p.names.filterMap Component.ofPiece? := by
  rw [components, if_pos h, filterMap_ofPiece?_names]
  rfl

/-- A piece is no component if and only if it says nothing. -/
theorem ofPiece?_eq_none_iff {piece : List UInt8} : Component.ofPiece? piece = none ↔ isIdle piece = true := by
  unfold Component.ofPiece?
  split_ifs with hidle hdots
  · simp [hidle]
  · simp [hidle]
  · simp [hidle]

theorem ofPiece?_dot : Component.ofPiece? dot = none := by decide

theorem filterMap_ofPiece?_dots {ns : List (List UInt8)} (h : ∀ n ∈ ns, n = dot) :
    ns.filterMap Component.ofPiece? = [] := by
  refine List.filterMap_eq_nil_iff.mpr fun n hn => ?_
  rw [h n hn, ofPiece?_dot]

/-! ## Joined paths -/

/-- The components of a relative path come behind those of the absolute path it is joined to. -/
theorem components_join (hp : p.isAbsolute = true) (hq : q.isAbsolute = false) :
    (p.join q).components = p.components ++ q.names.filterMap Component.ofPiece? := by
  have habs : (p.join q).isAbsolute = true := by rw [isAbsolute_join hq, hp]
  rw [components_of_isAbsolute habs, components_of_isAbsolute hp, names_join hq, List.filterMap_append,
    List.cons_append]

/-- A plain name is one component more. -/
theorem components_join_name {n : List UInt8} (hp : p.isAbsolute = true) (hn : IsPlain n) :
    (p.join ⟨n⟩).components = p.components ++ [.normal n] := by
  have hsaid : Component.ofPiece? n = some (.normal n) := by
    simp [Component.ofPiece?, hn.not_isIdle, hn.ne_dotDot]
  rw [components_join hp hn.isAbsolute, hn.names, List.filterMap_cons, hsaid, List.filterMap_nil]

/-! ## Last names -/

/-- What is cut from an absolute path is absolute: the slash at its start is never cut off. -/
theorem isAbsolute_of_mem_parentsFrom {pieces : List (List UInt8)} (h : q ∈ parentsFrom [slash] pieces) :
    q.isAbsolute = true := by
  induction pieces with
  | nil => exact absurd h (by decide +revert)
  | cons piece above ih =>
      unfold parentsFrom at h
      split at h
      · exact ih h
      · rcases List.mem_cons.mp h with rfl | h
        · rfl
        · exact ih h

/-- So is the path right above. -/
theorem isAbsolute_of_parent? (hp : p.isAbsolute = true) (h : p.parent? = some q) : q.isAbsolute = true := by
  have hfront : p.front = [slash] := by rw [front, if_pos hp]
  have hmem : q ∈ p.parents := List.mem_of_mem_head? h
  rw [parents, hfront] at hmem
  exact isAbsolute_of_mem_parentsFrom hmem

/-- The last name of a path is its last piece that says something, and it does not turn back. -/
theorem backwards_of_fileName? {f : List UInt8} (h : p.fileName? = some f) :
    (∃ above, p.backwards = f :: above) ∧ f ≠ dotDot := by
  unfold fileName? at h
  split at h
  · cases h
  · next piece above hback =>
    split at h
    · cases h
    · next hdots =>
      cases h
      exact ⟨⟨above, hback⟩, hdots⟩

/-- **Last names.** An absolute path with a last name says what the path right above it says and then this name. Pieces
that say nothing may come in between. -/
theorem components_of_fileName? {f : List UInt8} (hp : p.isAbsolute = true) (h : p.fileName? = some f) :
    ∃ q, p.parent? = some q ∧ q.isAbsolute = true ∧ p.components = q.components ++ [.normal f] := by
  obtain ⟨⟨above, hback⟩, hdots⟩ := backwards_of_fileName? h
  have hidle : isIdle f = false := not_isIdle_of_backwards hback
  have hparent : ∃ q, p.parent? = some q := by
    rw [parent?, parents, hback, parentsFrom, if_neg (by simp [hidle])]
    exact ⟨_, rfl⟩
  obtain ⟨q, hq⟩ := hparent
  have hqabs := isAbsolute_of_parent? hp hq
  refine ⟨q, hq, hqabs, ?_⟩
  rcases names_of_parent? hq with rfl | ⟨before, n, behind, hback', hnames, hbefore, hbehind⟩
  · cases hqabs
  · obtain ⟨more, hback'⟩ := hback'
    obtain rfl : f = n := by
      rw [hback] at hback'
      exact (List.cons.inj hback').1
    have hsaid : Component.ofPiece? f = some (.normal f) := by simp [Component.ofPiece?, hidle, hdots]
    -- the names around the last one are dots
    rw [components_of_isAbsolute hp, components_of_isAbsolute hqabs, hnames, List.filterMap_append,
      List.filterMap_append, filterMap_ofPiece?_dots hbefore, List.filterMap_cons, hsaid,
      filterMap_ofPiece?_dots hbehind, List.append_nil, List.cons_append]

/-! ## Inside a directory -/

/-- A component that is a name, so that it neither stays nor turns back. -/
def Component.IsName : Component → Prop
  | .normal n => IsPlain n
  | _ => False

instance : DecidablePred Component.IsName
  | .normal n => inferInstanceAs (Decidable (IsPlain n))
  | .root => .isFalse id
  | .current => .isFalse id
  | .parent => .isFalse id

/-- By its spelling a path lies strictly below another one: it goes on with names, one at least. -/
def IsInside (home p : Path) : Prop :=
  ∃ cs : List Component, cs ≠ [] ∧ (∀ c ∈ cs, c.IsName) ∧ p.components = home.components ++ cs

instance (home p : Path) : Decidable (IsInside home p) :=
  decidable_of_iff (p.components = home.components ++ p.components.drop home.components.length ∧
      p.components.drop home.components.length ≠ [] ∧
        ∀ c ∈ p.components.drop home.components.length, c.IsName) (by
    constructor
    · rintro ⟨hp, hne, hnames⟩
      exact ⟨_, hne, hnames, hp⟩
    · rintro ⟨cs, hne, hnames, hp⟩
      rw [hp, List.drop_left]
      exact ⟨rfl, hne, hnames⟩)

/-- What is said behind the root: `..` or names. -/
theorem eq_parent_or_isName {ns : List (List UInt8)} (hslash : ∀ n ∈ ns, slash ∉ n) {c : Component}
    (h : c ∈ ns.filterMap Component.ofPiece?) : c = .parent ∨ c.IsName := by
  obtain ⟨piece, hpiece, hc⟩ := List.mem_filterMap.mp h
  rcases ofPiece?_eq_some (hslash piece hpiece) hc with ⟨-, rfl⟩ | ⟨hn, rfl⟩
  · exact .inl rfl
  · exact .inr hn

theorem noSlash_of_mem_names {n : List UInt8} (h : n ∈ p.names) : slash ∉ n :=
  not_mem_of_mem_splitOn (List.mem_filter.mp h).1

/-- Among what is said, `..` is the only way of turning back, so it can be looked for among the names. -/
theorem parent_mem_said_iff : Component.parent ∈ p.names.filterMap Component.ofPiece? ↔ dotDot ∈ p.names := by
  constructor
  · intro h
    obtain ⟨piece, hpiece, hc⟩ := List.mem_filterMap.mp h
    rcases ofPiece?_eq_some (noSlash_of_mem_names hpiece) hc with ⟨rfl, -⟩ | ⟨-, hc⟩
    · exact hpiece
    · cases hc
  · exact fun h => List.mem_filterMap.mpr ⟨dotDot, h, by decide⟩

/-- Nothing is said by dots alone. -/
theorem said_eq_nil_iff : p.names.filterMap Component.ofPiece? = [] ↔ ∀ n ∈ p.names, n = dot := by
  constructor
  · intro h n hn
    have hidle : isIdle n = true := ofPiece?_eq_none_iff.mp (List.filterMap_eq_nil_iff.mp h n hn)
    have hne : n ≠ [] := by simpa using (List.mem_filter.mp hn).2
    simpa [isIdle, hne] using hidle
  · exact filterMap_ofPiece?_dots

/-- Components that go on with what is said behind the root lie inside where they turn nowhere back. There has to be one
at least, or the place is the outer one itself. -/
theorem isInside_iff {home : Path} {cs : List Component} (h : p.components = home.components ++ cs)
    (hcs : ∀ c ∈ cs, c = .parent ∨ c.IsName) : IsInside home p ↔ cs ≠ [] ∧ Component.parent ∉ cs := by
  constructor
  · rintro ⟨cs', hne, hnames, hp⟩
    obtain rfl : cs = cs' := List.append_cancel_left (h.symm.trans hp)
    exact ⟨hne, fun hparent => hnames _ hparent⟩
  · rintro ⟨hne, hparent⟩
    refine ⟨cs, hne, fun c hc => (hcs c hc).resolve_left ?_, h⟩
    rintro rfl
    exact hparent hc

end Bootstrap.Path
