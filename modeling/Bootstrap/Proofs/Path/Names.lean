import Bootstrap.Path
import Mathlib.Data.List.TakeWhile
import Mathlib.Tactic.Common

/-!
# Names of built paths

What a walk reads of a path is its list of names, so every way of building a path gets a lemma that says what it does
to the names:

* `Path.names_join` — the names of `q` below `p` are those of `p` followed by those of `q`.
* `Path.names_ofComponents` — a path built from plain names has exactly these.
* `Path.names_prefix_of_mem_parents` — a path above `p` has the first few names of `p`.
* `Path.parent?_append_slash` — the path right above a name in a named directory is that of the directory.
* `Path.exists_dots_of_parent?` — in general the path right above a name may have lost a few `.`.

`Path.Descends` says of a path that walking it never leads above the place where the walk starts.
-/

namespace Bootstrap

/-- Joining two groups of lists puts one separator between them, if neither is empty. -/
theorem intercalate_append {α : Type} (x : α) {ls ms : List (List α)} (hls : ls ≠ []) (hms : ms ≠ []) :
    [x].intercalate (ls ++ ms) = [x].intercalate ls ++ x :: [x].intercalate ms := by
  induction ls with
  | nil => exact absurd rfl hls
  | cons l ls ih =>
      cases ls with
      | nil => rw [List.singleton_append, List.intercalate_cons_of_ne_nil hms]; simp
      | cons l' ls =>
          rw [List.cons_append, List.intercalate_cons_of_ne_nil (by simp), ih (by simp),
            List.intercalate_cons_cons]
          simp only [List.append_assoc]

/-- Lists that start with others, a separator between each two of them, start with these. -/
theorem intercalate_prefix {α : Type} (x : α) {ls ms : List (List α)} (h : ls <+: ms) :
    [x].intercalate ls <+: [x].intercalate ms := by
  obtain ⟨more, rfl⟩ := h
  by_cases hls : ls = []
  · rw [hls]
    exact List.nil_prefix
  · by_cases hmore : more = []
    · have hsame : ls ++ more = ls := by rw [hmore, List.append_nil]
      exact hsame.symm ▸ List.prefix_rfl
    · rw [intercalate_append x hls hmore]
      exact List.prefix_append _ _

/-- What stands between two separators holds none itself. Induction on the list, with the piece that is being read. -/
theorem not_mem_of_mem_splitOn {α : Type} [BEq α] [LawfulBEq α] {sep : α} {xs piece : List α}
    (h : piece ∈ xs.splitOn sep) : sep ∉ piece := by
  induction xs generalizing piece with
  | nil =>
      simp only [List.splitOn_nil, List.mem_singleton] at h
      simp [h]
  | cons x xs ih =>
      rw [List.splitOn_cons_eq_if_modifyHead] at h
      split at h
      · -- the separator itself: it starts a new piece
        rcases List.mem_cons.mp h with rfl | h
        · simp
        · exact ih h
      · next hx =>
        -- anything else goes in front of the first piece
        cases hs : xs.splitOn sep with
        | nil => exact absurd hs (List.splitOn_ne_nil _ _)
        | cons first rest =>
            rw [hs, List.modifyHead_cons] at h
            rcases List.mem_cons.mp h with rfl | h
            · have hfirst : sep ∉ first := ih (by rw [hs]; simp)
              have hne : sep ≠ x := fun e => hx (by simp [e])
              simp [hfirst, hne]
            · exact ih (by rw [hs]; simp [h])

namespace Path

/-! ## Names between slashes -/

@[simp] theorem names_mk_nil : (⟨[]⟩ : Path).names = [] := rfl

@[simp] theorem names_empty : empty.names = [] := rfl

@[simp] theorem isAbsolute_empty : empty.isAbsolute = false := rfl

theorem names_append_slash (a b : List UInt8) :
    (⟨a ++ slash :: b⟩ : Path).names = (⟨a⟩ : Path).names ++ (⟨b⟩ : Path).names := by
  simp only [names, pieces, List.splitOn_append_cons_self, List.filter_append]

/-! ## Plain names -/

/-- A name that stands for itself: not empty, no slash in it, and neither `.` nor `..`. -/
structure IsPlain (n : List UInt8) : Prop where
  ne_nil : n ≠ []
  noSlash : slash ∉ n
  ne_dot : n ≠ dot
  ne_dotDot : n ≠ dotDot

instance (n : List UInt8) : Decidable (IsPlain n) :=
  decidable_of_iff (n ≠ [] ∧ slash ∉ n ∧ n ≠ dot ∧ n ≠ dotDot)
    ⟨fun ⟨h₁, h₂, h₃, h₄⟩ => ⟨h₁, h₂, h₃, h₄⟩, fun h => ⟨h.ne_nil, h.noSlash, h.ne_dot, h.ne_dotDot⟩⟩

/-- A plain name contains no slash, so it does not start with one. -/
theorem IsPlain.isAbsolute {n : List UInt8} (h : IsPlain n) : (⟨n⟩ : Path).isAbsolute = false := by
  cases n with
  | nil => rfl
  | cons b n =>
      have hb : b ≠ slash := fun e => h.noSlash (by simp [e])
      simp [Path.isAbsolute, hb]

/-- A plain name, read as a path, has itself as its only name. -/
theorem IsPlain.names {n : List UInt8} (h : IsPlain n) : (⟨n⟩ : Path).names = [n] := by
  simp [Path.names, pieces, List.splitOn_eq_singleton h.noSlash, h.ne_nil]

/-! ## Joining -/

theorem exists_of_endsInSlash {p : Path} (h : p.endsInSlash = true) : ∃ a, p.bytes = a ++ [slash] := by
  simp only [endsInSlash, beq_iff_eq] at h
  exact List.getLast?_eq_some_iff.mp h

/-- The names of a relative path come behind those of the path it is joined to, whether or not a slash stood between
them already. Nearly all that is known of joined paths follows from this. -/
theorem names_join {p q : Path} (hq : q.isAbsolute = false) : (p.join q).names = p.names ++ q.names := by
  simp only [join, hq, Bool.false_eq_true, if_false]
  split
  · next h =>
    -- no slash is put between them
    rcases Bool.or_eq_true_iff.mp h with h | h
    · obtain ⟨bytes⟩ := p
      simp only [List.isEmpty_iff] at h
      subst h
      rfl
    · obtain ⟨a, ha⟩ := exists_of_endsInSlash h
      obtain ⟨bytes⟩ := p
      simp only at ha
      subst ha
      have hp : (⟨a ++ [slash]⟩ : Path).names = (⟨a⟩ : Path).names := by
        rw [names_append_slash]; simp
      rw [hp, ← names_append_slash, List.append_assoc, List.singleton_append]
  · exact names_append_slash _ _

/-- Only an absolute path would take the place of the one it is joined to. -/
theorem isAbsolute_join {p q : Path} (hq : q.isAbsolute = false) :
    (p.join q).isAbsolute = p.isAbsolute := by
  simp only [join, hq, Bool.false_eq_true, if_false]
  obtain ⟨bytes⟩ := p
  cases bytes with
  | nil => simpa [isAbsolute] using hq
  | cons b bytes => split <;> simp [isAbsolute]

theorem names_joinText {p : Path} {name : String} (h : IsPlain (Text.encode name)) :
    (p.joinText name).names = p.names ++ [Text.encode name] := by
  rw [joinText, ofText, names_join h.isAbsolute, h.names]

theorem isAbsolute_joinText {p : Path} {name : String} (h : IsPlain (Text.encode name)) :
    (p.joinText name).isAbsolute = p.isAbsolute := isAbsolute_join h.isAbsolute

/-- Plain names joined one after the other are the names that are added. Induction on the names, with the path as it
grows. -/
theorem names_foldl_join {ns : List (List UInt8)} (h : ∀ n ∈ ns, IsPlain n) (p : Path) :
    ((ns.map Component.normal).foldl (fun p c => p.join ⟨c.bytes⟩) p).names = p.names ++ ns := by
  induction ns generalizing p with
  | nil => simp
  | cons n ns ih =>
      have hn : IsPlain n := h n (by simp)
      rw [List.map_cons, List.foldl_cons, ih (fun n hn => h n (by simp [hn]))]
      show (p.join ⟨n⟩).names ++ ns = _
      rw [names_join hn.isAbsolute, hn.names, List.append_assoc, List.singleton_append]

/-- They leave it absolute or relative as it was. -/
theorem isAbsolute_foldl_join {ns : List (List UInt8)} (h : ∀ n ∈ ns, IsPlain n) (p : Path) :
    ((ns.map Component.normal).foldl (fun p c => p.join ⟨c.bytes⟩) p).isAbsolute = p.isAbsolute := by
  induction ns generalizing p with
  | nil => rfl
  | cons n ns ih =>
      rw [List.map_cons, List.foldl_cons, ih (fun n hn => h n (by simp [hn]))]
      exact isAbsolute_join (h n (by simp)).isAbsolute

theorem names_ofComponents {ns : List (List UInt8)} (h : ∀ n ∈ ns, IsPlain n) :
    (ofComponents (ns.map Component.normal)).names = ns := by
  rw [ofComponents, names_foldl_join h, names_empty, List.nil_append]

/-- A path that is put together from plain names starts from the empty path and stays relative. -/
theorem isAbsolute_ofComponents {ns : List (List UInt8)} (h : ∀ n ∈ ns, IsPlain n) :
    (ofComponents (ns.map Component.normal)).isAbsolute = false := by
  rw [ofComponents, isAbsolute_foldl_join h, isAbsolute_empty]

theorem ofComponents_singleton {n : List UInt8} (h : IsPlain n) : ofComponents [.normal n] = ⟨n⟩ := by
  show empty.join ⟨n⟩ = ⟨n⟩
  simp [join, h.isAbsolute, empty]

/-! ## Descending paths -/

/-- Relative and without `..`: a walk along such a path, links apart, never leads above the directory where it
starts. -/
structure Descends (p : Path) : Prop where
  relative : p.isAbsolute = false
  noParent : dotDot ∉ p.names

instance (p : Path) : Decidable p.Descends :=
  decidable_of_iff (p.isAbsolute = false ∧ dotDot ∉ p.names) ⟨fun h => ⟨h.1, h.2⟩, fun h => ⟨h.1, h.2⟩⟩

theorem IsPlain.descends {n : List UInt8} (h : IsPlain n) : (⟨n⟩ : Path).Descends := by
  refine ⟨h.isAbsolute, ?_⟩
  rw [h.names, List.mem_singleton]
  exact fun e => h.ne_dotDot e.symm

/-- Plain names that are put together go down one by one, and nowhere else. -/
theorem descends_ofComponents {ns : List (List UInt8)} (h : ∀ n ∈ ns, IsPlain n) :
    (ofComponents (ns.map Component.normal)).Descends := by
  refine ⟨isAbsolute_ofComponents h, ?_⟩
  rw [names_ofComponents h]
  exact fun hmem => (h _ hmem).ne_dotDot rfl

/-! ## The paths above a path -/

/-- The bytes of a path behind its front. Front and rest together are the path, so pieces can be counted from either
end. -/
theorem bytes_eq_front_append (p : Path) : p.bytes = p.front ++ p.bytes.drop p.front.length := by
  have hfront : p.front <+: p.bytes := by
    unfold front
    split
    · next h =>
      simp only [isAbsolute, beq_iff_eq] at h
      obtain ⟨rest, hrest⟩ := List.head?_eq_some_iff.mp h
      exact ⟨rest, by simp [hrest]⟩
    · split
      · next h =>
        -- the first piece is `.`, and the pieces joined again are the bytes
        obtain ⟨rest, hrest⟩ := List.head?_eq_some_iff.mp h
        have hjoin : [slash].intercalate (p.bytes.splitOn slash) = p.bytes := List.intercalate_splitOn slash
        rw [show p.bytes.splitOn slash = dot :: rest from hrest] at hjoin
        cases rest with
        | nil => exact ⟨[], by simpa using hjoin⟩
        | cons n rest => exact ⟨_, by rw [← hjoin, List.intercalate_cons_cons, List.append_assoc]⟩
      · exact List.nil_prefix
  obtain ⟨rest, hrest⟩ := hfront
  conv_lhs => rw [← hrest]
  rw [← hrest, List.drop_left]

/-- Behind a leading `.` the path ends or goes on with a slash. Otherwise the dot would be the beginning of a longer
name. -/
theorem drop_front_of_dot {p : Path} (h : p.front = dot) :
    p.bytes.drop p.front.length = [] ∨ ∃ r, p.bytes.drop p.front.length = slash :: r := by
  have hbytes := bytes_eq_front_append p
  cases hr : p.bytes.drop p.front.length with
  | nil => exact .inl rfl
  | cons b r =>
      right
      refine ⟨r, ?_⟩
      have hhead : p.pieces.head? = some dot := by
        unfold front at h
        split at h
        · exact absurd h (by decide)
        · split at h
          · assumption
          · exact absurd h (by decide)
      rw [hr, h] at hbytes
      by_contra hne
      have hb : (b == slash) = false := by
        simp only [beq_eq_false_iff_ne, ne_eq]
        exact fun e => hne (by rw [e])
      -- the first piece would be longer than `.`
      rw [pieces, hbytes, show dot ++ b :: r = 0x2E :: b :: r from rfl,
        List.splitOn_cons_eq_if_modifyHead, List.splitOn_cons_eq_if_modifyHead] at hhead
      simp only [show ((0x2E : UInt8) == slash) = false from by decide, hb, Bool.false_eq_true,
        if_false] at hhead
      cases hs : r.splitOn slash with
      | nil => exact absurd hs (List.splitOn_ne_nil _ _)
      | cons first rest => simp [hs, dot] at hhead

/-- What `front` cuts off is nothing, a slash at the very start, or a single dot, behind which there is a slash or
nothing. -/
theorem front_cases (p : Path) :
    p.front = [] ∨ p.front = [slash] ∨ p.front = dot ∧
      (p.bytes.drop p.front.length = [] ∨ ∃ r, p.bytes.drop p.front.length = slash :: r) := by
  by_cases h : p.front = dot
  · exact .inr (.inr ⟨h, drop_front_of_dot h⟩)
  · unfold front at h ⊢
    split at h
    · exact .inr (.inl (by simp [*]))
    · split at h
      · exact absurd rfl h
      · exact .inl (by simp [*])

/-- A path above others is written with some of their pieces, or it is the empty path. Induction on the pieces, read
from the end. -/
theorem mem_parentsFrom {front : List UInt8} {pieces : List (List UInt8)} {q : Path}
    (h : q ∈ parentsFrom front pieces) :
    q = empty ∨ ∃ qs, qs <:+ pieces ∧ q = ⟨front ++ [slash].intercalate qs.reverse⟩ := by
  induction pieces with
  | nil =>
      unfold parentsFrom at h
      split at h
      · exact .inl (List.mem_singleton.mp h)
      · exact absurd h (by simp)
  | cons piece above ih =>
      -- one piece is taken off: its own path, unless it is idle, and then those above
      have step : q ∈ parentsFrom front above → q = empty ∨
          ∃ qs, qs <:+ piece :: above ∧ q = ⟨front ++ [slash].intercalate qs.reverse⟩ := by
        intro h
        rcases ih h with h | ⟨qs, hqs, h⟩
        · exact .inl h
        · exact .inr ⟨qs, hqs.trans (List.suffix_cons _ _), h⟩
      unfold parentsFrom at h
      split at h
      · exact step h
      · rcases List.mem_cons.mp h with h | h
        · exact .inr ⟨_, (List.dropWhile_suffix _).trans (List.suffix_cons _ _), h⟩
        · exact step h

/-- A path above `p` is `p` cut off at a slash, unless it has no names at all. So it is as usable as `p`, and `p` goes
on behind it. -/
theorem cut_of_mem_parents {p q : Path} (h : q ∈ p.parents) :
    q.bytes <+: p.bytes ∧ (q.names = [] ∨ q = p ∨ ∃ r, p.bytes = q.bytes ++ slash :: r) := by
  rcases mem_parentsFrom h with rfl | ⟨qs, hqs, rfl⟩
  · exact ⟨List.nil_prefix, .inl rfl⟩
  · have hbytes := bytes_eq_front_append p
    set rest := p.bytes.drop p.front.length with hrest
    have hpieces : qs.reverse <+: rest.splitOn slash := by
      rw [← List.reverse_reverse (rest.splitOn slash), List.reverse_prefix]
      exact hqs.trans (List.dropWhile_suffix _)
    have hjoin : [slash].intercalate (rest.splitOn slash) = rest := List.intercalate_splitOn slash
    obtain ⟨more, hmore⟩ := hpieces
    by_cases hne : more = []
    · -- all pieces: the path itself
      subst hne
      rw [List.append_nil] at hmore
      rw [← hmore] at hjoin
      rw [hjoin, ← hbytes]
      exact ⟨List.prefix_rfl, .inr (.inl rfl)⟩
    · by_cases hqs' : qs.reverse = []
      · -- no piece: the front alone
        rw [hqs']
        simp only [List.intercalate_nil, List.append_nil]
        refine ⟨⟨rest, hbytes.symm⟩, ?_⟩
        rcases front_cases p with hf | hf | ⟨-, hr | ⟨r, hr⟩⟩
        · exact .inl (by rw [hf]; rfl)
        · exact .inl (by rw [hf]; rfl)
        · refine .inr (.inl ?_)
          obtain ⟨bytes⟩ := p
          rw [← hrest] at hr
          simpa [hr] using hbytes.symm
        · exact .inr (.inr ⟨r, by rw [← hr]; exact hbytes⟩)
      · -- some pieces: the cut is at the slash behind the last of them
        have hcut : p.bytes = (p.front ++ [slash].intercalate qs.reverse) ++
            slash :: [slash].intercalate more := by
          rw [List.append_assoc, ← intercalate_append slash hqs' hne, hmore, hjoin]
          exact hbytes
        exact ⟨⟨_, hcut.symm⟩, .inr (.inr ⟨_, hcut⟩)⟩

/-- A path above `p` has the first few names of `p`, for it is `p` cut off at a slash. -/
theorem names_prefix_of_mem_parents {p q : Path} (h : q ∈ p.parents) : q.names <+: p.names := by
  rcases (cut_of_mem_parents h).2 with h | rfl | ⟨r, hr⟩
  · rw [h]
    exact List.nil_prefix
  · exact List.prefix_rfl
  · obtain ⟨bytes⟩ := p
    obtain ⟨qbytes⟩ := q
    simp only at hr
    rw [hr, names_append_slash]
    exact List.prefix_append _ _

/-- A path above `p` starts where `p` starts, unless it is empty. -/
theorem isAbsolute_of_mem_parents {p q : Path} (h : q ∈ p.parents) (hne : q.bytes ≠ []) :
    q.isAbsolute = p.isAbsolute := by
  obtain ⟨r, hr⟩ := (cut_of_mem_parents h).1
  unfold isAbsolute
  rw [← hr, List.head?_append, Option.or_of_isSome (List.isSome_head?.mpr hne)]

theorem IsPlain.not_isIdle {n : List UInt8} (h : IsPlain n) : isIdle n = false := by
  simp [isIdle, h.ne_nil, h.ne_dot]

/-- A slash separates pieces wherever it stands, so pieces are taken on its two sides. -/
theorem pieces_append_slash (a b : List UInt8) :
    (⟨a ++ slash :: b⟩ : Path).pieces = (⟨a⟩ : Path).pieces ++ (⟨b⟩ : Path).pieces := List.splitOn_append_cons_self ..

/-- What stands behind a slash does not change the front of what stands before it. -/
theorem front_append_slash {a : List UInt8} (ha : a ≠ []) (b : List UInt8) :
    (⟨a ++ slash :: b⟩ : Path).front = (⟨a⟩ : Path).front := by
  have habs : (⟨a ++ slash :: b⟩ : Path).isAbsolute = (⟨a⟩ : Path).isAbsolute := by
    simp only [isAbsolute, List.head?_append, Option.or_of_isSome (List.isSome_head?.mpr ha)]
  have hpiece : (⟨a ++ slash :: b⟩ : Path).pieces.head? = (⟨a⟩ : Path).pieces.head? := by
    have hpieces : (⟨a⟩ : Path).pieces ≠ [] := List.splitOn_ne_nil _ _
    rw [pieces_append_slash, List.head?_append, Option.or_of_isSome (List.isSome_head?.mpr hpieces)]
  rw [front, front, habs, hpiece]

theorem length_front_le (p : Path) : p.front.length ≤ p.bytes.length := by
  conv_rhs => rw [bytes_eq_front_append p]
  simp

/-- Names with a slash between two of them are these names. -/
theorem names_intercalate {ls : List (List UInt8)} (h : ∀ l ∈ ls, slash ∉ l) :
    (⟨[slash].intercalate ls⟩ : Path).names = ls.filter fun l => !l.isEmpty := by
  by_cases hne : ls = []
  · rw [hne]
    rfl
  · rw [names, pieces, List.splitOn_intercalate slash h hne]

/-- Behind the front of a path its names go on with those of what is written there. The front itself holds no name but
dots. -/
theorem names_front_append {p : Path} {r : List UInt8} (hr : r <+: p.bytes.drop p.front.length) :
    (⟨p.front ++ r⟩ : Path).names = (⟨p.front⟩ : Path).names ++ (⟨r⟩ : Path).names := by
  rcases front_cases p with hf | hf | ⟨hf, hrest⟩
  · rw [hf]
    rfl
  · rw [hf]
    exact names_append_slash [] r
  · -- a leading `.` is followed by a slash or by nothing
    cases r with
    | nil => rw [List.append_nil, names_mk_nil, List.append_nil]
    | cons b r =>
        rcases hrest with hnil | ⟨rest, hrest⟩
        · rw [hnil] at hr
          exact absurd (List.prefix_nil.mp hr) (by simp)
        · rw [hrest] at hr
          obtain ⟨rfl, -⟩ := List.cons_prefix_cons.mp hr
          have hslash : (⟨slash :: r⟩ : Path).names = (⟨r⟩ : Path).names := names_append_slash [] r
          rw [names_append_slash, hslash]

/-- Of pieces that say nothing only dots are names. -/
theorem eq_dot_of_mem_filter {ls : List (List UInt8)} {m : List UInt8} (hidle : ∀ l ∈ ls, isIdle l = true)
    (h : m ∈ ls.filter fun l => !l.isEmpty) : m = dot := by
  obtain ⟨hmem, hne⟩ := List.mem_filter.mp h
  have hm := hidle m hmem
  simp only [isIdle, Bool.or_eq_true, beq_iff_eq] at hm
  exact hm.resolve_left (by simpa using hne)

/-- The last piece that counts says something. -/
theorem not_isIdle_of_backwards {p : Path} {n : List UInt8} {above : List (List UInt8)} (h : p.backwards = n :: above) :
    isIdle n = false := by
  have hne : p.backwards ≠ [] := by simp [h]
  have hhead : isIdle (p.backwards.head hne) = false := List.head_dropWhile_not isIdle hne
  have heq : p.backwards.head hne = n := List.head_eq_iff_head?_eq_some hne |>.mpr (by rw [h, List.head?_cons])
  rwa [heq] at hhead

/-- The pieces of a path in order: those of the path right above it, idle ones, the last name, idle ones. Idle pieces
come from slashes in a row and from dots. -/
theorem pieces_of_parent? {p q : Path} (h : p.parent? = some q) :
    q = empty ∨ ∃ kept before n behind, (∃ above, p.backwards = n :: above) ∧
      (p.bytes.drop p.front.length).splitOn slash = kept ++ (before ++ n :: behind) ∧
        (∀ l ∈ before, isIdle l = true) ∧ (∀ l ∈ behind, isIdle l = true) ∧
          q = ⟨p.front ++ [slash].intercalate kept⟩ := by
  set ps := (p.bytes.drop p.front.length).splitOn slash with hps
  have hback : ps.reverse = ps.reverse.takeWhile isIdle ++ p.backwards := List.takeWhile_append_dropWhile.symm
  rw [parent?, parents] at h
  cases hcases : p.backwards with
  -- nothing is left but what says nothing: there is no path above, or the empty one
  | nil =>
      rw [hcases, parentsFrom] at h
      split at h
      · exact .inl (Option.some.inj h).symm
      · cases h
  | cons n above =>
      rw [hcases, parentsFrom, if_neg (by simp [not_isIdle_of_backwards hcases]), List.head?_cons] at h
      cases h
      refine .inr ⟨(above.dropWhile isIdle).reverse, (above.takeWhile isIdle).reverse, n,
        (ps.reverse.takeWhile isIdle).reverse, ⟨above, rfl⟩, ?_,
        fun l hl => List.mem_takeWhile_imp (List.mem_reverse.mp hl),
        fun l hl => List.mem_takeWhile_imp (List.mem_reverse.mp hl), rfl⟩
      have habove : above.reverse = (above.dropWhile isIdle).reverse ++ (above.takeWhile isIdle).reverse := by
        rw [← List.reverse_append, List.takeWhile_append_dropWhile]
      -- the pieces, read from the end: idle ones, the last name, idle ones again, and what is kept
      calc ps = (ps.reverse.takeWhile isIdle ++ n :: above).reverse := by
            rw [← hcases, ← hback, List.reverse_reverse]
        _ = above.reverse ++ n :: (ps.reverse.takeWhile isIdle).reverse := by simp
        _ = _ := by rw [habove, List.append_assoc]

/-- **The names of a path** are those of the path right above it and then its last one, perhaps with dots before and behind
it. -/
theorem names_of_parent? {p q : Path} (h : p.parent? = some q) :
    q = empty ∨ ∃ before n behind, (∃ above, p.backwards = n :: above) ∧ p.names = q.names ++ before ++ n :: behind ∧
      (∀ m ∈ before, m = dot) ∧ ∀ m ∈ behind, m = dot := by
  rcases pieces_of_parent? h with hempty | ⟨kept, before, n, behind, ⟨above, hback⟩, hsplit, hbefore, hbehind, rfl⟩
  · exact .inl hempty
  · refine .inr ⟨before.filter fun l => !l.isEmpty, n, behind.filter fun l => !l.isEmpty, ⟨above, hback⟩, ?_,
      fun m => eq_dot_of_mem_filter hbefore, fun m => eq_dot_of_mem_filter hbehind⟩
    set rest := p.bytes.drop p.front.length with hrest
    -- the bytes that are kept are a beginning of the path, so nothing changes in front of them
    have hkept : [slash].intercalate kept <+: rest := by
      have hprefix := intercalate_prefix slash (hsplit ▸ List.prefix_append kept _)
      rwa [List.intercalate_splitOn slash] at hprefix
    have hnoSlash : ∀ l ∈ kept, slash ∉ l :=
      fun l hl => not_mem_of_mem_splitOn (hsplit ▸ List.mem_append_left _ hl)
    have hne : n ≠ [] := by
      rintro rfl
      cases not_isIdle_of_backwards hback
    calc p.names = (⟨p.front ++ rest⟩ : Path).names := by rw [← bytes_eq_front_append]
      _ = (⟨p.front⟩ : Path).names ++ (rest.splitOn slash).filter fun l => !l.isEmpty :=
          names_front_append List.prefix_rfl
      _ = (⟨p.front⟩ : Path).names ++ (⟨[slash].intercalate kept⟩ : Path).names ++
            (before.filter fun l => !l.isEmpty) ++ n :: behind.filter fun l => !l.isEmpty := by
          rw [hsplit, names_intercalate hnoSlash]
          simp [hne]
      _ = _ := by rw [names_front_append hkept]

/-- The names in front of a last name that is no dot: those of the path right above it, and perhaps dots, which
`parent?` has dropped. -/
theorem exists_dots_of_parent? {p q : Path} {names : List (List UInt8)} {n : List UInt8} (h : p.parent? = some q)
    (hnames : p.names = names ++ [n]) (hn : n ≠ dot) :
    q = empty ∨ ∃ dots, names = q.names ++ dots ∧ ∀ m ∈ dots, m = dot := by
  rcases names_of_parent? h with hempty | ⟨before, m, behind, -, hp, hbefore, hbehind⟩
  · exact .inl hempty
  · refine .inr ⟨before, ?_, hbefore⟩
    rw [hnames] at hp
    rcases List.eq_nil_or_concat behind with rfl | ⟨front, x, rfl⟩
    · exact List.append_inj_left' hp rfl
    · -- the last name would be a dot
      rw [List.concat_eq_append, ← List.cons_append, ← List.append_assoc] at hp
      have hlast : [n] = [x] := List.append_inj_right' hp rfl
      cases hlast
      exact absurd (hbehind n (by simp)) hn

/-- The parent of a name in a named directory is the path of the directory, as it is written. Nothing is dropped there,
since neither name is a dot. -/
theorem parent?_append_slash {a g n : List UInt8} (ha : a ≠ []) (hg : IsPlain g) (hn : IsPlain n) :
    (⟨a ++ slash :: g ++ slash :: n⟩ : Path).parent? = some ⟨a ++ slash :: g⟩ := by
  -- the root part is the same, as two more names do not change it
  have hfront : (⟨a ++ slash :: g ++ slash :: n⟩ : Path).front = (⟨a⟩ : Path).front := by
    rw [front_append_slash (by simp), front_append_slash ha]
  set rest := a.drop (⟨a⟩ : Path).front.length with hrest
  have hcut : a = (⟨a⟩ : Path).front ++ rest := bytes_eq_front_append ⟨a⟩
  -- read from the end, the two names come first
  have hbackwards : (⟨a ++ slash :: g ++ slash :: n⟩ : Path).backwards = n :: g :: (rest.splitOn slash).reverse := by
    have hlen := length_front_le ⟨a⟩
    rw [backwards, hfront, List.append_assoc, List.drop_append_of_le_length hlen, ← hrest, ← List.append_assoc,
      List.splitOn_append_cons_self, List.splitOn_append_cons_self, List.splitOn_eq_singleton hg.noSlash,
      List.splitOn_eq_singleton hn.noSlash]
    simp [hn.not_isIdle]
  rw [parent?, parents, hbackwards, parentsFrom, if_neg (by simp [hn.not_isIdle]), hfront]
  simp only [List.head?_cons, List.dropWhile_cons, hg.not_isIdle, Bool.false_eq_true, if_false, List.reverse_cons,
    List.reverse_reverse]
  rw [intercalate_append slash (List.splitOn_ne_nil _ _) (by simp), List.intercalate_splitOn]
  simp [← List.append_assoc, ← hcut]

end Path

end Bootstrap
