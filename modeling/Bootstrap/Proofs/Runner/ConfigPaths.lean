import Bootstrap.Runner.ConfigPaths
import Mathlib.Data.List.DropRight
import Mathlib.Tactic.Common

/-!
# Paths in the runner configuration, in one pass

`Runner.absolutePaths` goes through each line twice, and what the first pass wrote is read by the second one. What a
reader expects is one pass over the line as it stands, `Runner.substitute`, that writes both directories as they are.

* `replaceMark_eq_substitute` — one pass of the two is a substitution for one mark.
* `substitute_substitute` — two substitutions are one, in which the second one goes through the texts that the first
  one writes. Nothing else of the line changes its place: a text that is written ends with a slash, behind which no value
  starts, and a mark of the second substitution is no character behind which a value starts.
* `absolutePaths_simultaneous` — so the two passes are the one pass, unless the directory of the bundle itself has a
  `~/` at which a value may start.
-/

namespace Bootstrap.Runner

/-! ## Substitution in one pass -/

/-- Reads a line once, from left to right: where a value may start, and `c/` stands there, the text for `c` is written
in its place, if there is one; every other character is copied. `opens` tells whether a value may start here. -/
def substitute (text : Char → Option (List Char)) : (opens : Bool) → List Char → List Char
  | _, [] => []
  | _, [c] => [c]
  | opens, c :: d :: rest =>
    match if opens && d == '/' then text c else none with
    | some written => written ++ substitute text false rest
    | none => c :: substitute text (startsValue c) (d :: rest)

/-- A text for one mark alone. -/
def markText (mark : Char) (text : List Char) (c : Char) : Option (List Char) := if c = mark then some text else none

/-- The texts for `./` and for `~/`. -/
def markTexts (bundle home : List Char) (c : Char) : Option (List Char) :=
  (markText '.' bundle c).or (markText '~' home c)

/-- What is written for a directory: its path without slashes at the end, and one slash. -/
def directoryText (directory : String) : List Char := directory.toList.rdropWhile (· == '/') ++ ['/']

/-- Every line read once, with a newline behind it. -/
def substituted (contents : String) (bundle home : List Char) : String :=
  String.ofList ((Text.lines contents.toList).flatMap fun line =>
    substitute (markTexts bundle home) true line ++ ['\n'])

/-- Whether a value may start behind these characters of a line. -/
def mayStartBehind (before : List Char) : Bool := before.getLast?.elim true startsValue

section Substitute

variable {text text' : Char → Option (List Char)} {opens : Bool} {c d : Char}

/-- A mark is replaced where a value may start and a slash comes behind it. -/
theorem mark_iff {written : List Char} : (if opens && d == '/' then text c else none) = some written ↔
    opens = true ∧ d = '/' ∧ text c = some written := by
  by_cases ho : opens = true <;> by_cases hd : d = '/' <;> simp [ho, hd]

/-- Otherwise the character is copied, and there are three ways to see it. -/
theorem copy_iff : (if opens && d == '/' then text c else none) = none ↔
    text c = none ∨ opens = false ∨ d ≠ '/' := by
  by_cases ho : opens = true <;> by_cases hd : d = '/' <;> simp [ho, hd]

/-- A character is copied if it has no text, if no value may start here, or if no slash comes next. -/
theorem substitute_cons {cs : List Char} (h : text c = none ∨ opens = false ∨ cs.head? ≠ some '/') :
    substitute text opens (c :: cs) = c :: substitute text (startsValue c) cs := by
  cases cs with
  | nil => rfl
  | cons d rest =>
    have hnone := copy_iff.mpr (h.imp_right (Or.imp_right fun hd => show d ≠ '/' by simpa using hd))
    rw [substitute, hnone]

/-- Where no value may start, the next character is copied. -/
theorem substitute_false_cons (cs : List Char) :
    substitute text false (c :: cs) = c :: substitute text (startsValue c) cs := substitute_cons (.inr (.inl rfl))

/-- At the start of a value a mark is replaced together with its slash. Behind it no value starts. -/
theorem substitute_mark {written rest : List Char} (h : text c = some written) :
    substitute text true (c :: '/' :: rest) = written ++ substitute text false rest := by
  rw [substitute, mark_iff.mpr ⟨rfl, rfl, h⟩]

/-- The first character of what is substituted into does not change where nothing may start. -/
theorem head?_substitute_false (cs : List Char) : (substitute text false cs).head? = cs.head? := by
  cases cs with
  | nil => rfl
  | cons c cs =>
    rw [substitute_false_cons]
    rfl

/-- Nothing starts behind a slash, so `../` is left alone. -/
theorem startsValue_slash : startsValue '/' = false := by decide

/-- Behind a slash a line is read as if it started inside a value. So a text that ends in a slash can be substituted
apart from what follows it. -/
theorem substitute_append_slash (hslash : text '/' = none) (front rest : List Char) :
    substitute text opens (front ++ '/' :: rest) =
      substitute text opens (front ++ ['/']) ++ substitute text false rest := by
  -- the slash itself, wherever it is met
  have hcopied : ∀ opens cs, substitute text opens ('/' :: cs) = '/' :: substitute text false cs := by
    intro opens cs
    rw [substitute_cons (.inl hslash), startsValue_slash]
  fun_induction substitute text opens front with
  | case1 opens =>
    rw [List.nil_append, List.nil_append, hcopied, hcopied]
    rfl
  | case2 opens c =>
    simp only [List.cons_append, List.nil_append]
    cases hmatch : if opens && '/' == '/' then text c else none with
    | some written =>
      obtain ⟨rfl, -, hwritten⟩ := mark_iff.mp hmatch
      rw [substitute_mark hwritten, substitute_mark hwritten, List.append_assoc]
      rfl
    | none =>
      have hcopy : ∀ cs : List Char, text c = none ∨ opens = false ∨ cs.head? ≠ some '/' := by
        intro cs
        rcases copy_iff.mp hmatch with h | h | h
        · exact .inl h
        · exact .inr (.inl h)
        · exact absurd rfl h
      rw [substitute_cons (hcopy _), substitute_cons (hcopy _), hcopied, hcopied]
      rfl
  | case3 opens c d more written hmatch ih =>
    obtain ⟨rfl, rfl, hwritten⟩ := mark_iff.mp hmatch
    simp only [List.cons_append]
    rw [substitute_mark hwritten, substitute_mark hwritten, ih, List.append_assoc]
  | case4 opens c d more hmatch ih =>
    have hcopy : ∀ cs : List Char, text c = none ∨ opens = false ∨ (d :: cs).head? ≠ some '/' :=
      fun cs => (copy_iff.mp hmatch).imp_right (Or.imp_right fun hd => by simpa using hd)
    simp only [List.cons_append] at ih ⊢
    rw [substitute_cons (hcopy _), substitute_cons (hcopy _), ih, List.cons_append]

/-- A line without a mark at which a value may start is copied. Induction on the line, where what counts is the
character in front. -/
theorem substitute_eq_self {cs : List Char}
    (h : ∀ before c after, cs = before ++ c :: '/' :: after → text c ≠ none →
      before.getLast?.elim opens startsValue = false) : substitute text opens cs = cs := by
  induction cs generalizing opens with
  | nil => rfl
  | cons c cs ih =>
    -- the first character is copied: it is no mark, or it does not open a value, or no slash is behind it
    have hcopy : text c = none ∨ opens = false ∨ cs.head? ≠ some '/' := by
      by_cases hc : text c = none
      · exact .inl hc
      · by_cases hd : cs.head? = some '/'
        · obtain ⟨after, rfl⟩ := List.head?_eq_some_iff.mp hd
          exact .inr (.inl (h [] c after rfl hc))
        · exact .inr (.inr hd)
    rw [substitute_cons hcopy, ih]
    intro before c' after hcs hc'
    have hbehind := h (c :: before) c' after (by rw [hcs]; rfl) hc'
    rw [List.getLast?_cons] at hbehind
    -- further on, what is in front of a mark reaches back to this character
    cases hlast : before.getLast? with
    | none => simpa [hlast] using hbehind
    | some b => simpa [hlast] using hbehind

/-! ## Two substitutions -/

/-- **Two substitutions are one.** The second one goes through the texts that the first one writes, and through nothing
else that the first one changed. -/
theorem substitute_substitute (hwritten : ∀ c written, text c = some written → ∃ front, written = front ++ ['/'])
    (hslash' : text' '/' = none) (hmark' : ∀ c, text' c ≠ none → startsValue c = false) (cs : List Char) :
    substitute text' opens (substitute text opens cs) =
      substitute (fun c => ((text c).map (substitute text' true)).or (text' c)) opens cs := by
  set both : Char → Option (List Char) := fun c => ((text c).map (substitute text' true)).or (text' c) with hboth
  fun_induction substitute text opens cs with
  | case1 opens => rfl
  | case2 opens c => rfl
  | case3 opens c d rest written hmatch ih =>
    -- what is written ends with a slash, so the second substitution treats it by itself
    obtain ⟨rfl, rfl, htext⟩ := mark_iff.mp hmatch
    obtain ⟨front, rfl⟩ := hwritten c written htext
    have hbothc : both c = some (substitute text' true (front ++ ['/'])) := by simp [hboth, htext]
    rw [List.append_assoc, List.singleton_append, substitute_append_slash hslash', ih, substitute_mark hbothc]
  | case4 opens c d rest hmatch ih =>
    have hcopy := copy_iff.mp hmatch
    cases hc : text' c with
    | none =>
      have hcopyBoth : both c = none ∨ opens = false ∨ (d :: rest).head? ≠ some '/' := by
        rcases hcopy with h | h | h
        · exact .inl (by simp [hboth, h, hc])
        · exact .inr (.inl h)
        · exact .inr (.inr (by simpa using h))
      rw [substitute_cons (.inl hc), ih, substitute_cons hcopyBoth]
    | some written =>
      -- behind this mark no value starts, so the first substitution copies the next character
      have hstart : startsValue c = false := hmark' c (by simp [hc])
      rw [hstart] at ih ⊢
      by_cases hhere : opens = true ∧ d = '/'
      · obtain ⟨rfl, rfl⟩ := hhere
        have htext : text c = none := by simpa using hcopy
        have hbothc : both c = some written := by simp [hboth, htext, hc]
        simp only [substitute_false_cons, startsValue_slash] at ih ⊢
        rw [substitute_mark hc, substitute_mark hbothc, List.tail_eq_of_cons_eq ih]
      · have hnext : ∀ cs : List Char, cs.head? = some d → opens = false ∨ cs.head? ≠ some '/' := by
          intro cs hcs
          rw [hcs]
          by_cases ho : opens = true
          · exact .inr fun hd => hhere ⟨ho, by simpa using hd⟩
          · exact .inl (by simpa using ho)
        rw [substitute_cons (.inr (hnext _ (head?_substitute_false _))), hstart, ih,
          substitute_cons (.inr (hnext _ rfl)), hstart]

end Substitute

/-! ## The two passes -/

section Passes

variable {mark : Char} {directory : List Char}

theorem markText_of_ne {c : Char} {text : List Char} (h : c ≠ mark) : markText mark text c = none := if_neg h

/-- The pass that the program makes is the substitution of a single mark. By the recursion of the pass, which looks at
three characters at a time: one at which a value may have started, the mark, and the slash. -/
theorem replaceInside_eq_substitute (cs : List Char) :
    replaceInside mark directory cs = substitute (markText mark (directory ++ ['/'])) false cs := by
  fun_induction replaceInside mark directory cs with
  | case1 => rfl
  | case2 c => rfl
  | case3 c d => rw [substitute_false_cons]; rfl
  | case4 c d e rest h ih =>
    simp only [Bool.and_eq_true, beq_iff_eq] at h
    obtain ⟨⟨hc, rfl⟩, rfl⟩ := h
    rw [substitute_false_cons, hc, substitute_mark (if_pos rfl), ih, List.append_assoc]
    rfl
  | case5 c d e rest h ih =>
    -- what comes next is no mark at which a value starts, so it does not matter whether one may start there
    have hcopy : markText mark (directory ++ ['/']) d = none ∨ startsValue c = false ∨ (e :: rest).head? ≠ some '/' := by
      by_cases hc : startsValue c = true
      · by_cases hd : d = mark
        · exact .inr (.inr fun he => h (by simp_all))
        · exact .inl (markText_of_ne hd)
      · exact .inr (.inl (by simpa using hc))
    rw [ih, substitute_false_cons, substitute_false_cons, substitute_cons hcopy]

/-- One pass over a line is a substitution for its mark. The pass looks for the mark as a pattern, the substitution goes
through the line once. -/
theorem replaceMark_eq_substitute (line : List Char) :
    replaceMark mark directory line = substitute (markText mark (directory ++ ['/'])) true line := by
  unfold replaceMark
  split
  · next c rest =>
    split
    · next hc =>
      -- a mark at the start of the line
      rw [substitute_mark (if_pos hc), replaceInside_eq_substitute, List.append_assoc]
      rfl
    · next hc => rw [replaceInside_eq_substitute, substitute_false_cons, substitute_cons (.inl (markText_of_ne hc))]
  · next hline =>
    rw [replaceInside_eq_substitute]
    cases line with
    | nil => rfl
    | cons c cs =>
      -- the line is too short to start with a mark and a slash
      have hnext : cs.head? ≠ some '/' := by
        intro h
        obtain ⟨rest, rfl⟩ := List.head?_eq_some_iff.mp h
        exact hline c rest rfl
      rw [substitute_false_cons, substitute_cons (.inr (.inr hnext))]

/-- Both passes over a line are one substitution for both marks. The text for the first mark has gone through the second
pass as well. -/
theorem replaceMark_replaceMark (bundle home line : List Char) :
    replaceMark '~' home (replaceMark '.' bundle line) =
      substitute (markTexts (substitute (markText '~' (home ++ ['/'])) true (bundle ++ ['/'])) (home ++ ['/'])) true
        line := by
  -- both passes are substitutions, and the second one also reads what the first one wrote
  rw [replaceMark_eq_substitute, replaceMark_eq_substitute, substitute_substitute]
  · congr 1
    funext c
    unfold markTexts markText
    split <;> rfl
  · intro c written hc
    unfold markText at hc
    split at hc
    · exact ⟨_, (Option.some.inj hc).symm⟩
    · cases hc
  · rfl
  · intro c hc
    by_cases hmark : c = '~'
    · subst hmark
      decide
    · exact absurd (markText_of_ne hmark) hc

end Passes

/-- **Paths are made absolute in one pass.** Each line is read once, `./` and `~/` are replaced where a value starts, and
the directory of the bundle is written with its own `~/` replaced in the same way. If it has none at which a value may
start, both directories are written as they are. -/
theorem absolutePaths_simultaneous (contents bundle home : String) :
    absolutePaths contents bundle home =
        substituted contents (substitute (markText '~' (directoryText home)) true (directoryText bundle))
          (directoryText home) ∧
      ((∀ before after, directoryText bundle = before ++ '~' :: '/' :: after → mayStartBehind before = false) →
        absolutePaths contents bundle home = substituted contents (directoryText bundle) (directoryText home)) := by
  have hpasses : absolutePaths contents bundle home =
      substituted contents (substitute (markText '~' (directoryText home)) true (directoryText bundle))
        (directoryText home) := by
    unfold absolutePaths absoluteChars substituted
    simp only [replaceMark_replaceMark]
    rfl
  refine ⟨hpasses, fun hinert => ?_⟩
  -- the second pass leaves the inserted directory alone if no mark in it stands where a value may start
  have hself : substitute (markText '~' (directoryText home)) true (directoryText bundle) = directoryText bundle := by
    refine substitute_eq_self fun before c after hsplit hc => ?_
    have hmark : c = '~' := by
      by_contra hne
      exact hc (markText_of_ne hne)
    subst hmark
    exact hinert before after hsplit
  rw [hpasses, hself]

/-- A `~/` in the directory of the bundle at which no value starts stays. -/
theorem absolutePaths_simultaneous_tildeDirectory :
    (∀ before after, directoryText "/w~/" = before ++ '~' :: '/' :: after → mayStartBehind before = false) ∧
      absolutePaths "a=./x:~/y ../~/z" "/w~/" "/h" =
        substituted "a=./x:~/y ../~/z" (directoryText "/w~/") (directoryText "/h") := by
  have hinert : ∀ before after, directoryText "/w~/" = before ++ '~' :: '/' :: after →
      mayStartBehind before = false := by
    intro before after h
    have hchars : directoryText "/w~/" = ['/', 'w', '~', '/'] := by decide
    rw [hchars] at h
    rcases before with _ | ⟨a, _ | ⟨b, _ | ⟨c, _ | ⟨d, more⟩⟩⟩⟩ <;> simp at h
    obtain ⟨rfl, rfl, -⟩ := h
    decide
  exact ⟨hinert, (absolutePaths_simultaneous _ _ _).2 hinert⟩

/-- A `~/` at which a value may start is replaced in the directory of the bundle as well. -/
theorem absolutePaths_blankTilde :
    absolutePaths "path = ./x" "/tmp/a ~" "/home/op" = "path = /tmp/a /home/op/x\n" ∧
      substituted "path = ./x" (directoryText "/tmp/a ~") (directoryText "/home/op") = "path = /tmp/a ~/x\n" := by
  decide +kernel

end Bootstrap.Runner
