import Bootstrap.Shell.Command
import Bootstrap.Shell.Quote
import Mathlib.Tactic.Common

/-!
# Quoted words are read back

A word that is quoted for the shell is read as the word itself, wherever it stands in a command line.

* `wordsFrom_quotedChars` — between single quotes the reader takes the characters of the word and nothing else, a single
  quote being given in double quotes by the way.
* `wordsFrom_quoteChars` — so behind a quoted word the reader has the word at hand, be it that it needed no quotes.
* `wordsFrom_join` — the words of a joined list are the words that were joined.
* `words?_join` — so joining loses nothing, and it leaves nothing outside quotes that a shell would act on.
-/

namespace Bootstrap.Shell

/-- The characters of a quoted word as they are read: outside quotes if the word needs none. -/
def glyphs (word : List Char) : List Glyph := word.map (⟨·, !word.isEmpty && word.all isInert⟩)

/-- The text of a word that is taken apart into characters is the word. -/
theorem text_glyphs (word : List Char) : Glyph.text (glyphs word) = String.ofList word := by
  have hchars : (Glyph.char ∘ fun c => ⟨c, !word.isEmpty && word.all isInert⟩) = id := rfl
  rw [Glyph.text, glyphs, List.map_map, hchars, List.map_id]

/-! ## Characters -/

/-- What an inert character is not. -/
structure IsLiteral (c : Char) : Prop where
  ne_single : c ≠ '\''
  ne_double : c ≠ '"'
  notMeta : isMeta c = false

/-- A character that is inert is none of those that end a word, quote or escape. The proof rules them out one by one. -/
theorem isLiteral_of_isInert {c : Char} (h : isInert c = true) : IsLiteral c where
  ne_single := by
    rintro rfl
    exact absurd h (by decide)
  ne_double := by
    rintro rfl
    exact absurd h (by decide)
  notMeta := by
    -- each sign that the shell takes for itself is looked at once
    have hsigns : (['$', '\x60', '\\', ';', '&', '|', '<', '>', '(', ')', '*', '?', '[', ']', '#', '~', '!',
        '\x7b', '\x7d', '\n'].all fun c => !isInert c) = true := by decide
    rw [isMeta, List.contains_eq_mem, decide_eq_false_iff_not]
    intro hmem
    have hnot := List.all_eq_true.mp hsigns c hmem
    rw [h] at hnot
    cases hnot

/-- Characters that separate words and are neither quotes nor inert. -/
structure IsSeparator (separates : Char → Bool) : Prop where
  blank : separates ' ' = true
  single : separates '\'' = false
  double : separates '"' = false
  inert : ∀ c, isInert c = true → separates c = false

/-- The test for gaps is such a test. It takes a blank and a tab, so what is left to see is that no inert character is
one of them. -/
theorem isSeparator_isGap : IsSeparator isGap where
  blank := rfl
  single := rfl
  double := rfl
  inert c hc := by
    have hblank : c ≠ ' ' := by
      rintro rfl
      exact absurd hc (by decide)
    have htab : c ≠ '\t' := by
      rintro rfl
      exact absurd hc (by decide)
    simp [isGap, hblank, htab]

/-- In a list of words over several lines a newline separates words too, and the rest is as in a line. -/
theorem isSeparator_isGap_or_newline : IsSeparator (fun c => isGap c || c == '\n') where
  blank := rfl
  single := rfl
  double := rfl
  inert c hc := by
    have hline : c ≠ '\n' := by
      rintro rfl
      exact absurd hc (by decide)
    simp [isSeparator_isGap.inert c hc, hline]

/-! ## Words -/

section

variable {separates : Char → Bool} (hs : IsSeparator separates)

include hs

/-- An inert character joins the word at hand, or starts one. -/
theorem wordsFrom_cons {c : Char} (h : isInert c = true) (word : Option (List Glyph)) (rest : List Char) :
    wordsFrom separates .bare word (c :: rest) =
      wordsFrom separates .bare (some (⟨c, true⟩ :: word.getD [])) rest := by
  have hc := isLiteral_of_isInert h
  rw [wordsFrom, hs.inert c h, hc.notMeta, if_neg hc.ne_single, if_neg hc.ne_double]
  rfl

/-- Inert characters go into the word that is being read, one by one. There has to be one, or a word would not even be
begun. -/
theorem wordsFrom_inert {cs : List Char} (h : ∀ c ∈ cs, isInert c = true) (hne : cs ≠ [])
    (word : Option (List Glyph)) (rest : List Char) :
    wordsFrom separates .bare word (cs ++ rest) =
      wordsFrom separates .bare (some ((cs.map (⟨·, true⟩)).reverse ++ word.getD [])) rest := by
  induction cs generalizing word with
  | nil => exact absurd rfl hne
  | cons c cs ih =>
      have hrest : ∀ c ∈ cs, isInert c = true := fun c' hc' => h c' (List.mem_cons_of_mem _ hc')
      rw [List.cons_append, wordsFrom_cons hs (h c (by simp))]
      by_cases hlast : cs = []
      · subst hlast
        rfl
      · rw [ih hrest hlast]
        simp

/-- Between quotes every character goes in, including a quote, which is written outside of the quotes. Induction on the
characters; behind each the reader is between quotes again. -/
theorem wordsFrom_quotedChars (cs : List Char) (word : List Glyph) (rest : List Char) :
    wordsFrom separates .single (some word) (cs.flatMap quotedChar ++ '\'' :: rest) =
      wordsFrom separates .bare (some ((cs.map (⟨·, false⟩)).reverse ++ word)) rest := by
  induction cs generalizing word with
  | nil => rfl
  | cons c cs ih =>
      have hstep : wordsFrom separates .single (some word) (quotedChar c ++ (cs.flatMap quotedChar ++ '\'' :: rest)) =
          wordsFrom separates .single (some (⟨c, false⟩ :: word)) (cs.flatMap quotedChar ++ '\'' :: rest) := by
        unfold quotedChar
        split
        · next hc =>
          -- out of the quotes, one sign in double quotes, and into the quotes again
          subst hc
          have hsingle := hs.single
          have hdouble := hs.double
          simp [wordsFrom, hsingle, hdouble]
        · next hc => rw [List.singleton_append, wordsFrom, if_neg hc, Option.getD_some]
      rw [List.flatMap_cons, List.append_assoc, hstep, ih]
      simp

/-- Behind a quoted word the reader has its characters at hand, and it is outside of quotes, so that more of the word
may follow. -/
theorem wordsFrom_quoteChars (cs : List Char) (word : Option (List Glyph)) (rest : List Char) :
    wordsFrom separates .bare word (quoteChars cs ++ rest) =
      wordsFrom separates .bare (some ((glyphs cs).reverse ++ word.getD [])) rest := by
  unfold quoteChars glyphs
  -- a word of inert characters is written as it is, any other between quotes
  split
  · next hinert =>
    rw [hinert]
    obtain ⟨hne, hall⟩ := Bool.and_eq_true_iff.mp hinert
    exact wordsFrom_inert hs (List.all_eq_true.mp hall) (by simpa using hne) word rest
  · next hquoted =>
    have hbare : (!cs.isEmpty && cs.all isInert) = false := by simpa using hquoted
    rw [hbare, List.cons_append, List.append_assoc, List.singleton_append]
    have hopen : wordsFrom separates .bare word ('\'' :: (cs.flatMap quotedChar ++ '\'' :: rest)) =
        wordsFrom separates .single (some (word.getD [])) (cs.flatMap quotedChar ++ '\'' :: rest) := by
      rw [wordsFrom, hs.single]
      rfl
    rw [hopen, wordsFrom_quotedChars hs]

/-- A blank ends the word at hand. -/
theorem wordsFrom_blank (word : List Glyph) (rest : List Char) :
    wordsFrom separates .bare (some word) (' ' :: rest) =
      (wordsFrom separates .bare none rest).map (word.reverse :: ·) := by
  rw [wordsFrom, hs.blank]
  rfl

/-- The words of a joined list, whatever characters they have. An empty word is there as well, since it is written as a
pair of quotes. -/
theorem wordsFrom_join (words : List String) :
    wordsFrom separates .bare none (join words).toList = some (words.map fun word => glyphs word.toList) := by
  have hquote : ∀ word : String, (quote word).toList = quoteChars word.toList := fun word => String.toList_ofList
  have hwords : (join words).toList = [' '].intercalate (words.map fun word => quoteChars word.toList) := by
    rw [join, String.toList_intercalate, List.map_map]
    congr 2
    exact funext hquote
  rw [hwords]
  clear hwords
  -- induction on the words: behind each but the last there is a blank, at which it ends
  induction words with
  | nil => rfl
  | cons word words ih =>
      have hlast : wordsFrom separates .bare none (quoteChars word.toList) = some [glyphs word.toList] := by
        have hread := wordsFrom_quoteChars hs word.toList none []
        rw [List.append_nil] at hread
        rw [hread, wordsFrom]
        simp
      -- the last word, and one with another behind it
      cases words with
      | nil => simpa using hlast
      | cons next words =>
          rw [List.map_cons] at ih
          rw [List.map_cons, List.map_cons, List.intercalate_cons_cons, List.append_assoc, wordsFrom_quoteChars hs,
            List.singleton_append, wordsFrom_blank hs, ih]
          simp

end

/-! ## Joined lists -/

/-- What stands outside quotes in a quoted word is inert. -/
theorem isInert_of_mem_glyphs {word : List Char} {g : Glyph} (hg : g ∈ glyphs word) (hbare : g.bare = true) :
    isInert g.char = true := by
  obtain ⟨c, hc, rfl⟩ := List.mem_map.mp hg
  -- one sign that is not inert puts the whole word into quotes
  obtain ⟨-, hall⟩ := Bool.and_eq_true_iff.mp hbare
  exact List.all_eq_true.mp hall c hc

/-- The words of a list are read back from their glyphs. -/
theorem map_text_glyphs (words : List String) :
    (words.map fun word => glyphs word.toList).map Glyph.text = words := by
  have htext : (Glyph.text ∘ fun word : String => glyphs word.toList) = id := by
    funext word
    rw [Function.comp, text_glyphs, String.ofList_toList, id]
  rw [List.map_map, htext, List.map_id]

/-- **Joining words loses nothing and leaves nothing to act on.** A joined list splits into the words that were joined,
whatever characters they have. A shell that takes it as a command finds the same words, and no character outside quotes
that is not inert: nothing in it starts an expansion, a redirection or another command. -/
theorem words?_join (words : List String) :
    words? (join words) = some words ∧
      ∃ ws, wordsFrom isGap .bare none (join words).toList = some ws ∧ ws.map Glyph.text = words ∧
        ∀ w ∈ ws, ∀ g ∈ w, g.bare = true → isInert g.char = true := by
  constructor
  · rw [words?, wordsFrom_join isSeparator_isGap_or_newline, Option.map_some, map_text_glyphs]
  · refine ⟨_, wordsFrom_join isSeparator_isGap words, map_text_glyphs words, ?_⟩
    intro w hw g hg hbare
    obtain ⟨word, -, rfl⟩ := List.mem_map.mp hw
    exact isInert_of_mem_glyphs hg hbare

example : words? (join ["", "'\n'", "a b", "it's"]) = some ["", "'\n'", "a b", "it's"] := by decide +kernel

end Bootstrap.Shell
