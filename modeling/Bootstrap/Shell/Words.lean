/-!
# Words of a command line

How a POSIX shell splits a command line into words when nothing in it needs an expansion: blanks outside quotes
separate words, single quotes keep everything between them, and so do double quotes. A character outside quotes with
which the shell would do anything else, and one between double quotes that starts an expansion or an escape, has no
reading here.

A newline outside quotes ends a command. `words?` takes it as a blank, for lists of words over several lines.
-/

namespace Bootstrap.Shell

/-- Characters that the shell does not take literally outside quotes. -/
def isMeta (c : Char) : Bool :=
  ['$', '\x60', '\\', ';', '&', '|', '<', '>', '(', ')', '*', '?', '[', ']', '#', '~', '!',
    '\x7b', '\x7d', '\n'].contains c

/-- Where in a command line a reader stands. -/
inductive Quoting where
  /-- Outside quotes. -/
  | bare
  | single
  | double
deriving DecidableEq

/-- A character of a word. -/
structure Glyph where
  char : Char
  /-- Whether it stood outside quotes. -/
  bare : Bool
deriving DecidableEq

/-- The text of a word, whose quotes are taken off. -/
def Glyph.text (word : List Glyph) : String := String.ofList (word.map Glyph.char)

/-- Reads on from a place in a command line whose words are separated by some characters. `word` holds the characters
of the word at hand, last first, and is `none` between words. -/
def wordsFrom (separates : Char → Bool) :
    Quoting → (word : Option (List Glyph)) → List Char → Option (List (List Glyph))
  | .bare, word, [] => some (word.toList.map List.reverse)
  | .single, _, [] => none
  | .double, _, [] => none
  | .bare, word, c :: rest =>
    if separates c then (wordsFrom separates .bare none rest).map ((word.toList.map List.reverse) ++ ·)
    else if c = '\'' then wordsFrom separates .single (some (word.getD [])) rest
    else if c = '"' then wordsFrom separates .double (some (word.getD [])) rest
    else if isMeta c then none
    else wordsFrom separates .bare (some (⟨c, true⟩ :: word.getD [])) rest
  | .single, word, c :: rest =>
    if c = '\'' then wordsFrom separates .bare (some (word.getD [])) rest
    else wordsFrom separates .single (some (⟨c, false⟩ :: word.getD [])) rest
  | .double, word, c :: rest =>
    if c = '"' then wordsFrom separates .bare (some (word.getD [])) rest
    else if c = '$' || c = '\x60' || c = '\\' then none
    else wordsFrom separates .double (some (⟨c, false⟩ :: word.getD [])) rest

/-- What separates the words of one command. -/
def isGap (c : Char) : Bool := c == ' ' || c == '\t'

/-- The words of a command line, unless it is open at its end or asks for more than splitting. -/
def words? (line : String) : Option (List String) :=
  (wordsFrom (fun c => isGap c || c == '\n') .bare none line.toList).map (List.map Glyph.text)

example : words? "a 'b c'\"'\"'' ''" = some ["a", "b c'", ""] := by decide +kernel
example : words? "a $b" = none := by decide +kernel

end Bootstrap.Shell
