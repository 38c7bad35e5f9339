/-!
# Quoting for the shell

A command line that an operator can paste into a POSIX shell. A word of letters, digits and a few inert
signs is written as it is. Any other word stands in single quotes, in which only the single quote itself
needs care: it is written as `'"'"'`, that is, the quotes are closed, the sign is given in double quotes, and
the quotes are opened again.
-/

namespace Bootstrap.Shell

/-- Characters that mean themselves outside quotes. -/
def isInert (c : Char) : Bool :=
  c.isAlphanum || c == '-' || c == '_' || c == '.' || c == '/' || c == ':' || c == '=' || c == ','

/-- The text of one character between single quotes. -/
def quotedChar (c : Char) : List Char :=
  if c = '\'' then ['\'', '"', '\'', '"', '\''] else [c]

/-- One word of a command line. -/
def quoteChars (word : List Char) : List Char :=
  if !word.isEmpty && word.all isInert then word
  else '\'' :: (word.flatMap quotedChar ++ ['\''])

def quote (word : String) : String := String.ofList (quoteChars word.toList)

/-- A command line of some words, with a blank between two. -/
def join (words : List String) : String := String.intercalate " " (words.map quote)

example : join ["--limit", "db hosts", "it's", ""] = "--limit 'db hosts' 'it'\"'\"'s' ''" := by
  decide +kernel

end Bootstrap.Shell
