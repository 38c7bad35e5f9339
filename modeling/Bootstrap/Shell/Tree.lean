/-!
# Trees of shell scripts

A script is a list of commands over words. `Shell.Reader` reads them, `Shell.Execution` carries them out.

A shell works on bytes. Here every byte is the character with its number, so that a list of characters is any sequence
of bytes.
-/

namespace Bootstrap.Shell

/-- Bytes as the characters with their numbers. -/
def ofBytes (bytes : List UInt8) : List Char := bytes.map fun b => Char.ofNat b.toNat

/-- The bytes that characters stand for. -/
def toBytes (cs : List Char) : List UInt8 := cs.map fun c => UInt8.ofNat c.toNat

/-- What becomes of a variable that is not set. -/
inductive Fallback where
  /-- Another text takes its place. -/
  | other
  /-- Another text takes its place and becomes its value. -/
  | assign
  /-- The shell ends with a message. -/
  | refuse
  /-- Nothing; but another text takes the place of a variable that is set. -/
  | replace
deriving DecidableEq

/-- What a redirection does to a stream. -/
inductive Channel where
  | read
  | write
  /-- Writes even over files that are to be kept. -/
  | overwrite
  | append
  | readWrite
deriving DecidableEq

mutual

/-- A piece of a word. `quoted` tells whether it stands in quotes. -/
inductive Part where
  | text (quoted : Bool) (cs : List Char)
  | parameter (quoted : Bool) (name : List Char) (use : Use)
  /-- What commands print. -/
  | commands (quoted : Bool) (body : List Command)
  | arithmetic (quoted : Bool) (expression : List Part)

/-- What is taken of a variable. -/
inductive Use where
  | plain
  | length
  | fallback (kind : Fallback) (ifEmpty : Bool) (word : List Part)
  /-- The value without what matches a pattern, at its end or at its start. -/
  | cut (atEnd longest : Bool) (pattern : List Part)
  /-- There is no such use. -/
  | unknown

inductive Redirection where
  | file (stream : Nat) (channel : Channel) (target : List Part)
  /-- The stream goes where another one goes, or is closed. -/
  | copy (stream : Nat) (target : List Part)
  /-- A text that is part of the script is read. -/
  | document (stream : Nat) (content : List Part)

inductive Command where
  | simple (line : Nat) (assignments : List (List Char × List Part)) (words : List (List Part))
      (redirections : List Redirection)
  /-- Each command reads what the one before it prints. -/
  | pipeline (commands : List Command)
  | not (c : Command)
  | both (a b : Command)
  | either (a b : Command)
  | sequence (cs : List Command)
  | background (c : Command)
  | subshell (c : Command)
  | redirected (c : Command) (redirections : List Redirection)
  | choice (condition yes no : Command)
  | loop (negated : Bool) (condition body : Command)
  /-- A loop over words, or over the arguments of the shell. -/
  | each (name : List Char) (words : Option (List (List Part))) (body : Command)
  | select (subject : List Part) (branches : List (List (List Part) × Command))
  | define (name : List Char) (body : Command)

end

abbrev Word := List Part

end Bootstrap.Shell
