import Bootstrap.Launch.Request
import Bootstrap.Shell.Reader
import Bootstrap.Shell.Words

/-!
# Simple commands

What a POSIX shell does with the words of one command when nothing in it needs an expansion. Words in front that have the
form `NAME=value`, the name and the sign outside quotes, set a variable for the command alone. The others are the program
and its arguments.
-/

namespace Bootstrap.Shell

/-- The variable that a word sets and its value, if the word is an assignment. -/
def assignment? (word : List Glyph) : Option (String × String) :=
  let name := word.takeWhile fun g => g.bare && isNameChar g.char
  match word.drop name.length with
  | ⟨'=', true⟩ :: value =>
    if isName (name.map Glyph.char) then some (Glyph.text name, Glyph.text value) else none
  | _ => none

structure SimpleCommand where
  /-- The variables that are set for the command, in order. -/
  assignments : List (String × String)
  /-- The program and its arguments. -/
  words : List String
deriving DecidableEq

namespace SimpleCommand

/-- The command that some words make. -/
def ofWords (ws : List (List Glyph)) : SimpleCommand where
  assignments := (ws.takeWhile fun w => (assignment? w).isSome).filterMap assignment?
  words := (ws.dropWhile fun w => (assignment? w).isSome).map Glyph.text

/-- The command on a line, unless the line is open at its end, goes on with another command or asks for more than
splitting. -/
def read? (line : String) : Option SimpleCommand := (wordsFrom isGap .bare none line.toList).map ofWords

/-- The child that the shell starts for a command. A program without a slash would be looked for elsewhere. -/
def request? (c : SimpleCommand) : Option Launch.Request :=
  match c.words with
  | [] => none
  | program :: arguments =>
    if program.toList.contains '/' then
      some ⟨.ofText program, arguments, c.assignments.map fun v => (v.1, Text.encode v.2)⟩
    else none

example : read? "A='b c' 'd'=e /f g=h" = some ⟨[("A", "b c")], ["d=e", "/f", "g=h"]⟩ := by decide +kernel
example : read? "/f a\n/g" = none := by decide +kernel

end SimpleCommand

end Bootstrap.Shell
