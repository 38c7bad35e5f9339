import Bootstrap.Text.Blank
import Bootstrap.Text.Lines

/-!
# Paths in the runner configuration

The configuration in a bundle names paths relative to the bundle (`./`) and to the home directory (`~/`).
Before it is used, both are made absolute wherever they start a value: at the start of a line, or after a
blank character, `=`, `,` or `:`. Elsewhere, as at the end of `../`, they mean something else and stay.

Each line is gone through twice, first for `./` and then for `~/`, and is given a newline at its end.
-/

namespace Bootstrap.Runner

/-- The characters after which a value may start. -/
def startsValue (c : Char) : Bool := Text.isBlank c || c == '=' || c == ',' || c == ':'

/-- Goes on behind a character after which no value starts, or behind a replaced `mark/`: writes
`directory/` for each `mark/` that stands behind a character that starts a value. -/
def replaceInside (mark : Char) (directory : List Char) : List Char → List Char
  | [] => []
  | [c] => [c]
  | [c, d] => [c, d]
  | c :: d :: e :: rest =>
    if startsValue c && d == mark && e == '/' then
      c :: (directory ++ '/' :: replaceInside mark directory rest)
    else c :: replaceInside mark directory (d :: e :: rest)

/-- Writes `directory/` for each `mark/` of a line that starts a value. -/
def replaceMark (mark : Char) (directory line : List Char) : List Char :=
  match line with
  | c :: '/' :: rest =>
    if c = mark then directory ++ '/' :: replaceInside mark directory rest
    else replaceInside mark directory line
  | _ => replaceInside mark directory line

/-- A directory without slashes at its end. -/
def withoutSlashes (directory : List Char) : List Char :=
  (directory.reverse.dropWhile (· == '/')).reverse

/-- Makes the paths of a configuration absolute, in the characters of the texts. -/
def absoluteChars (contents bundle home : List Char) : List Char :=
  (Text.lines contents).flatMap fun line =>
    replaceMark '~' (withoutSlashes home) (replaceMark '.' (withoutSlashes bundle) line) ++ ['\n']

/-- Makes the paths of a configuration absolute: those of the bundle below `bundle`, those of the operator
below `home`. -/
def absolutePaths (contents bundle home : String) : String :=
  String.ofList (absoluteChars contents.toList bundle.toList home.toList)

example : absolutePaths "roles_path=./roles:../shared" "/w/" "/h" = "roles_path=/w/roles:../shared\n" := by
  decide +kernel

end Bootstrap.Runner
