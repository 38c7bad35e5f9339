/-!
# Lines

A line ends with a newline, which may have a carriage return in front of it; neither belongs to the
line. The last line may lack its newline, and then keeps a carriage return at its end. A text that ends
with a newline has no empty line after it.
-/

namespace Bootstrap.Text

/-- Removes one carriage return at the end. -/
def dropReturn (line : List Char) : List Char :=
  if line.getLast? = some '\r' then line.dropLast else line

/-- The lines of a text; `line` holds the characters read since the last newline. -/
def linesFrom (line : List Char) : List Char → List (List Char)
  | [] => if line.isEmpty then [] else [line]
  | '\n' :: rest => dropReturn line :: linesFrom [] rest
  | c :: rest => linesFrom (line ++ [c]) rest

/-- The lines of a text. -/
def lines (cs : List Char) : List (List Char) := linesFrom [] cs

example : lines "a\r\n\nb\r".toList = ["a".toList, [], "b\r".toList] := by decide

end Bootstrap.Text
