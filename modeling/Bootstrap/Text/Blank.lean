/-!
# Blank characters

The characters that count as white space everywhere in this library: around the items of a comma
list, around a toggle value, around a machine id, and in front of a path in a runner configuration.

* `isBlank` is the Unicode property `White_Space`.
* `trim` removes blank characters from both ends and nothing else.
-/

namespace Bootstrap.Text

/-- The 25 characters with the Unicode property `White_Space`. -/
def isBlank (c : Char) : Bool :=
  let n := c.toNat
  (9 ≤ n && n ≤ 13) || n == 0x20 || n == 0x85 || n == 0xA0 || n == 0x1680 ||
    (0x2000 ≤ n && n ≤ 0x200A) || n == 0x2028 || n == 0x2029 || n == 0x202F ||
    n == 0x205F || n == 0x3000

/-- Removes the characters that satisfy `p` from both ends. -/
def stripBoth (p : Char → Bool) (cs : List Char) : List Char :=
  ((cs.dropWhile p).reverse.dropWhile p).reverse

/-- Removes blank characters from both ends. -/
def trim (cs : List Char) : List Char := stripBoth isBlank cs

/-- Removes blank characters from both ends of a text. -/
def trimText (s : String) : String := String.ofList (trim s.toList)

/-- What is removed at the front leaves no removable character in front. -/
theorem head_dropWhile {p : Char → Bool} {cs : List Char} {c : Char} {rest : List Char}
    (h : cs.dropWhile p = c :: rest) : p c = false := by
  induction cs with
  | nil => simp at h
  | cons a as ih =>
    by_cases ha : p a = true
    · exact ih (by simpa [List.dropWhile_cons, ha] using h)
    · simp only [List.dropWhile_cons, ha] at h
      cases h
      simpa using ha

end Bootstrap.Text
