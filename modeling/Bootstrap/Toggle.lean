import Bootstrap.Text.Blank

/-!
# Toggles that are on by default

A toggle read from the environment or fixed at build time is on when it is unset, blank, `1`, `yes` or
`true`, whatever the letter case and with or without double quotes around it. Every other value turns it off.
-/

namespace Bootstrap.Toggle

/-- A text in ASCII lower case. -/
def lowerAscii (cs : List Char) : List Char := cs.map Char.toLower

/-- The word that a toggle value spells: blank characters and then double quotes are taken off both ends. -/
def word (value : String) : List Char := Text.stripBoth (· == '"') (Text.trim value.toList)

/-- Whether a toggle with this value is on; `none` is an unset toggle. -/
def isOn : Option String → Bool
  | none => true
  | some value =>
    let w := word value
    w.isEmpty || w == ['1'] || lowerAscii w == ['y', 'e', 's'] || lowerAscii w == ['t', 'r', 'u', 'e']

example : isOn (some " \"YES\" ") = true := by decide +kernel
example : isOn (some "0") = false := by decide +kernel

end Bootstrap.Toggle
