import Bootstrap.Text.Blank

/-!
# Quoted texts

A text in quotes may name characters behind a backslash: by a letter, by three octal digits, by two hexadecimal digits
behind `x` or by four behind `u`. Two of the latter may make one character together.
-/

namespace Bootstrap.Text

/-- The value of a hexadecimal digit. -/
def hexValue? (c : Char) : Option Nat :=
  if c.isDigit then some (c.toNat - '0'.toNat)
  else if 'a' ≤ c && c ≤ 'f' then some (c.toNat - 'a'.toNat + 10)
  else if 'A' ≤ c && c ≤ 'F' then some (c.toNat - 'A'.toNat + 10)
  else none

/-- The value of digits in some base up to sixteen, of which there is at least one. -/
def digitsValue? (base : Nat) (digits : List Char) : Option Nat :=
  if digits.isEmpty then none
  else digits.foldlM (fun n c => (hexValue? c).bind fun d => if d < base then some (n * base + d) else none) 0

/-- The value of `count` hexadecimal digits at the front of a text; a plus sign may take the place of the first. -/
def readHex? (count : Nat) (cs : List Char) : Option (Nat × List Char) :=
  let digits := cs.take count
  if digits.length ≠ count then none
  else
    (digitsValue? 16 (if digits.head? = some '+' then digits.tail else digits)).map fun n => (n, cs.drop count)

/-- The character that a letter stands for behind a backslash. -/
def escapeLetter? (c : Char) : Option Char :=
  if c = 'n' then some '\n'
  else if c = 'r' then some '\r'
  else if c = 't' then some '\t'
  else if c = 'b' then some (Char.ofNat 8)
  else if c = 'f' then some (Char.ofNat 12)
  else if c = '\\' || c = '/' || c = '"' || c = '\'' then some c
  else none

def isOctal (c : Char) : Bool := '0' ≤ c && c ≤ '7'

/-- Whether a unit of 16 bits is the first half of a character, or the second. -/
def isFirstHalf (n : Nat) : Bool := 0xD800 ≤ n && n < 0xDC00

def isSecondHalf (n : Nat) : Bool := 0xDC00 ≤ n && n < 0xE000

/-- Reads what stands behind a backslash: a character, and what follows. -/
def readEscape? : List Char → Option (Char × List Char)
  | [] => none
  | c :: rest =>
    if c = 'u' then do
      let (n, rest) ← readHex? 4 rest
      if isFirstHalf n then
        match rest with
        | '\\' :: 'u' :: rest =>
          let (m, rest) ← readHex? 4 rest
          if isSecondHalf m then some (Char.ofNat (0x10000 + (n - 0xD800) * 0x400 + (m - 0xDC00)), rest) else none
        | _ => none
      else if isSecondHalf n then none
      else some (Char.ofNat n, rest)
    else if c = 'x' then (readHex? 2 rest).map fun r => (Char.ofNat r.1, r.2)
    else if isOctal c then
      let digits := c :: (rest.take 2).takeWhile isOctal
      match digitsValue? 8 digits with
      | some n => if n < 256 then some (Char.ofNat n, rest.drop (digits.length - 1)) else none
      | none => none
    else (escapeLetter? c).map fun e => (e, rest)

/-- Reads the raw characters of a text behind its opening quote, and what follows the closing one. -/
def untilQuote? (quote : Char) : List Char → Option (List Char × List Char)
  | [] => none
  | '\\' :: c :: rest => (untilQuote? quote rest).map fun r => ('\\' :: c :: r.1, r.2)
  | c :: rest => if c = quote then some ([], rest) else (untilQuote? quote rest).map fun r => (c :: r.1, r.2)

/-- The text that raw characters stand for. At most `fuel` characters are made. -/
def unescape? : (fuel : Nat) → List Char → Option (List Char)
  | 0, _ => none
  | _ + 1, [] => some []
  | fuel + 1, '\\' :: rest => do
    let (c, rest) ← readEscape? rest
    return c :: (← unescape? fuel rest)
  | fuel + 1, c :: rest => (unescape? fuel rest).map (c :: ·)

/-- Reads a text behind its opening quote. -/
def readQuoted? (quote : Char) (cs : List Char) : Option (List Char × List Char) := do
  let (raw, rest) ← untilQuote? quote cs
  return (← unescape? (raw.length + 1) raw, rest)

example : (readQuoted? '"' "a\\u00e9\\12\"b".toList) = some ("aé\n".toList, ['b']) := by decide +kernel

end Bootstrap.Text
