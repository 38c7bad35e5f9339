import Bootstrap.Json.Value

/-!
# Reading JSON

`read?` reads a whole document: one value with blanks, tabs and line ends around it. Numbers have no leading zeros,
strings no raw control characters, and nothing may follow the last element or field but its closing bracket.
-/

namespace Bootstrap.Json

/-- Blanks, tabs and line ends. -/
def isSpace (c : Char) : Bool := c == ' ' || c == '\n' || c == '\t' || c == '\r'

def skipSpace (cs : List Char) : List Char := cs.dropWhile isSpace

/-! ### Strings -/

def hexValue? (c : Char) : Option Nat :=
  if c.isDigit then some (c.toNat - '0'.toNat)
  else if 'a' ≤ c ∧ c ≤ 'f' then some (c.toNat - 'a'.toNat + 10)
  else if 'A' ≤ c ∧ c ≤ 'F' then some (c.toNat - 'A'.toNat + 10)
  else none

def hexValue4? (a b c d : Char) : Option Nat := do
  some (((← hexValue? a) * 16 + (← hexValue? b)) * 256 + (← hexValue? c) * 16 + (← hexValue? d))

/-- The character that a letter stands for behind a backslash. -/
def unescape? (c : Char) : Option Char :=
  if c = '"' || c = '\\' || c = '/' then some c
  else if c = 'b' then some (Char.ofNat 8)
  else if c = 'f' then some (Char.ofNat 12)
  else if c = 'n' then some '\n'
  else if c = 'r' then some '\r'
  else if c = 't' then some '\t'
  else none

/-- Puts a character in front of a string that may be broken. -/
def consChar (c : Char) : Option (Option (List Char) × List Char) → Option (Option (List Char) × List Char) :=
  Option.map fun r => (r.1.map (c :: ·), r.2)

/-- Marks a string as broken. -/
def asBroken : Option (Option (List Char) × List Char) → Option (Option (List Char) × List Char) :=
  Option.map fun r => (none, r.2)

def isHighHalf (n : Nat) : Bool := 0xD800 ≤ n && n ≤ 0xDBFF

def isLowHalf (n : Nat) : Bool := 0xDC00 ≤ n && n ≤ 0xDFFF

/-- The number of the character whose halves are given. -/
def joinHalves (high low : Nat) : Nat := 0x10000 + (high - 0xD800) * 0x400 + (low - 0xDC00)

/-- Reads a string behind its opening quote. The string is `none` when a half of a character in it stands
alone. -/
def readString? : List Char → Option (Option (List Char) × List Char)
  | [] => none
  | '"' :: rest => some (some [], rest)
  | '\\' :: 'u' :: a :: b :: c :: d :: '\\' :: 'u' :: e :: f :: g :: h :: rest =>
    match hexValue4? a b c d with
    | none => none
    | some n =>
      if isHighHalf n then
        match hexValue4? e f g h with
        | none => none
        | some m =>
          if isLowHalf m then consChar (Char.ofNat (joinHalves n m)) (readString? rest)
          else asBroken (readString? ('\\' :: 'u' :: e :: f :: g :: h :: rest))
      else if isLowHalf n then asBroken (readString? ('\\' :: 'u' :: e :: f :: g :: h :: rest))
      else consChar (Char.ofNat n) (readString? ('\\' :: 'u' :: e :: f :: g :: h :: rest))
  | '\\' :: 'u' :: a :: b :: c :: d :: rest =>
    match hexValue4? a b c d with
    | none => none
    | some n =>
      if isHighHalf n || isLowHalf n then asBroken (readString? rest)
      else consChar (Char.ofNat n) (readString? rest)
  | '\\' :: c :: rest =>
    match unescape? c with
    | none => none
    | some e => consChar e (readString? rest)
  | c :: rest => if c.toNat < 0x20 || c = '\\' then none else consChar c (readString? rest)

def textValue : Option (List Char) → Value
  | some s => .text s
  | none => .brokenText

/-! ### Numbers -/

/-- Digits, at least one. -/
def readDigits? (cs : List Char) : Option (List Char × List Char) :=
  let digits := cs.takeWhile Char.isDigit
  if digits.isEmpty then none else some (digits, cs.drop digits.length)

/-- A single zero, or digits that start with another one. -/
def readWhole? (cs : List Char) : Option (List Char × List Char) := do
  let (digits, rest) ← readDigits? cs
  if digits.head? = some '0' ∧ digits.length ≠ 1 then none else some (digits, rest)

def readFraction? : List Char → Option (List Char × List Char)
  | '.' :: cs => (readDigits? cs).map fun r => ('.' :: r.1, r.2)
  | cs => some ([], cs)

def readExponent? : List Char → Option (List Char × List Char)
  | [] => some ([], [])
  | c :: cs =>
    if c = 'e' || c = 'E' then
      match cs with
      | '+' :: ds => (readDigits? ds).map fun r => (c :: '+' :: r.1, r.2)
      | '-' :: ds => (readDigits? ds).map fun r => (c :: '-' :: r.1, r.2)
      | ds => (readDigits? ds).map fun r => (c :: r.1, r.2)
    else some ([], c :: cs)

/-- A number without its sign. -/
def readUnsigned? (cs : List Char) : Option (List Char × List Char) := do
  let (whole, cs) ← readWhole? cs
  let (fraction, cs) ← readFraction? cs
  let (exponent, cs) ← readExponent? cs
  some (whole ++ fraction ++ exponent, cs)

def readNumber? : List Char → Option (List Char × List Char)
  | '-' :: cs => (readUnsigned? cs).map fun r => ('-' :: r.1, r.2)
  | cs => readUnsigned? cs

/-! ### Values -/

/-- What follows a word. -/
def readWord? : (word : List Char) → List Char → Option (List Char)
  | [], cs => some cs
  | w :: word, c :: cs => if w = c then readWord? word cs else none
  | _ :: _, [] => none

mutual

/-- Reads a value at the front of a text; at most `fuel` nested readings are made. -/
def readValue? : (fuel : Nat) → List Char → Option (Value × List Char)
  | 0, _ => none
  | fuel + 1, cs =>
    match skipSpace cs with
    | [] => none
    | '"' :: rest => (readString? rest).map fun r => (textValue r.1, r.2)
    | '[' :: rest =>
      match skipSpace rest with
      | ']' :: rest => some (.array [], rest)
      | rest => (readElements? fuel rest).map fun r => (.array r.1, r.2)
    | '\x7b' :: rest =>
      match skipSpace rest with
      | '\x7d' :: rest => some (.object [], rest)
      | rest => (readFields? fuel rest).map fun r => (.object r.1, r.2)
    | 'n' :: rest => (readWord? "ull".toList rest).map fun r => (.null, r)
    | 't' :: rest => (readWord? "rue".toList rest).map fun r => (.bool true, r)
    | 'f' :: rest => (readWord? "alse".toList rest).map fun r => (.bool false, r)
    | rest => (readNumber? rest).map fun r => (.number r.1, r.2)

/-- Reads the elements of an array, at least one, and its closing bracket. -/
def readElements? : (fuel : Nat) → List Char → Option (List Value × List Char)
  | 0, _ => none
  | fuel + 1, cs =>
    match readValue? fuel cs with
    | none => none
    | some (v, rest) =>
      match skipSpace rest with
      | ']' :: rest => some ([v], rest)
      | ',' :: rest => (readElements? fuel rest).map fun r => (v :: r.1, r.2)
      | _ => none

/-- Reads the fields of an object, at least one, and its closing bracket. -/
def readFields? : (fuel : Nat) → List Char → Option (List (Option (List Char) × Value) × List Char)
  | 0, _ => none
  | fuel + 1, cs =>
    match skipSpace cs with
    | '"' :: rest =>
      match readString? rest with
      | none => none
      | some (key, rest) =>
        match skipSpace rest with
        | ':' :: rest =>
          match readValue? fuel rest with
          | none => none
          | some (v, rest) =>
            match skipSpace rest with
            | '\x7d' :: rest => some ([(key, v)], rest)
            | ',' :: rest => (readFields? fuel rest).map fun r => ((key, v) :: r.1, r.2)
            | _ => none
        | _ => none
    | _ => none

end

/-- Reads a document. Two readings for each character are enough. -/
def read? (s : String) : Option Value :=
  match readValue? (2 * s.toList.length + 2) s.toList with
  | some (v, rest) => if (skipSpace rest).isEmpty then some v else none
  | none => none

end Bootstrap.Json
