import Bootstrap.Json.Value

/-!
# Writing JSON

Documents are written with one field a line and two blanks for each level. In strings only quotes, backslashes and
control characters are escaped, the common ones by a letter and the others by four lower-case digits.
-/

namespace Bootstrap.Json

/-- The text of one character inside a string. -/
def escapeChar (c : Char) : List Char :=
  if c = '"' then ['\\', '"']
  else if c = '\\' then ['\\', '\\']
  else if c.toNat = 8 then ['\\', 'b']
  else if c.toNat = 12 then ['\\', 'f']
  else if c = '\n' then ['\\', 'n']
  else if c = '\r' then ['\\', 'r']
  else if c = '\t' then ['\\', 't']
  else if c.toNat < 0x20 then
    ['\\', 'u', '0', '0', Nat.digitChar (c.toNat / 16), Nat.digitChar (c.toNat % 16)]
  else [c]

def writeString (s : List Char) : List Char := '"' :: (s.flatMap escapeChar ++ ['"'])

/-- A new line at a level. -/
def newLine (level : Nat) : List Char := '\n' :: List.replicate (2 * level) ' '

mutual

/-- A value inside a document at a level. -/
def writeValue (level : Nat) : Value → List Char
  | .null | .brokenText => "null".toList
  | .bool true => "true".toList
  | .bool false => "false".toList
  | .number digits => digits
  | .text s => writeString s
  | .array [] => "[]".toList
  | .array (v :: vs) =>
    '[' :: (newLine (level + 1) ++ writeValue (level + 1) v ++ writeElements (level + 1) vs ++
      newLine level ++ [']'])
  | .object [] => "\x7b\x7d".toList
  | .object ((k, v) :: fs) =>
    '\x7b' :: (newLine (level + 1) ++ writeString (k.getD []) ++ ": ".toList ++ writeValue (level + 1) v ++
      writeFields (level + 1) fs ++ newLine level ++ ['\x7d'])

/-- The elements of an array behind the first. -/
def writeElements (level : Nat) : List Value → List Char
  | [] => []
  | v :: vs => ',' :: (newLine level ++ writeValue level v ++ writeElements level vs)

/-- The fields of an object behind the first. -/
def writeFields (level : Nat) : List (Option (List Char) × Value) → List Char
  | [] => []
  | (k, v) :: fs =>
    ',' :: (newLine level ++ writeString (k.getD []) ++ ": ".toList ++ writeValue level v ++
      writeFields level fs)

end

/-- A document, with a newline at its end. -/
def Value.document (v : Value) : String := String.ofList (writeValue 0 v ++ ['\n'])

end Bootstrap.Json
