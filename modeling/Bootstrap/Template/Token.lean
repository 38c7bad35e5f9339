import Bootstrap.Decimal.Reader
import Bootstrap.Text.Quoted

/-!
# Tokens of a template

A template is text with outputs, blocks and comments in it. `tokens?` splits the text at them and splits what stands in
outputs and blocks into tokens. A minus sign next to a bracket takes the blank characters away that stand on its other
side. What stands between the two marks of a raw block is text.

Brackets inside an output have to be closed before its own bracket counts.
-/

namespace Bootstrap.Template

inductive Token where
  /-- Text between outputs and blocks. -/
  | data (s : List Char)
  | openOutput
  | closeOutput
  | openBlock
  | closeBlock
  | name (s : String)
  | quoted (s : List Char)
  | int (n : Nat)
  /-- A number with a point or an exponent, as it is written. -/
  | decimal (s : List Char)
  | sign (s : String)
deriving DecidableEq

/-- What the tokens in front of a bracket stand in. -/
inductive Bracket where
  | output
  | block
deriving DecidableEq

/-- The first of the two characters that close a bracket. -/
def Bracket.mark : Bracket → Char
  | .output => '\x7d'
  | .block => '%'

def Bracket.openToken : Bracket → Token
  | .output => .openOutput
  | .block => .openBlock

def Bracket.closeToken : Bracket → Token
  | .output => .closeOutput
  | .block => .closeBlock

def isNameStart (c : Char) : Bool := c.isAlpha || c == '_'

def isNameChar (c : Char) : Bool := c.isAlphanum || c == '_'

/-- The characters that separate tokens. -/
def isSpace (c : Char) : Bool := c == ' ' || c == '\t' || c == '\n' || c == '\r' || c == '\x0c'

def signsOfTwo : List String := ["==", "!=", ">=", "<=", "//", "**"]

def signsOfOne : List Char :=
  ['.', ',', ':', '~', '|', '+', '-', '*', '/', '%', '=', '<', '>', '(', ')', '[', ']', '\x7b', '\x7d']

/-! ### Numbers -/

/-- How far a number has been read. -/
inductive NumberPart where
  | whole
  /-- The digits of a place behind a point, to which no fraction belongs. -/
  | place
  /-- The digits of a number in another base than ten. -/
  | based
  | fraction
  /-- Behind the letter of an exponent. -/
  | exponent
  | exponentDigits
deriving DecidableEq

/-- Whether an exponent with digits in it starts here. -/
def startsExponent : List Char → Bool
  | e :: '+' :: d :: _ | e :: '-' :: d :: _ | e :: d :: _ => (e == 'e' || e == 'E') && d.isDigit
  | _ => false

/-- Whether the name of a field starts here, and no exponent. -/
def startsField (cs : List Char) : Bool := cs.head?.any isNameStart && !startsExponent cs

/-- Where a character leads that belongs to a number, by what follows it. Low lines may stand anywhere. A point in front of
a name asks for a field of the number. -/
def NumberPart.next? (base : Nat) (part : NumberPart) (c : Char) (rest : List Char) : Option NumberPart :=
  if c = '_' then some part
  else if c.isDigit then some (if part = .exponent then .exponentDigits else part)
  else
    match part with
    | .whole =>
      if c = '.' then (if startsField rest then none else some .fraction)
      else if c = 'e' || c = 'E' then some .exponent else none
    | .place => none
    | .fraction => if c = 'e' || c = 'E' then some .exponent else none
    | .exponent => if c = '+' || c = '-' then some .exponentDigits else none
    | .based => if base = 16 && (Text.hexValue? c).isSome then some .based else none
    | .exponentDigits => none

/-- Reads the characters of a number: how far it goes, its characters and what follows it. -/
def readNumberChars (base : Nat) (part : NumberPart) : List Char → NumberPart × List Char × List Char
  | [] => (part, [], [])
  | c :: rest =>
    match part.next? base c rest with
    | some part =>
      let (last, cs, rest) := readNumberChars base part rest
      (last, c :: cs, rest)
    | none => (part, [], c :: rest)

/-- The base that the front of a number names, and what follows it. -/
def numberBase : List Char → Nat × List Char
  | '0' :: c :: rest =>
    if c = 'b' || c = 'B' then (2, rest)
    else if c = 'o' || c = 'O' then (8, rest)
    else if c = 'x' || c = 'X' then (16, rest)
    else (10, '0' :: c :: rest)
  | cs => (10, cs)

/-- Whole numbers stay below this. -/
def wholeLimit : Nat := Nat.pow 2 128

/-- Reads a number at the front of a text that starts with a digit; `isPlace` tells that it stands behind a point. -/
def readNumber? (isPlace : Bool) (cs : List Char) : Option (Token × List Char) :=
  let (base, cs) := numberBase cs
  let start : NumberPart := if base ≠ 10 then .based else if isPlace then .place else .whole
  let (part, digits, rest) := readNumberChars base start cs
  if digits.getLast? = some '_' then none
  else
    let digits := digits.filter (· ≠ '_')
    if part = .whole || part = .place || part = .based then
      match Text.digitsValue? base digits with
      | some n => if n < wholeLimit then some (.int n, rest) else none
      | none => none
    else if (Decimal.read? digits).isSome then some (.decimal digits, rest)
    else none

/-! ### Tokens -/

/-- Reads the token at the front of a text that starts with no blank character; `isPlace` tells that a point stands in front
of it. -/
def readToken? (isPlace : Bool) : List Char → Option (Token × List Char)
  | [] => none
  | c :: rest =>
    if isNameStart c then
      let more := rest.takeWhile isNameChar
      some (.name (String.ofList (c :: more)), rest.drop more.length)
    else if c.isDigit then readNumber? isPlace (c :: rest)
    else if c = '"' || c = '\'' then (Text.readQuoted? c rest).map fun r => (.quoted r.1, r.2)
    else
      match rest with
      | d :: rest' =>
        if signsOfTwo.contains (String.ofList [c, d]) then some (.sign (String.ofList [c, d]), rest')
        else if signsOfOne.contains c then some (.sign (String.ofList [c]), rest) else none
      | [] => if signsOfOne.contains c then some (.sign (String.ofList [c]), []) else none

/-- What follows the bracket that closes an output or a block, if it comes next, and whether a minus sign stands before
it. -/
def closing? (b : Bracket) : List Char → Option (Bool × List Char)
  | '-' :: c :: '\x7d' :: rest => if c = b.mark then some (true, rest) else none
  | '+' :: c :: '\x7d' :: rest => if c = b.mark then some (false, rest) else none
  | c :: '\x7d' :: rest => if c = b.mark then some (false, rest) else none
  | _ => none

/-- How many brackets are open behind a token. -/
def openBehind (depth : Int) : Token → Int
  | .sign s =>
    if s = "(" || s = "[" || s = "\x7b" then depth + 1
    else if s = ")" || s = "]" || s = "\x7d" then depth - 1
    else depth
  | _ => depth

/-- Reads the tokens in front of a closing bracket; `isPlace` tells that a point was read last. At most `fuel` tokens are
read. -/
def readTokens? (b : Bracket) : (fuel : Nat) → (depth : Int) → (isPlace : Bool) → List Char →
    Option (List Token × Bool × List Char)
  | 0, _, _, _ => none
  | fuel + 1, depth, isPlace, cs =>
    let cs := cs.dropWhile isSpace
    match if depth = 0 then closing? b cs else none with
    | some (trims, rest) => some ([b.closeToken], trims, rest)
    | none =>
      match readToken? isPlace cs with
      | none => none
      | some (t, rest) =>
        (readTokens? b fuel (openBehind depth t) (t == .sign ".") rest).map fun r => (t :: r.1, r.2)

/-! ### Text -/

/-- A sign at the inner side of an opening bracket, and what follows it. -/
def openingSign : List Char → Bool × List Char
  | '-' :: rest => (true, rest)
  | '+' :: rest => (false, rest)
  | rest => (false, rest)

/-- Takes the blank characters at the end away if `trims` is set. -/
def trimEnd (trims : Bool) (cs : List Char) : List Char :=
  if trims then (cs.reverse.dropWhile Text.isBlank).reverse else cs

/-- Takes the blank characters at the start away if `trims` is set. -/
def trimStart (trims : Bool) (cs : List Char) : List Char :=
  if trims then cs.dropWhile Text.isBlank else cs

/-- What follows a comment, and whether a minus sign stands before its end; `minus` tells whether one was read last. -/
def afterComment? (minus : Bool) : List Char → Option (Bool × List Char)
  | '#' :: '\x7d' :: rest => some (minus, rest)
  | c :: rest => afterComment? (c == '-') rest
  | [] => none

/-- What follows a block that consists of one word, behind its opening bracket: whether a minus sign stands before its
end, and the rest. -/
def afterWord? (word : String) (cs : List Char) : Option (Bool × List Char) :=
  let cs := cs.dropWhile isSpace
  if word.toList.isPrefixOf cs then closing? .block ((cs.drop word.length).dropWhile isSpace) else none

/-- Reads the text of a raw block and the block that ends it: the text, whether the ending block takes the blank
characters in front of it away, whether it takes those behind it away, and what follows it. -/
def readRaw? : List Char → Option (List Char × Bool × Bool × List Char)
  | [] => none
  | '\x7b' :: '%' :: rest =>
    let (trimsBefore, inside) := openingSign rest
    match afterWord? "endraw" inside with
    | some (trimsAfter, rest) => some ([], trimsBefore, trimsAfter, rest)
    | none => (readRaw? ('%' :: rest)).map fun r => ('\x7b' :: r.1, r.2)
  | c :: rest => (readRaw? rest).map fun r => (c :: r.1, r.2)

/-- Text as a token; no text makes none. -/
def dataToken (s : List Char) : List Token := if s.isEmpty then [] else [.data s]

/-- Reads on in the text between outputs and blocks; `text` holds the characters read, last first. At most `fuel`
steps are made. -/
def readText? : (fuel : Nat) → (text : List Char) → List Char → Option (List Token)
  | 0, _, _ => none
  | _ + 1, text, [] => some (dataToken text.reverse)
  | fuel + 1, text, '\x7b' :: '#' :: rest => do
    let (trimsBefore, rest) := openingSign rest
    let (trimsAfter, rest) ← afterComment? false rest
    let more ← readText? fuel [] (trimStart trimsAfter rest)
    some (dataToken (trimEnd trimsBefore text.reverse) ++ more)
  | fuel + 1, text, '\x7b' :: c :: rest =>
    if c = '\x7b' || c = '%' then do
      let bracket := if c = '%' then Bracket.block else .output
      let (trimsBefore, rest) := openingSign rest
      let before := dataToken (trimEnd trimsBefore text.reverse)
      match if c = '%' then afterWord? "raw" rest else none with
      | some (trimsFront, rest) =>
        let (raw, trimsBack, trimsAfter, rest) ← readRaw? rest
        let more ← readText? fuel [] (trimStart trimsAfter rest)
        some (before ++ dataToken (trimEnd trimsBack (trimStart trimsFront raw)) ++ more)
      | none =>
        let (tokens, trimsAfter, rest) ← readTokens? bracket (rest.length + 1) 0 false rest
        let more ← readText? fuel [] (trimStart trimsAfter rest)
        some (before ++ bracket.openToken :: tokens ++ more)
    else readText? fuel ('\x7b' :: text) (c :: rest)
  | fuel + 1, text, c :: rest => readText? fuel (c :: text) rest

/-- A template without the newline at its end, and without the carriage return before that. -/
def withoutLastNewline (cs : List Char) : List Char :=
  let cs := if cs.getLast? = some '\n' then cs.dropLast else cs
  if cs.getLast? = some '\r' then cs.dropLast else cs

/-- The tokens of a template, unless a bracket in it is left open or something in it is no token. -/
def tokens? (template : String) : Option (List Token) :=
  let cs := withoutLastNewline template.toList
  readText? (cs.length + 1) [] cs

end Bootstrap.Template
