import Bootstrap.Decimal.Rounded
import Bootstrap.Template.Arguments
import Bootstrap.Text.Blank
import Bootstrap.Text.Lines
import Bootstrap.Text.LowerCase
import Bootstrap.Text.UpperCase

/-!
# Filters on texts

Filters that turn one text into another, or into the list of its pieces.
-/

namespace Bootstrap.Template.Filter

/-- Punctuation that separates words. -/
def isPunctuation (c : Char) : Bool :=
  let n := c.toNat
  (0x21 ≤ n && n ≤ 0x2F) || (0x3A ≤ n && n ≤ 0x40) || (0x5B ≤ n && n ≤ 0x60) || (0x7B ≤ n && n ≤ 0x7E)

/-- The words of a text with a capital in front; `starts` tells whether a word starts here. -/
def titleText (starts : Bool) : List Char → List Char
  | [] => []
  | c :: cs =>
    if isPunctuation c || Text.isBlank c then c :: titleText true cs
    else (if starts then Text.upperChars c else Text.lowerChars c) ++ titleText false cs

/-- A text with a capital in front and small letters behind it. -/
def capitalize : List Char → List Char
  | [] => []
  | c :: cs => Text.upperChars c ++ Text.lowerText cs

/-! ### Pieces -/

/-- What stands in front of a text inside another one and behind it. -/
def cutAt? (sub : List Char) : List Char → Option (List Char × List Char)
  | [] => if sub.isEmpty then some ([], []) else none
  | c :: cs =>
    if sub.isPrefixOf (c :: cs) then some ([], (c :: cs).drop sub.length)
    else (cutAt? sub cs).map fun r => (c :: r.1, r.2)

/-- The pieces between the occurrences of a text, of which at most `times` are cut at. -/
def pieces (sub : List Char) : (times : Nat) → List Char → List (List Char)
  | 0, cs => [cs]
  | times + 1, cs =>
    match cutAt? sub cs with
    | some (front, back) => front :: pieces sub times back
    | none => [cs]

/-- The pieces between the occurrences of a text. An empty text occurs around every character. -/
def splitText (sub : List Char) (limit : Option Nat) (cs : List Char) : List (List Char) :=
  if sub.isEmpty then
    let all := [] :: cs.map (fun c => [c]) ++ [[]]
    match limit with
    | some (n + 1) => if all.length ≤ n + 1 then all else all.take n ++ [(all.drop n).flatten]
    | _ => all
  else pieces sub ((limit.map (· - 1)).getD cs.length) cs

/-- The words of a text, between blank characters. -/
def wordsOf (cs : List Char) : List (List Char) := (cs.splitOnP Text.isBlank).filter fun w => !w.isEmpty

/-- The first words of a text, and all that follows them as one piece. -/
def firstWords : (count : Nat) → List Char → List (List Char)
  | 0, cs => if cs.isEmpty then [] else [cs]
  | count + 1, cs =>
    let rest := cs.dropWhile Text.isBlank
    if rest.isEmpty then (if cs.isEmpty then [] else [cs])
    else if count = 0 then [rest]
    else
      let word := rest.takeWhile fun c => !Text.isBlank c
      word :: firstWords count (rest.drop word.length)

/-- The text with every occurrence of one text replaced by another. -/
def replaceText (old new cs : List Char) : List Char := new.intercalate (splitText old none cs)

/-- A text without its last newline, and without the carriage return before that. -/
def dropLineEnd (cs : List Char) : List Char :=
  let cs := if cs.getLast? = some '\n' then cs.dropLast else cs
  if cs.getLast? = some '\r' then cs.dropLast else cs

/-- A text with blanks in front of its lines; the first line and empty lines get them only on demand. -/
def indentText (width : Nat) (first empty : Bool) (cs : List Char) : List Char :=
  let blanks := List.replicate width ' '
  let indented (line : List Char) : List Char := if line.isEmpty && !empty then line else blanks ++ line
  match (dropLineEnd cs).splitOn '\n' with
  | [] => []
  | line :: lines => dropLineEnd (((if first then indented line else line) :: lines.map indented).flatMap (· ++ ['\n']))

/-! ### Markup -/

/-- A character of a text inside markup. -/
def escapeMarkup (c : Char) : List Char :=
  if c = '<' then "&lt;".toList
  else if c = '>' then "&gt;".toList
  else if c = '&' then "&amp;".toList
  else if c = '"' then "&quot;".toList
  else if c = '\'' then "&#x27;".toList
  else if c = '/' then "&#x2f;".toList
  else [c]

/-- What is printed for a value inside markup. -/
def markup : Value → List Char
  | .text s true => s
  | v => if v.rank ≤ 3 then v.display else v.display.flatMap escapeMarkup

/-! ### Safe texts -/

/-- A text that is as safe as the value that it was made of. -/
def alike (v : Value) (s : List Char) : Value := .text s v.isSafe

/-- Replaces one text by another. Where markup is escaped, what is not safe is escaped as soon as anything safe takes part; the
text to be replaced stays as it is. -/
def replace (escapes : Bool) (v old new : Value) : Value :=
  if escapes && (v.isSafe || old.isSafe || new.isSafe) then
    .text (replaceText old.display (markup new) (markup v)) true
  else .plain (replaceText old.display new.display v.display)

/-! ### Formats -/

/-- How a value is filled into a format. -/
structure Slot where
  left : Bool := false
  zeros : Bool := false
  plus : Bool := false
  blank : Bool := false
  /-- Whether the base of a number is told. -/
  marked : Bool := false
  width : Nat := 0
  precision : Option Nat := none

/-- Fills a text up to the width of a slot; zeros go behind the sign of a number. -/
def Slot.pad (slot : Slot) (sign body : List Char) : List Char :=
  let missing := slot.width - (sign.length + body.length)
  if slot.left then sign ++ body ++ List.replicate missing ' '
  else if slot.zeros then sign ++ List.replicate missing '0' ++ body
  else List.replicate missing ' ' ++ sign ++ body

/-- Fills a text up to the width of a slot with blanks. -/
def Slot.padText (slot : Slot) (cs : List Char) : List Char := { slot with zeros := false }.pad [] cs

/-- The sign in front of a number of a slot. -/
def Slot.sign (slot : Slot) (negative : Bool) : List Char :=
  if negative then ['-'] else if slot.plus then ['+'] else if slot.blank then [' '] else []

/-- A whole number in a slot. -/
def Slot.whole (slot : Slot) (base : Nat) (mark : String) (upper : Bool) (n : Int) : List Char :=
  let digits := Nat.toDigits base n.natAbs
  let digits := List.replicate (slot.precision.getD 0 - digits.length) '0' ++ digits
  let digits := if upper then digits.map Char.toUpper else digits
  slot.pad (slot.sign (n < 0) ++ if slot.marked then mark.toList else []) digits

/-- A number with a point in a slot, laid out with a number of places. -/
def Slot.pointed (slot : Slot) (layout : Nat → Float → List Char) (upper : Bool) (x : Float) : List Char :=
  let body := if x.isNaN then "nan".toList else if x.isInf then "inf".toList else layout (slot.precision.getD 6) x
  let body := if upper then body.map Char.toUpper else body
  if x.isNaN || x.isInf then { slot with zeros := false }.pad (slot.sign (x < 0.0)) body
  else slot.pad (slot.sign (Decimal.Binary.ofFloat x).negative) body

/-- What a value looks like in a slot for values of some kind; a safe format escapes the texts in it. -/
def Slot.fill? (safe : Bool) (slot : Slot) (kind : Char) (v : Value) : Option (List Char) :=
  let text (cs : List Char) : List Char := slot.padText (match slot.precision with
    | some n => cs.take n
    | none => cs)
  let escaped (cs : List Char) : List Char := if safe then cs.flatMap escapeMarkup else cs
  if kind = 's' then some (text (if safe then markup v else v.display))
  else if kind = 'r' || kind = 'a' then some (text (escaped v.shown))
  else if kind = 'd' || kind = 'i' || kind = 'u' then
    match v with
    | .float x =>
      if x.isNaN || x.isInf then none else some (slot.whole 10 "" false (Decimal.Binary.ofFloat x).truncate)
    | v => v.asInt?.map (slot.whole 10 "" false)
  else if kind = 'x' then v.asInt?.map (slot.whole 16 "0x" false)
  else if kind = 'X' then v.asInt?.map (slot.whole 16 "0X" true)
  else if kind = 'o' then v.asInt?.map (slot.whole 8 "0o" false)
  else if kind = 'f' || kind = 'F' then (v.asFloat? false).map (slot.pointed Decimal.fixed (kind = 'F'))
  else if kind = 'e' || kind = 'E' then (v.asFloat? false).map (slot.pointed Decimal.scientific (kind = 'E'))
  else if kind = 'g' || kind = 'G' then (v.asFloat? false).map (slot.pointed Decimal.compact (kind = 'G'))
  else if kind = 'c' then
    match v with
    | .int n => some (slot.padText (escaped [Char.ofNat n.toNat]))
    | v => if v.display.length = 1 then some (slot.padText (escaped v.display)) else none
  else none

/-- Reads the flags of a slot. -/
def Slot.flags (slot : Slot) : List Char → Slot × List Char
  | '-' :: rest => flags { slot with left := true } rest
  | '0' :: rest => flags { slot with zeros := true } rest
  | '+' :: rest => flags { slot with plus := true } rest
  | ' ' :: rest => flags { slot with blank := true } rest
  | '#' :: rest => flags { slot with marked := true } rest
  | rest => (slot, rest)

/-- Reads a number of a slot, which a star takes from the arguments. -/
def readSize? (as : List Value) : List Char → Option (Int × List Value × List Char)
  | '*' :: rest =>
    match as with
    | .int n :: as => some (n, as, rest)
    | _ => none
  | cs =>
    let digits := cs.takeWhile Char.isDigit
    some (Decimal.digitsValue digits, as, cs.drop digits.length)

/-- Reads a slot behind its percent sign: the name of its argument, the slot, its kind, the arguments left and what follows
it. -/
def Slot.read? (as : List Value) (cs : List Char) : Option (Option String × Slot × Char × List Value × List Char) := do
  let (name, cs) ← match cs with
    | '(' :: rest => (cutAt? [')'] rest).map fun r => (some (String.ofList r.1), r.2)
    | cs => some (none, cs)
  let (slot, cs) := Slot.flags {} cs
  let (width, as, cs) ← readSize? as cs
  let slot := { slot with width := width.natAbs, left := slot.left || width < 0 }
  let (slot, as, cs) ← match cs with
    | '.' :: rest => (readSize? as rest).map fun r => ({ slot with precision := some r.1.toNat }, r.2.1, r.2.2)
    | cs => some (slot, as, cs)
  match cs.dropWhile ['h', 'l', 'L'].contains with
  | kind :: rest => some (name, slot, kind, as, rest)
  | [] => none

/-- Fills arguments into a format. All arguments without names have to be used. -/
def fillFormat? (safe : Bool) (named : List (String × Value)) : (fuel : Nat) → List Value → List Char →
    Option (List Char)
  | 0, _, _ => none
  | _ + 1, as, [] => if as.isEmpty then some [] else none
  | fuel + 1, as, '%' :: '%' :: rest => (fillFormat? safe named fuel as rest).map ('%' :: ·)
  | fuel + 1, as, '%' :: rest => do
    let (name, slot, kind, as, rest) ← Slot.read? as rest
    match name, as with
    | some name, as =>
      let v ← named.lookup name
      return (← slot.fill? safe kind v) ++ (← fillFormat? safe named fuel as rest)
    | none, v :: as => return (← slot.fill? safe kind v) ++ (← fillFormat? safe named fuel as rest)
    | none, [] => none
  | fuel + 1, as, c :: rest => (fillFormat? safe named fuel as rest).map (c :: ·)

/-- A format with its arguments filled in, which either all have names or none. -/
def format? (v : Value) (as : Arguments) : Option Value :=
  if !as.plain.isEmpty && !as.named.isEmpty then none
  else v.text?.bind fun s => (fillFormat? v.isSafe as.named (s.length + 1) as.plain s).map (alike v)

/-! ### The filters -/

/-- The list of some pieces of a text, which are as safe as it is. -/
def pieceList (v : Value) (ts : List (List Char)) : Value := .list .given (ts.map (alike v))

/-- The filters of a text with arguments that have no names. -/
def text? (escapes : Bool) (name : String) (v : Value) (as : List Value) : Option Value :=
  match name, as with
  | "upper", [] => some (alike v (Text.upperText v.display))
  | "lower", [] => some (alike v (Text.lowerText v.display))
  | "title", [] => some (alike v (titleText true v.display))
  | "capitalize", [] => some (alike v (capitalize v.display))
  | "replace", [old, new] => some (replace escapes v old new)
  | "trim", [] | "trim", [.none] | "trim", [.undefined] => some (alike v (Text.trim v.display))
  | "trim", [chars] => some (alike v (Text.stripBoth chars.display.contains v.display))
  | "lines", [] => v.text?.map fun s => pieceList v (Text.lines s)
  | "split", as => do
    let s ← v.text?
    if as.length > 2 then none
    else
      let separator ← option? Value.text? as[0]?
      let limit ← option? Value.asPlace? as[1]?
      let limit := limit.bind fun n => if n < 0 then none else some (n.toNat + 1)
      some (pieceList v (match separator, limit with
        | some separator, limit => splitText separator limit s
        | none, none => wordsOf s
        | none, some n => firstWords n s))
  | "indent", width :: as => do
    if as.length > 2 then none
    else
      let width ← width.asNat?
      let first ← switch? as[0]?
      let empty ← switch? as[1]?
      some (alike v (indentText width first empty v.display))
  | "string", [] => some (match v with | .text .. => v | v => .plain v.display)
  | "pprint", [] => some (.plain (v.spread 0))
  | "safe", [] => some (.text v.display true)
  | "escape", [] | "e", [] => some (.text (markup v) true)
  | _, _ => none

end Bootstrap.Template.Filter
