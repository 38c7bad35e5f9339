import Bootstrap.Decimal.Reader
import Bootstrap.Decimal.Rounded
import Bootstrap.Shell.Session

/-!
# Printing commands of the shell

`echo` prints words, `printf` fills them into a format. In both, characters behind a backslash stand for others.
-/

namespace Bootstrap.Shell

/-- The first octal digits of some characters, at most so many, as a number of eight bits, and what follows. -/
def octal (most : Nat) (cs : List Char) : Char × List Char :=
  let ds := (cs.take most).takeWhile fun c => '0' ≤ c && c ≤ '7'
  (Char.ofNat ((ds.foldl (fun n c => n * 8 + (c.toNat - 48)) 0) % 256), cs.drop ds.length)

/-- What the characters behind a backslash stand for in a format, and what follows them. -/
def escape (cs : List Char) : List Char × List Char :=
  match cs with
  | [] => (['\\'], [])
  | c :: rest =>
    match c with
    | 'a' => (['\x07'], rest)
    | 'b' => (['\x08'], rest)
    | 'e' => (['\x1b'], rest)
    | 'f' => (['\x0c'], rest)
    | 'n' => (['\n'], rest)
    | 'r' => (['\r'], rest)
    | 't' => (['\t'], rest)
    | 'v' => (['\x0b'], rest)
    | '\\' => (['\\'], rest)
    | c =>
      if '0' ≤ c && c ≤ '7' then
        let (d, rest) := octal 3 cs
        ([d], rest)
      else (['\\'], cs)

/-- A word with what its backslashes stand for, and whether it ends all output. -/
def unescape : (fuel : Nat) → List Char → List Char × Bool
  | 0, _ => ([], false)
  | _, [] => ([], false)
  | _ + 1, '\\' :: 'c' :: _ => ([], true)
  | fuel + 1, '\\' :: '0' :: cs =>
    let (c, rest) := octal 3 cs
    let (more, stops) := unescape fuel rest
    (c :: more, stops)
  | fuel + 1, '\\' :: cs =>
    let (shown, rest) := escape cs
    let (more, stops) := unescape fuel rest
    (shown ++ more, stops)
  | fuel + 1, c :: cs =>
    let (more, stops) := unescape fuel cs
    (c :: more, stops)

/-- Words with blanks between them. -/
def spaced (words : List (List Char)) : List Char := [' '].intercalate words

/-- What `echo` prints. -/
def echoed (words : List (List Char)) : List Char :=
  let (newline, words) := match words with
    | ['-', 'n'] :: rest => (false, rest)
    | words => (true, words)
  let text := spaced words
  let (shown, stops) := unescape (text.length + 1) text
  if newline && !stops then shown ++ ['\n'] else shown

/-! ### Formats -/

/-- How an argument is filled into a format. -/
structure Directive where
  flags : List Char := []
  width : Nat := 0
  precision : Option Nat := none
  kind : Char := 's'

/-- What has been printed so far. -/
structure Printed where
  text : List Char := []
  arguments : List (List Char) := []
  status : Nat := 0
  /-- Messages, the last one first. -/
  messages : List (List Char) := []
  /-- Whether nothing more is printed. -/
  stops : Bool := false
  /-- Whether the format makes no sense. -/
  refused : Bool := false

namespace Printed

def add (p : Printed) (cs : List Char) : Printed := { p with text := p.text ++ cs }

/-- The next argument, which is empty if there is none. -/
def next (p : Printed) : List Char × Printed := (p.arguments.headD [], { p with arguments := p.arguments.tail })

def warn (p : Printed) (message : List Char) : Printed := { p with status := 1, messages := message :: p.messages }

/-- The longest number at the start of an argument, and what follows it. -/
def leadingNumber (cs : List Char) : Int × List Char :=
  let cs := cs.dropWhile fun c => [' ', '\t', '\n', '\x0b', '\x0c', '\r'].contains c
  let (negative, rest) := match cs with
    | '-' :: ds => (true, ds)
    | '+' :: ds => (false, ds)
    | ds => (false, ds)
  let (base, ds) := match rest with
    | '0' :: 'x' :: ds | '0' :: 'X' :: ds => if ds.head?.any (fun d => (Formula.digit? 16 d).isSome) then (16, ds) else (8, rest)
    | '0' :: _ => (8, rest)
    | _ => (10, rest)
  let digits := ds.takeWhile fun d => (Formula.digit? base d).isSome
  let n := Int.ofNat (digits.foldl (fun n d => n * base + (Formula.digit? base d).getD 0) 0)
  if digits.isEmpty then (0, cs) else (if negative then -n else n, ds.drop digits.length)

/-- The next argument as a whole number between two bounds. -/
def nextNumber (p : Printed) (low high : Int) : Int × Printed :=
  if p.arguments.isEmpty then (0, p)
  else
    let (word, p) := p.next
    match word with
    | '\'' :: c :: _ | '"' :: c :: _ => (c.toNat, p)
    | '\'' :: _ | '"' :: _ => (0, p)
    | _ =>
      let (n, rest) := leadingNumber word
      if rest.length = word.length || word.isEmpty then
        (0, if word.isEmpty then p.warn ": expected numeric value".toList
          else p.warn (word ++ ": expected numeric value".toList))
      else if !rest.isEmpty then (max low (min high n), p.warn (word ++ ": not completely converted".toList))
      else if n < low || high < n then
        (max low (min high n), p.warn (word ++ ": Numerical result out of range".toList))
      else (n, p)

/-- The next argument as a number with a point. -/
def nextFloat (p : Printed) : Float × Printed :=
  if p.arguments.isEmpty then (0.0, p)
  else
    let (word, p) := p.next
    match Decimal.read? word with
    | some x => (x, p)
    | none =>
      let lengths := (List.range word.length).reverse
      match lengths.findSome? fun n => Decimal.read? (word.take n) with
      | some x => (x, p.warn (word ++ ": not completely converted".toList))
      | none => (0.0, p.warn (word ++ ": expected numeric value".toList))

end Printed

namespace Directive

def hasFlag (d : Directive) (c : Char) : Bool := d.flags.contains c

/-- Fills a text up to the width. -/
def pad (d : Directive) (cs : List Char) : List Char :=
  let blanks := List.replicate (d.width - cs.length) ' '
  if d.hasFlag '-' then cs ++ blanks else blanks ++ cs

/-- A number with its sign; zeros may stand between the sign and the digits. -/
def padNumber (d : Directive) (zeros : Bool) (sign digits : List Char) : List Char :=
  if zeros && d.hasFlag '0' && !d.hasFlag '-' then
    sign ++ List.replicate (d.width - sign.length - digits.length) '0' ++ digits
  else d.pad (sign ++ digits)

def sign (d : Directive) (negative : Bool) : List Char :=
  if negative then ['-'] else if d.hasFlag '+' then ['+'] else if d.hasFlag ' ' then [' '] else []

/-- The digits of a whole number, at least as many as the precision says. -/
def digits (d : Directive) (base n : Nat) : List Char :=
  let ds := if n = 0 && d.precision = some 0 then [] else Nat.toDigits base n
  List.replicate (d.precision.getD 1 - ds.length) '0' ++ ds

/-- Prints the next argument. -/
def fill (d : Directive) (p : Printed) : Printed :=
  let unsigned (base : Nat) (front : List Char) (upper : Bool) : Printed :=
    let (n, p) := p.nextNumber (-Int.pow 2 63) (Int.pow 2 64 - 1)
    let n := (n % Int.pow 2 64).toNat
    let ds := d.digits base n
    let ds := if upper then ds.map Char.toUpper else ds
    let front := if d.hasFlag '#' && n ≠ 0 then front else []
    p.add (d.padNumber d.precision.isNone front ds)
  let real (text : Nat → Float → List Char) (upper : Bool) : Printed :=
    let (x, p) := p.nextFloat
    let negative := x.toBits.toNat / Nat.pow 2 63 == 1
    let body :=
      if x.isNaN then "nan".toList else if x.isInf then "inf".toList else text (d.precision.getD 6) x
    p.add (d.padNumber (!x.isNaN && !x.isInf) (d.sign negative) (if upper then body.map Char.toUpper else body))
  match d.kind with
  | 'd' | 'i' =>
    let (n, p) := p.nextNumber (-Int.pow 2 63) (Int.pow 2 63 - 1)
    p.add (d.padNumber d.precision.isNone (d.sign (n < 0)) (d.digits 10 n.natAbs))
  | 'u' => unsigned 10 [] false
  | 'o' => unsigned 8 ['0'] false
  | 'x' => unsigned 16 ['0', 'x'] false
  | 'X' => unsigned 16 ['0', 'X'] true
  | 'c' =>
    let (word, p) := p.next
    p.add (d.pad [word.headD '\x00'])
  | 's' =>
    let (word, p) := p.next
    p.add (d.pad (match d.precision with | some n => word.take n | none => word))
  | 'b' =>
    let (word, p) := p.next
    let (shown, stops) := unescape (word.length + 1) word
    { p.add (d.pad (match d.precision with | some n => shown.take n | none => shown)) with stops := stops }
  | 'f' | 'F' => real Decimal.fixed false
  | 'e' => real Decimal.scientific false
  | 'E' => real Decimal.scientific true
  | 'g' => real Decimal.compact false
  | 'G' => real Decimal.compact true
  | c => { p with refused := true, messages := ('%' :: c :: ": invalid directive".toList) :: p.messages }

/-- A width or a precision, which may be taken from the arguments. -/
def readNumber (p : Printed) (cs : List Char) : Int × Printed × List Char :=
  match cs with
  | '*' :: rest =>
    let (n, p) := p.nextNumber (-Int.pow 2 31) (Int.pow 2 31 - 1)
    (n, p, rest)
  | cs =>
    let ds := cs.takeWhile Char.isDigit
    (Decimal.digitsValue ds, p, cs.drop ds.length)

/-- Reads a directive behind its percent sign. -/
def read (p : Printed) (cs : List Char) : Directive × Printed × List Char :=
  let flags := cs.takeWhile fun c => ['-', '+', ' ', '#', '0'].contains c
  let (width, p, cs) := readNumber p (cs.drop flags.length)
  let flags := if width < 0 then '-' :: flags else flags
  let (precision, p, cs) := match cs with
    | '.' :: rest =>
      let (n, p, rest) := readNumber p rest
      (if n < 0 then none else some n.toNat, p, rest)
    | cs => (none, p, cs)
  (⟨flags, width.natAbs, precision, cs.headD '\x00'⟩, p, cs.tail)

end Directive

namespace Printed

/-- Goes through a format once. -/
def fillOnce : (fuel : Nat) → List Char → Printed → Printed
  | 0, _, p => p
  | _, [], p => p
  | fuel + 1, '%' :: '%' :: cs, p => fillOnce fuel cs (p.add ['%'])
  | fuel + 1, '%' :: cs, p =>
    let (d, p, rest) := Directive.read p cs
    let p := d.fill p
    if p.stops || p.refused then p else fillOnce fuel rest p
  | fuel + 1, '\\' :: cs, p =>
    let (shown, rest) := escape cs
    fillOnce fuel rest (p.add shown)
  | fuel + 1, c :: cs, p => fillOnce fuel cs (p.add [c])

/-- Goes through a format again and again while it takes arguments and some are left. -/
def fillAll (format : List Char) : (times : Nat) → Printed → Printed
  | 0, p => p
  | times + 1, p =>
    let q := fillOnce (format.length + 1) format p
    if q.stops || q.refused || q.arguments.isEmpty || q.arguments.length = p.arguments.length then q
    else fillAll format times q

end Printed

/-- What `printf` comes to. -/
def filled (format : List Char) (arguments : List (List Char)) : Printed :=
  Printed.fillAll format (arguments.length + 1) { arguments := arguments }

end Bootstrap.Shell
