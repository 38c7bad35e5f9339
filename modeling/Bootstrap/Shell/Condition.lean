import Bootstrap.Shell.Session

/-!
# Conditions of the shell

What the command `test` says about words: comparisons of texts and numbers, properties of files, and what is made of
them by "not", "and", "or" and brackets. A word that is no operator in its place holds if it is not empty.

`Condition.holds?` answers; an error is a message about words that make no condition.
-/

namespace Bootstrap.Shell.Condition

/-- Operators in front of a word. -/
def isUnary (w : List Char) : Bool :=
  match w with
  | ['-', c] => "rwxefdcbpugkstznOGLSh".toList.contains c
  | _ => false

/-- Operators between two words. -/
def isBinary (w : List Char) : Bool :=
  ["=", "!=", "<", ">", "-eq", "-ne", "-gt", "-ge", "-lt", "-le", "-nt", "-ot", "-ef"].contains (String.ofList w)

/-- What a word is in its place. -/
inductive Role where
  | ending
  | unary (letter : Char)
  | binary
  | and
  | or
  | not
  | opening
  | closing
  | operand
deriving DecidableEq

/-- Whether an operator in front of words is a word by itself. -/
def isOperand : List (List Char) → Bool
  | [] => true
  | [_] => false
  | w :: _ => isBinary w

/-- The role of the first of some words. -/
def roleOf : List (List Char) → Role
  | [] => .ending
  | w :: ws =>
    if isUnary w then (if isOperand ws then .operand else .unary (w.getLastD '-'))
    else if isBinary w then .binary
    else
      match String.ofList w with
      | "-a" => .and
      | "-o" => .or
      | "!" => .not
      | "(" => if ws.isEmpty then .operand else .opening
      | ")" => .closing
      | _ => .operand

/-- A whole number, with blanks around it. -/
def number? (w : List Char) : Except (List Char) Int :=
  let isBlank (c : Char) : Bool := c = ' ' || c = '\t' || c = '\n'
  let cs := ((w.dropWhile isBlank).reverse.dropWhile isBlank).reverse
  let (negative, ds) := match cs with
    | '-' :: ds => (true, ds)
    | '+' :: ds => (false, ds)
    | ds => (false, ds)
  match Formula.digits? 10 ds with
  | some n => .ok (if negative then -n else n)
  | none => .error ("Illegal number: ".toList ++ w)

/-- What is asked about a file. -/
def fileHolds (s : Session) (letter : Char) (w : List Char) : Bool :=
  let p := pathOf w
  let object := (s.disk.status p).toOption.map Prod.snd
  if w = "/dev/null".toList then ['e', 'r', 'w', 'c'].contains letter
  else
    match letter with
    | 'e' | 'r' | 'w' | 'O' | 'G' => object.isSome
    | 'f' => object.any Object.isFile
    | 'd' => object.any Object.isDirectory
    | 's' => match object with
      | some (.file _ content) => !content.isEmpty
      | some _ => true
      | none => false
    | 'x' => match object with
      | some (.file mode _) => mode &&& 0o111 ≠ 0
      | some _ => true
      | none => false
    | 'u' | 'g' | 'k' =>
      let bit := if letter = 'u' then 0o4000 else if letter = 'g' then 0o2000 else 0o1000
      match object with
      | some (.file mode _) | some (.directory mode) => mode &&& bit ≠ 0
      | _ => false
    | 'L' | 'h' => match s.disk.linkStatus p with
      | .ok (_, .link _) => true
      | _ => false
    | _ => false

/-- What an operator says about a word. -/
def unaryHolds (s : Session) (letter : Char) (w : List Char) : Except (List Char) Bool :=
  match letter with
  | 'z' => .ok w.isEmpty
  | 'n' => .ok !w.isEmpty
  | 't' => (number? w).map fun _ => false
  | letter => .ok (fileHolds s letter w)

/-- What an operator says about two words. -/
def binaryHolds (s : Session) (op : String) (a b : List Char) : Except (List Char) Bool := do
  match op with
  | "=" => return a == b
  | "!=" => return a != b
  | "<" => return decide (toBytes a < toBytes b)
  | ">" => return decide (toBytes b < toBytes a)
  | "-nt" => return (s.disk.status (pathOf a)).isOk && !(s.disk.status (pathOf b)).isOk
  | "-ot" => return !(s.disk.status (pathOf a)).isOk && (s.disk.status (pathOf b)).isOk
  | "-ef" =>
    match s.disk.status (pathOf a), s.disk.status (pathOf b) with
    | .ok (l, _), .ok (m, _) => return l == m
    | _, _ => return false
  | op =>
    let m ← number? a
    let n ← number? b
    match op with
    | "-eq" => return decide (m = n)
    | "-ne" => return decide (m ≠ n)
    | "-gt" => return decide (m > n)
    | "-ge" => return decide (m ≥ n)
    | "-lt" => return decide (m < n)
    | _ => return decide (m ≤ n)

def expected (what : String) (w : List Char) : Except (List Char) α :=
  .error ((if w.isEmpty then [] else w ++ [':', ' ']) ++ what.toList)

mutual

/-- Reads a condition off the front of some words; the words behind it are left. -/
def either (s : Session) : (fuel : Nat) → List (List Char) → Except (List Char) (Bool × List (List Char))
  | 0, _ => expected "too many words" []
  | fuel + 1, ws => do
    let (b, rest) ← both s fuel ws
    if roleOf rest = .or then
      let (c, rest) ← either s fuel rest.tail
      return (b || c, rest)
    else return (b, rest)

def both (s : Session) : (fuel : Nat) → List (List Char) → Except (List Char) (Bool × List (List Char))
  | 0, _ => expected "too many words" []
  | fuel + 1, ws => do
    let (b, rest) ← negated s fuel ws
    if roleOf rest = .and then
      let (c, rest) ← both s fuel rest.tail
      return (b && c, rest)
    else return (b, rest)

def negated (s : Session) : (fuel : Nat) → List (List Char) → Except (List Char) (Bool × List (List Char))
  | 0, _ => expected "too many words" []
  | fuel + 1, ws => do
    if roleOf ws = .not then
      let (b, rest) ← negated s fuel ws.tail
      return (!b, rest)
    else primary s fuel ws

def primary (s : Session) : (fuel : Nat) → List (List Char) → Except (List Char) (Bool × List (List Char))
  | 0, _ => expected "too many words" []
  | fuel + 1, ws => do
    match roleOf ws, ws with
    | .opening, _ :: ws =>
      if roleOf ws = .closing then return (false, ws.tail)
      else
        let (b, rest) ← either s fuel ws
        if roleOf rest = .closing then return (b, rest.tail) else expected "closing paren expected" []
    | .unary letter, op :: w :: rest =>
      let _ := op
      return (← unaryHolds s letter w, rest)
    | .unary _, [op] => expected "argument expected" op
    | _, w :: rest => operand s w rest
    | _, [] => return (false, [])

/-- Reads a comparison that starts with a word, or the word alone. -/
def operand (s : Session) (w : List Char) (rest : List (List Char)) :
    Except (List Char) (Bool × List (List Char)) := do
  match roleOf rest, rest with
  | .binary, op :: v :: rest => return (← binaryHolds s (String.ofList op) w v, rest)
  | .binary, [op] => expected "argument expected" op
  | _, _ => return (!w.isEmpty, rest)

end

/-- Reads a condition that has to take all words. -/
def whole (s : Session) (ws : List (List Char)) : Except (List Char) Bool := do
  let (b, rest) ← either s (8 * ws.length + 16) ws
  if rest.isEmpty then return b
  else expected "unexpected operator" (ws[ws.length - rest.length - 1]?.getD [])

/-- Whether some words are a condition that holds. Up to four of them are read by their number first. -/
def holds? (s : Session) : List (List Char) → Except (List Char) Bool
  | [] => .ok false
  | [a, op, b] =>
    if isBinary op then binaryHolds s (String.ofList op) a b
    else if a = ['('] && b = [')'] then whole s [op]
    else if a = ['!'] then (holds? s [op, b]).map fun r => !r
    else whole s [a, op, b]
  | [a, b, c, d] =>
    if a = ['('] && d = [')'] then whole s [b, c]
    else if a = ['!'] then (holds? s [b, c, d]).map fun r => !r
    else whole s [a, b, c, d]
  | ws => whole s ws
  termination_by ws => ws.length

end Bootstrap.Shell.Condition
