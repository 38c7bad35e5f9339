import Bootstrap.Shell.Reader

/-!
# Arithmetic of the shell

Expressions over whole numbers of 64 bits with a sign, which wrap around. Variables that are not set count as zero, and
expressions may assign values to variables.

* `Formula.read` reads an expression, `Formula.value` works it out. `Formula.Fault` says what can be wrong.
-/

namespace Bootstrap.Shell

inductive Formula where
  | number (n : Int)
  | variable (name : List Char)
  | negate (e : Formula)
  | plus (e : Formula)
  | not (e : Formula)
  | flip (e : Formula)
  | binary (op : String) (a b : Formula)
  | choose (condition yes no : Formula)
  /-- Assigns a value, or what an operator makes of the old value and another one. -/
  | assign (name : List Char) (op : Option String) (e : Formula)

namespace Formula

/-- Why an expression has no value. -/
inductive Fault where
  /-- Something else should stand where reading stopped. -/
  | expected (what : String)
  | divisionByZero
  /-- The value of a variable is no number. -/
  | notNumber (value : List Char)

/-- A whole number brought into 64 bits. -/
def wrap (n : Int) : Int := n.bmod (Nat.pow 2 64)

/-- The largest number. -/
def largest : Int := Int.pow 2 63 - 1

/-- The digit of a number to some base. -/
def digit? (base : Nat) (c : Char) : Option Nat :=
  let n :=
    if c.isDigit then c.toNat - 48
    else if c.isLower then c.toNat - 87
    else if c.isUpper then c.toNat - 55
    else 36
  if n < base then some n else none

/-- A number from its digits; one that is too large becomes the largest. -/
def digits? (base : Nat) (cs : List Char) : Option Int :=
  if cs.isEmpty then none
  else (cs.mapM (digit? base)).map fun ds => min largest (Int.ofNat (ds.foldl (fun n d => n * base + d) 0))

/-- A number as it is written: to base ten, eight or sixteen. -/
def number? : List Char → Option Int
  | '0' :: 'x' :: cs | '0' :: 'X' :: cs => digits? 16 cs
  | '0' :: cs => if cs.isEmpty then some 0 else digits? 8 cs
  | cs => digits? 10 cs

/-- A number with blanks around it and a sign or not. -/
def signedNumber? (cs : List Char) : Option Int :=
  let isBlank (c : Char) : Bool := c = ' ' || c = '\t' || c = '\n'
  let cs := ((cs.dropWhile isBlank).reverse.dropWhile isBlank).reverse
  match cs with
  | '-' :: ds => (number? ds).map fun n => -n
  | '+' :: ds => number? ds
  | ds => number? ds

/-- The operators between two expressions, from loose to tight. -/
def levels : List (List String) := [
  ["||"], ["&&"], ["|"], ["^"], ["&"], ["==", "!="], ["<=", ">=", "<", ">"], ["<<", ">>"], ["+", "-"], ["*", "/", "%"]]

/-- The signs of all operators, longer ones first. -/
def signs : List String := [
  "<<=", ">>=", "<<", ">>", "<=", ">=", "==", "!=", "&&", "||", "+=", "-=", "*=", "/=", "%=", "&=", "^=", "|=",
  "+", "-", "*", "/", "%", "<", ">", "&", "|", "^", "!", "~", "?", ":", "(", ")", "="]

inductive Token where
  | number (n : Int)
  | name (cs : List Char)
  | sign (s : String)
  /-- No part of an expression. -/
  | other (c : Char)
deriving DecidableEq

/-- The digits at the start of a text that are one number. -/
def digitsOf (cs : List Char) : List Char :=
  let run (base : Nat) (cs : List Char) : List Char := cs.takeWhile fun c => (digit? base c).isSome
  match cs with
  | '0' :: x :: rest =>
    let hexadecimal := run 16 rest
    if (x = 'x' || x = 'X') && !hexadecimal.isEmpty then '0' :: x :: hexadecimal else '0' :: run 8 (x :: rest)
  | cs => run 10 cs

def tokens : (fuel : Nat) → List Char → List Token
  | 0, _ | _, [] => []
  | fuel + 1, c :: cs =>
    if c = ' ' || c = '\t' || c = '\n' then tokens fuel cs
    else if c.isDigit then
      let ds := digitsOf (c :: cs)
      .number ((number? ds).getD 0) :: tokens fuel ((c :: cs).drop ds.length)
    else if isNameStart c then
      let name := (c :: cs).takeWhile isNameChar
      .name name :: tokens fuel ((c :: cs).drop name.length)
    else
      match signs.find? fun s => s.toList.isPrefixOf (c :: cs) with
      | some s => .sign s :: tokens fuel ((c :: cs).drop s.length)
      | none => .other c :: tokens fuel cs

/-- A reader takes tokens off a list. -/
abbrev TokenReader (α : Type) := StateT (List Token) (Except Fault) α

/-- Stops because something else should come next. -/
def expecting (what : String) : TokenReader α := throw (.expected what)

def skipSign (s : String) : TokenReader Bool := do
  match ← get with
  | .sign t :: ts =>
    if s = t then
      set ts
      return true
    else return false
  | _ => return false

/-- The operator of an assignment; it is plain if there is none. -/
def assignment? (s : String) : Option (Option String) :=
  if s = "=" then some none
  else if ["<<=", ">>=", "+=", "-=", "*=", "/=", "%=", "&=", "^=", "|="].contains s then
    some (some (String.ofList s.toList.dropLast))
  else none

mutual

/-- Reads an expression. -/
def expression : (fuel : Nat) → TokenReader Formula
  | 0 => expecting "primary"
  | fuel + 1 => do
    match ← get with
    | .name x :: .sign s :: ts =>
      match assignment? s with
      | some op =>
        set ts
        return .assign x op (← expression fuel)
      | none => choice fuel
    | _ => choice fuel

def choice : (fuel : Nat) → TokenReader Formula
  | 0 => expecting "primary"
  | fuel + 1 => do
    let e ← level fuel levels
    if ← skipSign "?" then
      let yes ← expression fuel
      unless ← skipSign ":" do expecting "':'"
      return .choose e yes (← choice fuel)
    else return e

/-- Reads operands with operators of some levels between them. -/
def level : (fuel : Nat) → List (List String) → TokenReader Formula
  | 0, _ => expecting "primary"
  | fuel + 1, [] => unary fuel
  | fuel + 1, ops :: tighter => do
    let e ← level fuel tighter
    moreOf fuel ops tighter e

def moreOf : (fuel : Nat) → List String → List (List String) → Formula → TokenReader Formula
  | 0, _, _, _ => expecting "primary"
  | fuel + 1, ops, tighter, a => do
    match ← get with
    | .sign s :: ts =>
      if ops.contains s then
        set ts
        let b ← level fuel tighter
        moreOf fuel ops tighter (.binary s a b)
      else return a
    | _ => return a

def unary : (fuel : Nat) → TokenReader Formula
  | 0 => expecting "primary"
  | fuel + 1 => do
    match ← get with
    | .sign "-" :: ts => do set ts; return .negate (← unary fuel)
    | .sign "+" :: ts => do set ts; return .plus (← unary fuel)
    | .sign "!" :: ts => do set ts; return .not (← unary fuel)
    | .sign "~" :: ts => do set ts; return .flip (← unary fuel)
    | .sign "(" :: ts =>
      set ts
      let e ← expression fuel
      unless ← skipSign ")" do expecting "')'"
      return e
    | .number n :: ts => do set ts; return .number n
    | .name x :: ts => do set ts; return .variable x
    | _ => expecting "primary"

end

/-- Reads an expression. -/
def read (cs : List Char) : Except Fault Formula := do
  let ts := tokens (cs.length + 1) cs
  let (e, rest) ← (expression (16 * ts.length + 32)).run ts
  if rest.isEmpty then return e else throw (.expected "EOF")

def ofBool (b : Bool) : Int := if b then 1 else 0

/-- A number of 64 bits without its sign. -/
def bits (n : Int) : Nat := (n % Int.pow 2 64).toNat

/-- The result of an operator; nothing is divided by zero. -/
def combine (op : String) (a b : Int) : Except Fault Int :=
  match op with
  | "+" => .ok (wrap (a + b))
  | "-" => .ok (wrap (a - b))
  | "*" => .ok (wrap (a * b))
  | "/" => if b = 0 then .error .divisionByZero else .ok (wrap (a.tdiv b))
  | "%" => if b = 0 then .error .divisionByZero else .ok (wrap (a.tmod b))
  | "<<" => .ok (wrap (a * Int.pow 2 (bits b % 64)))
  | ">>" => .ok (a / Int.pow 2 (bits b % 64))
  | "<" => .ok (ofBool (a < b))
  | ">" => .ok (ofBool (a > b))
  | "<=" => .ok (ofBool (a ≤ b))
  | ">=" => .ok (ofBool (a ≥ b))
  | "==" => .ok (ofBool (a = b))
  | "!=" => .ok (ofBool (a ≠ b))
  | "&" => .ok (wrap (bits a &&& bits b))
  | "|" => .ok (wrap (bits a ||| bits b))
  | "^" => .ok (wrap (bits a ^^^ bits b))
  | _ => .error (.expected "EOF")

/-- Works an expression out. `known` gives the values of variables; the values that the expression assigns are kept, the
last one first. -/
def value (known : List Char → Except Fault Int) : Formula → StateT (List (List Char × Int)) (Except Fault) Int
  | .number n => pure n
  | .variable x => do
    match (← get).lookup x with
    | some n => return n
    | none => known x
  | .negate e => do return wrap (-(← value known e))
  | .plus e => value known e
  | .not e => do return ofBool ((← value known e) = 0)
  | .flip e => do return wrap (-(← value known e) - 1)
  | .binary "&&" a b => do
    if (← value known a) = 0 then return 0 else return ofBool ((← value known b) ≠ 0)
  | .binary "||" a b => do
    if (← value known a) ≠ 0 then return 1 else return ofBool ((← value known b) ≠ 0)
  | .binary op a b => do
    let m ← value known a
    combine op m (← value known b)
  | .choose c yes no => do
    if (← value known c) ≠ 0 then value known yes else value known no
  | .assign x op e => do
    let old ← match op with
      | none => pure 0
      | some _ => value known (.variable x)
    let n ← value known e
    let r ← match op with
      | none => pure n
      | some op => combine op old n
    modify ((x, r) :: ·)
    return r

end Formula

end Bootstrap.Shell
