/-!
# Patterns

What stands for many texts: a star for any text, a question mark for any character, and brackets for the characters in
them. A character that was quoted stands for itself.

* `Pattern.ofMarked` reads a pattern, `Pattern.isMatch` compares it with a whole text.
* `Pattern.cutStart` and `Pattern.cutEnd` take away what matches at an end of a text.
-/

namespace Bootstrap.Shell

/-- What can stand between brackets. -/
inductive Range where
  | from (low high : Char)
  | named (kind : String)
deriving DecidableEq

/-- What a pattern is made of. -/
inductive Pattern.Item where
  | char (c : Char)
  | any
  | many
  | oneOf (negated : Bool) (ranges : List Range)
deriving DecidableEq

abbrev Pattern := List Pattern.Item

/-- Whether a character belongs to a class with a name. -/
def inClass (c : Char) : String → Bool
  | "alpha" => c.isAlpha
  | "digit" => c.isDigit
  | "alnum" => c.isAlphanum
  | "upper" => c.isUpper
  | "lower" => c.isLower
  | "space" => [' ', '\t', '\n', '\r', '\x0b', '\x0c'].contains c
  | "blank" => c = ' ' || c = '\t'
  | "punct" => 0x21 ≤ c.toNat && c.toNat ≤ 0x7E && !c.isAlphanum
  | "print" => 0x20 ≤ c.toNat && c.toNat ≤ 0x7E
  | "graph" => 0x21 ≤ c.toNat && c.toNat ≤ 0x7E
  | "cntrl" => c.toNat < 0x20 || c.toNat = 0x7F
  | "xdigit" => c.isDigit || ('a' ≤ c && c ≤ 'f') || ('A' ≤ c && c ≤ 'F')
  | _ => false

def Range.contains (c : Char) : Range → Bool
  | .from low high => low ≤ c && c ≤ high
  | .named kind => inClass c kind

namespace Pattern

/-- Characters with a mark on those that were quoted. -/
abbrev Marked := List (Char × Bool)

/-- The name of a class that starts behind an opening bracket and a colon, and what follows it. -/
def className? (cs : Marked) : Option (String × Marked) :=
  let name := cs.takeWhile fun c => c.1.isAlpha
  match cs.drop name.length with
  | (':', false) :: (']', false) :: rest => some (String.ofList (name.map Prod.fst), rest)
  | _ => none

/-- Reads the ranges of brackets up to the closing one, which does not close them in the first place. -/
def ranges? : (fuel : Nat) → (first : Bool) → Marked → Option (List Range × Marked)
  | 0, _, _ => none
  | _, _, [] => none
  | fuel + 1, first, (c, quoted) :: cs =>
    if c = ']' && !quoted && !first then some ([], cs)
    else
      match if c = '[' && !quoted && cs.head? = some (':', false) then className? cs.tail else none with
      | some (name, rest) => (ranges? fuel false rest).map fun r => (.named name :: r.1, r.2)
      | none =>
        match cs with
        | ('-', false) :: (d, dQuoted) :: rest =>
          if d = ']' && !dQuoted then (ranges? fuel false cs).map fun r => (.from c c :: r.1, r.2)
          else (ranges? fuel false rest).map fun r => (.from c d :: r.1, r.2)
        | _ => (ranges? fuel false cs).map fun r => (.from c c :: r.1, r.2)

def itemsOf : (fuel : Nat) → Marked → Pattern
  | 0, _ => []
  | _, [] => []
  | fuel + 1, (c, true) :: cs => .char c :: itemsOf fuel cs
  | fuel + 1, (c, false) :: cs =>
    if c = '*' then .many :: itemsOf fuel cs
    else if c = '?' then .any :: itemsOf fuel cs
    else if c = '[' then
      let (negated, inner) := match cs with
        | ('!', false) :: rest | ('^', false) :: rest => (true, rest)
        | _ => (false, cs)
      match ranges? (inner.length + 1) true inner with
      | some (rs, rest) => .oneOf negated rs :: itemsOf fuel rest
      | none => .char c :: itemsOf fuel cs
    else .char c :: itemsOf fuel cs

/-- The pattern that some characters are. -/
def ofMarked (cs : Marked) : Pattern := itemsOf (cs.length + 1) cs

/-- Whether a pattern stands for more than one text. -/
def isOpen (p : Pattern) : Bool := p.any fun i => match i with
  | .char _ => false
  | _ => true

def Item.accepts (c : Char) : Item → Bool
  | .char d => c = d
  | .any | .many => true
  | .oneOf negated rs => rs.any (Range.contains c) != negated

/-- Whether a pattern stands for a text. -/
def isMatch : Pattern → List Char → Bool
  | [], cs => cs.isEmpty
  | .many :: p, [] => isMatch p []
  | _ :: _, [] => false
  | .many :: p, c :: cs => isMatch p (c :: cs) || isMatch (.many :: p) cs
  | i :: p, c :: cs => i.accepts c && isMatch p cs
  termination_by p cs => (p.length, cs.length)

/-- A text without a part at its start that matches, the longest or the shortest one. -/
def cutStart (p : Pattern) (longest : Bool) (cs : List Char) : List Char :=
  let lengths := List.range (cs.length + 1)
  match (if longest then lengths.reverse else lengths).find? fun n => isMatch p (cs.take n) with
  | some n => cs.drop n
  | none => cs

/-- A text without a part at its end that matches, the longest or the shortest one. -/
def cutEnd (p : Pattern) (longest : Bool) (cs : List Char) : List Char :=
  let lengths := List.range (cs.length + 1)
  match (if longest then lengths else lengths.reverse).find? fun n => isMatch p (cs.drop n) with
  | some n => cs.take n
  | none => cs

end Pattern

end Bootstrap.Shell
