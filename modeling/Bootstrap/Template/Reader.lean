import Bootstrap.Template.Token
import Bootstrap.Template.Tree

/-!
# Reading templates

`Document.read?` turns the tokens of a template into statements. Operators bind, from loose to tight: a choice with `if`, `or`,
`and`, `not`, comparisons, `+` and `-`, `~`, `*` and the divisions, `**`, a minus sign; what is applied to a value
(fields, elements, calls) comes behind the minus sign, and filters and tests behind that.

Expressions and statements may be nested up to a fixed depth.
-/

namespace Bootstrap.Template

/-- Where a reader stands. -/
structure Cursor where
  tokens : List Token
  depth : Nat := 0
  /-- Whether it stands in a routine, where blocks are not allowed. -/
  inRoutine : Bool := false
  /-- The blocks that have been read; one that is being read is still empty. -/
  blocks : List (String × List Statement) := []

/-- A reader takes tokens off the front, or finds that they are not what it reads. -/
abbrev Reader (α : Type) := StateT Cursor Option α

namespace Reader

/-- How deeply expressions and statements may be nested. -/
def maxDepth : Nat := 150

def peek : Reader (Option Token) := return (← get).tokens.head?

def next : Reader Token := do
  match (← get).tokens with
  | [] => failure
  | t :: ts =>
    modify fun c => { c with tokens := ts }
    return t

/-- Takes a token off if it comes next, and tells whether it did. -/
def skip (t : Token) : Reader Bool := do
  if (← peek) = some t then
    let _ ← next
    return true
  else return false

def expect (t : Token) : Reader Unit := do
  unless ← skip t do failure

def skipSign (s : String) : Reader Bool := skip (.sign s)

def skipWord (s : String) : Reader Bool := skip (.name s)

def expectSign (s : String) : Reader Unit := expect (.sign s)

def expectWord (s : String) : Reader Unit := expect (.name s)

def isNext (t : Token) : Reader Bool := return (← peek) = some t

def word : Reader String := do
  match ← next with
  | .name s => return s
  | _ => failure

/-- Reads one level deeper. -/
def nested (r : Reader α) : Reader α := do
  let depth := (← get).depth
  if depth ≥ maxDepth then failure
  else
    modify fun c => { c with depth := depth + 1 }
    let a ← r
    modify fun c => { c with depth := depth }
    return a

/-- Reads words with points between them. -/
def dotted : (fuel : Nat) → Reader String
  | 0 => failure
  | fuel + 1 => do
    let s ← word
    if ← skipSign "." then return s ++ "." ++ (← dotted fuel) else return s

/-! ### Operators -/

/-- The operator that a token is between expressions of a level. -/
def operatorAt? : (level : Nat) → Token → Option Operator
  | 0, .name "or" => some .or
  | 1, .name "and" => some .and
  | 4, .sign "+" => some .add
  | 4, .sign "-" => some .subtract
  | 5, .sign "~" => some .concat
  | 6, .sign "*" => some .multiply
  | 6, .sign "/" => some .divide
  | 6, .sign "//" => some .quotient
  | 6, .sign "%" => some .remainder
  | 7, .sign "**" => some .power
  | _, _ => none

/-- The level of `not` and that of comparisons. -/
def notLevel : Nat := 2

def comparisonLevel : Nat := 3

/-- The level above all operators between two expressions. -/
def unaryLevel : Nat := 8

def comparisonOf? : Token → Option Comparison
  | .sign "==" => some .equal
  | .sign "!=" => some .differ
  | .sign "<" => some .less
  | .sign "<=" => some .lessEqual
  | .sign ">" => some .greater
  | .sign ">=" => some .greaterEqual
  | .name "in" => some .isIn
  | _ => none

/-- Takes a comparison off if one comes next. Behind `not` there has to be one. -/
def comparison? : Reader (Option Comparison) := do
  match ← peek with
  | some (.name "not") =>
    let _ ← next
    expectWord "in"
    return some .notIn
  | some t =>
    match comparisonOf? t with
    | some c =>
      let _ ← next
      return some c
    | none => return none
  | none => return none

/-- Words that stand for a value of their own. -/
def constant? : String → Option Value
  | "true" | "True" => some (.bool true)
  | "false" | "False" => some (.bool false)
  | "none" | "None" => some .none
  | _ => none

/-- Reads the texts that follow a text and belong to it. -/
def moreText : (fuel : Nat) → (s : List Char) → Reader (List Char)
  | 0, s => return s
  | fuel + 1, s => do
    match ← peek with
    | some (.quoted t) =>
      let _ ← next
      moreText fuel (s ++ t)
    | _ => return s

/-- Whether the argument of a test may start with a token, when it stands behind the test without brackets. -/
def startsArgument : Token → Bool
  | .name s => !(["and", "or", "else", "is"].contains s)
  | .quoted _ | .int _ | .decimal _ => true
  | .sign s => ["+", "-", "[", "\x7b"].contains s
  | _ => false

/-! ### Expressions -/

mutual

/-- Reads an expression one level deeper than where the reader stands. -/
def expr : (fuel : Nat) → Reader Expr
  | 0 => failure
  | fuel + 1 => nested do
    let e ← level fuel 0
    choices fuel e

/-- Reads choices behind an expression. -/
def choices : (fuel : Nat) → Expr → Reader Expr
  | 0, _ => failure
  | fuel + 1, e => do
    if ← skipWord "if" then
      let condition ← level fuel 0
      if ← skipWord "else" then
        let other ← level fuel 0
        let other ← choices fuel other
        choices fuel (.choose condition e other)
      else choices fuel (.choose condition e (.literal .undefined))
    else return e

/-- Reads an expression whose operators bind at least as tightly as those of a level. -/
def level : (fuel l : Nat) → Reader Expr
  | 0, _ => failure
  | fuel + 1, l => do
    if l = notLevel then
      if ← skipWord "not" then return .not (← level fuel l) else level fuel (l + 1)
    else if l = comparisonLevel then
      let e ← level fuel (l + 1)
      let rest ← comparisons fuel
      return if rest.isEmpty then e else .compare e rest
    else if l < unaryLevel then
      let e ← level fuel (l + 1)
      operators fuel l e
    else
      let e ← unary fuel
      let e ← applied fuel e
      filters fuel e

/-- Reads operators of a level behind an operand. -/
def operators : (fuel l : Nat) → Expr → Reader Expr
  | 0, _, _ => failure
  | fuel + 1, l, a => do
    match (← peek).bind (operatorAt? l) with
    | some op =>
      let _ ← next
      let b ← level fuel (l + 1)
      operators fuel l (.binary op a b)
    | none => return a

/-- Reads comparisons behind an operand. -/
def comparisons : (fuel : Nat) → Reader (List (Comparison × Expr))
  | 0 => failure
  | fuel + 1 => do
    match ← comparison? with
    | some c =>
      let e ← level fuel (comparisonLevel + 1)
      return (c, e) :: (← comparisons fuel)
    | none => return []

/-- Reads a value with minus signs in front or not. -/
def unary : (fuel : Nat) → Reader Expr
  | 0 => failure
  | fuel + 1 => do
    if ← skipSign "-" then return .negate (← unary fuel) else primary fuel

def primary : (fuel : Nat) → Reader Expr
  | 0 => failure
  | fuel + 1 => nested do
    match ← next with
    | .quoted s => return .literal (.plain (← moreText fuel s))
    | .int n => return .literal (.int n)
    | .decimal s => return .literal (.float ((Decimal.read? s).getD 0.0))
    | .name s =>
      match constant? s with
      | some v => return .literal v
      | none => return .variable s
    | .sign "(" =>
      if ← skipSign ")" then return .list []
      else
        let e ← expr fuel
        if ← skipSign "," then return .list (e :: (← list fuel ")"))
        else
          expectSign ")"
          return e
    | .sign "[" => return .list (← list fuel "]")
    | .sign "\x7b" => return .record (← fields fuel)
    | _ => failure

/-- Reads expressions with commas between them up to a closing sign; a comma may stand in front of it. -/
def list : (fuel : Nat) → (close : String) → Reader (List Expr)
  | 0, _ => failure
  | fuel + 1, close => do
    if ← skipSign close then return []
    else
      let e ← expr fuel
      if ← skipSign "," then return e :: (← list fuel close)
      else
        expectSign close
        return [e]

/-- Reads the fields of a record up to its end. -/
def fields : (fuel : Nat) → Reader (List (Expr × Expr))
  | 0 => failure
  | fuel + 1 => do
    if ← skipSign "\x7d" then return []
    else
      let k ← expr fuel
      expectSign ":"
      let v ← expr fuel
      if ← skipSign "," then return (k, v) :: (← fields fuel)
      else
        expectSign "\x7d"
        return [(k, v)]

/-- Reads fields, elements and calls behind a value. A number behind a point is the place of an element. -/
def applied : (fuel : Nat) → Expr → Reader Expr
  | 0, _ => failure
  | fuel + 1, e => do
    if ← skipSign "." then
      match ← next with
      | .name name => applied fuel (.field e name)
      | .int n => applied fuel (.element e (.literal (.int n)))
      | _ => failure
    else if ← skipSign "[" then
      let key ← subscript fuel e
      applied fuel key
    else if ← skipSign "(" then
      let as ← arguments fuel false
      applied fuel (.call e as)
    else return e

/-- Reads an element or a slice behind its opening bracket. -/
def subscript : (fuel : Nat) → Expr → Reader Expr
  | 0, _ => failure
  | fuel + 1, e => do
    let start ← bound fuel
    if ← skipSign ":" then
      let stop ← bound fuel
      let step ← if ← skipSign ":" then bound fuel else pure none
      expectSign "]"
      let absent := Expr.literal .none
      return .slice e (start.getD absent) (stop.getD absent) (step.getD absent)
    else
      expectSign "]"
      match start with
      | some key => return .element e key
      | none => failure

/-- Reads a part of a slice, which may be left out. -/
def bound : (fuel : Nat) → Reader (Option Expr)
  | 0 => failure
  | fuel + 1 => do
    if (← isNext (.sign ":")) || (← isNext (.sign "]")) then return none else return some (← expr fuel)

/-- Reads arguments behind their opening bracket. Behind an argument with a name all have one. -/
def arguments : (fuel : Nat) → (named : Bool) → Reader (List Argument)
  | 0, _ => failure
  | fuel + 1, named => do
    if ← skipSign ")" then return []
    else
      let (a, named) ← argument fuel named
      if ← skipSign "," then return a :: (← arguments fuel named)
      else
        expectSign ")"
        return [a]

/-- Reads an argument and tells whether all that follow have to have names. -/
def argument : (fuel : Nat) → (named : Bool) → Reader (Argument × Bool)
  | 0, _ => failure
  | fuel + 1, named => do
    if ← skipSign "**" then return (.spreadNamed (← expr fuel), true)
    else if ← skipSign "*" then return (.spread (← expr fuel), named)
    else
      match ← expr fuel with
      | .variable x =>
        if ← skipSign "=" then return (.named x (← level fuel 0), true)
        else if named then failure
        else return (.plain (.variable x), false)
      | e => if named then failure else return (.plain e, false)

/-- Reads filters and tests behind a value. -/
def filters : (fuel : Nat) → Expr → Reader Expr
  | 0, _ => failure
  | fuel + 1, e => do
    if ← skipSign "|" then
      let name ← dotted fuel
      let as ← if ← skipSign "(" then arguments fuel false else pure []
      filters fuel (.filter e name as)
    else if ← skipWord "is" then
      let negated ← skipWord "not"
      let name ← dotted fuel
      let as ← testArguments fuel
      let test := Expr.test e name as
      filters fuel (if negated then .not test else test)
    else return e

/-- Reads the arguments of a test; a single one needs no brackets. -/
def testArguments : (fuel : Nat) → Reader (List Argument)
  | 0 => failure
  | fuel + 1 => do
    if ← skipSign "(" then arguments fuel false
    else if (← peek).any startsArgument then
      let e ← unary fuel
      let e ← applied fuel e
      return [.plain e]
    else return []

end

/-! ### Parts of statements -/

/-- Names to which nothing can be assigned. -/
def reservedNames : List String := ["true", "True", "false", "False", "none", "None", "loop", "self"]

/-- Reads a name to which something can be assigned. -/
def assignable : Reader String := do
  let x ← word
  if reservedNames.contains x then failure else return x

/-- Reads the fields behind a name that something is assigned to. -/
def targetFields : (fuel : Nat) → Target → Expr → Reader Target
  | 0, _, _ => failure
  | fuel + 1, t, e => do
    if ← skipSign "." then
      let x ← word
      targetFields fuel (.field e x) (.field e x)
    else return t

mutual

/-- Reads one target, which may be several in brackets. -/
def target : (fuel : Nat) → (withFields : Bool) → Reader Target
  | 0, _ => failure
  | fuel + 1, withFields => do
    if ← skipSign "(" then
      let t ← targets fuel withFields
      expectSign ")"
      return t
    else
      let x ← assignable
      if withFields then targetFields fuel (.name x) (.variable x) else return .name x

/-- Reads one target or several with commas between them. -/
def targets : (fuel : Nat) → (withFields : Bool) → Reader Target
  | 0, _ => failure
  | fuel + 1, withFields => do
    if ← endsTargets then return .all []
    else
      let t ← target fuel withFields
      if ← isNext (.sign ",") then return .all (t :: (← moreTargets fuel withFields)) else return t

/-- Reads the targets behind one, from the comma on. -/
def moreTargets : (fuel : Nat) → (withFields : Bool) → Reader (List Target)
  | 0, _ => failure
  | fuel + 1, withFields => do
    if ← skipSign "," then
      if ← endsTargets then return []
      else
        let t ← target fuel withFields
        return t :: (← moreTargets fuel withFields)
    else return []

/-- Whether no target can come next. -/
def endsTargets : Reader Bool := do
  match ← peek with
  | some (.sign ")") | some .closeOutput | some .closeBlock | some (.name "in") => return true
  | _ => return false

end

/-- Reads the parameters of a routine behind their opening bracket. Behind a default all have one. -/
def parameters : (fuel : Nat) → (defaults : Bool) → Reader Parameters
  | 0, _ => failure
  | fuel + 1, defaults => do
    if ← skipSign ")" then return {}
    else
      let x ← assignable
      let d ← if ← skipSign "=" then some <$> expr fuel else pure none
      if defaults && d.isNone then failure
      else
        let last ← if ← skipSign "," then pure false else do expectSign ")"; pure true
        let rest ← if last then pure {} else parameters fuel d.isSome
        return ⟨x :: rest.names, d.toList ++ rest.defaults⟩

/-- Reads filters with bars between them up to the end of a block, as an expression of what was captured. -/
def filterChain : (fuel : Nat) → Expr → Reader Expr
  | 0, _ => failure
  | fuel + 1, e => do
    let name ← dotted fuel
    let as ← if ← skipSign "(" then arguments fuel false else pure []
    if ← skipSign "|" then filterChain fuel (.filter e name as)
    else
      expect .closeBlock
      return .filter e name as

/-- Passes over the words that say whether another template sees the names of this one. -/
def skipContext : Reader Unit := do
  if (← skipWord "without") || (← skipWord "with") then expectWord "context"

/-- Reads the names that are taken from another template. -/
def importedNames : (fuel : Nat) → (first : Bool) → Reader Unit
  | 0, _ => failure
  | fuel + 1, first => do
    if ← isNext .closeBlock then return
    else
      unless first do expectSign ","
      if ← isNext .closeBlock then return
      else
        let _ ← assignable
        if ← skipWord "as" then
          let _ ← assignable
        skipContext
        importedNames fuel false

/-- The words among the first tokens of a list, up to where another list starts that is its end. -/
def wordsUpTo (tokens rest : List Token) : List String :=
  (tokens.take (tokens.length - rest.length)).filterMap fun
    | .name s => some s
    | _ => none

/-! ### Statements -/

mutual

/-- Reads statements up to the end of the template or to a block that starts with one of some words. That word is taken
off; it is the second part of the result. -/
def statements : (fuel : Nat) → (ends : List String) → Reader (List Statement × Option String)
  | 0, _ => failure
  | fuel + 1, ends => do
    if (← peek).isNone then return ([], none)
    else
      match ← next with
      | .data s =>
        let (more, last) ← statements fuel ends
        return (.text s :: more, last)
      | .openOutput =>
        let e ← expr fuel
        expect .closeOutput
        let (more, last) ← statements fuel ends
        return (.output e :: more, last)
      | .openBlock =>
        let s ← word
        if ends.contains s then return ([], some s)
        else
          let statement ← nested (statement fuel s)
          expect .closeBlock
          let (more, last) ← statements fuel ends
          return (statement :: more, last)
      | _ => failure

/-- Reads the body of a statement from the end of its first block to a block with a closing word. -/
def body : (fuel : Nat) → (close : String) → Reader (List Statement)
  | 0, _ => failure
  | fuel + 1, close => do
    expect .closeBlock
    match ← statements fuel [close] with
    | (ss, some _) => return ss
    | (_, none) => failure

/-- Reads a choice behind its first word. -/
def choice : (fuel : Nat) → Reader Statement
  | 0 => failure
  | fuel + 1 => do
    let condition ← level fuel 0
    expect .closeBlock
    match ← statements fuel ["endif", "else", "elif"] with
    | (yes, some "endif") => return .choose condition yes []
    | (yes, some "else") => return .choose condition yes (← body fuel "endif")
    | (yes, some "elif") => return .choose condition yes [← choice fuel]
    | _ => failure

/-- Reads a loop behind its first word. -/
def loop : (fuel : Nat) → Reader Statement
  | 0 => failure
  | fuel + 1 => do
    let t ← targets fuel false
    expectWord "in"
    let elements ← level fuel 0
    let condition ← if ← skipWord "if" then some <$> expr fuel else pure none
    let recursive ← skipWord "recursive"
    expect .closeBlock
    match ← statements fuel ["endfor", "else"] with
    | (ss, some "endfor") => return .loop t elements condition recursive ss []
    | (ss, some "else") => return .loop t elements condition recursive ss (← body fuel "endfor")
    | _ => failure

/-- Reads the names of a scope and what they stand for. -/
def bindings : (fuel : Nat) → (first : Bool) → Reader (List (Target × Expr))
  | 0, _ => failure
  | fuel + 1, first => do
    if ← isNext .closeBlock then return []
    else
      unless first do expectSign ","
      let t ← target fuel false
      expectSign "="
      let e ← expr fuel
      return (t, e) :: (← bindings fuel false)

/-- Reads the values behind one up to the end of a block, from the comma on; a comma may stand at the end. -/
def moreValues : (fuel : Nat) → Reader (List Expr)
  | 0 => failure
  | fuel + 1 => do
    if ← skipSign "," then
      if ← isNext .closeBlock then return []
      else
        let e ← expr fuel
        return e :: (← moreValues fuel)
    else return []

/-- Reads an assignment behind its first word: of a value, of the list of several values, or of the text of a body. -/
def assignment : (fuel : Nat) → Reader Statement
  | 0 => failure
  | fuel + 1 => do
    let t ← targets fuel true
    if ← skipSign "|" then
      let e ← filterChain fuel .captured
      match ← statements fuel ["endset"] with
      | (ss, some _) => return .capture t e ss
      | (_, none) => failure
    else if ← isNext .closeBlock then return .capture t .captured (← body fuel "endset")
    else
      expectSign "="
      let e ← expr fuel
      if ← isNext (.sign ",") then return .assign t (.list (e :: (← moreValues fuel))) else return .assign t e

/-- Reads the body of a routine, and the words in it. -/
def routineBody : (fuel : Nat) → (close : String) → Reader (List Statement)
  | 0, _ => failure
  | fuel + 1, close => do
    let outer := (← get).inRoutine
    modify fun c => { c with inRoutine := true }
    let ss ← body fuel close
    modify fun c => { c with inRoutine := outer }
    return ss

/-- Reads a statement behind its first word, up to the end of its last block. -/
def statement : (fuel : Nat) → (word : String) → Reader Statement
  | 0, _ => failure
  | fuel + 1, s => do
    match s with
    | "if" => choice fuel
    | "for" => loop fuel
    | "set" => assignment fuel
    | "with" =>
      let bs ← bindings fuel true
      return .scope bs (← body fuel "endwith")
    | "filter" =>
      let e ← filterChain fuel .captured
      match ← statements fuel ["endfilter"] with
      | (ss, some _) => return .transform e ss
      | (_, none) => failure
    | "autoescape" =>
      let mode ← expr fuel
      return .escape mode (← body fuel "endautoescape")
    | "block" =>
      let name ← word
      let cursor ← get
      if cursor.inRoutine || (cursor.blocks.lookup name).isSome then failure
      else
        set { cursor with blocks := (name, []) :: cursor.blocks }
        let _ ← skipWord "scoped"
        let required ← skipWord "required"
        let ss ← body fuel "endblock"
        if required && !ss.all Statement.isBlankText then failure
        let ss := if required then [.refuse] else ss
        modify fun c => { c with blocks := (name, ss) :: c.blocks }
        match ← peek with
        | some (.name _) => expectWord name
        | _ => pure ()
        return .block name ss
    | "macro" =>
      let start := (← get).tokens
      let name ← word
      expectSign "("
      let ps ← parameters fuel false
      let ss ← routineBody fuel "endmacro"
      return .declare name ps (wordsUpTo start (← get).tokens) ss
    | "call" =>
      let ps ← if ← skipSign "(" then parameters fuel false else pure {}
      match ← expr fuel with
      | .call callee as =>
        let start := (← get).tokens
        let ss ← routineBody fuel "endcall"
        return .callWith callee as ps (wordsUpTo start (← get).tokens) ss
      | _ => failure
    | "do" =>
      match ← expr fuel with
      | .call callee as => return .perform (.call callee as)
      | _ => failure
    | "include" =>
      let name ← expr fuel
      skipContext
      let ignores ← skipWord "ignore"
      if ignores then
        expectWord "missing"
        skipContext
      return .include name ignores
    | "extends" => return .require (← expr fuel)
    | "import" =>
      let name ← expr fuel
      expectWord "as"
      let _ ← expr fuel
      skipContext
      return .require name
    | "from" =>
      let name ← expr fuel
      expectWord "import"
      importedNames fuel true
      return .require name
    | _ => failure

end

end Reader

/-- Reads a template. Readings are nested at most twenty times for each token. -/
def Document.read? (template : String) : Option Document := do
  let ts ← tokens? template
  let fuel := 20 * ts.length + 40
  let ((ss, last), cursor) ← (Reader.statements fuel []).run { tokens := ts }
  if last.isNone then some ⟨ss, cursor.blocks, fuel⟩ else none

end Bootstrap.Template
