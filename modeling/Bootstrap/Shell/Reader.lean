import Bootstrap.Shell.Tree

/-!
# Reading shell scripts

`nextCommand?` reads the commands of one line off a script, and as many lines more as they need. A script is carried out
line by line, so what follows a line is not looked at before.

Quotes, backslashes and dollar signs are dealt with where a word is read; words that open and close commands are such
only at the start of a command and without quotes.
-/

namespace Bootstrap.Shell

/-- The part of a script that has not been read. -/
structure Source where
  rest : List Char
  /-- The number of the line at hand. -/
  line : Nat := 1
  /-- How many lines have been cut out below the line at hand. -/
  cutLines : Nat := 0
  /-- Names that stand for other text at the start of a command. -/
  aliases : List (List Char × List Char) := []
  /-- Names whose text is being read, and how much is left behind it. -/
  opened : List (List Char × Nat) := []

/-- Why a script has no reading. -/
inductive ReadFault where
  /-- Something stands where it cannot; perhaps there is only one thing that could stand there. -/
  | unexpected (found : String) (expected : Option String)
  | openQuote
  | openBackquote
  /-- A sign that closes something is missing. -/
  | missing (sign : String)
  | badLoopVariable
  | badFunctionName
  | badStream
  /-- Reading takes more steps than it may. -/
  | tooLong
deriving DecidableEq

def ReadFault.message : ReadFault → String
  | .unexpected found none => found ++ " unexpected"
  | .unexpected found (some expected) => found ++ " unexpected (expecting " ++ expected ++ ")"
  | .openQuote => "Unterminated quoted string"
  | .openBackquote => "EOF in backquote substitution"
  | .missing sign => "Missing " ++ sign
  | .badLoopVariable => "Bad for loop variable"
  | .badFunctionName => "Bad function name"
  | .badStream => "Bad fd number"
  | .tooLong => "Too long"

/-- A reader takes characters off a script, or finds in some line that they are not what it reads. -/
abbrev Reader (α : Type) := StateT Source (Except (Nat × ReadFault)) α

/-- Whether a character can stand in a name. -/
def isNameChar (c : Char) : Bool := c.isAlphanum || c == '_'

/-- Whether a character can start a name. -/
def isNameStart (c : Char) : Bool := c.isAlpha || c == '_'

/-- Whether characters are a name. -/
def isName : List Char → Bool
  | [] => false
  | c :: cs => isNameStart c && cs.all isNameChar

/-- Variables with a name of one sign. -/
def isSpecialName (c : Char) : Bool := ['@', '*', '#', '?', '-', '$', '!'].contains c

/-- Characters that end a word. -/
def endsWord (c : Char) : Bool := [' ', '\t', '\n', ';', '&', '|', '<', '>', '(', ')'].contains c

/-- Characters that are more than themselves in a word. -/
def isQuoting (c : Char) : Bool := ['\\', '\'', '"', '$', '\x60'].contains c

/-- Words that open and close commands. -/
def reservedWords : List (List Char) :=
  ["!", "case", "do", "done", "elif", "else", "esac", "fi", "for", "if", "in", "then", "until", "while",
    "\x7b", "\x7d"].map String.toList

/-- Whether a name is that of a command whose errors end the shell. No function has such a name. -/
def isSpecialCommand (name : List Char) : Bool :=
  ([".", ":", "break", "continue", "eval", "exec", "exit", "export", "local", "readonly", "return", "set", "shift",
    "times", "trap", "unset"].map String.toList).contains name

/-- Words that open commands. -/
def openingWords : List (List Char) := ["case", "for", "if", "until", "while", "\x7b"].map String.toList

/-- Where a part of a word stands. -/
inductive Setting where
  | bare
  | double
  /-- Behind the sign of a braced variable. -/
  | braces (quoted : Bool)
  /-- In a text that is to be read by a command. -/
  | document
  /-- In an arithmetic expression, inside so many brackets. -/
  | arithmetic (depth : Nat)

/-- Whether quotes around a place have been read. -/
def Setting.isQuoted : Setting → Bool
  | .bare => false
  | .braces quoted => quoted
  | .double | .document | .arithmetic _ => true

/-- Whether a character stands for itself in a place. -/
def Setting.isPlain (s : Setting) (c : Char) : Bool :=
  match s with
  | .bare => !endsWord c && !isQuoting c
  | .double => !(['\\', '"', '$', '\x60'].contains c)
  | .braces quoted => !(['\\', '"', '$', '\x60', '\x7d'].contains c) && (quoted || c != '\'')
  | .document => !(['\\', '$', '\x60'].contains c)
  | .arithmetic _ => !(['\\', '"', '$', '\x60', '(', ')'].contains c)

/-- Whether a backslash takes the meaning of a character away. -/
def Setting.escapes (s : Setting) (c : Char) : Bool :=
  match s with
  | .bare | .braces false => true
  | .braces true => ['$', '\x60', '"', '\\', '\x7d'].contains c
  | .document => ['$', '\x60', '\\'].contains c
  | .double | .arithmetic _ => ['$', '\x60', '"', '\\'].contains c

namespace Reader

/-- Takes some characters off the front. -/
def drop (n : Nat) : Reader Unit := modify fun s =>
  let lines := (s.rest.take n).count '\n'
  { s with
    rest := s.rest.drop n
    line := s.line + (if lines = 0 then 0 else lines + s.cutLines)
    cutLines := if lines = 0 then s.cutLines else 0 }

def peek : Reader (Option Char) := return (← get).rest.head?

/-- Takes characters off if they come next, and tells whether they did. -/
def skip (cs : List Char) : Reader Bool := do
  if cs.isPrefixOf (← get).rest then
    drop cs.length
    return true
  else return false

def skipChar (c : Char) : Reader Bool := skip [c]

def refuse (fault : ReadFault) : Reader α := do throw ((← get).line, fault)

/-- Takes the longest run of characters of a kind off. -/
def takeRun (kind : Char → Bool) : Reader (List Char) := do
  let cs := (← get).rest.takeWhile kind
  drop cs.length
  return cs

/-- The text without blanks, line joins and a comment at its start. -/
def blanksDropped : List Char → List Char
  | ' ' :: cs | '\t' :: cs | '\\' :: '\n' :: cs => blanksDropped cs
  | '#' :: cs => cs.dropWhile (· ≠ '\n')
  | cs => cs

def blanks : Reader Unit := do
  let rest := (← get).rest
  drop (rest.length - (blanksDropped rest).length)

/-- Passes over blanks, comments and empty lines. -/
def emptyLines : (fuel : Nat) → Reader Unit
  | 0 => refuse .tooLong
  | fuel + 1 => do
    blanks
    if ← skipChar '\n' then emptyLines fuel

/-- The next word, if nothing in it is quoted or a variable. It is not taken off. -/
def plainWord : Reader (List Char) := do
  let rest := (← get).rest
  let cs := rest.takeWhile fun c => !endsWord c && !isQuoting c
  if (rest.drop cs.length).head?.any isQuoting then return [] else return cs

/-- Puts the text that a name stands for in the place of the name, if one comes next. In its own text a name stands for
itself. -/
def expandAliases : (fuel : Nat) → Reader Unit
  | 0 => return
  | fuel + 1 => do
    blanks
    let name ← plainWord
    let s ← get
    let opened := s.opened.filter fun o => o.2 < s.rest.length
    match s.aliases.lookup name with
    | none => return
    | some text =>
      if (opened.lookup name).isSome then return
      else
        let below := s.rest.drop name.length
        set { s with rest := text ++ below, opened := (name, below.length) :: opened }
        expandAliases fuel

/-- Takes a word off that opens or closes a command, if it comes next. -/
def skipWord (word : String) : Reader Bool := do
  blanks
  if (← plainWord) = word.toList then
    drop word.length
    return true
  else return false

/-- The sign of a redirection that comes next. -/
def redirectionSigns : List (List Char) :=
  ["<<-", "<<", "<&", "<>", "<", ">>", ">&", ">|", ">"].map String.toList

/-- What a message calls that which comes next; `reserved` tells whether words that open and close commands are such
there. -/
def nextName (reserved : Bool) : Reader String := do
  blanks
  let rest := (← get).rest
  let signs := ["&&", "||", ";;", ";", "&", "|", "(", ")"]
  let quoted (s : String) : String := "\"" ++ s ++ "\""
  if rest.isEmpty then return "end of file"
  else if rest.head? = some '\n' then return "newline"
  else
    match signs.find? fun s => s.toList.isPrefixOf rest with
    | some s => return quoted s
    | none =>
      let word ← plainWord
      if redirectionSigns.any fun s => s.isPrefixOf (rest.dropWhile Char.isDigit) then return "redirection"
      else if reserved && reservedWords.contains word then return quoted (String.ofList word)
      else return "word"

/-- Refuses what comes next. -/
def unexpected : Reader α := do refuse (.unexpected (← nextName true) none)

/-- Refuses what comes next because something else has to stand there. -/
def expecting (what : String) : Reader α := do refuse (.unexpected (← nextName true) (some what))

def expectWord (word : String) : Reader Unit := do
  unless ← skipWord word do expecting ("\"" ++ word ++ "\"")

/-- Takes a closing bracket off, in front of which a command ends or not. -/
def expectBracket (reserved : Bool) : Reader Unit := do
  blanks
  unless ← skipChar ')' do refuse (.unexpected (← nextName reserved) (some "\")\""))

/-- The text between grave accents, from which backslashes have been taken, and the length that it had. -/
def backquoted (quoted : Bool) : List Char → Option (List Char × Nat)
  | [] => none
  | '\x60' :: _ => some ([], 1)
  | '\\' :: c :: cs =>
    (backquoted quoted cs).map fun r =>
      if ['\x60', '\\', '$'].contains c || (quoted && c == '"') then (c :: r.1, r.2 + 2)
      else ('\\' :: c :: r.1, r.2 + 2)
  | c :: cs => (backquoted quoted cs).map fun r => (c :: r.1, r.2 + 1)

/-- The text of lines up to one that is a mark, and how many lines that takes, the mark included. Only the last line
has no end. -/
def linesUpTo (tabs : Bool) (mark : List Char) : List (List Char) → List Char × Nat
  | [] => ([], 0)
  | line :: lines =>
    let shown := if tabs then line.dropWhile (· = '\t') else line
    if shown = mark then ([], 1)
    else if lines.isEmpty then (shown, 1)
    else
      let (text, n) := linesUpTo tabs mark lines
      (shown ++ '\n' :: text, n + 1)

/-- Cuts a text out of the script that starts behind the line at hand and ends at a mark. -/
def cutDocument (tabs : Bool) (mark : List Char) : Reader (List Char) := do
  let s ← get
  let line := s.rest.takeWhile (· ≠ '\n')
  let lines := (s.rest.drop (line.length + 1)).splitOn '\n'
  let (text, n) := linesUpTo tabs mark lines
  set { s with rest := line ++ '\n' :: ['\n'].intercalate (lines.drop n), cutLines := s.cutLines + n }
  return text

/-- The text of parts in which there are no variables. -/
def plainText? (ps : List Part) : Option (List Char) :=
  (ps.mapM fun p => match p with
    | Part.text _ cs => some cs
    | _ => none).map List.flatten

/-- Whether any part stands in quotes. -/
def hasQuotes (ps : List Part) : Bool := ps.any fun p => match p with
  | .text quoted _ | .parameter quoted _ _ | .commands quoted _ | .arithmetic quoted _ => quoted

/-- Takes a number and the sign of a redirection off, if they come next. -/
def redirectionSign : Reader (Option (Option Nat × List Char)) := do
  let rest := (← get).rest
  let (number, below) := match rest with
    | c :: cs => if c.isDigit && cs.head?.any (fun d => d = '<' || d = '>') then (some (c.toNat - 48), cs) else (none, rest)
    | [] => (none, rest)
  match redirectionSigns.find? fun s => s.isPrefixOf below with
  | some s =>
    drop (rest.length - below.length + s.length)
    return some (number, s)
  | none => return none

/-- Whether commands end here: at the end of the script, at a closing bracket, or at a word that closes a command. -/
def endsCommands : Reader Bool := do
  blanks
  let rest := (← get).rest
  let closing : List String := ["then", "else", "elif", "fi", "do", "done", "esac", "\x7d"]
  return rest.isEmpty || rest.head? = some ')' || [';', ';'].isPrefixOf rest ||
    (closing.map String.toList).contains (← plainWord)

mutual

/-- Reads parts up to where their setting ends; a closing sign is taken off. -/
def parts : (fuel : Nat) → Setting → Reader (List Part)
  | 0, _ => refuse .tooLong
  | fuel + 1, s => do
    let plain ← takeRun s.isPlain
    if !plain.isEmpty then return .text s.isQuoted plain :: (← parts fuel s)
    else
      match ← peek with
      | none => match s with
        | .bare | .document => return []
        | .double | .braces true => refuse .openQuote
        | .braces false => refuse (.missing "'\x7d'")
        | .arithmetic _ => refuse (.missing "'))'")
      | some '\\' =>
        drop 1
        match ← peek with
        | none => return [.text true ['\\']]
        | some '\n' =>
          drop 1
          parts fuel s
        | some c =>
          if s.escapes c then
            drop 1
            return .text true [c] :: (← parts fuel s)
          else return .text true ['\\'] :: (← parts fuel s)
      | some '$' =>
        drop 1
        let p ← dollar fuel s.isQuoted
        return p :: (← parts fuel s)
      | some '\x60' =>
        drop 1
        match backquoted s.isQuoted (← get).rest with
        | none =>
          drop (← get).rest.length
          refuse .openBackquote
        | some (cs, n) =>
          drop n
          let outer ← get
          set { outer with rest := cs, line := 1, cutLines := 0, opened := [] }
          let body ← script fuel
          set outer
          return .commands s.isQuoted body :: (← parts fuel s)
      | some c =>
        match s with
        | .bare => quotes fuel s c
        | .document => unexpected
        | .double =>
          drop 1
          return []
        | .braces _ =>
          if c = '\x7d' then
            drop 1
            return []
          else quotes fuel s c
        | .arithmetic depth =>
          drop 1
          if c = '(' then return .text true [c] :: (← parts fuel (.arithmetic (depth + 1)))
          else if c = '"' then parts fuel s
          else if depth > 0 then return .text true [c] :: (← parts fuel (.arithmetic (depth - 1)))
          else if ← skipChar ')' then return []
          else return .text true [c] :: (← parts fuel s)

/-- Reads what stands in quotes, if a quote comes next, and the parts behind it. -/
def quotes : (fuel : Nat) → Setting → Char → Reader (List Part)
  | 0, _, _ => refuse .tooLong
  | fuel + 1, s, c => do
    if c = '\'' then
      drop 1
      let cs ← takeRun (· ≠ '\'')
      unless ← skipChar '\'' do refuse .openQuote
      return .text true cs :: (← parts fuel s)
    else if c = '"' then
      drop 1
      let inner ← parts fuel .double
      let inner := if inner.isEmpty then [.text true []] else inner
      return inner ++ (← parts fuel s)
    else return []

/-- Reads what follows a dollar sign. -/
def dollar : (fuel : Nat) → (quoted : Bool) → Reader Part
  | 0, _ => refuse .tooLong
  | fuel + 1, quoted => do
    if ← skip ['(', '('] then return .arithmetic quoted (← parts fuel (.arithmetic 0))
    else if ← skipChar '(' then
      let body ← commands fuel
      emptyLines fuel
      expectBracket true
      return .commands quoted body
    else if ← skipChar '\x7b' then braced fuel quoted
    else
      match ← peek with
      | some c =>
        if isNameStart c then return .parameter quoted (← takeRun isNameChar) .plain
        else if c.isDigit || isSpecialName c then
          drop 1
          return .parameter quoted [c] .plain
        else return .text true ['$']
      | none => return .text true ['$']

/-- Reads a variable in braces behind the opening one. -/
def braced : (fuel : Nat) → (quoted : Bool) → Reader Part
  | 0, _ => refuse .tooLong
  | fuel + 1, quoted => do
    let rest := (← get).rest
    let isLength := match rest with
      | '#' :: c :: _ => isNameChar c || (isSpecialName c && ['\x7d'].isPrefixOf (rest.drop 2))
      | _ => false
    if isLength then drop 1
    let name ← match ← peek with
      | some c =>
        if isNameStart c then takeRun isNameChar
        else if c.isDigit then takeRun Char.isDigit
        else if isSpecialName c then do drop 1; pure [c]
        else pure []
      | none => refuse (if quoted then .openQuote else .missing "'\x7d'")
    if isLength then
      if ← skipChar '\x7d' then return .parameter quoted name .length
      else
        let _ ← parts fuel (.braces quoted)
        return .parameter quoted name .unknown
    else if name.isEmpty then
      let _ ← parts fuel (.braces quoted)
      return .parameter quoted name .unknown
    else if ← skipChar '\x7d' then return .parameter quoted name .plain
    else return .parameter quoted name (← use fuel quoted)

/-- Reads what is taken of a variable, up to the closing brace. -/
def use : (fuel : Nat) → (quoted : Bool) → Reader Use
  | 0, _ => refuse .tooLong
  | fuel + 1, quoted => do
    if ← skip ['%', '%'] then return .cut true true (← parts fuel (.braces false))
    else if ← skip ['#', '#'] then return .cut false true (← parts fuel (.braces false))
    else if ← skipChar '%' then return .cut true false (← parts fuel (.braces false))
    else if ← skipChar '#' then return .cut false false (← parts fuel (.braces false))
    else
      let ifEmpty ← skipChar ':'
      let kind : Option Fallback := match ← peek with
        | some '-' => some .other
        | some '=' => some .assign
        | some '?' => some .refuse
        | some '+' => some .replace
        | _ => none
      if kind.isSome then drop 1
      let word ← parts fuel (.braces quoted)
      match kind with
      | some kind => return .fallback kind ifEmpty word
      | none => return .unknown

/-- Reads a word; there has to be one. -/
def word : (fuel : Nat) → Reader Word
  | 0 => refuse .tooLong
  | fuel + 1 => do
    blanks
    match ← peek with
    | none => unexpected
    | some c => if endsWord c then unexpected else parts fuel .bare

/-- Reads a redirection, if one comes next. -/
def redirection? : (fuel : Nat) → Reader (Option Redirection)
  | 0 => refuse .tooLong
  | fuel + 1 => do
    blanks
    match ← redirectionSign with
    | none => return none
    | some (number, sign) =>
      let target ← word fuel
      let input := number.getD 0
      let output := number.getD 1
      match String.ofList sign with
      | "<" => return some (.file input .read target)
      | "<>" => return some (.file input .readWrite target)
      | ">" => return some (.file output .write target)
      | ">|" => return some (.file output .overwrite target)
      | ">>" => return some (.file output .append target)
      | "<&" | ">&" =>
        let stream := if sign.head? = some '<' then input else output
        match plainText? target with
        | some ['-'] | none => return some (.copy stream target)
        | some [c] => if c.isDigit then return some (.copy stream target) else refuse .badStream
        | some _ => refuse .badStream
      | sign =>
        match plainText? target with
        | none => unexpected
        | some mark =>
          let start := (← get).cutLines
          let text ← cutDocument (sign = "<<-") mark
          if hasQuotes target then return some (.document input [.text true text])
          else
            let outer ← get
            set { outer with rest := text, line := outer.line + start + 1, cutLines := 0, opened := [] }
            let content ← parts fuel .document
            set outer
            return some (.document input content)

def redirections : (fuel : Nat) → Reader (List Redirection)
  | 0 => refuse .tooLong
  | fuel + 1 => do
    match ← redirection? fuel with
    | some r => return r :: (← redirections fuel)
    | none => return []

/-- Reads the assignments, words and redirections of a simple command. Assignments come before the first word. -/
def simple : (fuel : Nat) → (started : Bool) →
    Reader (List (List Char × Word) × List Word × List Redirection)
  | 0, _ => refuse .tooLong
  | fuel + 1, started => do
    match ← redirection? fuel with
    | some r =>
      let (as, ws, rs) ← simple fuel started
      return (as, ws, r :: rs)
    | none =>
      let rest := (← get).rest
      match rest with
      | [] => return ([], [], [])
      | c :: _ =>
        if endsWord c then return ([], [], [])
        else
          let name := rest.takeWhile isNameChar
          if !started && isName name && (rest.drop name.length).head? = some '=' then
            drop (name.length + 1)
            let value ← parts fuel .bare
            let (as, ws, rs) ← simple fuel started
            return ((name, value) :: as, ws, rs)
          else
            let w ← parts fuel .bare
            let (as, ws, rs) ← simple fuel true
            return (as, w :: ws, rs)

/-- Reads a command. -/
def command : (fuel : Nat) → Reader Command
  | 0 => refuse .tooLong
  | fuel + 1 => do
    expandAliases fuel
    let line := (← get).line
    let first ← plainWord
    if ← skipChar '(' then
      let c ← body fuel
      expectBracket true
      return .redirected (.subshell c) (← redirections fuel)
    else if openingWords.contains first then
      drop first.length
      let c ← compound fuel (String.ofList first)
      match ← redirections fuel with
      | [] => return c
      | rs => return .redirected c rs
    else if reservedWords.contains first then unexpected
    else
      let (as, ws, rs) ← simple fuel false
      match as, ws, rs with
      | [], [], [] => unexpected
      | [], [w], [] =>
        -- A word in front of brackets is the name of a function.
        if ← skipChar '(' then
          expectBracket false
          match w with
          | [.text false name] =>
            if !isName name || isSpecialCommand name then refuse .badFunctionName
            else
              emptyLines fuel
              return .define name (← command fuel)
          | _ => refuse .badFunctionName
        else return .simple line as ws rs
      | as, ws, rs => return .simple line as ws rs

/-- Reads a command behind the word that opens it. -/
def compound : (fuel : Nat) → (opening : String) → Reader Command
  | 0, _ => refuse .tooLong
  | fuel + 1, opening => do
    match opening with
    | "\x7b" =>
      let c ← body fuel
      expectWord "\x7d"
      return c
    | "if" => choice fuel
    | "while" | "until" =>
      let condition ← body fuel
      expectWord "do"
      let c ← body fuel
      expectWord "done"
      return .loop (opening = "until") condition c
    | "for" =>
      blanks
      let name ← plainWord
      if !isName name then refuse .badLoopVariable
      else
        drop name.length
        emptyLines fuel
        let ws ← if ← skipWord "in" then some <$> words fuel else pure none
        if ws.isNone then
          let _ ← skipChar ';'
        emptyLines fuel
        expectWord "do"
        let c ← body fuel
        expectWord "done"
        return .each name ws c
    | "case" =>
      blanks
      if (← get).rest.head?.all endsWord then expecting "word"
      let subject ← word fuel
      emptyLines fuel
      expectWord "in"
      return .select subject (← branches fuel)
    | _ => unexpected

/-- Reads the words that a loop goes through, and the sign that ends them. -/
def words : (fuel : Nat) → Reader (List Word)
  | 0 => refuse .tooLong
  | fuel + 1 => do
    blanks
    if (← skipChar ';') || (← skipChar '\n') then return []
    else
      let w ← word fuel
      return w :: (← words fuel)

/-- Reads a choice behind the word that opens it. -/
def choice : (fuel : Nat) → Reader Command
  | 0 => refuse .tooLong
  | fuel + 1 => do
    let condition ← body fuel
    expectWord "then"
    let yes ← body fuel
    if ← skipWord "elif" then return .choice condition yes (← choice fuel)
    else if ← skipWord "else" then
      let no ← body fuel
      expectWord "fi"
      return .choice condition yes no
    else
      expectWord "fi"
      return .choice condition yes (.sequence [])

/-- Reads the branches of a choice by patterns, up to its end. -/
def branches : (fuel : Nat) → Reader (List (List Word × Command))
  | 0 => refuse .tooLong
  | fuel + 1 => do
    emptyLines fuel
    if ← skipWord "esac" then return []
    else
      let _ ← skipChar '('
      let ps ← patterns fuel
      let cs ← commands fuel
      emptyLines fuel
      if ← skip [';', ';'] then return (ps, .sequence cs) :: (← branches fuel)
      else if ← skipWord "esac" then return [(ps, .sequence cs)]
      else expecting "\";;\""

/-- Reads patterns up to the bracket behind them. -/
def patterns : (fuel : Nat) → Reader (List Word)
  | 0 => refuse .tooLong
  | fuel + 1 => do
    blanks
    if (← get).rest.head?.all endsWord then
      -- What stands in the place of a pattern is passed over.
      drop (if [';', ';'].isPrefixOf (← get).rest then 2 else 1)
      refuse (.unexpected (← nextName false) (some "\")\""))
    else
      let p ← word fuel
      blanks
      if ← skipChar '|' then return p :: (← patterns fuel)
      else
        expectBracket false
        return [p]

/-- Reads commands with bars between them, perhaps behind an exclamation mark. -/
def pipeline : (fuel : Nat) → Reader Command
  | 0 => refuse .tooLong
  | fuel + 1 => do
    if ← skipWord "!" then return .not (← piped fuel) else piped fuel

/-- Reads commands with bars between them. -/
def piped : (fuel : Nat) → Reader Command
  | 0 => refuse .tooLong
  | fuel + 1 => do
    let c ← command fuel
    match ← morePiped fuel with
    | [] => return c
    | cs => return .pipeline (c :: cs)

def morePiped : (fuel : Nat) → Reader (List Command)
  | 0 => refuse .tooLong
  | fuel + 1 => do
    blanks
    let rest := (← get).rest
    if ['|', '|'].isPrefixOf rest then return []
    else if ← skipChar '|' then
      emptyLines fuel
      let c ← command fuel
      return c :: (← morePiped fuel)
    else return []

/-- Reads pipelines of which each depends on how the ones before it end. -/
def conditional : (fuel : Nat) → Reader Command
  | 0 => refuse .tooLong
  | fuel + 1 => do
    let c ← pipeline fuel
    moreConditional fuel c

def moreConditional : (fuel : Nat) → Command → Reader Command
  | 0, _ => refuse .tooLong
  | fuel + 1, c => do
    blanks
    if ← skip ['&', '&'] then
      emptyLines fuel
      let d ← pipeline fuel
      moreConditional fuel (.both c d)
    else if ← skip ['|', '|'] then
      emptyLines fuel
      let d ← pipeline fuel
      moreConditional fuel (.either c d)
    else return c

/-- Reads commands up to where they end. -/
def commands : (fuel : Nat) → Reader (List Command)
  | 0 => refuse .tooLong
  | fuel + 1 => do
    emptyLines fuel
    if ← endsCommands then return []
    else
      let c ← conditional fuel
      blanks
      let rest := (← get).rest
      if [';', ';'].isPrefixOf rest then return [c]
      else if ← skipChar '&' then return .background c :: (← commands fuel)
      else if (← skipChar ';') || (← skipChar '\n') then return c :: (← commands fuel)
      else return [c]

/-- Reads at least one command up to where commands end. -/
def body : (fuel : Nat) → Reader Command
  | 0 => refuse .tooLong
  | fuel + 1 => do
    match ← commands fuel with
    | [] => if (← get).rest.isEmpty then return .sequence [] else unexpected
    | [c] => return c
    | cs => return .sequence cs

/-- Reads a whole script. -/
def script : (fuel : Nat) → Reader (List Command)
  | 0 => refuse .tooLong
  | fuel + 1 => do
    let cs ← commands fuel
    emptyLines fuel
    if (← get).rest.isEmpty then return cs else unexpected

/-- Reads the commands up to the end of a line. -/
def lineCommands : (fuel : Nat) → Reader (List Command)
  | 0 => refuse .tooLong
  | fuel + 1 => do
    let c ← conditional fuel
    blanks
    let rest := (← get).rest
    if rest.isEmpty then return [c]
    else if ← skipChar '\n' then return [c]
    else if [';', ';'].isPrefixOf rest then unexpected
    else if ← skipChar '&' then moreOfLine fuel (.background c)
    else if ← skipChar ';' then moreOfLine fuel c
    else unexpected

/-- Reads what follows a command on its line. -/
def moreOfLine : (fuel : Nat) → Command → Reader (List Command)
  | 0, _ => refuse .tooLong
  | fuel + 1, c => do
    blanks
    if (← get).rest.isEmpty then return [c]
    else if ← skipChar '\n' then return [c]
    else return c :: (← lineCommands fuel)

end

end Reader

/-- What the next line of a script comes to. -/
inductive NextLine where
  | finished
  | malformed (line : Nat) (fault : ReadFault)
  | commands (cs : List Command) (rest : Source)

/-- Reads the next line of a script that is not empty, and the lines that belong to it. -/
def nextCommands (s : Source) : NextLine :=
  let aliased := s.aliases.foldl (fun n a => n + a.2.length) 0
  let fuel := 12 * (s.rest.length * (1 + aliased)) + 60
  let reading : Reader (List Command) := do
    Reader.emptyLines fuel
    if (← get).rest.isEmpty then return [] else Reader.lineCommands fuel
  match reading.run s with
  | .ok ([], _) => .finished
  | .ok (cs, rest) => .commands cs rest
  | .error (line, fault) => .malformed line fault

end Bootstrap.Shell
