import Bootstrap.Shell.Pattern
import Bootstrap.Shell.Session

/-!
# Fields

What becomes of an expanded word. It is split where a variable has brought separators into it, and a field that is a
pattern is replaced by the names of the files that it stands for.

* `Splitter.fields` splits a word, `filesFor` finds the files of a field.
-/

namespace Bootstrap.Shell

/-! ### Splitting -/

/-- What an expanded word is made of. -/
inductive Mark where
  /-- A character; one that `splits` may separate fields. -/
  | char (c : Char) (quoted splits : Bool)
  /-- There are quotes here, so there is a field even if it is empty. -/
  | quote
  /-- Another argument starts here. -/
  | border

namespace Mark

def ofText (quoted splits : Bool) (cs : List Char) : List Mark :=
  (if quoted then [.quote] else []) ++ cs.map fun c => .char c quoted (splits && !quoted)

/-- The characters of a word that is not split. -/
def text (ms : List Mark) : List Char := ms.filterMap fun m => match m with
  | .char c _ _ => some c
  | .quote => none
  | .border => some ' '

/-- The characters of a word that is a pattern. -/
def pattern (ms : List Mark) : Pattern.Marked := ms.filterMap fun m => match m with
  | .char c quoted _ => some (c, quoted)
  | .quote => none
  | .border => some (' ', true)

end Mark

/-- Fields that are done, the last one first, and the one at hand. -/
structure Splitter where
  done : List Pattern.Marked := []
  field : Option Pattern.Marked := none
  /-- Whether blanks have ended the last field, so that a separator may still belong to them. -/
  blank : Bool := false

namespace Splitter

def close (f : Splitter) (blank : Bool) : Splitter :=
  match f.field with
  | some cs => ⟨cs.reverse :: f.done, none, blank⟩
  | none => { f with blank := blank }

def take (separators : List Char) (f : Splitter) : Mark → Splitter
  | .quote => { f with field := some (f.field.getD []), blank := false }
  | .border => f.close false
  | .char c quoted splits =>
    if splits && separators.contains c then
      if c = ' ' || c = '\t' || c = '\n' then (if f.field.isSome then f.close true else f)
      else if f.field.isSome then f.close false
      else if f.blank then { f with blank := false }
      else { f with done := [] :: f.done }
    else { f with field := some ((c, quoted) :: f.field.getD []), blank := false }

def fields (separators : List Char) (ms : List Mark) : List Pattern.Marked :=
  ((ms.foldl (take separators) {}).close false).done.reverse

end Splitter

/-! ### Names of files -/

/-- The names in a directory that a pattern stands for. A point in front has to be written. -/
def namesFor (d : Disk) (directory : List Char) (p : Pattern) : List (List Char) :=
  let hidden := p.head? = some (.char '.')
  let names := ((d.listDirectory (pathOf (if directory.isEmpty then ['.'] else directory))).toOption.getD []).map ofBytes
  let names := if hidden then ['.'] :: ['.', '.'] :: names else names
  names.filter fun n => (hidden || n.head? ≠ some '.') && p.isMatch n

/-- The paths that start with some paths and go on with patterns for names. -/
def pathsFrom (d : Disk) : (first : Bool) → List (List Char) → List Pattern.Marked → List (List Char)
  | _, bases, [] => bases
  | first, bases, name :: rest =>
    let p := Pattern.ofMarked name
    let found := bases.flatMap fun base =>
      let front := if first then base else base ++ ['/']
      if p.isOpen then
        ((namesFor d front p).map (front ++ ·)).filter fun path => rest.isEmpty || d.isDirectory (pathOf path)
      else
        let path := front ++ name.map Prod.fst
        if !rest.isEmpty || (if name.isEmpty then d.isDirectory (pathOf path) else d.occupied (pathOf path)) then [path]
        else []
    pathsFrom d false found rest

/-- The names of files that a field stands for, or the field itself. -/
def filesFor (d : Disk) (cs : Pattern.Marked) : List (List Char) :=
  let plain := cs.map Prod.fst
  if !(Pattern.ofMarked cs).isOpen then [plain]
  else
    match pathsFrom d true [[]] (cs.splitOnP fun c => c.1 = '/') with
    | [] => [plain]
    | paths => paths.mergeSort fun a b => decide (toBytes a ≤ toBytes b)

end Bootstrap.Shell
