import Bootstrap.Disk.Files
import Bootstrap.Text.Items

/-!
# Clearing caches

Caches are named in a comma list. `~/` in front of an entry stands for the home directory, which itself is refused as
an entry. A name that ends in `*` stands for the first one, in byte order, that starts with what is in front of the
star. Whatever an entry stands for is removed with all it contains; a link is removed itself.
-/

namespace Bootstrap.Cache

/-- The path that an entry spells. -/
def spelledPath (entry : String) (home : Path) : Path :=
  match entry.toList with
  | '~' :: '/' :: rest => home.joinText (String.ofList rest)
  | _ => Path.ofText entry

/-- What stands in front of a star at the end of the last name of a path, if that name is text. -/
def pattern? (p : Path) : Option (List Char) := do
  let name ← Text.decode? (← p.fileName?)
  if name.toList.getLast? = some '*' then some name.toList.dropLast else none

/-- The path that an entry stands for, or none if nothing has a fitting name. -/
def expand (entry : String) (home : Path) : Action (Option Path) := do
  if entry = "~" || entry = "~/" then Action.refuse .cacheIsHome
  else
    let p := spelledPath entry home
    match pattern? p with
    | none => return some p
    | some start =>
      let parent := p.parent?.getD (Path.ofText "/")
      match (← get).listDirectory parent with
      | .error (.system .notFound) => return none
      | .error c => throw ⟨[.readDirectory parent], c⟩
      | .ok names =>
        return (names.find? fun n => start.isPrefixOf (Text.display n).toList).map fun n => parent.join ⟨n⟩

/-- Removes what a path stands for and tells whether anything was there. -/
def removePath (p : Path) : Action Bool := do
  match (← get).linkStatus p with
  | .error (.system .notFound) => return false
  | .error c => throw ⟨[.inspect p], c⟩
  | .ok (_, o) =>
    if o.isDirectory then
      let (result, d) := (← get).removeTree p
      set d
      match result with
      | .ok () => pure ()
      | .error c => throw ⟨[.remove p], c⟩
    else Action.during (.remove p) (Action.change (·.removeFile p))
    return true

/-- Handles one entry; `removed` are the paths removed before it. -/
def clearEntry (home : Path) (removed : List Path) (entry : String) : Action (List Path) := do
  match ← expand entry home with
  | none => return removed
  | some p => if ← removePath p then return removed ++ [p] else return removed

/-- Removes what the entries of a comma list stand for, one after the other up to the first that fails. -/
def clear (spec : String) (home : Path) : Action (List Path) :=
  (Text.items spec).foldlM (clearEntry home) []

end Bootstrap.Cache
