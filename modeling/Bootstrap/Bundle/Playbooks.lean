import Bootstrap.Bundle.Basic
import Bootstrap.Playbook.Registry

/-!
# Playbooks of a bundle

When the program is built, the playbooks that its bundle ships are read off the names of the members: files
named `*.yaml` directly in the top directory. The names are taken as texts, in sorted order. A broken bundle has
no list of playbooks at all.
-/

namespace Bootstrap.Bundle

/-- Whether two dots stand side by side. -/
def hasDotDot : List Char → Bool
  | '.' :: '.' :: _ => true
  | _ :: rest => hasDotDot rest
  | [] => false

/-- Takes every leading `./` off. -/
def dropDotSlashes : List Char → List Char
  | '.' :: '/' :: rest => dropDotSlashes rest
  | cs => cs

/-- What follows `front` in a text that starts with it. -/
def after? : (front : List Char) → List Char → Option (List Char)
  | [], cs => some cs
  | a :: front, c :: cs => if a = c then after? front cs else none
  | _ :: _, [] => none

/-- The playbook that a member with this name is, if it is one. -/
def playbookName? (name : String) : Option String := do
  if hasDotDot name.toList then none
  else
    let rest ← after? "automation/".toList (dropDotSlashes name.toList)
    if ".yaml".toList.isSuffixOf rest && !rest.contains '/' then some (String.ofList rest) else none

/-- The names of the playbooks in a bundle, in order and with repetitions; `none` if the bundle is broken. -/
def playbookNames? (b : Bundle) : Option (List String) :=
  if b.archive.broken then none
  else
    some ((b.archive.members.filterMap fun m => playbookName? m.name.display).mergeSort
      fun x y => decide (x ≤ y))

end Bootstrap.Bundle
