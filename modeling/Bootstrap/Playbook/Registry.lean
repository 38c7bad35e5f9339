import Bootstrap.Text.Items

/-!
# Playbook registry

The playbooks that a bundle ships, in a fixed order. The registry is written as a comma list when the
program is built and read back at the start of every invocation.
-/

namespace Bootstrap.Playbook

structure Registry where
  names : List String
deriving DecidableEq, Inhabited

namespace Registry

/-- Reads a comma list; blank items name no playbook. -/
def ofList (spec : String) : Registry := ⟨Text.items spec⟩

def contains (r : Registry) (name : String) : Bool := r.names.contains name

/-- One name a line. -/
def listing (r : Registry) : String := String.intercalate "\n" r.names

theorem contains_iff {r : Registry} {name : String} : r.contains name = true ↔ name ∈ r.names := by
  simp [contains]

end Registry

end Bootstrap.Playbook
