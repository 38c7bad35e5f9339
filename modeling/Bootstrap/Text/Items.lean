import Bootstrap.Text.Blank

/-!
# Comma lists

Playbook registries, inventory specs and cache lists are all written as one text with items separated
by commas. Blank characters around an item are not part of it, and an item of blank characters only is
no item.

* `items` reads a comma list.
* `joinItems` writes one.
-/

namespace Bootstrap.Text

/-- The characters of the items of a comma list, in order. -/
def itemChars (cs : List Char) : List (List Char) :=
  ((cs.splitOn ',').map trim).filter fun item => !item.isEmpty

/-- The items of a comma list, in order and with repetitions. -/
def items (spec : String) : List String := (itemChars spec.toList).map String.ofList

/-- The comma list of some items. -/
def joinItems (xs : List String) : String := String.intercalate "," xs

/-- No item is empty. -/
theorem ne_nil_of_mem_itemChars {cs item : List Char} (h : item ∈ itemChars cs) : item ≠ [] := by
  simp only [itemChars, List.mem_filter] at h
  intro hnil
  simp [hnil] at h

end Bootstrap.Text
