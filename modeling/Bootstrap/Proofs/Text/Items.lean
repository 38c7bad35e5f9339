import Bootstrap.Proofs.Path.Names
import Bootstrap.Text.Items

/-!
# Comma lists that are read back

Several texts travel as one comma list and are taken apart again by every reader. What comes out is what went in as long
as each text reads as itself: `Text.IsItem`.

* `items_joinItems` — a joined list reads as the items of its parts, one part behind the other.
* `isItem_of_mem_items`, `items_of_isItem` — the items of a list are texts that read as themselves.
-/

namespace Bootstrap.Text

/-! ## Blanks at the ends -/

/-- What has nothing to strip at its ends stays as it is. -/
theorem stripBoth_eq_self {p : Char → Bool} {cs : List Char} (hhead : ∀ c ∈ cs.head?, p c = false)
    (hlast : ∀ c ∈ cs.getLast?, p c = false) : stripBoth p cs = cs := by
  have hdrop : ∀ {as : List Char}, (∀ c ∈ as.head?, p c = false) → as.dropWhile p = as := by
    intro as has
    cases as with
    | nil => rfl
    | cons c as => rw [List.dropWhile_cons_of_neg (by simp [has c rfl])]
  rw [stripBoth, hdrop hhead, hdrop (by rwa [List.head?_reverse]), List.reverse_reverse]

/-- What is stripped does not start with what was stripped off. -/
theorem head?_stripBoth {p : Char → Bool} {cs : List Char} (c : Char) (hc : c ∈ (stripBoth p cs).head?) :
    p c = false := by
  -- what is left is a first part of what is left behind the front
  have hprefix : stripBoth p cs <+: cs.dropWhile p := by
    rw [stripBoth, ← List.reverse_suffix, List.reverse_reverse]
    exact List.dropWhile_suffix _
  obtain ⟨rest, hrest⟩ := List.head?_eq_some_iff.mp hc
  obtain ⟨more, hmore⟩ := hprefix
  rw [hrest, List.cons_append] at hmore
  exact head_dropWhile hmore.symm

/-- Nor does it end with it. -/
theorem getLast?_stripBoth {p : Char → Bool} {cs : List Char} (c : Char) (hc : c ∈ (stripBoth p cs).getLast?) :
    p c = false := by
  rw [stripBoth, List.getLast?_reverse] at hc
  obtain ⟨rest, hrest⟩ := List.head?_eq_some_iff.mp hc
  exact head_dropWhile hrest

theorem mem_of_mem_stripBoth {p : Char → Bool} {cs : List Char} {c : Char} (hc : c ∈ stripBoth p cs) : c ∈ cs := by
  rw [stripBoth, List.mem_reverse] at hc
  exact (List.dropWhile_sublist _).mem (List.mem_reverse.mp ((List.dropWhile_sublist _).mem hc))

/-! ## Texts that read as themselves -/

/-- A text that is one item of a comma list as it stands. -/
structure IsItem (s : String) : Prop where
  ne_nil : s.toList ≠ []
  noComma : ',' ∉ s.toList
  head : ∀ c ∈ s.toList.head?, isBlank c = false
  last : ∀ c ∈ s.toList.getLast?, isBlank c = false

instance (s : String) : Decidable (IsItem s) :=
  decidable_of_iff (s.toList ≠ [] ∧ ',' ∉ s.toList ∧ s.toList.head?.all (!isBlank ·) = true ∧
      s.toList.getLast?.all (!isBlank ·) = true) (by
    simp only [Option.all_eq_true, Bool.not_eq_true']
    exact ⟨fun ⟨h₁, h₂, h₃, h₄⟩ => ⟨h₁, h₂, h₃, h₄⟩, fun h => ⟨h.ne_nil, h.noComma, h.head, h.last⟩⟩)

theorem items_of_isItem {s : String} (h : IsItem s) : items s = [s] := by
  rw [items, itemChars, List.splitOn_eq_singleton h.noComma, List.map_singleton, trim, stripBoth_eq_self h.head h.last,
    List.filter_cons_of_pos (by simpa using h.ne_nil), List.filter_nil, List.map_singleton, String.ofList_toList]

/-- What is read from a list are items: nothing in them would be stripped or cut again. So reading the joined items
gives the same items: `items_joinItems`. -/
theorem isItem_of_mem_items {spec s : String} (h : s ∈ items spec) : IsItem s := by
  obtain ⟨item, hitem, rfl⟩ := List.mem_map.mp h
  have hne := ne_nil_of_mem_itemChars hitem
  obtain ⟨piece, hpiece, rfl⟩ := List.mem_map.mp (List.mem_filter.mp hitem).1
  constructor
  · rwa [String.toList_ofList]
  · rw [String.toList_ofList]
    exact fun hcomma => not_mem_of_mem_splitOn hpiece (mem_of_mem_stripBoth hcomma)
  · rw [String.toList_ofList]
    exact head?_stripBoth
  · rw [String.toList_ofList]
    exact getLast?_stripBoth

/-! ## Joined lists -/

theorem itemChars_append (as bs : List Char) : itemChars (as ++ ',' :: bs) = itemChars as ++ itemChars bs := by
  simp only [itemChars, List.splitOn_append_cons_self, List.map_append, List.filter_append]

/-- A joined list reads as the items of its parts, because the comma that joins them parts them again. -/
theorem items_joinItems (xs : List String) : items (joinItems xs) = xs.flatMap items := by
  induction xs with
  | nil => decide
  | cons x xs ih =>
      cases xs with
      | nil => simp [joinItems]
      | cons y ys =>
          have hjoin : (joinItems (x :: y :: ys)).toList = x.toList ++ ',' :: (joinItems (y :: ys)).toList := by
            rw [joinItems, String.intercalate_cons_cons, String.toList_append, String.toList_append, List.append_assoc]
            rfl
          rw [List.flatMap_cons, ← ih, items, hjoin, itemChars_append, List.map_append]
          rfl

/-- Texts that read as themselves come through a joined list unchanged. -/
theorem items_joinItems_of_isItem {xs : List String} (h : ∀ x ∈ xs, IsItem x) : items (joinItems xs) = xs := by
  rw [items_joinItems]
  induction xs with
  | nil => rfl
  | cons x xs ih =>
      rw [List.flatMap_cons, items_of_isItem (h x (by simp)), ih fun y hy => h y (List.mem_cons_of_mem _ hy)]
      rfl

/-- Lists of such texts that are joined to one text are one list. -/
theorem joinItems_inj {xs ys : List String} (hx : ∀ x ∈ xs, IsItem x) (hy : ∀ y ∈ ys, IsItem y) :
    joinItems xs = joinItems ys ↔ xs = ys := by
  constructor
  · intro h
    rw [← items_joinItems_of_isItem hx, h, items_joinItems_of_isItem hy]
  · rintro rfl
    rfl

end Bootstrap.Text
