import Bootstrap.Json.Reader
import Bootstrap.Json.Writer
import Mathlib.Tactic.Common

/-!
# Reading what was written

A document that is written is read back as the value that it was written from: `Json.read?_document`. The exceptions
are values that no document shows as they are, so the statement is about `Value.IsSound`: numbers are whole, every string
is a text and every field has a name.

* `readString?_writeString` — whatever characters a string has, the reader undoes the writer's escapes.
* `readElements?_written`, `readFields?_written` — lists are read element by element, if their elements are read back.
* `readsBack_of_isSound` — the statement about values, by induction on the value. What follows a value must not look
  like more digits of it, and the reader needs two readings for each character at most.
-/

namespace Bootstrap.Json

/-! ## Strings -/

/-- A control character is written with four hexadecimal digits, the first two of which are zeros. -/
theorem hexValue4?_digitChar {n : Nat} (h : n < 0x20) :
    hexValue4? '0' '0' (Nat.digitChar (n / 16)) (Nat.digitChar (n % 16)) = some n := by
  revert n
  decide

/-- Four digits that name no half of a character are read by themselves, be it that more digits follow. -/
theorem readString?_digits {a b c d : Char} {n : Nat} (hdigits : hexValue4? a b c d = some n)
    (hhigh : isHighHalf n = false) (hlow : isLowHalf n = false) (rest : List Char) :
    readString? ('\\' :: 'u' :: a :: b :: c :: d :: rest) = consChar (Char.ofNat n) (readString? rest) := by
  by_cases hpair : ∃ e f g h more, rest = '\\' :: 'u' :: e :: f :: g :: h :: more
  · obtain ⟨e, f, g, h, more, rfl⟩ := hpair
    rw [readString?, hdigits]
    simp only [hhigh, hlow, Bool.false_eq_true, if_false]
  · rw [readString?, hdigits]
    · simp only [hhigh, hlow, Bool.or_self, Bool.false_eq_true, if_false]
    · exact fun e f g h more heq => hpair ⟨e, f, g, h, more, heq⟩

/-- Every character is read back from its own text: as it stands, from its short escape, or from its code. -/
theorem readString?_escapeChar (c : Char) (rest : List Char) :
    readString? (escapeChar c ++ rest) = consChar c (readString? rest) := by
  unfold escapeChar
  split_ifs with hquote hbackslash hbell hfeed hnewline hreturn htab hcontrol
  · subst hquote; simp [readString?, unescape?]
  · subst hbackslash; simp [readString?, unescape?]
  · rw [← Char.ofNat_toNat c, hbell]; simp [readString?, unescape?]
  · rw [← Char.ofNat_toNat c, hfeed]; simp [readString?, unescape?]
  · subst hnewline; simp [readString?, unescape?]
  · subst hreturn; simp [readString?, unescape?]
  · subst htab; simp [readString?, unescape?]
  · -- the other control characters are far from the halves
    have hhigh : isHighHalf c.toNat = false := by simp only [isHighHalf, Bool.and_eq_false_iff]; left; simp; omega
    have hlow : isLowHalf c.toNat = false := by simp only [isLowHalf, Bool.and_eq_false_iff]; left; simp; omega
    have hread := readString?_digits (hexValue4?_digitChar hcontrol) hhigh hlow rest
    rwa [Char.ofNat_toNat] at hread
  · -- a character that stands for itself
    rw [List.singleton_append, readString?]
    · simp [hbackslash, hcontrol]
    · exact hquote
    · exact fun _ _ _ _ _ _ _ _ _ h => absurd h hbackslash
    · exact fun _ _ _ _ _ h => absurd h hbackslash
    · exact fun _ _ h => absurd h hbackslash

/-- A string is read back up to its closing quote, and what follows is left. -/
theorem readString?_writeString (s rest : List Char) :
    readString? (s.flatMap escapeChar ++ '"' :: rest) = some (some s, rest) := by
  induction s with
  | nil => rw [List.flatMap_nil, List.nil_append, readString?]
  | cons c s ih => rw [List.flatMap_cons, List.append_assoc, readString?_escapeChar, ih]; rfl

/-! ## Numbers -/

/-- The digits of a whole number, as they are written. -/
structure IsWhole (digits : List Char) : Prop where
  ne_nil : digits ≠ []
  isDigit : ∀ c ∈ digits, c.isDigit = true
  /-- A leading zero stands alone. -/
  lead : digits.head? = some '0' → digits.length = 1

instance (digits : List Char) : Decidable (IsWhole digits) :=
  decidable_of_iff (digits ≠ [] ∧ digits.all Char.isDigit = true ∧ (digits.head? = some '0' → digits.length = 1))
    ⟨fun ⟨h₁, h₂, h₃⟩ => ⟨h₁, List.all_eq_true.mp h₂, h₃⟩, fun h => ⟨h.ne_nil, List.all_eq_true.mpr h.isDigit, h.lead⟩⟩

/-- What follows does not go on with a number: no digit, no point and no exponent. -/
def EndsNumber (rest : List Char) : Prop :=
  ∀ c more, rest = c :: more → c.isDigit = false ∧ c ≠ '.' ∧ c ≠ 'e' ∧ c ≠ 'E'

/-- The characters at which a number ends. In a document these are the comma, the brackets and the end of a line. -/
theorem endsNumber_cons {c : Char} (more : List Char)
    (h : c.isDigit = false ∧ c ≠ '.' ∧ c ≠ 'e' ∧ c ≠ 'E' := by decide) : EndsNumber (c :: more) := by
  rintro _ _ ⟨⟩
  exact h

/-- Digits are read as far as they go, so they end where the next character is none. -/
theorem readDigits?_append {digits rest : List Char} (hne : digits ≠ []) (hdigits : ∀ c ∈ digits, c.isDigit = true)
    (hrest : EndsNumber rest) : readDigits? (digits ++ rest) = some (digits, rest) := by
  have htake : (digits ++ rest).takeWhile Char.isDigit = digits := by
    rw [List.takeWhile_append_of_pos hdigits]
    cases rest with
    | nil => simp
    | cons c more => simp [(hrest c more rfl).1]
  unfold readDigits?
  rw [htake]
  simp [hne]

/-- A whole number is read in full. Each of the parts that may come behind it, a fraction and an exponent, is ruled out
by the first character of the rest. -/
theorem readNumber?_whole {digits rest : List Char} (h : IsWhole digits) (hrest : EndsNumber rest) :
    readNumber? (digits ++ rest) = some (digits, rest) := by
  -- the digits are read, and then neither a fraction nor an exponent is found
  have hwhole : readWhole? (digits ++ rest) = some (digits, rest) := by
    unfold readWhole?
    rw [readDigits?_append h.ne_nil h.isDigit hrest]
    simp only [bind, Option.bind]
    rw [if_neg fun hlead => hlead.2 (h.lead hlead.1)]
  have hfraction : readFraction? rest = some ([], rest) := by
    cases rest with
    | nil => rfl
    | cons c more => rw [readFraction?]; exact fun _ heq => (hrest c more rfl).2.1 (List.cons.inj heq).1
  have hexponent : readExponent? rest = some ([], rest) := by
    cases rest with
    | nil => rfl
    | cons c more => simp [readExponent?, (hrest c more rfl).2.2.1, (hrest c more rfl).2.2.2]
  have hunsigned : readUnsigned? (digits ++ rest) = some (digits, rest) := by
    unfold readUnsigned?
    simp [hwhole, hfraction, hexponent]
  obtain ⟨c, more, rfl⟩ := List.exists_cons_of_ne_nil h.ne_nil
  -- a number without a sign
  have hminus : c ≠ '-' := by
    rintro rfl
    exact absurd (h.isDigit '-' (by simp)) (by decide)
  rw [List.cons_append, readNumber?]
  · exact hunsigned
  · exact fun _ heq => hminus (List.cons.inj heq).1

/-! ## Spaces -/

/-- Blanks are skipped at once. -/
theorem skipSpace_skipSpace (cs : List Char) : skipSpace (skipSpace cs) = skipSpace cs := by
  unfold skipSpace
  cases h : cs.dropWhile isSpace with
  | nil => rfl
  | cons c more =>
      have hc : isSpace c = false := by simpa [h] using List.head_dropWhile_not isSpace (l := cs) (by simp [h])
      simp [hc]

theorem skipSpace_of_not_isSpace {c : Char} (hc : isSpace c = false) (more : List Char) :
    skipSpace (c :: more) = c :: more := by
  simp [skipSpace, hc]

/-- The end of a line and what it is indented by are blanks. -/
theorem skipSpace_newLine (level : Nat) (cs : List Char) : skipSpace (newLine level ++ cs) = skipSpace cs := by
  have hblanks : ∀ n, (List.replicate n ' ' ++ cs).dropWhile isSpace = cs.dropWhile isSpace := by
    intro n
    exact List.dropWhile_append_of_pos fun c hc => by rw [List.eq_of_mem_replicate hc]; decide
  unfold skipSpace newLine
  rw [List.cons_append, List.dropWhile_cons_of_pos (by decide)]
  exact hblanks _

theorem readValue?_skipSpace (fuel : Nat) (cs : List Char) : readValue? fuel (skipSpace cs) = readValue? fuel cs := by
  cases fuel with
  | zero => simp only [readValue?]
  | succ fuel => rw [readValue?, readValue?, skipSpace_skipSpace]

/-- Blanks in front of the elements of an array do not matter. -/
theorem readElements?_skipSpace (fuel : Nat) (cs : List Char) :
    readElements? fuel (skipSpace cs) = readElements? fuel cs := by
  cases fuel with
  | zero => simp only [readElements?]
  | succ fuel => rw [readElements?, readElements?, readValue?_skipSpace]

/-- Nor do blanks in front of the fields of an object. -/
theorem readFields?_skipSpace (fuel : Nat) (cs : List Char) :
    readFields? fuel (skipSpace cs) = readFields? fuel cs := by
  cases fuel with
  | zero => simp only [readFields?]
  | succ fuel => rw [readFields?, readFields?, skipSpace_skipSpace]

/-! ## Values -/

/-- A value that is written as it is: its numbers are whole, its strings are texts and its fields have names. -/
inductive Value.IsSound : Value → Prop where
  | null : IsSound .null
  | bool (b : Bool) : IsSound (.bool b)
  | number {digits : List Char} (h : IsWhole digits) : IsSound (.number digits)
  | text (s : List Char) : IsSound (.text s)
  | array {vs : List Value} (h : ∀ v ∈ vs, IsSound v) : IsSound (.array vs)
  | object {fs : List (Option (List Char) × Value)} (hnames : ∀ f ∈ fs, f.1.isSome = true)
      (hvalues : ∀ f ∈ fs, IsSound f.2) : IsSound (.object fs)

/-- An object is sound if the values of its fields are: its names are texts. -/
theorem isSound_ofFields {fields : List (String × Value)} (h : ∀ f ∈ fields, f.2.IsSound) :
    (Value.ofFields fields).IsSound := by
  refine .object (fun f hf => ?_) (fun f hf => ?_) <;> obtain ⟨g, hg, rfl⟩ := List.mem_map.mp hf
  · rfl
  · exact h g hg

/-- A sound value is written with a first character that is neither a space nor a closing bracket. So a reader that
looks ahead by one character finds a value there. -/
theorem exists_writeValue_eq_cons {v : Value} (h : v.IsSound) (level : Nat) :
    ∃ c more, writeValue level v = c :: more ∧ isSpace c = false ∧ c ≠ ']' := by
  cases h with
  | null => exact ⟨_, _, by rw [writeValue]; rfl, by decide, by decide⟩
  | bool b => cases b <;> exact ⟨_, _, by rw [writeValue]; rfl, by decide, by decide⟩
  | @number digits h =>
      obtain ⟨c, more, rfl⟩ := List.exists_cons_of_ne_nil h.ne_nil
      have hc : c.isDigit = true := h.isDigit c (by simp)
      refine ⟨c, more, by rw [writeValue], ?_, ?_⟩
      · -- a digit is no blank
        by_contra hspace
        simp only [isSpace, Bool.not_eq_false, Bool.or_eq_true, beq_iff_eq] at hspace
        rcases hspace with ((rfl | rfl) | rfl) | rfl <;> exact absurd hc (by decide)
      · rintro rfl
        exact absurd hc (by decide)
  | text s => exact ⟨_, _, by rw [writeValue]; rfl, by decide, by decide⟩
  | @array vs h =>
      cases vs with
      | nil => exact ⟨_, _, by rw [writeValue]; rfl, by decide, by decide⟩
      | cons v vs => exact ⟨_, _, by rw [writeValue], by decide, by decide⟩
  | @object fs hnames hvalues =>
      cases fs with
      | nil => exact ⟨_, _, by rw [writeValue]; rfl, by decide, by decide⟩
      | cons f fs => exact ⟨_, _, by rw [writeValue], by decide, by decide⟩

/-- A value is read back at every level, in front of anything that does not go on with a number. -/
def ReadsBack (v : Value) : Prop :=
  ∀ level fuel rest, EndsNumber rest → 2 * (writeValue level v).length ≤ fuel →
    readValue? fuel (writeValue level v ++ rest) = some (v, rest)

/-- The elements of an array are read back, each behind the comma and the line end in front of it. Induction on the
elements, the first being at hand; the fuel is counted by the characters, twice. -/
theorem readElements?_written (level outer : Nat) {v : Value} {vs : List Value} (h : ∀ w ∈ v :: vs, ReadsBack w)
    (fuel : Nat) (hfuel : 2 * ((writeValue level v).length + (writeElements level vs).length) < fuel)
    (rest : List Char) :
    readElements? fuel (writeValue level v ++ (writeElements level vs ++ (newLine outer ++ ']' :: rest))) =
      some (v :: vs, rest) := by
  -- each element takes two readings: one for itself and one for the list
  induction vs generalizing v fuel with
  | nil =>
      obtain ⟨fuel, rfl⟩ : ∃ n, fuel = n + 1 := ⟨fuel - 1, by omega⟩
      have hends : EndsNumber (newLine outer ++ ']' :: rest) := endsNumber_cons _
      rw [writeElements, List.nil_append, readElements?, h v (by simp) level fuel _ hends (by omega)]
      simp only [skipSpace_newLine, skipSpace_of_not_isSpace (show isSpace ']' = false by decide)]
  | cons w vs ih =>
      obtain ⟨fuel, rfl⟩ : ∃ n, fuel = n + 1 := ⟨fuel - 1, by omega⟩
      rw [writeElements, List.length_cons, List.length_append, List.length_append] at hfuel
      have htail : readElements? fuel
          (newLine level ++ (writeValue level w ++ (writeElements level vs ++ (newLine outer ++ ']' :: rest)))) =
          some (w :: vs, rest) := by
        rw [← readElements?_skipSpace, skipSpace_newLine, readElements?_skipSpace]
        exact ih (fun w hw => h w (List.mem_cons_of_mem _ hw)) fuel (by omega)
      rw [writeElements, List.cons_append, readElements?,
        h v (by simp) level fuel _ (endsNumber_cons _) (by omega)]
      simp only [skipSpace_of_not_isSpace (show isSpace ',' = false by decide), List.append_assoc, htail,
        Option.map_some]

/-- So are the fields of an object, with their names. -/
theorem readFields?_written (level outer : Nat) (k : List Char) {v : Value} {fs : List (Option (List Char) × Value)}
    (hnames : ∀ f ∈ fs, f.1.isSome = true) (h : ∀ f ∈ (some k, v) :: fs, ReadsBack f.2) (fuel : Nat)
    (hfuel : 2 * ((writeValue level v).length + (writeFields level fs).length) < fuel) (rest : List Char) :
    readFields? fuel (writeString k ++ (": ".toList ++ (writeValue level v ++
      (writeFields level fs ++ (newLine outer ++ '\x7d' :: rest))))) = some ((some k, v) :: fs, rest) := by
  -- behind the name of a field its value is read after a blank, and then the other fields
  have hvalue : ∀ (fuel : Nat) {w : Value} {more : List Char}, ReadsBack w → EndsNumber more →
      2 * (writeValue level w).length ≤ fuel →
      readValue? fuel (' ' :: (writeValue level w ++ more)) = some (w, more) := by
    intro fuel w more hw hmore hfuel
    have hblank : skipSpace (' ' :: (writeValue level w ++ more)) = skipSpace (writeValue level w ++ more) :=
      List.dropWhile_cons_of_pos (by decide)
    rw [← readValue?_skipSpace, hblank, readValue?_skipSpace]
    exact hw level fuel more hmore hfuel
  induction fs generalizing k v fuel with
  | nil =>
      obtain ⟨fuel, rfl⟩ : ∃ n, fuel = n + 1 := ⟨fuel - 1, by omega⟩
      have hv : ReadsBack v := h (some k, v) (by simp)
      have hends : EndsNumber (newLine outer ++ '\x7d' :: rest) := endsNumber_cons _
      have hread := hvalue fuel hv hends (by omega)
      rw [writeFields, List.nil_append, readFields?, writeString, List.cons_append,
        skipSpace_of_not_isSpace (by decide), List.append_assoc, List.singleton_append]
      simp only [readString?_writeString, String.reduceToList, List.cons_append, List.nil_append,
        skipSpace_of_not_isSpace (show isSpace ':' = false by decide), hread, skipSpace_newLine,
        skipSpace_of_not_isSpace (show isSpace '\x7d' = false by decide)]
  | cons f fs ih =>
      obtain ⟨fuel, rfl⟩ : ∃ n, fuel = n + 1 := ⟨fuel - 1, by omega⟩
      obtain ⟨key, w⟩ := f
      obtain ⟨l, rfl⟩ := Option.isSome_iff_exists.mp (hnames _ (List.mem_cons_self))
      rw [writeFields] at hfuel ⊢
      simp only [List.length_cons, List.length_append] at hfuel
      have htail : readFields? fuel (newLine level ++ (writeString l ++ (": ".toList ++ (writeValue level w ++
          (writeFields level fs ++ (newLine outer ++ '\x7d' :: rest)))))) = some ((some l, w) :: fs, rest) := by
        rw [← readFields?_skipSpace, skipSpace_newLine, readFields?_skipSpace]
        exact ih l (fun f hf => hnames f (List.mem_cons_of_mem _ hf)) (fun f hf => h f (List.mem_cons_of_mem _ hf))
          fuel (by omega)
      have hv : ReadsBack v := h (some k, v) (by simp)
      have hread := fun more => hvalue fuel hv (endsNumber_cons (c := ',') more) (by omega)
      rw [readFields?, writeString, List.cons_append, skipSpace_of_not_isSpace (by decide), List.append_assoc,
        List.singleton_append]
      simp only [readString?_writeString, String.reduceToList, List.cons_append, List.nil_append, List.append_assoc,
        Option.getD_some, skipSpace_of_not_isSpace (show isSpace ':' = false by decide), hread,
        skipSpace_of_not_isSpace (show isSpace ',' = false by decide)] at htail ⊢
      rw [htail]
      rfl

/-- There is fuel for the value itself, since at least one character is written for it. -/
theorem exists_fuel {v : Value} (h : v.IsSound) {level fuel : Nat} (hfuel : 2 * (writeValue level v).length ≤ fuel) :
    ∃ n, fuel = n + 1 := by
  obtain ⟨c, more, heq, -, -⟩ := exists_writeValue_eq_cons h level
  rw [heq, List.length_cons] at hfuel
  exact ⟨fuel - 1, by omega⟩

/-- A number is read back from its digits, in front of anything that is no part of a number. -/
theorem readsBack_number {digits : List Char} (hwhole : IsWhole digits) : ReadsBack (.number digits) := by
  intro level fuel rest hrest hfuel
  obtain ⟨fuel, rfl⟩ := exists_fuel (.number hwhole) hfuel
  obtain ⟨c, more, rfl⟩ := List.exists_cons_of_ne_nil hwhole.ne_nil
  have hc : c.isDigit = true := hwhole.isDigit c (by simp)
  have hnumber := readNumber?_whole hwhole hrest
  have hspace : skipSpace (c :: more ++ rest) = c :: (more ++ rest) := by
    obtain ⟨c', more', heq, hnot, -⟩ := exists_writeValue_eq_cons (.number hwhole) level
    rw [writeValue] at heq
    cases heq
    exact skipSpace_of_not_isSpace hnot _
  rw [List.cons_append] at hnumber
  rw [writeValue, readValue?, hspace]
  -- no other kind of value starts with a digit
  split
  · next heq => cases heq
  iterate 6
    · next heq => exact absurd hc (by rw [(List.cons.inj heq).1]; decide)
  · rw [hnumber]
    rfl

/-- An array is read back if its elements are: behind the bracket comes a new line, and then the first element, which does not
start like a closing bracket. -/
theorem readsBack_array {vs : List Value} (hvs : ∀ v ∈ vs, v.IsSound) (ih : ∀ v ∈ vs, ReadsBack v) :
    ReadsBack (.array vs) := by
  intro level fuel rest hrest hfuel
  obtain ⟨fuel, rfl⟩ := exists_fuel (.array hvs) hfuel
  cases vs with
  | nil => simp [writeValue, readValue?, skipSpace, isSpace]
  | cons v vs =>
      rw [writeValue] at hfuel ⊢
      simp only [List.length_cons, List.length_append] at hfuel
      have hread := readElements?_written (level + 1) level ih fuel (by omega) rest
      obtain ⟨c, more, hfirst, hnot, hclose⟩ := exists_writeValue_eq_cons (hvs v (by simp)) (level + 1)
      rw [List.cons_append, readValue?, skipSpace_of_not_isSpace (by decide)]
      simp only [List.append_assoc, skipSpace_newLine, List.singleton_append]
      rw [hfirst] at hread ⊢
      rw [List.cons_append] at hread ⊢
      rw [skipSpace_of_not_isSpace hnot]
      split
      · next heq => exact absurd (List.cons.inj heq).1 hclose
      · rw [hread]
        rfl

/-- So is an object, whose first field starts with the quote of its name. -/
theorem readsBack_object {fs : List (Option (List Char) × Value)} (hnames : ∀ f ∈ fs, f.1.isSome = true)
    (hvalues : ∀ f ∈ fs, f.2.IsSound) (ih : ∀ f ∈ fs, ReadsBack f.2) : ReadsBack (.object fs) := by
  intro level fuel rest hrest hfuel
  obtain ⟨fuel, rfl⟩ := exists_fuel (.object hnames hvalues) hfuel
  cases fs with
  | nil => simp [writeValue, readValue?, skipSpace, isSpace]
  | cons f fs =>
      obtain ⟨key, v⟩ := f
      obtain ⟨k, rfl⟩ := Option.isSome_iff_exists.mp (hnames _ List.mem_cons_self)
      rw [writeValue] at hfuel ⊢
      simp only [List.length_cons, List.length_append] at hfuel
      have hread := readFields?_written (level + 1) level k (fun f hf => hnames f (List.mem_cons_of_mem _ hf))
        ih fuel (by omega) rest
      rw [List.cons_append, readValue?, skipSpace_of_not_isSpace (by decide)]
      simp only [List.append_assoc, skipSpace_newLine, List.singleton_append, Option.getD_some]
      rw [writeString, List.cons_append] at hread ⊢
      rw [skipSpace_of_not_isSpace (by decide)]
      split
      · next heq => exact absurd (List.cons.inj heq).1 (by decide)
      · rw [hread]
        rfl

/-- A sound value is read back, whatever stands behind it, as long as it does not go on with a number. Induction on the
value, with its lists of items and fields. -/
theorem readsBack_of_isSound {v : Value} (h : v.IsSound) : ReadsBack v := by
  induction h with
  | null =>
      intro level fuel rest hrest hfuel
      obtain ⟨fuel, rfl⟩ := exists_fuel .null hfuel
      simp [writeValue, readValue?, skipSpace, isSpace, readWord?]
  | bool b =>
      intro level fuel rest hrest hfuel
      obtain ⟨fuel, rfl⟩ := exists_fuel (.bool b) hfuel
      cases b <;> simp [writeValue, readValue?, skipSpace, isSpace, readWord?]
  | number hwhole => exact readsBack_number hwhole
  | text s =>
      intro level fuel rest hrest hfuel
      obtain ⟨fuel, rfl⟩ := exists_fuel (.text s) hfuel
      simp [writeValue, readValue?, writeString, skipSpace, isSpace, readString?_writeString, textValue]
  | array hvs ih => exact readsBack_array hvs ih
  | object hnames hvalues ih => exact readsBack_object hnames hvalues ih

/-- **A document that was written is read back.** -/
theorem read?_document {v : Value} (h : v.IsSound) : read? v.document = some v := by
  have hread := readsBack_of_isSound h 0 (2 * (writeValue 0 v ++ ['\n']).length + 2) ['\n'] (endsNumber_cons _)
    (by rw [List.length_append]; omega)
  unfold read? Value.document
  rw [String.toList_ofList, hread]
  rfl

end Bootstrap.Json
