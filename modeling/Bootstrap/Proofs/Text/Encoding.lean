import Bootstrap.Path
import Mathlib.Tactic.Common

/-!
# Bytes of texts

Paths are bytes and most of what is decided about them is decided on texts. A text is encoded character by character, and
only ASCII characters have bytes below `0x80`; so a slash among the bytes is a slash in the text.
-/

namespace Bootstrap

namespace Text

/-- Texts are encoded character by character, so encoding goes through concatenation. -/
theorem encode_append (s t : String) : encode (s ++ t) = encode s ++ encode t := by
  simp [encode]

theorem encode_eq_flatMap (s : String) : encode s = s.toList.flatMap String.utf8EncodeChar := by
  conv_lhs => rw [← String.ofList_toList (s := s)]
  rw [encode, String.toByteArray_ofList, List.utf8Encode]
  simp

theorem encode_ofList_append (as bs : List Char) :
    encode (String.ofList (as ++ bs)) = encode (String.ofList as) ++ encode (String.ofList bs) := by
  rw [String.ofList_append, encode_append]

/-- ASCII characters are written as their codes, one byte each. -/
theorem encode_ofList_of_ascii {cs : List Char} (h : ∀ c ∈ cs, c.toNat < 128) :
    encode (String.ofList cs) = cs.map fun c => UInt8.ofNat c.toNat := by
  rw [encode_eq_flatMap, String.toList_ofList]
  induction cs with
  | nil => rfl
  | cons c cs ih =>
      have hc : String.utf8EncodeChar c = [UInt8.ofNat c.toNat] := by
        have hsmall : c.val.toNat ≤ 127 := Nat.le_of_lt_succ (h c (by simp))
        rw [String.utf8EncodeChar, if_pos hsmall]
        rfl
      rw [List.flatMap_cons, List.map_cons, hc, ih fun c hc => h c (List.mem_cons_of_mem _ hc)]
      rfl

/-- A byte below `0x80` stands for itself: all bytes of the longer encodings lie above. -/
theorem toNat_of_mem_utf8EncodeChar {b : UInt8} {c : Char} (hb : b < 0x80) (h : b ∈ String.utf8EncodeChar c) :
    c.toNat = b.toNat := by
  have hb : b.toNat < 128 := hb
  unfold String.utf8EncodeChar at h
  dsimp only at h
  split_ifs at h with h₁ h₂ h₃
  · rw [List.mem_singleton] at h
    subst h
    show c.val.toNat = _
    rw [UInt8.toNat_ofNat']
    omega
  -- a longer character has its highest bit set in every byte
  · simp only [List.mem_cons, List.not_mem_nil, or_false] at h
    rcases h with rfl | rfl <;> rw [UInt8.toNat_ofNat'] at hb <;> omega
  · simp only [List.mem_cons, List.not_mem_nil, or_false] at h
    rcases h with rfl | rfl | rfl <;> rw [UInt8.toNat_ofNat'] at hb <;> omega
  · simp only [List.mem_cons, List.not_mem_nil, or_false] at h
    rcases h with rfl | rfl | rfl | rfl <;> rw [UInt8.toNat_ofNat'] at hb <;> omega

/-- No byte of another character is a slash, so a text without a slash has one name as a path. -/
theorem slash_not_mem_encode {s : String} (h : '/' ∉ s.toList) : Path.slash ∉ encode s := by
  rw [encode_eq_flatMap, List.mem_flatMap]
  rintro ⟨c, hc, hslash⟩
  have hcode : c.toNat = '/'.toNat := toNat_of_mem_utf8EncodeChar (by decide) hslash
  exact h (Char.toNat_inj.mp hcode ▸ hc)

end Text

/-- A text is a path from the root if it starts with a slash. No other character is written with the byte of the
slash. -/
theorem Path.head?_of_isAbsolute {s : String} (h : (ofText s).isAbsolute = true) : s.toList.head? = some '/' := by
  rw [isAbsolute, ofText, Text.encode_eq_flatMap, beq_iff_eq] at h
  cases hs : s.toList with
  | nil =>
      rw [hs] at h
      cases h
  | cons c cs =>
      rw [hs, List.flatMap_cons, List.head?_append] at h
      have hfirst : (String.utf8EncodeChar c).head? = some slash := by
        cases hbytes : String.utf8EncodeChar c with
        | nil => exact absurd (congrArg List.length hbytes) (by simp [Nat.ne_of_gt c.utf8Size_pos])
        | cons b bytes =>
            rw [hbytes] at h
            exact h
      -- a byte below 128 is only ever written for the character with this code
      have hcode : c.toNat = '/'.toNat :=
        Text.toNat_of_mem_utf8EncodeChar (by decide) (List.mem_of_mem_head? hfirst)
      rw [List.head?_cons, Char.toNat_inj.mp hcode]

/-- Two texts joined as paths are one text, with a slash between them if the first one asks for it. -/
theorem Path.exists_joinText_ofText (s : String) {name : String} (h : (ofText name).isAbsolute = false) :
    ∃ between, (between = "" ∨ between = "/") ∧ (s = "" → between = "") ∧
      (ofText s).joinText name = ofText (s ++ between ++ name) := by
  unfold joinText join
  rw [h, if_neg Bool.false_ne_true]
  split
  · exact ⟨"", .inl rfl, fun _ => rfl, by simp [ofText, Text.encode_append]⟩
  · next hne =>
    refine ⟨"/", .inr rfl, ?_, ?_⟩
    · rintro rfl
      simp [ofText, Text.encode] at hne
    · have hslash : Text.encode "/" = [slash] := by decide
      simp only [ofText, Text.encode_append, hslash, List.append_assoc, List.singleton_append]

end Bootstrap
