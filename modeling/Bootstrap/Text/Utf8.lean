/-!
# UTF-8

Texts are kept as `String` and file contents and paths as bytes. This module is the passage between
the two.

* `encode` and `decode?` are inverse to each other: `decode?_encode`, `encode_of_decode?`.
* `display` shows any bytes: a text is shown as it is (`display_encode`), and in other bytes every
  longest beginning of a character that does not continue as one is shown as U+FFFD.
-/

namespace Bootstrap.Text

/-- The UTF-8 bytes of a text. -/
def encode (s : String) : List UInt8 := s.toByteArray.data.toList

/-- The text that some bytes encode, if they are well-formed UTF-8. -/
def decode? (bytes : List UInt8) : Option String := String.fromUTF8? ⟨bytes.toArray⟩

@[simp] theorem decode?_encode (s : String) : decode? (encode s) = some s := by
  have h : (⟨(s.toByteArray.data.toList).toArray⟩ : ByteArray) = s.toByteArray := by
    cases s.toByteArray; simp
  simp only [decode?, encode, h, String.fromUTF8?]
  rw [dif_pos s.isValidUTF8]
  rfl

/-- Only the encoding of a text reads as that text. -/
theorem encode_of_decode? {bytes : List UInt8} {s : String} (h : decode? bytes = some s) :
    encode s = bytes := by
  simp only [decode?, String.fromUTF8?] at h
  split at h
  · cases h
    simp [encode, String.fromUTF8]
  · cases h

/-- Two texts with the same bytes are the same text. -/
theorem encode_inj {s t : String} (h : encode s = encode t) : s = t := by
  have := decode?_encode s
  rw [h, decode?_encode] at this
  exact (Option.some.inj this).symm

/-! ### Showing any bytes -/

/-- Whether a byte continues a character. -/
def isContinuation (b : UInt8) : Bool := 0x80 ≤ b && b ≤ 0xBF

/-- How many bytes the character has that starts with `b`, and which second bytes may follow `b`;
`none` when no character of more than one byte starts with `b`. -/
def leadByte (b : UInt8) : Option (Nat × UInt8 × UInt8) :=
  if 0xC2 ≤ b && b ≤ 0xDF then some (2, 0x80, 0xBF)
  else if b == 0xE0 then some (3, 0xA0, 0xBF)
  else if b == 0xED then some (3, 0x80, 0x9F)
  else if 0xE1 ≤ b && b ≤ 0xEF then some (3, 0x80, 0xBF)
  else if b == 0xF0 then some (4, 0x90, 0xBF)
  else if b == 0xF4 then some (4, 0x80, 0x8F)
  else if 0xF1 ≤ b && b ≤ 0xF3 then some (4, 0x80, 0xBF)
  else none

/-- The first character of `b :: rest` and the number of bytes of `rest` that belong to it. The bytes
of a character that breaks off are shown together as one U+FFFD. -/
def firstChar (b : UInt8) (rest : List UInt8) : Char × Nat :=
  if b < 0x80 then (Char.ofNat b.toNat, 0)
  else
    match leadByte b, rest with
    | some (width, low, high), second :: tail =>
      if low ≤ second && second ≤ high then
        let more := (tail.take (width - 2)).takeWhile isContinuation
        if more.length = width - 2 then
          let top := b.toNat % Nat.pow 2 (7 - width)
          (Char.ofNat ((second :: more).foldl (fun n c => n * 64 + c.toNat % 64) top), width - 1)
        else ('\uFFFD', more.length + 1)
      else ('\uFFFD', 0)
    | _, _ => ('\uFFFD', 0)

/-- The characters of any bytes; `skip` bytes belong to a character that is already shown. -/
def showFrom : (skip : Nat) → List UInt8 → List Char
  | _, [] => []
  | skip + 1, _ :: rest => showFrom skip rest
  | 0, b :: rest => (firstChar b rest).1 :: showFrom (firstChar b rest).2 rest

/-- Any bytes as a text, with U+FFFD for what is not UTF-8. -/
def display (bytes : List UInt8) : String :=
  (decode? bytes).getD (String.ofList (showFrom 0 bytes))

@[simp] theorem display_encode (s : String) : display (encode s) = s := by simp [display]

end Bootstrap.Text
