import Bootstrap.Proofs.Text.Encoding
import Bootstrap.Proofs.Text.Items
import Bootstrap.Tar.Writer
import Mathlib.Algebra.Group.Nat.Defs
import Mathlib.Data.List.Basic

/-!
# Archives that are read back

An archive of short entries is read as what was written.

* `Header.decode?_encode` — a header block says what was written into it. Its checksum does not depend on the field that
  holds it, and no block adds up to more than that field can hold.
* `Archive.readFrom_encode` — behind an entry that needs one header block only, the reader goes on where the writer went on.
* `Archive.read_encodeArchive` — so the members of an archive of such entries are the entries, in order.
-/

namespace Bootstrap.Tar

/-! ## Numbers -/

theorem length_digitsOf (base width n : Nat) : (digitsOf base width n).length = width := by
  induction width generalizing n with
  | zero => rfl
  | succ width ih => rw [digitsOf, List.length_append, ih, List.length_singleton]

/-- Digits are smaller than the base. -/
theorem lt_of_mem_digitsOf {base width n digit : Nat} (hbase : 0 < base) (h : digit ∈ digitsOf base width n) :
    digit < base := by
  induction width generalizing n with
  | zero => simp [digitsOf] at h
  | succ width ih =>
      rw [digitsOf, List.mem_append, List.mem_singleton] at h
      rcases h with h | rfl
      · exact ih h
      · exact Nat.mod_lt _ hbase

/-- The value of digits, most significant first. -/
def valueOf (base : Nat) (digits : List Nat) : Nat := digits.foldl (fun value digit => value * base + digit) 0

/-- Reading the digits back gives the number, or what is left of it in this width. Induction on the width. -/
theorem valueOf_digitsOf (base width n : Nat) : valueOf base (digitsOf base width n) = n % base ^ width := by
  induction width generalizing n with
  | zero => simp [digitsOf, valueOf, Nat.mod_one]
  | succ width ih =>
      have hlast : valueOf base (digitsOf base (width + 1) n) =
          valueOf base (digitsOf base width (n / base)) * base + n % base := by
        simp [digitsOf, valueOf, List.foldl_append]
      rw [hlast, ih, Nat.pow_succ, Nat.mul_comm (base ^ width) base, Nat.mod_mul]
      rw [Nat.mul_comm, Nat.add_comm]

/-- The last digits do not depend on how many stand in front of them. -/
theorem drop_digitsOf (base width more n : Nat) :
    (digitsOf base (width + more) n).drop more = digitsOf base width n := by
  induction width generalizing n with
  | zero => rw [List.drop_of_length_le (by rw [length_digitsOf]; omega), digitsOf]
  | succ width ih =>
      rw [show width + 1 + more = width + more + 1 by omega, digitsOf,
        List.drop_append_of_le_length (by rw [length_digitsOf]; omega), ih, digitsOf]

/-! ### Octal fields -/

/-- The character of an octal digit. -/
def octalChar (digit : Nat) : Char := Char.ofNat (0x30 + digit)

/-- A digit as it stands in a field: it is no blank and no NUL byte, so nothing of it is cut off, and it is a digit. -/
theorem octalChar_spec {digit : Nat} (h : digit < 8) :
    (octalChar digit).toNat = 0x30 + digit ∧ (octalChar digit).isDigit = true ∧
      Text.isBlank (octalChar digit) = false ∧ (UInt8.ofNat (0x30 + digit) != 0) = true := by
  revert digit
  decide

/-- Octal digits are read as the number they stand for. Induction on the digits, with the value of those read before. -/
theorem digitsValue?_octal {digits : List Nat} (h : ∀ digit ∈ digits, digit < 8) :
    digitsValue? 8 (digits.map octalChar) = some (valueOf 8 digits) := by
  unfold digitsValue? valueOf
  -- the value is gathered from the left, so the induction is for any start
  generalize 0 = start
  induction digits generalizing start with
  | nil => rfl
  | cons digit digits ih =>
      have hdigit : digit < 8 := h digit (by simp)
      obtain ⟨hcode, hisDigit, -⟩ := octalChar_spec hdigit
      have hvalue : (octalChar digit).toNat - '0'.toNat = digit := by
        rw [hcode]
        show 0x30 + digit - 0x30 = digit
        omega
      rw [List.map_cons, List.foldlM_cons, List.foldl_cons, hisDigit, hvalue]
      simp only [hdigit, decide_true, Bool.and_self, if_true, Option.bind_eq_bind, Option.bind_some]
      exact ih (fun d hd => h d (List.mem_cons_of_mem _ hd)) _

/-- Octal digits are the bytes of their text, which ends at the NUL behind them: the code of a digit is not zero. -/
theorem untilNul_octal {digits : List Nat} (h : ∀ digit ∈ digits, digit < 8) (rest : List UInt8) :
    untilNul (digits.map (fun digit => UInt8.ofNat (0x30 + digit)) ++ 0 :: rest) =
      Text.encode (String.ofList (digits.map octalChar)) := by
  have hascii : ∀ c ∈ digits.map octalChar, c.toNat < 128 := by
    intro c hc
    obtain ⟨digit, hdigit, rfl⟩ := List.mem_map.mp hc
    have := h digit hdigit
    rw [(octalChar_spec this).1]
    omega
  have hcodes : (digits.map octalChar).map (fun c => UInt8.ofNat c.toNat) =
      digits.map fun digit => UInt8.ofNat (0x30 + digit) := by
    rw [List.map_map]
    refine List.map_congr_left fun digit hdigit => ?_
    rw [Function.comp, (octalChar_spec (h digit hdigit)).1]
  have hnul : ∀ b ∈ digits.map (fun digit => UInt8.ofNat (0x30 + digit)), (b != 0) = true := by
    intro b hb
    obtain ⟨digit, hdigit, rfl⟩ := List.mem_map.mp hb
    exact (octalChar_spec (h digit hdigit)).2.2.2
  rw [Text.encode_ofList_of_ascii hascii, hcodes, untilNul, List.takeWhile_append_of_pos hnul]
  simp

/-- No octal digit is blank, so a field of digits only is not trimmed. -/
theorem trim_octal {digits : List Nat} (h : ∀ digit ∈ digits, digit < 8) :
    Text.trim (digits.map octalChar) = digits.map octalChar := by
  have hblank : ∀ c ∈ digits.map octalChar, Text.isBlank c = false := by
    intro c hc
    obtain ⟨digit, hdigit, rfl⟩ := List.mem_map.mp hc
    exact (octalChar_spec (h digit hdigit)).2.2.1
  exact Text.stripBoth_eq_self (fun c hc => hblank c (List.mem_of_mem_head? hc))
    fun c hc => hblank c (List.mem_of_mem_getLast? hc)

/-- Octal digits are read as their value, if there are any and the value can be counted. A number may have a sign in front,
which no digit is. -/
theorem readNumber?_octal {digits : List Nat} (h : ∀ digit ∈ digits, digit < 8) (hne : digits ≠ [])
    (hlimit : valueOf 8 digits < wordLimit) : readNumber? 8 (digits.map octalChar) = some (valueOf 8 digits) := by
  unfold readNumber?
  split
  · next more hplus =>
    obtain ⟨digit, hdigit, hchar⟩ := List.mem_map.mp (show '+' ∈ digits.map octalChar by rw [hplus]; simp)
    have hisDigit := (octalChar_spec (h digit hdigit)).2.1
    rw [hchar] at hisDigit
    exact absurd hisDigit (by decide)
  · simp [hne, digitsValue?_octal h, hlimit]

/-- An octal field reads as the number that was written, up to its NUL. In front stand zeros, which count for nothing: the
digits of a number that fits have the number as their value. -/
theorem readOctal?_writeOctal {width n : Nat} (hwidth : width ≠ 0) (hn : n < 8 ^ width) (hlimit : n < wordLimit)
    (rest : List UInt8) : readOctal? (writeOctal (width + 1) n ++ rest) = some n := by
  have hsmall : ∀ digit ∈ digitsOf 8 width n, digit < 8 := fun digit => lt_of_mem_digitsOf (by decide)
  have hne : digitsOf 8 width n ≠ [] := by
    intro hnil
    have hlen := length_digitsOf 8 width n
    rw [hnil] at hlen
    exact hwidth hlen.symm
  have hvalue : valueOf 8 (digitsOf 8 width n) = n := by rw [valueOf_digitsOf, Nat.mod_eq_of_lt hn]
  have hnumber : readNumber? 8 ((digitsOf 8 width n).map octalChar) = some n := by
    rw [readNumber?_octal hsmall hne (by rwa [hvalue]), hvalue]
  rw [writeOctal, Nat.add_sub_cancel, List.append_assoc, List.singleton_append, readOctal?, untilNul_octal hsmall,
    Text.decode?_encode]
  simp only [Option.bind_eq_bind, Option.bind_some, String.toList_ofList, trim_octal hsmall, hnumber]

theorem length_writeOctal {width : Nat} (hwidth : width ≠ 0) (n : Nat) : (writeOctal width n).length = width := by
  rw [writeOctal, List.length_append, List.length_map, length_digitsOf, List.length_singleton]
  omega

/-! ### Sizes -/

/-- The size has twelve bytes in a header, in either of its two forms. -/
theorem length_writeSize (n : Nat) : (writeSize n).length = 12 := by
  unfold writeSize
  split
  · exact length_writeOctal (by decide) n
  · rw [List.length_cons, List.length_map, length_digitsOf]

/-- Of a field in base 256 the last eight bytes are read, most significant first; those in front of them are all
skipped. -/
theorem readBase256_eq (more : List UInt8) (digits : List Nat) (hsmall : ∀ digit ∈ digits, digit < 256)
    (hlength : digits.length = 8) : readBase256 (more ++ digits.map UInt8.ofNat) = valueOf 256 digits := by
  have hdrop : (more ++ digits.map UInt8.ofNat).drop ((more ++ digits.map UInt8.ofNat).length - 8) =
      digits.map UInt8.ofNat := by
    rw [List.length_append, List.length_map, hlength, Nat.add_sub_cancel, List.drop_left]
  rw [readBase256, hdrop, valueOf, List.foldl_map]
  refine List.foldl_ext _ _ _ fun value digit hdigit => ?_
  rw [UInt8.toNat_ofNat_of_lt' (hsmall digit hdigit)]

/-- A size field reads as the size that was written, in octal digits where they suffice and in bytes behind a mark
otherwise. -/
theorem readSize?_writeSize {n : Nat} (hn : n < wordLimit) : readSize? (writeSize n) = some n := by
  unfold writeSize
  split
  · next hsmall =>
    have hread := readOctal?_writeOctal (by decide) (show n < 8 ^ 11 from hsmall) hn []
    rw [List.append_nil] at hread
    -- the field starts with a digit, not with the mark of the other format
    obtain ⟨digit, digits, hdigits⟩ := List.exists_cons_of_length_eq_add_one (length_digitsOf 8 11 n)
    have hdigit : digit < 8 := lt_of_mem_digitsOf (by decide) (show digit ∈ digitsOf 8 11 n by rw [hdigits]; simp)
    have hmark : ∀ digit < 8, ¬ (UInt8.ofNat (0x30 + digit)).toNat ≥ 0x80 := by decide
    have hfield : writeOctal 12 n = UInt8.ofNat (0x30 + digit) :: (digits.map fun d => UInt8.ofNat (0x30 + d)) ++ [0] := by
      rw [writeOctal, hdigits, List.map_cons]
    rw [hfield] at hread ⊢
    rw [List.cons_append, readSize?, if_neg (hmark digit hdigit)]
    exact hread
  · have hsplit : digitsOf 256 11 n = (digitsOf 256 11 n).take 3 ++ digitsOf 256 8 n := by
      rw [← drop_digitsOf 256 8 3 n, List.take_append_drop]
    rw [readSize?, if_pos (by decide), hsplit, List.map_append, ← List.cons_append,
      readBase256_eq _ _ (fun digit => lt_of_mem_digitsOf (by decide)) (length_digitsOf ..), valueOf_digitsOf]
    exact congrArg some (Nat.mod_eq_of_lt hn)

/-! ## Header blocks -/

/-- A text that is fitted into a field has the length of the field. -/
theorem length_fit (length : Nat) (bytes : List UInt8) : (fit length bytes).length = length := by
  rw [fit, List.length_append, List.length_take, List.length_replicate]
  omega

theorem fit_of_length {length : Nat} {bytes : List UInt8} (h : bytes.length = length) : fit length bytes = bytes := by
  rw [fit, List.take_of_length_le (Nat.le_of_eq h), h, Nat.sub_self, List.replicate_zero, List.append_nil]

/-- A text that is not longer stands at the start of the field. -/
theorem take_fit {length : Nat} {bytes : List UInt8} (h : bytes.length ≤ length) :
    (fit length bytes).take bytes.length = bytes := by
  rw [fit, List.take_of_length_le h, List.take_left]

/-- A text that is fitted into a field is read back if it contains no NUL: behind it come NUL bytes, and the reader
stops at the first of them. -/
theorem untilNul_fit {length : Nat} {bytes : List UInt8} (h : bytes.length ≤ length) (hnul : 0 ∉ bytes) :
    untilNul (fit length bytes) = bytes := by
  have hpos : ∀ b ∈ bytes, (b != 0) = true := by
    intro b hb
    rw [bne_iff_ne]
    rintro rfl
    exact hnul hb
  rw [untilNul, fit, List.take_of_length_le h, List.takeWhile_append_of_pos hpos]
  cases length - bytes.length <;> simp [List.replicate_succ]

theorem field_append {start length : Nat} {before bytes : List UInt8} (after : List UInt8)
    (hbefore : before.length = start) (hbytes : bytes.length = length) :
    field (before ++ (bytes ++ after)) start length = bytes := by
  rw [field, ← hbefore, List.drop_left, ← hbytes, List.take_left]

theorem field_zero {length : Nat} {bytes : List UInt8} (after : List UInt8) (hbytes : bytes.length = length) :
    field (bytes ++ after) 0 length = bytes := by
  rw [field, List.drop_zero, ← hbytes, List.take_left]

namespace Header

variable {h : Header}

/-- A header that fits its fields. -/
structure IsWritable (h : Header) : Prop where
  name : h.name.length ≤ 100
  nameNoNul : 0 ∉ h.name
  link : h.link.length ≤ 100
  linkNoNul : 0 ∉ h.link
  size : h.size < wordLimit
  extended : h.extended = true

/-- The fields in front of the checksum. -/
def before (h : Header) : List UInt8 :=
  fit 100 h.name ++ (List.replicate 24 0 ++ (writeSize h.size ++ List.replicate 12 0))

/-- The fields behind the checksum. -/
def behind (h : Header) : List UInt8 := [h.flag] ++ (fit 100 h.link ++ (magicGnu ++ List.replicate 247 0))

theorem length_before (h : Header) : h.before.length = 148 := by
  simp [before, length_fit, length_writeSize]

/-- The sum stands behind 148 bytes and in front of 356, so that all three make a block of 512. -/
theorem length_behind (h : Header) : h.behind.length = 356 := by
  simp only [behind, magicGnu, List.length_append, length_fit, List.length_replicate, List.length_cons, List.length_nil]

/-- The header without a sum has eight zeros in the place of the sum. -/
theorem encodeUnsigned_eq (h : Header) : h.encodeUnsigned = h.before ++ (List.replicate 8 0 ++ h.behind) := by
  have hzeros : List.replicate 20 (0 : UInt8) = List.replicate 12 0 ++ List.replicate 8 0 := rfl
  simp only [encodeUnsigned, before, behind, hzeros, List.append_assoc]

/-- The checksum passes over the field that holds it, so it does not matter what stands there when it is computed. -/
theorem checksum_append {sum : List UInt8} (hsum : sum.length = 8) :
    checksum (h.before ++ (sum ++ h.behind)) =
      (h.before ++ h.behind).foldl (fun sum b => sum + b.toNat) (8 * 0x20) := by
  have hfront : (h.before ++ (sum ++ h.behind)).take 148 = h.before := by
    rw [← length_before h, List.take_left]
  have hback : (h.before ++ (sum ++ h.behind)).drop 156 = h.behind := by
    have hlength : (h.before ++ sum).length = 156 := by simp [length_before, hsum]
    rw [← List.append_assoc, ← hlength, List.drop_left]
  rw [checksum, hfront, hback]

/-- The header block, field by field, as each field is read from it by its place. -/
theorem encode_eq (h : Header) :
    h.encode = h.before ++ (writeOctal 8 (checksum h.encodeUnsigned) ++ h.behind) := by
  have hfront : h.encodeUnsigned.take 148 = h.before := by
    rw [encodeUnsigned_eq, ← length_before h, List.take_left]
  have hback : h.encodeUnsigned.drop 156 = h.behind := by
    have hlength : (h.before ++ List.replicate 8 0).length = 156 := by simp [length_before]
    rw [encodeUnsigned_eq, ← List.append_assoc, ← hlength, List.drop_left]
  rw [encode, withChecksum, hfront, hback, fit_of_length (length_writeOctal (by decide) _), List.append_assoc]

theorem length_encode (h : Header) : h.encode.length = blockSize := by
  simp [encode_eq, length_before, length_behind, length_writeOctal, blockSize]

/-- The sum is taken as if its own eight bytes were blanks, so it is the same before and behind it was written. -/
theorem checksum_encode (h : Header) : checksum h.encode = checksum h.encodeUnsigned := by
  rw [encode_eq, checksum_append (length_writeOctal (by decide) _), encodeUnsigned_eq, checksum_append (by simp)]

/-- Every byte adds at most 255, so the checksum fits into its field. -/
theorem sum_le (bytes : List UInt8) (start : Nat) :
    bytes.foldl (fun sum b => sum + b.toNat) start ≤ start + 255 * bytes.length := by
  induction bytes generalizing start with
  | nil => simp
  | cons b bytes ih =>
      have hb : b.toNat < 256 := b.toNat_lt
      have hrest := ih (start + b.toNat)
      rw [List.foldl_cons, List.length_cons]
      omega

/-- No block adds up to more than seven octal digits can hold. -/
theorem checksum_lt (h : Header) : checksum h.encodeUnsigned < 8 ^ 7 := by
  have hsum := sum_le (h.before ++ h.behind) (8 * 0x20)
  rw [encodeUnsigned_eq, checksum_append (by simp)]
  rw [List.length_append, length_before, length_behind] at hsum
  omega

/-- A header block says what was written into it. Each field is cut out of the block where it was put, and the checksum
counts its own field as blanks. -/
theorem decode?_encode (hw : h.IsWritable) : decode? h.encode = some h := by
  have hchecksum := checksum_lt h
  -- the fields are cut out one by one, each behind those in front of it
  have hsum : readOctal? (field h.encode 148 8) = some (checksum h.encodeUnsigned) := by
    rw [encode_eq, field_append _ (length_before h) (length_writeOctal (by decide) _)]
    have hread := readOctal?_writeOctal (by decide) hchecksum (Nat.lt_trans hchecksum (by decide)) []
    rwa [List.append_nil] at hread
  have hname : field h.encode 0 100 = fit 100 h.name := by
    rw [encode_eq, before, List.append_assoc]
    exact field_zero _ (length_fit _ _)
  have hsize : field h.encode 124 12 = writeSize h.size := by
    have hlength : (fit 100 h.name ++ List.replicate 24 0).length = 124 := by simp [length_fit]
    rw [encode_eq, before]
    simp only [List.append_assoc]
    rw [← List.append_assoc (fit 100 h.name)]
    exact field_append _ hlength (length_writeSize _)
  -- from the type flag on, the block is `behind`
  have hrest : h.encode.drop 156 = h.behind := by
    have hlength : (h.before ++ writeOctal 8 (checksum h.encodeUnsigned)).length = 156 := by
      simp [length_before, length_writeOctal]
    rw [encode_eq, ← List.append_assoc, ← hlength, List.drop_left]
  have hlink : field h.encode 157 100 = fit 100 h.link := by
    rw [field, show 157 = 156 + 1 from rfl, ← List.drop_drop, hrest, behind, List.singleton_append, List.drop_one,
      List.tail_cons]
    exact field_zero _ (length_fit _ _)
  have hmagic : field h.encode 257 8 = magicGnu := by
    rw [field, show 257 = 156 + 101 from rfl, ← List.drop_drop, hrest, behind, ← List.append_assoc]
    exact field_append _ (by simp [length_fit]) rfl
  have hgnu : magicGnu ≠ magicUstar := by decide
  unfold decode?
  simp only [hsum, readSize?_writeSize hw.size, hsize, hrest, blockName, hname, hlink, hmagic, Option.bind_eq_bind,
    Option.bind_some, checksum_encode]
  -- the sum is compared in one word, where it fits
  have hword : checksum h.encodeUnsigned % Nat.pow 2 32 = checksum h.encodeUnsigned :=
    Nat.mod_eq_of_lt (Nat.lt_trans hchecksum (by decide))
  have hextended : (magicGnu == magicUstar || magicGnu == magicGnu) = h.extended := hw.extended.symm
  rw [if_neg (by rw [hword]; simp), if_neg (by simp [hgnu]), untilNul_fit hw.name hw.nameNoNul,
    untilNul_fit hw.link hw.linkNoNul, hextended]
  rfl

/-- A header block is no block of zeros: the mark of its format is not. -/
theorem all_encode (h : Header) : h.encode.all (· == 0) = false := by
  rw [List.all_eq_false]
  have hmark : (0x75 : UInt8) ∈ h.behind :=
    List.mem_append_right _ (List.mem_append_right _ (List.mem_append_left _ (by decide)))
  refine ⟨0x75, ?_, by decide⟩
  rw [encode_eq]
  exact List.mem_append_right _ (List.mem_append_right _ hmark)

end Header

/-! ## Entries -/

theorem le_paddedSize (size : Nat) : size ≤ paddedSize size := by
  unfold paddedSize blockSize
  omega

theorem length_padded (bytes : List UInt8) : (padded bytes).length = paddedSize bytes.length := length_fit _ _

namespace Entry

/-- The kind of the member that is read where an entry was written. -/
def kind (e : Entry) : Kind :=
  match e.header.announces with
  | .member kind => kind
  | _ => .other

/-- The member that is read where an entry was written. -/
def member (e : Entry) : Member :=
  ⟨e.kind, ⟨e.name⟩, if e.link.isEmpty then none else some ⟨e.link⟩, e.content.length, e.content, false⟩

/-- An entry that is one header block and its data, and no description of another one. -/
structure IsShort (e : Entry) : Prop where
  attributes : e.attributes = []
  name : e.name.length ≤ 100
  nameNoNul : 0 ∉ e.name
  link : e.link.length ≤ 100
  linkNoNul : 0 ∉ e.link
  announces : e.header.announces = .member e.kind

instance (e : Entry) : Decidable e.IsShort :=
  decidable_of_iff (e.attributes = [] ∧ e.name.length ≤ 100 ∧ 0 ∉ e.name ∧ e.link.length ≤ 100 ∧ 0 ∉ e.link ∧
      e.header.announces = .member e.kind)
    ⟨fun ⟨h₁, h₂, h₃, h₄, h₅, h₆⟩ => ⟨h₁, h₂, h₃, h₄, h₅, h₆⟩,
      fun h => ⟨h.attributes, h.name, h.nameNoNul, h.link, h.linkNoNul, h.announces⟩⟩

variable {e : Entry}

/-- The header of an entry whose name and link fit into it. -/
theorem IsShort.header_eq (h : e.IsShort) : e.header = ⟨e.flag, e.name, e.link, e.content.length, true⟩ := by
  rw [header, List.take_of_length_le h.name, List.take_of_length_le h.link]

/-- Such an entry is a header and its content, without a description in front. -/
theorem IsShort.encode_eq (h : e.IsShort) : e.encode = e.header.encode ++ padded e.content := by
  have hfront : e.front = [] := by
    rw [front, h.attributes, if_pos h.name, if_pos h.link]
    rfl
  rw [encode, hfront, List.nil_append]

theorem IsShort.length_encode (h : e.IsShort) : e.encode.length = blockSize + paddedSize e.content.length := by
  rw [h.encode_eq, List.length_append, Header.length_encode, length_padded]

end Entry

/-! ## Archives -/

/-- Behind an entry the reader goes on where the writer went on, as long as it can count the bytes. The entry is read
with its long name and long target, if it needs them. -/
theorem Archive.readFrom_encode {e : Entry} (h : e.IsShort) (hcontent : e.content.length < wordLimit) (position : Nat)
    (rest : List UInt8) :
    readFrom false position {} (e.encode ++ rest) =
      if e.content.length + (blockSize - 1) ≥ wordLimit ∨ position + e.encode.length ≥ wordLimit then .brokenOff
      else
        ⟨e.member :: (readFrom false (position + e.encode.length) {} rest).members,
          (readFrom false (position + e.encode.length) {} rest).broken⟩ := by
  have hlength := h.length_encode
  have hpadded := le_paddedSize e.content.length
  rw [hlength]
  have hsize : e.header.size = e.content.length := by rw [h.header_eq]
  have hwritable : e.header.IsWritable := by
    rw [h.header_eq]
    exact ⟨h.name, h.nameNoNul, h.link, h.linkNoNul, hcontent, rfl⟩
  -- one header block, and behind it whole blocks of content
  have hblock : (e.encode ++ rest).take blockSize = e.header.encode := by
    rw [h.encode_eq, List.append_assoc, ← Header.length_encode e.header, List.take_left]
  have hbody : (e.encode ++ rest).drop blockSize = padded e.content ++ rest := by
    rw [h.encode_eq, List.append_assoc, ← Header.length_encode e.header, List.drop_left]
  have hdata : (padded e.content ++ rest).take e.content.length = e.content := by
    rw [List.take_append_of_le_length (by rw [length_padded]; exact hpadded), padded, take_fit hpadded]
  have hrest : (padded e.content ++ rest).drop (paddedSize e.content.length) = rest := by
    rw [← length_padded, List.drop_left]
  have hdataSize : Described.dataSize {} e.header = e.content.length := by
    rw [Described.dataSize, ← hsize]
    exact ite_id _
  have hwhole : paddedSize e.content.length ≤ (padded e.content ++ rest).length := by
    rw [List.length_append, length_padded]
    omega
  -- what the reader makes of the header is the member of the entry
  have hmember : (⟨e.kind, Described.memberName {} e.header, Described.memberLink {} e.header, e.content.length,
      e.content, false⟩ : Member) = e.member := by
    rw [Entry.member, h.header_eq]
    rfl
  -- with all this the step of the reader is evaluated
  rw [readFrom, dif_neg (by rw [List.length_append, hlength]; omega)]
  simp only [hblock, hbody, Header.all_encode, Header.decode?_encode hwritable, hdataSize, hdata, hrest, h.announces,
    hmember, Bool.false_eq_true, if_false]
  rw [if_pos hwhole, Nat.add_assoc]
  simp only [Bool.or_eq_true, decide_eq_true_eq]

/-- An archive ends at its trailer: two blocks of zeros, of which the first one is enough for the reader. -/
theorem Archive.readFrom_trailer (position : Nat) : readFrom false position {} trailer = .ended := by
  have hblock : trailer.take blockSize = List.replicate blockSize 0 := by
    rw [trailer, List.take_replicate]
    rfl
  have hzeros : (List.replicate blockSize (0 : UInt8)).all (· == 0) = true := by simp
  rw [readFrom, dif_neg (by rw [trailer, List.length_replicate]; decide)]
  simp only [hblock, hzeros, if_true]
  rfl

/-- Entries stand one behind the other, and the trailer behind the last one. -/
theorem encodeArchive_cons (e : Entry) (entries : List Entry) :
    encodeArchive (e :: entries) = e.encode ++ encodeArchive entries := by
  rw [encodeArchive, List.flatMap_cons, List.append_assoc, encodeArchive]

/-- An archive of short entries is read as what was written. The one reason for which the reading may break off is that
there are more bytes than can be counted. -/
theorem Archive.members_readFrom_encodeArchive {entries : List Entry}
    (h : ∀ e ∈ entries, e.IsShort ∧ e.content.length < wordLimit) {position : Nat}
    (hwhole : (readFrom false position {} (encodeArchive entries)).broken = false) :
    (readFrom false position {} (encodeArchive entries)).members = entries.map Entry.member := by
  induction entries generalizing position with
  | nil =>
      show (readFrom false position {} trailer).members = []
      rw [readFrom_trailer]
      rfl
  | cons e entries ih =>
      obtain ⟨hshort, hcontent⟩ := h e (by simp)
      rw [encodeArchive_cons, readFrom_encode hshort hcontent] at hwhole ⊢
      split at hwhole
      · cases hwhole
      · next hfits =>
        rw [if_neg hfits, List.map_cons, ← ih (fun e he => h e (List.mem_cons_of_mem _ he)) hwhole]

/-- An archive of short entries is read from any position as their members, and nothing breaks off. `hbound` says that
all positions can be counted, which the reader checks at every step. -/
theorem Archive.readFrom_encodeArchive {entries : List Entry} (h : ∀ e ∈ entries, e.IsShort) {position : Nat}
    (hbound : position + (encodeArchive entries).length < wordLimit) :
    readFrom false position {} (encodeArchive entries) = ⟨entries.map Entry.member, false⟩ := by
  induction entries generalizing position with
  | nil => exact readFrom_trailer position
  | cons e entries ih =>
      have hlength := (h e (by simp)).length_encode
      have hpadded := le_paddedSize e.content.length
      have htrailer : blockSize ≤ (encodeArchive entries).length := by
        rw [encodeArchive, List.length_append, trailer, List.length_replicate]
        omega
      rw [encodeArchive_cons, List.length_append, ← Nat.add_assoc] at hbound
      rw [encodeArchive_cons, readFrom_encode (h e (by simp)) (by omega), if_neg (by omega),
        ih (fun e he => h e (List.mem_cons_of_mem _ he)) hbound]
      rfl

/-- **An archive of short entries is read as what was written.** -/
theorem Archive.read_encodeArchive {entries : List Entry} (h : ∀ e ∈ entries, e.IsShort)
    (hbound : (encodeArchive entries).length < wordLimit) :
    read (encodeArchive entries) = ⟨entries.map Entry.member, false⟩ :=
  readFrom_encodeArchive h (by rwa [Nat.zero_add])

end Bootstrap.Tar
