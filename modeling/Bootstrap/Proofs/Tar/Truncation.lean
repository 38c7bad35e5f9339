import Bootstrap.Proofs.Tar.RoundTrip

/-!
# Archives that are cut off

`IsWhole` says when some bytes are one whole member: descriptions of it, then its header, its data and their filling. It
fixes how such bytes are laid out and leaves all else open, the format of the headers, the bytes that fill a block, and
which kind the member has.

* `IsWhole.reads_or_givesUp` — a reader that comes to a whole member either takes it in, in the same way whatever follows,
  or has more bytes behind it than it can count. In bytes that end within the member it finds the break.
* `Archive.readFrom_take` — so wherever an archive of whole members is cut off, what is read is the first few of them,
  perhaps with one more whose data is missing; and only at the end of a member or in the trailer does that go unnoticed.
-/

namespace Bootstrap.Tar

/-! ## Whole members -/

/-- A header block and the data behind it, filled up to whole blocks. -/
structure Record where
  block : List UInt8
  data : List UInt8
  filling : List UInt8

namespace Record

def bytes (r : Record) : List UInt8 := r.block ++ (r.data ++ r.filling)

/-- The block is a header that says `h`, and all of `size` bytes of data are there. -/
structure Holds (r : Record) (h : Header) (size : Nat) : Prop where
  length_block : r.block.length = blockSize
  decode : Header.decode? r.block = some h
  length_data : r.data.length = size
  length_filling : size + r.filling.length = paddedSize size

end Record

namespace Described

/-- What is known about the next member behind one more description of it, which has to be the first of its kind. -/
def learn? (d : Described) (data : List UInt8) : Announced → Option Described
  | .longName => if d.name.isNone then some { d with name := some data } else none
  | .longLink => if d.link.isNone then some { d with link := some data } else none
  | .attributes =>
    if d.attributes.isNone then some { d with attributes := some (readAttributes data) } else none
  | .pieces | .member _ => none

/-- The member of which a header tells behind some descriptions. -/
def member (d : Described) (kind : Kind) (h : Header) (data : List UInt8) : Member :=
  ⟨kind, d.memberName h, d.memberLink h, d.dataSize h, data, false⟩

end Described

/-- Some bytes are one whole member for a reader that has read some descriptions of it. -/
inductive IsWhole : Described → List UInt8 → Member → Prop where
  /-- One more description stands in front. -/
  | describing {d d' : Described} {r : Record} {h : Header} {bytes : List UInt8} {m : Member}
      (holds : r.Holds h (d.dataSize h)) (learn : d.learn? r.data h.announces = some d') (rest : IsWhole d' bytes m) :
      IsWhole d (r.bytes ++ bytes) m
  /-- The header of the member and its data. -/
  | plain {d : Described} {r : Record} {h : Header} {kind : Kind} (holds : r.Holds h (d.dataSize h))
      (announces : h.announces = .member kind) : IsWhole d r.bytes (d.member kind h r.data)
  /-- A member with holes, whose list of pieces may take blocks between header and data. -/
  | pieces {d : Described} {r : Record} {h : Header} {list : List UInt8} {count : Nat}
      (holds : r.Holds h (d.dataSize h)) (announces : h.announces = .pieces)
      (blocks : pieceBlocks? r.block (d.dataSize h) list = some count) (length_list : list.length = count * blockSize) :
      IsWhole d (r.block ++ (list ++ (r.data ++ r.filling))) (d.member .other h r.data)

/-! ## Lists of pieces

The list of pieces is followed block by block, so what stands behind it plays no part, and it cannot be followed to its end
in bytes that end before. -/

namespace Pieces

variable {size blocks count : Nat} {p q : Pieces} {bytes : List UInt8}

/-- What stands behind the list of pieces is not looked at. Induction along the blocks, each of which is there in
full. -/
theorem followBlocks?_append (h : p.followBlocks? size blocks bytes = some (q, count)) (rest : List UInt8) :
    p.followBlocks? size blocks (bytes ++ rest) = some (q, count) := by
  -- along the blocks: each was there in full, so more bytes behind them change none
  fun_induction followBlocks? size p blocks bytes with
  | case1 => cases h
  | case2 => cases h
  | case3 p blocks bytes hlong block p' hlist hon ih =>
      rw [followBlocks?, dif_neg (by rw [List.length_append]; omega), List.take_append_of_le_length (by omega),
        List.drop_append_of_le_length (by omega)]
      simp only [block] at hlist hon
      simp only [hlist, hon, if_true]
      exact ih h
  | case4 p blocks bytes hlong block p' hlist hon =>
      rw [followBlocks?, dif_neg (by rw [List.length_append]; omega), List.take_append_of_le_length (by omega)]
      simp only [block] at hlist hon
      simp only [hlist, if_neg hon, h]

/-- As many bytes are needed as the list takes: with any fewer there is no answer, as the block in which they end is
looked at as a whole. -/
theorem followBlocks?_take (h : p.followBlocks? size blocks bytes = some (q, count)) :
    blocks ≤ count ∧ ∀ n < (count - blocks) * blockSize, p.followBlocks? size blocks (bytes.take n) = none := by
  fun_induction followBlocks? size p blocks bytes with
  | case1 => cases h
  | case2 => cases h
  | case3 p blocks bytes hlong block p' hlist hon ih =>
      obtain ⟨hle, hshort⟩ := ih h
      refine ⟨by omega, fun n hn => ?_⟩
      rw [followBlocks?]
      split
      · rfl
      · next hlength =>
        -- the first block is all there, so it is a later one that is not
        rw [List.length_take] at hlength
        have hrest := hshort (n - blockSize) (by unfold blockSize at *; omega)
        rw [List.take_take, Nat.min_eq_left (by omega), List.drop_take]
        simp only [block] at hlist hon
        simp only [hlist, hon, if_true, hrest]
  | case4 p blocks bytes hlong block p' hlist hon =>
      cases h
      refine ⟨by omega, fun n hn => ?_⟩
      rw [followBlocks?, dif_pos (by rw [List.length_take]; unfold blockSize at *; omega)]

end Pieces

section

variable {header list : List UInt8} {size count : Nat}

/-- What stands behind the header matters only if it says that the list goes on there. Then the blocks that it takes
have to be there, and they are all that is looked at. -/
theorem pieceBlocks?_eq_some_iff :
    pieceBlocks? header size list = some count ↔
      field header 257 8 = magicGnu ∧ ∃ p q, Pieces.followList? size {} header 386 4 = some p ∧
        (if Pieces.goesOn header 482 then p.followBlocks? size 0 list else some (p, 0)) = some (q, count) ∧
        readOctal? (field header 483 12) = some q.reached ∧ q.stored = size := by
  -- the last check, as three equations
  have hfits : ∀ (whole : Nat) (q : Pieces) (blocks : Nat),
      (if (decide (q.reached = whole) && decide (q.stored = size)) = true then some blocks else none) = some count ↔
        q.reached = whole ∧ q.stored = size ∧ blocks = count := by
    intro whole q blocks
    simp [and_assoc]
  unfold pieceBlocks?
  split
  · next hmagic => simp [hmagic]
  · next hmagic =>
    rw [not_not] at hmagic
    -- with a list that goes on in blocks, and without
    cases hon : Pieces.goesOn header 482
    all_goals
      simp only [Option.bind_eq_bind, Option.bind_eq_some_iff, Bool.false_eq_true, if_true, if_false, hfits, hmagic,
        true_and, Prod.exists]
      constructor
      · rintro ⟨p, hlist, q, blocks, hblocks, whole, hwhole, rfl, hstored, rfl⟩
        exact ⟨p, q, hlist, hblocks, hwhole, hstored⟩
      · rintro ⟨p, q, hlist, hblocks, hwhole, hstored⟩
        exact ⟨p, hlist, q, count, hblocks, q.reached, hwhole, rfl, hstored, rfl⟩

/-- The list of pieces ends where its last block says so, so nothing behind it counts. -/
theorem pieceBlocks?_append (h : pieceBlocks? header size list = some count) (rest : List UInt8) :
    pieceBlocks? header size (list ++ rest) = some count := by
  obtain ⟨hmagic, p, q, hlist, hblocks, hwhole⟩ := pieceBlocks?_eq_some_iff.mp h
  refine pieceBlocks?_eq_some_iff.mpr ⟨hmagic, p, q, hlist, ?_, hwhole⟩
  split at hblocks
  · next hon => rw [if_pos hon, Pieces.followBlocks?_append hblocks]
  · next hon => rw [if_neg hon, hblocks]

/-- A list that is cut off inside has no end that the reader can find. Otherwise it would have found this end before the
cut was made. -/
theorem pieceBlocks?_take (h : pieceBlocks? header size list = some count) {n : Nat} (hn : n < count * blockSize) :
    pieceBlocks? header size (list.take n) = none := by
  obtain ⟨-, p, q, hlist, hblocks, -⟩ := pieceBlocks?_eq_some_iff.mp h
  by_contra hsome
  obtain ⟨count', hcount'⟩ := Option.ne_none_iff_exists'.mp hsome
  obtain ⟨-, p', q', hlist', hblocks', -⟩ := pieceBlocks?_eq_some_iff.mp hcount'
  rw [hlist] at hlist'
  cases hlist'
  split at hblocks
  · next hon =>
    rw [if_pos hon, (Pieces.followBlocks?_take hblocks).2 n (by rwa [Nat.sub_zero])] at hblocks'
    cases hblocks'
  · -- a list that ends in the header takes no blocks
    cases hblocks
    rw [Nat.zero_mul] at hn
    exact absurd hn (Nat.not_lt_zero n)

end

/-! ## One step of the reader -/

theorem untilNul_of_zeros {bytes : List UInt8} (h : ∀ b ∈ bytes, b = 0) : untilNul bytes = [] := by
  cases bytes with
  | nil => rfl
  | cons b bytes => rw [untilNul, h b (by simp), List.takeWhile_cons_of_neg (by decide)]

/-- A block of zeros is no header: it has no checksum. -/
theorem Header.decode?_of_zeros {block : List UInt8} (h : ∀ b ∈ block, b = 0) : Header.decode? block = none := by
  have hsum : readOctal? (field block 148 8) = none := by
    have hzeros : ∀ b ∈ field block 148 8, b = 0 := fun b hb => h b (List.mem_of_mem_drop (List.mem_of_mem_take hb))
    rw [readOctal?, untilNul_of_zeros hzeros]
    decide
  rw [Header.decode?, hsum]
  rfl

/-- A size that does not fit a word is too long for the position as well. -/
theorem limit_iff {position size : Nat} :
    (decide (size + (blockSize - 1) ≥ wordLimit) || decide (position + blockSize + paddedSize size ≥ wordLimit)) = true ↔
      wordLimit ≤ position + blockSize + paddedSize size := by
  have hlimit : wordLimit = 18446744073709551616 := rfl
  rw [Bool.or_eq_true, decide_eq_true_eq, decide_eq_true_eq, hlimit, paddedSize, blockSize]
  omega

namespace Archive

/-- The archive with one more member in front. -/
def cons (m : Member) (a : Archive) : Archive := ⟨m :: a.members, a.broken⟩

variable {position : Nat} {d : Described} {h : Header} {kind : Kind} {block body bytes : List UInt8}

/-- Part of a block is a break, and so is the end of the bytes behind a description. -/
theorem readFrom_of_short (hshort : bytes.length < blockSize) (hsome : bytes = [] → d.isEmpty = false) :
    readFrom false position d bytes = .brokenOff := by
  rw [readFrom, dif_pos hshort]
  cases bytes with
  | nil => simp [hsome rfl]
  | cons b bytes => rfl

section Step

variable (hlength : block.length = blockSize) (hdecode : Header.decode? block = some h)

include hlength hdecode

/-- What the reader does at a header, by what the header announces. All that follows about cuts goes through this one
equation. -/
theorem readFrom_header :
    readFrom false position d (block ++ body) =
      if wordLimit ≤ position + blockSize + paddedSize (d.dataSize h) then .brokenOff
      else
        match h.announces with
        | .member kind =>
          cons (d.member kind h (body.take (d.dataSize h)))
            (if paddedSize (d.dataSize h) ≤ body.length then
              readFrom false (position + blockSize + paddedSize (d.dataSize h)) {} (body.drop (paddedSize (d.dataSize h)))
            else .brokenOff)
        | .pieces =>
          match pieceBlocks? block (d.dataSize h) body with
          | none => .brokenOff
          | some count =>
            cons (d.member .other h ((body.drop (count * blockSize)).take (d.dataSize h)))
              (if count * blockSize + paddedSize (d.dataSize h) ≤ body.length then
                readFrom false (position + blockSize + paddedSize (d.dataSize h) + count * blockSize) {}
                  (body.drop (count * blockSize + paddedSize (d.dataSize h)))
              else .brokenOff)
        | a =>
          match d.learn? (body.take (d.dataSize h)) a with
          | none => .brokenOff
          | some d' =>
            if paddedSize (d.dataSize h) ≤ body.length then
              readFrom false (position + blockSize + paddedSize (d.dataSize h)) d' (body.drop (paddedSize (d.dataSize h)))
            else .brokenOff := by
  have htake : (block ++ body).take blockSize = block := by rw [← hlength, List.take_left]
  have hdrop : (block ++ body).drop blockSize = body := by rw [← hlength, List.drop_left]
  have hzeros : block.all (· == 0) = false := by
    by_contra hall
    rw [Header.decode?_of_zeros (by simpa using hall)] at hdecode
    cases hdecode
  rw [readFrom, dif_neg (by rw [List.length_append]; omega)]
  simp only [htake, hdrop, hzeros, hdecode, Bool.false_eq_true, if_false, limit_iff]
  congr 1
  cases hannounces : h.announces with
  | longName => cases hname : d.name <;> simp [Described.learn?, hname]
  | longLink => cases hlink : d.link <;> simp [Described.learn?, hlink]
  | attributes => cases hattributes : d.attributes <;> simp [Described.learn?, hattributes]
  | pieces => cases pieceBlocks? block (d.dataSize h) body <;> rfl
  | member kind => rfl

end Step

/-! ## Members that are cut off -/

/-- An archive that breaks off within a member, of which it has nothing or all but some data. -/
structure IsPart (a : Archive) (m : Member) : Prop where
  broken : a.broken = true
  members : a.members = [] ∨ ∃ data, a.members = [{ m with data := data }] ∧ (data = m.data ∨ data.length ≠ m.size)

/-- An archive that breaks off at once is part of every member. -/
theorem isPart_brokenOff (m : Member) : IsPart .brokenOff m := ⟨rfl, .inl rfl⟩

/-- The reader takes some bytes in as a member, whatever follows, and finds the break in a part of them. -/
structure Reads (position : Nat) (d : Described) (bytes : List UInt8) (m : Member) : Prop where
  whole : ∀ rest, readFrom false position d (bytes ++ rest) = cons m (readFrom false (position + bytes.length) {} rest)
  part : ∀ n < bytes.length, (n = 0 → d.isEmpty = false) → IsPart (readFrom false position d (bytes.take n)) m

/-- The reader cannot count that far and takes nothing in. -/
def GivesUp (position : Nat) (d : Described) (bytes : List UInt8) : Prop :=
  ∀ rest n, (n = 0 → d.isEmpty = false) → readFrom false position d ((bytes ++ rest).take n) = .brokenOff

/-- Less than a block is left: the reader breaks off. At the very end of the input it would not, unless it has been told
what to expect. -/
theorem readFrom_take_of_lt {n : Nat} (hlong : blockSize ≤ bytes.length) (hn : n < blockSize)
    (hsome : n = 0 → d.isEmpty = false) : readFrom false position d (bytes.take n) = .brokenOff := by
  refine readFrom_of_short (by rw [List.length_take]; omega) fun hnil => hsome ?_
  have hlength := congrArg List.length hnil
  rw [List.length_take, List.length_nil] at hlength
  unfold blockSize at hlong
  omega

theorem take_block {n : Nat} (hlength : block.length = blockSize) (hn : blockSize ≤ n) :
    (block ++ body).take n = block ++ body.take (n - blockSize) := by
  rw [List.take_append, hlength, List.take_of_length_le (by omega)]

/-- The data at hand is all of it, or it is too short. There is no third case, as what fills the last block stands
behind it. -/
theorem take_data {data filling : List UInt8} {size : Nat} (hdata : data.length = size) (n : Nat) :
    ((data ++ filling).take n).take size = data ∨ (((data ++ filling).take n).take size).length ≠ size := by
  by_cases hn : size ≤ n
  · left
    rw [List.take_take, Nat.min_eq_left hn, ← hdata, List.take_left]
  · right
    rw [List.length_take, List.length_take]
    omega

/-- The reader gives up where a position cannot be counted any more, however much of the input there is. -/
theorem givesUp_of_limit (hlength : block.length = blockSize) (hdecode : Header.decode? block = some h)
    (hlimit : wordLimit ≤ position + blockSize + paddedSize (d.dataSize h)) : GivesUp position d (block ++ body) := by
  intro rest n hsome
  by_cases hn : n < blockSize
  · exact readFrom_take_of_lt (by rw [List.length_append, List.length_append]; omega) hn hsome
  · rw [List.append_assoc, take_block hlength (by omega), readFrom_header hlength hdecode, if_pos hlimit]

section Fits

variable {r : Record} (holds : r.Holds h (d.dataSize h))
  (hfits : ¬ wordLimit ≤ position + blockSize + paddedSize (d.dataSize h))

include holds

theorem length_bytes : r.bytes.length = blockSize + paddedSize (d.dataSize h) := by
  rw [Record.bytes, List.length_append, List.length_append, holds.length_block, holds.length_data, holds.length_filling]

theorem take_body (rest : List UInt8) : (r.data ++ r.filling ++ rest).take (d.dataSize h) = r.data := by
  rw [List.append_assoc, ← holds.length_data, List.take_left]

theorem length_body : (r.data ++ r.filling).length = paddedSize (d.dataSize h) := by
  rw [List.length_append, holds.length_data, holds.length_filling]

theorem drop_body (rest : List UInt8) : (r.data ++ r.filling ++ rest).drop (paddedSize (d.dataSize h)) = rest := by
  rw [← length_body holds, List.drop_left]

include hfits

/-- A member without a list of pieces is read from its record, and from a beginning of the record as a part of it. Cut
inside the header it gives nothing, and behind it a member whose data is cut off. -/
theorem reads_plain (hannounces : h.announces = .member kind) : Reads position d r.bytes (d.member kind h r.data) where
  whole rest := by
    rw [length_bytes holds, Record.bytes, List.append_assoc, readFrom_header holds.length_block holds.decode, if_neg hfits,
      hannounces]
    simp only [take_body holds, drop_body holds]
    rw [if_pos (by rw [List.length_append, length_body holds]; omega), Nat.add_assoc]
  part n hn hsome := by
    rw [length_bytes holds] at hn
    -- cut inside the header, or behind it
    by_cases hshort : n < blockSize
    · rw [readFrom_take_of_lt (by rw [length_bytes holds]; omega) hshort hsome]
      exact isPart_brokenOff _
    · rw [Record.bytes, take_block holds.length_block (by omega), readFrom_header holds.length_block holds.decode,
        if_neg hfits, hannounces]
      -- the data do not fill their blocks, so the stream ends behind this member
      have hpart : ¬ paddedSize (d.dataSize h) ≤ ((r.data ++ r.filling).take (n - blockSize)).length := by
        rw [List.length_take]
        omega
      rw [if_neg hpart]
      exact ⟨rfl, .inr ⟨_, rfl, take_data holds.length_data _⟩⟩

/-- A member with a list of pieces: between the header and the data stand the blocks of the list. A cut inside the list
is noticed, and so is one in the data. -/
theorem reads_pieces {list : List UInt8} {count : Nat} (hannounces : h.announces = .pieces)
    (hblocks : pieceBlocks? r.block (d.dataSize h) list = some count) (hlist : list.length = count * blockSize) :
    Reads position d (r.block ++ (list ++ (r.data ++ r.filling))) (d.member .other h r.data) where
  whole rest := by
    have hbody : r.block ++ (list ++ (r.data ++ r.filling)) ++ rest =
        r.block ++ (list ++ (r.data ++ r.filling ++ rest)) := by simp only [List.append_assoc]
    rw [hbody, readFrom_header holds.length_block holds.decode, if_neg hfits, hannounces]
    simp only [pieceBlocks?_append hblocks]
    have hdrop : (list ++ (r.data ++ r.filling ++ rest)).drop (count * blockSize) = r.data ++ r.filling ++ rest := by
      rw [← hlist, List.drop_left]
    rw [← List.drop_drop, hdrop, take_body holds, drop_body holds, if_pos]
    · simp only [List.length_append, holds.length_block, holds.length_data, hlist, ← holds.length_filling]
      congr 2
      omega
    · rw [List.length_append, List.length_append, length_body holds, hlist]
      omega
  part n hn hsome := by
    rw [List.length_append, List.length_append, holds.length_block, length_body holds, hlist] at hn
    by_cases hshort : n < blockSize
    · rw [readFrom_take_of_lt (by rw [List.length_append, holds.length_block]; omega) hshort hsome]
      exact isPart_brokenOff _
    rw [take_block holds.length_block (by omega), readFrom_header holds.length_block holds.decode, if_neg hfits,
      hannounces]
    by_cases hin : n - blockSize < count * blockSize
    · -- the list of pieces itself is cut off
      rw [List.take_append_of_le_length (by omega)]
      simp only [pieceBlocks?_take hblocks hin]
      exact isPart_brokenOff _
    · have hall : list.take (n - blockSize) = list := List.take_of_length_le (by omega)
      rw [List.take_append, hall, hlist]
      simp only [pieceBlocks?_append hblocks]
      have hdrop : ∀ bytes : List UInt8, (list ++ bytes).drop (count * blockSize) = bytes := by
        intro bytes
        rw [← hlist, List.drop_left]
      have hpart : ¬ count * blockSize + paddedSize (d.dataSize h) ≤
          (list ++ (r.data ++ r.filling).take (n - blockSize - count * blockSize)).length := by
        rw [List.length_append, List.length_take, hlist]
        omega
      rw [hdrop, if_neg hpart]
      exact ⟨rfl, .inr ⟨_, rfl, take_data holds.length_data _⟩⟩

/-! A description that is whole is passed over, and the reader knows more; one that is cut off is a break. -/

variable {d' : Described} (hlearn : d.learn? r.data h.announces = some d')

include hlearn

/-- A description that is whole is passed over, and the reader goes on with what it has learned. -/
theorem readFrom_describing (rest : List UInt8) :
    readFrom false position d (r.bytes ++ rest) = readFrom false (position + r.bytes.length) d' rest := by
  rw [length_bytes holds, Record.bytes, List.append_assoc, readFrom_header holds.length_block holds.decode, if_neg hfits]
  cases hannounces : h.announces with
  | member kind =>
      rw [hannounces] at hlearn
      cases hlearn
  | pieces =>
      rw [hannounces] at hlearn
      cases hlearn
  | longName | longLink | attributes =>
      rw [hannounces] at hlearn
      simp only [take_body holds, hlearn, drop_body holds]
      rw [if_pos (by rw [List.length_append, length_body holds]; omega), Nat.add_assoc]

/-- One that is cut off is a break. At its very start there is none yet, unless something was described before and now
has no member. -/
theorem readFrom_describing_part {n : Nat} (hn : n < r.bytes.length) (hsome : n = 0 → d.isEmpty = false) :
    readFrom false position d (r.bytes.take n) = .brokenOff := by
  -- the cut is inside the header, or inside the data
  by_cases hshort : n < blockSize
  · exact readFrom_take_of_lt (by rw [length_bytes holds]; omega) hshort hsome
  have hpart : ¬ paddedSize (d.dataSize h) ≤ ((r.data ++ r.filling).take (n - blockSize)).length := by
    rw [length_bytes holds] at hn
    rw [List.length_take]
    omega
  rw [Record.bytes, take_block holds.length_block (by omega), readFrom_header holds.length_block holds.decode,
    if_neg hfits]
  cases hannounces : h.announces with
  | member kind =>
      rw [hannounces] at hlearn
      cases hlearn
  | pieces =>
      rw [hannounces] at hlearn
      cases hlearn
  | longName | longLink | attributes =>
      simp only [if_neg hpart]
      split <;> rfl

/-- Both together, for a cut that may stand anywhere. -/
theorem readFrom_describing_take (rest : List UInt8) {n : Nat} (hsome : n = 0 → d.isEmpty = false) :
    readFrom false position d ((r.bytes ++ rest).take n) =
      if n < r.bytes.length then .brokenOff
      else readFrom false (position + r.bytes.length) d' (rest.take (n - r.bytes.length)) := by
  split
  · next hn => rw [List.take_append_of_le_length (by omega), readFrom_describing_part holds hfits hlearn hn hsome]
  · next hn => rw [List.take_append, List.take_of_length_le (by omega), readFrom_describing holds hfits hlearn]

end Fits

end Archive

/-- Who has learned something knows something. So an archive may not end right behind a description. -/
theorem Described.isEmpty_of_learn? {d d' : Described} {data : List UInt8} {a : Announced}
    (h : d.learn? data a = some d') : d'.isEmpty = false := by
  unfold learn? at h
  split at h
  · split at h <;> cases h
    rfl
  · split at h <;> cases h
    simp [isEmpty]
  · split at h <;> cases h
    simp [isEmpty]
  · cases h
  · cases h

open Archive in
/-- **What the reader does with a whole member**: it takes the member in or gives up. Which of the two does not depend on
what follows, nor on whether the member is cut off. -/
theorem IsWhole.reads_or_givesUp {d : Described} {bytes : List UInt8} {m : Member} (hwhole : IsWhole d bytes m)
    (position : Nat) : Reads position d bytes m ∨ GivesUp position d bytes := by
  induction hwhole generalizing position with
  | @plain d r h kind holds announces =>
      by_cases hlimit : wordLimit ≤ position + blockSize + paddedSize (d.dataSize h)
      · exact .inr (givesUp_of_limit holds.length_block holds.decode hlimit)
      · exact .inl (reads_plain holds hlimit announces)
  | @pieces d r h list count holds announces blocks length_list =>
      by_cases hlimit : wordLimit ≤ position + blockSize + paddedSize (d.dataSize h)
      · exact .inr (givesUp_of_limit holds.length_block holds.decode hlimit)
      · exact .inl (reads_pieces holds hlimit announces blocks length_list)
  | @describing d d' r h bytes m holds learn rest ih =>
      by_cases hlimit : wordLimit ≤ position + blockSize + paddedSize (d.dataSize h)
      · refine .inr ?_
        rw [Record.bytes, List.append_assoc]
        exact givesUp_of_limit holds.length_block holds.decode hlimit
      -- behind the description it is the rest of the member that decides
      have hmore : ∀ n : Nat, n = 0 → d'.isEmpty = false := fun _ _ => Described.isEmpty_of_learn? learn
      rcases ih (position + r.bytes.length) with hreads | hgivesUp
      · refine .inl ⟨fun more => ?_, fun n hn hsome => ?_⟩
        · rw [List.append_assoc, readFrom_describing holds hlimit learn, hreads.whole, List.length_append, Nat.add_assoc]
        · rw [readFrom_describing_take holds hlimit learn _ hsome]
          rw [List.length_append] at hn
          split
          · exact isPart_brokenOff m
          · exact hreads.part _ (by omega) (hmore _)
      · refine .inr fun more n hsome => ?_
        rw [List.append_assoc, readFrom_describing_take holds hlimit learn _ hsome]
        split
        · rfl
        · exact hgivesUp more _ (hmore _)

/-! ## Archives that are cut off -/

/-- Behind `n` bytes of an archive of some members the first `k` of them end, or all of them and a block of the trailer. -/
def EndsAt (segments : List (List UInt8)) (k n : Nat) : Prop :=
  n = (segments.take k).flatten.length ∨ k = segments.length ∧ segments.flatten.length + blockSize ≤ n

theorem endsAt_zero_cons {s : List UInt8} {segments : List (List UInt8)} {n : Nat} :
    EndsAt (s :: segments) 0 n ↔ n = 0 := by
  simp [EndsAt]

/-- One piece more is whole if it fits and the rest does behind it. -/
theorem endsAt_succ_cons {s : List UInt8} {segments : List (List UInt8)} {k n : Nat} :
    EndsAt (s :: segments) (k + 1) n ↔ s.length ≤ n ∧ EndsAt segments k (n - s.length) := by
  simp only [EndsAt, List.take_succ_cons, List.flatten_cons, List.length_append, List.length_cons, Nat.add_right_cancel_iff]
  omega

/-- The archive of some members alone. -/
def aloneFrom (position : Nat) (segments : List (List UInt8)) : Archive :=
  .readFrom false position {} (segments.flatten ++ trailer)

/-- What is read of an archive of some members that is cut off: the first `k` of them, as if they were alone. The cut goes
unnoticed where they end. Elsewhere the archive is broken, and it may have one more member, with some of its data. -/
inductive ReadsCut (position : Nat) (segments : List (List UInt8)) (n : Nat) (a : Archive) : Prop where
  | clean {k : Nat} {members : List Member} (hk : k ≤ segments.length)
      (alone : aloneFrom position (segments.take k) = ⟨members, false⟩) (ends : EndsAt segments k n)
      (read : a = ⟨members, false⟩)
  | between {k : Nat} {members : List Member} (hk : k ≤ segments.length)
      (alone : aloneFrom position (segments.take k) = ⟨members, false⟩) (inside : ¬ EndsAt segments k n)
      (read : a = ⟨members, true⟩)
  | within {k : Nat} {members : List Member} {m : Member} {data : List UInt8} (hk : k < segments.length)
      (before : aloneFrom position (segments.take k) = ⟨members, false⟩)
      (alone : aloneFrom position (segments.take (k + 1)) = ⟨members ++ [m], false⟩)
      (inside : ¬ EndsAt segments k n ∧ ¬ EndsAt segments (k + 1) n)
      (read : a = ⟨members ++ [{ m with data := data }], true⟩) (some_data : data = m.data ∨ data.length ≠ m.size)

namespace Archive

variable {position n : Nat} {s : List UInt8} {segments : List (List UInt8)} {m : Member} {a : Archive}

/-- Behind the last member only the trailer is left. A cut inside its first block is a break; with nothing of it, or with
this block and perhaps more, the archive ends as if it were whole. -/
theorem readFrom_take_trailer (position n : Nat) :
    ReadsCut position [] n (readFrom false position {} (trailer.take n)) := by
  have halone : aloneFrom position ([].take 0) = ⟨[], false⟩ := readFrom_trailer position
  have hlength : trailer.length = 2 * blockSize := List.length_replicate
  by_cases hzero : n = 0
  · subst hzero
    refine .clean (Nat.le_refl 0) halone (.inl rfl) ?_
    rw [List.take_zero, readFrom, dif_pos (by decide)]
    rfl
  by_cases hshort : n < blockSize
  · refine .between (Nat.le_refl 0) halone ?_ ?_
    · simp [EndsAt, hzero, hshort]
    · exact readFrom_take_of_lt (by rw [hlength]; omega) hshort fun h => absurd h hzero
  · -- one block of the trailer is enough
    refine .clean (Nat.le_refl 0) halone (.inr ⟨rfl, by simpa using hshort⟩) ?_
    have hblock : (trailer.take n).take blockSize = List.replicate blockSize 0 := by
      rw [List.take_take, Nat.min_eq_left (by omega), trailer, List.take_replicate]
      rfl
    have hzeros : (List.replicate blockSize (0 : UInt8)).all (· == 0) = true := by simp
    rw [readFrom, dif_neg (by rw [List.length_take, hlength]; omega)]
    simp only [hblock, hzeros, if_true]
    rfl

/-- The first of several segments is read alone, and then the others from where it ends. -/
theorem aloneFrom_cons (h : Reads position {} s m) (segments : List (List UInt8)) :
    aloneFrom position (s :: segments) = cons m (aloneFrom (position + s.length) segments) := by
  rw [aloneFrom, List.flatten_cons, List.append_assoc, h.whole]
  rfl

/-- A member in front is read in front, and the cut stays where it is in the rest. One case for each way in which the
rest may be cut. -/
theorem readsCut_cons (hreads : Reads position {} s m) (hn : s.length ≤ n)
    (h : ReadsCut (position + s.length) segments (n - s.length) a) : ReadsCut position (s :: segments) n (cons m a) := by
  -- in front of everything the first segment is read alone as one more member
  have halone : ∀ {k members}, aloneFrom (position + s.length) (segments.take k) = ⟨members, false⟩ →
      aloneFrom position ((s :: segments).take (k + 1)) = ⟨m :: members, false⟩ := by
    intro k members h
    rw [List.take_succ_cons, aloneFrom_cons hreads, h]
    rfl
  -- and a cut behind it is at an end only if the cut of the rest is
  have hinside : ∀ {k}, ¬ EndsAt segments k (n - s.length) → ¬ EndsAt (s :: segments) (k + 1) n := fun h hends =>
    h (endsAt_succ_cons.mp hends).2
  cases h with
  | clean hk alone ends read =>
      exact .clean (Nat.succ_le_succ hk) (halone alone) (endsAt_succ_cons.mpr ⟨hn, ends⟩) (read ▸ rfl)
  | between hk alone inside read => exact .between (Nat.succ_le_succ hk) (halone alone) (hinside inside) (read ▸ rfl)
  | within hk before alone inside read some_data =>
      exact .within (Nat.succ_lt_succ hk) (halone before) (halone alone) ⟨hinside inside.1, hinside inside.2⟩
        (read ▸ rfl) some_data

/-- A cut within the first member: nothing is read, or this member with a part of its data. -/
theorem readsCut_of_isPart (hreads : Reads position {} s m) (hn : n < s.length) (hzero : n ≠ 0) (h : IsPart a m) :
    ReadsCut position (s :: segments) n a := by
  have hnone : aloneFrom position ((s :: segments).take 0) = ⟨[], false⟩ := readFrom_trailer position
  have hinside : ¬ EndsAt (s :: segments) 0 n := by rwa [endsAt_zero_cons]
  obtain ⟨members, broken⟩ := a
  obtain ⟨rfl, rfl | ⟨data, rfl, hdata⟩⟩ := h
  · exact .between (Nat.zero_le _) hnone hinside rfl
  · refine .within (Nat.zero_lt_succ _) hnone ?_ ⟨hinside, ?_⟩ rfl hdata
    · rw [List.take_succ_cons, aloneFrom_cons hreads, List.take_zero, aloneFrom, List.flatten_nil, List.nil_append,
        readFrom_trailer]
      rfl
    · rw [endsAt_succ_cons]
      omega

/-- **An archive that is cut off is read as its first members**, wherever the cut is. Induction on the segments: the cut
is inside the first one, or the first one is read and the rest is cut. -/
theorem readFrom_take (hwhole : ∀ s ∈ segments, ∃ m, IsWhole {} s m) (position n : Nat) :
    ReadsCut position segments n (readFrom false position {} ((segments.flatten ++ trailer).take n)) := by
  induction segments generalizing position n with
  | nil => exact readFrom_take_trailer position n
  | cons s segments ih =>
      have halone : aloneFrom position ((s :: segments).take 0) = ⟨[], false⟩ := readFrom_trailer position
      by_cases hzero : n = 0
      · subst hzero
        refine .clean (Nat.zero_le _) halone (.inl rfl) ?_
        rw [List.take_zero, readFrom, dif_pos (by decide)]
        rfl
      -- the cut is inside the first segment, or behind it, unless the reader gives up there
      obtain ⟨m, hm⟩ := hwhole s (by simp)
      rw [List.flatten_cons, List.append_assoc]
      rcases hm.reads_or_givesUp position with hreads | hgivesUp
      · by_cases hn : n < s.length
        · rw [List.take_append_of_le_length (by omega)]
          exact readsCut_of_isPart hreads hn hzero (hreads.part n hn fun h => absurd h hzero)
        · rw [List.take_append, List.take_of_length_le (by omega), hreads.whole]
          exact readsCut_cons hreads (by omega) (ih (fun s hs => hwhole s (List.mem_cons_of_mem _ hs)) _ _)
      · refine .between (Nat.zero_le _) halone (by rwa [endsAt_zero_cons]) ?_
        exact hgivesUp _ n fun h => absurd h hzero

end Archive

/-! ## Entries

What is written for an entry is one whole member, with everything in front that does not fit its header. -/

namespace Record

/-- A header and some data, filled up with zeros. -/
def ofHeader (h : Header) (data : List UInt8) : Record :=
  ⟨h.encode, data, List.replicate (paddedSize data.length - data.length) 0⟩

/-- A record that is built from a header is what the writer writes. -/
theorem bytes_ofHeader (h : Header) (data : List UInt8) : (ofHeader h data).bytes = h.encode ++ padded data := by
  rw [bytes, ofHeader, padded, fit, List.take_of_length_le (le_paddedSize _)]

/-- A record that is made of a header and data holds what the header says, and its last block is filled up. -/
theorem holds_ofHeader {h : Header} {data : List UInt8} {size : Nat} (hw : h.IsWritable) (hsize : data.length = size) :
    (ofHeader h data).Holds h size where
  length_block := Header.length_encode h
  decode := Header.decode?_encode hw
  length_data := hsize
  length_filling := by
    have hpadded := le_paddedSize data.length
    rw [ofHeader, List.length_replicate, ← hsize]
    omega

end Record

/-- A description that is written only if it is needed: with it and without it, what follows is a whole member. -/
theorem isWhole_describing {absent : Prop} [Decidable absent] {flag : UInt8} {name : String} {data bytes : List UInt8}
    {d : Described} {m : Member} (d' : Described)
    (hname : (Text.encode name).length ≤ 100 ∧ 0 ∉ Text.encode name) (hdata : data.length < wordLimit)
    (hdescribes : Header.describes ⟨flag, Text.encode name, [], data.length, true⟩ = true)
    (hlearn : ¬ absent → d.learn? data (Header.announces ⟨flag, Text.encode name, [], data.length, true⟩) = some d')
    (habsent : absent → d = d') (rest : IsWhole d' bytes m) :
    IsWhole d ((if absent then [] else describing flag name data) ++ bytes) m := by
  split
  · next h =>
    rw [habsent h]
    exact rest
  · next h =>
    have hwritable : Header.IsWritable ⟨flag, Text.encode name, [], data.length, true⟩ :=
      ⟨hname.1, hname.2, Nat.zero_le _, List.not_mem_nil, hdata, rfl⟩
    have hsize : data.length = d.dataSize ⟨flag, Text.encode name, [], data.length, true⟩ := by
      rw [Described.dataSize, if_pos hdescribes]
    have holds := Record.holds_ofHeader hwritable hsize
    rw [describing, ← Record.bytes_ofHeader]
    exact .describing holds (hlearn h) rest

namespace Entry

/-- The attributes of an entry as they are written. -/
def records (e : Entry) : List UInt8 := e.attributes.flatMap fun a => writeRecord a.1 a.2

/-- What the members in front of the header of an entry say. -/
def described (e : Entry) : Described where
  name := if e.name.length ≤ 100 then none else some (e.name ++ [0])
  link := if e.link.length ≤ 100 then none else some (e.link ++ [0])
  attributes := if e.attributes.isEmpty then none else some (readAttributes e.records)

/-- An entry that is a member and no description of another one, and whose attributes tell no wrong size. -/
structure IsSound (e : Entry) : Prop where
  nameNoNul : 0 ∉ e.name
  linkNoNul : 0 ∉ e.link
  announces : e.header.announces = .member e.kind
  size : e.described.dataSize e.header = e.content.length
  nameFits : e.name.length + 1 < wordLimit
  linkFits : e.link.length + 1 < wordLimit
  recordsFit : e.records.length < wordLimit
  contentFits : e.content.length < wordLimit

/-- **What is written for an entry is a whole member.** So the results about cuts hold of what a writer makes, with long
names or without. -/
theorem IsSound.isWhole_encode {e : Entry} (h : e.IsSound) :
    IsWhole {} e.encode (e.described.member e.kind e.header e.content) := by
  have hwritable : e.header.IsWritable :=
    ⟨List.length_take_le 100 e.name, fun hmem => h.nameNoNul (List.mem_of_mem_take hmem), List.length_take_le 100 e.link,
      fun hmem => h.linkNoNul (List.mem_of_mem_take hmem), h.contentFits, rfl⟩
  have hplain : IsWhole e.described (e.header.encode ++ padded e.content)
      (e.described.member e.kind e.header e.content) := by
    rw [← Record.bytes_ofHeader]
    exact .plain (Record.holds_ofHeader hwritable h.size.symm) h.announces
  rw [encode, front]
  simp only [List.append_assoc]
  -- each description in front adds what it says to what is known behind it
  refine isWhole_describing { e.described with name := none, link := none } (by decide) h.recordsFit rfl ?_ ?_ ?_
  · intro hsome
    rw [described, if_neg hsome]
    rfl
  · intro hnone
    simp [described, hnone]
  refine isWhole_describing { e.described with link := none } (by decide) (by simpa using h.nameFits) rfl ?_ ?_ ?_
  · intro hsome
    rw [described, if_neg hsome]
    rfl
  · intro hnone
    simp [described, hnone]
  refine isWhole_describing e.described (by decide) (by simpa using h.linkFits) rfl ?_ ?_ hplain
  · intro hsome
    rw [described, if_neg hsome]
    rfl
  · intro hnone
    simp [described, hnone]

end Entry

end Bootstrap.Tar
