import Bootstrap.Tar.Header

/-!
# Members with holes

A member with holes stores pieces of its content and leaves the zeros between them out. Its header lists up to four
pieces, each with its place and its length, and tells the length of the whole; blocks with 21 more pieces each may stand
between the header and the data.

* `Pieces.follow?` checks one piece against those in front of it: pieces stand in order and do not overlap, all but the
  last fill whole blocks, and together they are no longer than the data.
* `pieceBlocks?` follows the whole list and tells how many blocks it takes.
-/

namespace Bootstrap.Tar

/-- How far a list of pieces has been followed. -/
structure Pieces where
  /-- Where in the content the last piece ends. -/
  reached : Nat := 0
  /-- How many bytes of data the pieces have. -/
  stored : Nat := 0
deriving DecidableEq

namespace Pieces

/-- Follows the list by one piece of a member with `size` bytes of data. A piece without a place or a length is
passed over. -/
def follow? (size : Nat) (p : Pieces) (entry : List UInt8) : Option Pieces :=
  if (field entry 0 1).all (· == 0) || (field entry 12 1).all (· == 0) then some p
  else do
    let place ← readOctal? (field entry 0 12)
    let length ← readOctal? (field entry 12 12)
    if length ≠ 0 && p.stored % blockSize ≠ 0 then none
    else if place < p.reached || place + length ≥ wordLimit || size < p.stored + length then none
    else some ⟨place + length, p.stored + length⟩

/-- Follows `count` pieces whose list starts at a place of a block. -/
def followList? (size : Nat) (p : Pieces) (block : List UInt8) (start count : Nat) : Option Pieces :=
  (List.range count).foldlM (fun p i => p.follow? size (field block (start + 24 * i) 24)) p

/-- Whether the byte at a place of a block says that a block with more pieces follows. -/
def goesOn (block : List UInt8) (place : Nat) : Bool := field block place 1 == [1]

/-- Follows the blocks behind the header; `blocks` of them have been read. -/
def followBlocks? (size : Nat) (p : Pieces) (blocks : Nat) (bytes : List UInt8) : Option (Pieces × Nat) :=
  if _short : bytes.length < blockSize then none
  else
    let block := bytes.take blockSize
    match p.followList? size block 0 21 with
    | none => none
    | some p =>
      if goesOn block 504 then p.followBlocks? size (blocks + 1) (bytes.drop blockSize)
      else some (p, blocks + 1)
  termination_by bytes.length
  decreasing_by
    all_goals simp only [blockSize, List.length_drop] at *; omega

end Pieces

/-- How many blocks with pieces stand between a header block and the `size` bytes of data, unless the list of pieces
does not fit together: it has to end where the content ends and to use all the data. -/
def pieceBlocks? (header : List UInt8) (size : Nat) (bytes : List UInt8) : Option Nat := do
  if field header 257 8 ≠ magicGnu then none
  else
    let p ← Pieces.followList? size {} header 386 4
    let (p, blocks) ← if Pieces.goesOn header 482 then p.followBlocks? size 0 bytes else some (p, 0)
    let whole ← readOctal? (field header 483 12)
    if p.reached = whole && p.stored = size then some blocks else none

end Bootstrap.Tar
