import Bootstrap.Tar.Archive

/-!
# Writing archives

An entry is written as its header block and its data, filled up with zeros to whole blocks. What does not fit
the header goes in front of it: a list of attributes, a long name, a long link target. Two blocks of zeros end
an archive.
-/

namespace Bootstrap.Tar

structure Entry where
  /-- One byte for the kind of the member. -/
  flag : UInt8
  name : List UInt8
  link : List UInt8 := []
  content : List UInt8 := []
  attributes : List (List UInt8 × List UInt8) := []
deriving DecidableEq

/-- Bytes filled up with zeros to whole blocks. -/
def padded (bytes : List UInt8) : List UInt8 := fit (paddedSize bytes.length) bytes

/-- A member that has some data and describes the next one. -/
def describing (flag : UInt8) (name : String) (data : List UInt8) : List UInt8 :=
  Header.encode ⟨flag, Text.encode name, [], data.length, true⟩ ++ padded data

/-- The length of a record whose own decimal length is part of it, if `rest` bytes follow the number. -/
def recordLength (rest : Nat) : Nat :=
  let guess := rest + (toString rest).length
  rest + (toString guess).length

/-- A record `LENGTH KEY=VALUE` with a newline. -/
def writeRecord (key value : List UInt8) : List UInt8 :=
  let rest := 0x20 :: key ++ 0x3D :: value ++ [0x0A]
  Text.encode (toString (recordLength rest.length)) ++ rest

namespace Entry

/-- The header block of the entry itself says this. -/
def header (e : Entry) : Header :=
  ⟨e.flag, e.name.take 100, e.link.take 100, e.content.length, true⟩

/-- The members that stand in front of the header of the entry. -/
def front (e : Entry) : List UInt8 :=
  (if e.attributes.isEmpty then []
    else describing 0x78 "PaxHeaders/x" (e.attributes.flatMap fun a => writeRecord a.1 a.2)) ++
    (if e.name.length ≤ 100 then [] else describing 0x4C "././@LongLink" (e.name ++ [0])) ++
    (if e.link.length ≤ 100 then [] else describing 0x4B "././@LongLink" (e.link ++ [0]))

def encode (e : Entry) : List UInt8 := e.front ++ e.header.encode ++ padded e.content

end Entry

/-- The two blocks of zeros at the end of an archive. -/
def trailer : List UInt8 := List.replicate (2 * blockSize) 0

/-- The bytes of an archive. -/
def encodeArchive (entries : List Entry) : List UInt8 := entries.flatMap Entry.encode ++ trailer

end Bootstrap.Tar
