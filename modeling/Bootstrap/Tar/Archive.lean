import Bootstrap.Path
import Bootstrap.Tar.Pieces

/-!
# Archives

`Archive.read` turns the bytes of an archive into its members and a mark for how it ends. Members that only
describe the next one (a long name, a long link target, a list of attributes) are taken into that one.

An archive ends cleanly at a block of zeros or where its bytes end in front of a header. It is broken by a part
of a block, a header that cannot be read, a description that no member or a second description of its kind
follows, and by data that is cut off; the members in front of the break are read all the same, and the one
whose data is cut off has the data that is there. An archive whose stream cannot be read on behind its bytes, as
`Archive.readCut` reads it, is also broken where the bytes end.
-/

namespace Bootstrap.Tar

inductive Kind where
  | file
  | directory
  | link
  | other
deriving DecidableEq

/-- One object of an archive. -/
structure Member where
  kind : Kind
  name : Path
  /-- The content of the link field, which a member of any kind may have. -/
  link : Option Path
  /-- How many bytes of data the member is said to have. -/
  size : Nat
  /-- The data that is there. -/
  data : List UInt8
  /-- Whether data that is not there could not be read. -/
  cut : Bool
deriving DecidableEq

structure Archive where
  members : List Member
  /-- Whether the archive breaks off behind its members. -/
  broken : Bool
deriving DecidableEq

/-! ### Descriptions of the next member -/

/-- Attributes in the order in which they are written; `none` for a record that is malformed. -/
abbrev Attributes := List (Option (List UInt8 × List UInt8))

/-- A record `LENGTH KEY=VALUE`, without the newline at its end that LENGTH counts too. -/
def readRecord? (line : List UInt8) : Option (List UInt8 × List UInt8) := do
  let lengthBytes := line.takeWhile (· != 0x20)
  let rest ← (line.drop lengthBytes.length).tail?
  let length ← readNumber? 10 (← Text.decode? lengthBytes).toList
  if length ≠ line.length + 1 then none
  else
    let key := rest.takeWhile (· != 0x3D)
    let value ← (rest.drop key.length).tail?
    some (key, value)

/-- The records in front of the first empty line. -/
def readAttributes (data : List UInt8) : Attributes :=
  ((data.splitOn 0x0A).takeWhile (!·.isEmpty)).map readRecord?

/-- The first value of an attribute; malformed records are passed over. -/
def attribute? (key : String) (as : Attributes) : Option (List UInt8) :=
  ((as.filterMap id).find? fun record => record.1 == Text.encode key).map Prod.snd

/-- The size among the attributes, unless a malformed record stands in front of it. -/
def sizeAttribute? (as : Attributes) : Option Nat := do
  let sound := (as.takeWhile Option.isSome).filterMap id
  let record ← sound.find? fun record => record.1 == Text.encode "size"
  readNumber? 10 (← Text.decode? record.2).toList

/-- What has been read about the next member. -/
structure Described where
  name : Option (List UInt8) := none
  link : Option (List UInt8) := none
  attributes : Option Attributes := none
deriving DecidableEq

namespace Described

def isEmpty (d : Described) : Bool := d.name.isNone && d.link.isNone && d.attributes.isNone

/-- Without one NUL byte at the end. -/
def dropNul (bytes : List UInt8) : List UInt8 :=
  if bytes.getLast? = some 0 then bytes.dropLast else bytes

/-- The name of the member: described, among the attributes, or in the header. -/
def memberName (d : Described) (h : Header) : Path :=
  match d.name with
  | some name => ⟨dropNul name⟩
  | none => ⟨(d.attributes.bind (attribute? "path")).getD h.name⟩

/-- The link target of the member, found like its name. -/
def memberLink (d : Described) (h : Header) : Option Path :=
  match d.link with
  | some link => some ⟨dropNul link⟩
  | none =>
    match d.attributes.bind (attribute? "linkpath") with
    | some link => some ⟨link⟩
    | none => if h.link.isEmpty then none else some ⟨h.link⟩

/-- The size of the member: among the attributes, or in the header. -/
def memberSize (d : Described) (h : Header) : Nat := (d.attributes.bind sizeAttribute?).getD h.size

end Described

/-! ### Reading -/

/-- What a header announces. -/
inductive Announced where
  | longName
  | longLink
  | attributes
  /-- A member that stores pieces of its content. -/
  | pieces
  | member (kind : Kind)
deriving DecidableEq

def Header.announces (h : Header) : Announced :=
  if h.flag == 0 || h.flag == 0x30 || h.flag == 0x37 then .member .file
  else if h.flag == 0x32 then .member .link
  else if h.flag == 0x35 then .member .directory
  else if h.flag == 0x53 then .pieces
  else if h.extended && h.flag == 0x4C then .longName
  else if h.extended && h.flag == 0x4B then .longLink
  else if h.extended && h.flag == 0x78 then .attributes
  else .member .other

/-- Whether a header only describes what comes after it. Attributes say nothing about the size of such a member. -/
def Header.describes (h : Header) : Bool := h.flag == 0x4C || h.flag == 0x4B || h.flag == 0x78 || h.flag == 0x67

/-- The size of the data behind a header that follows some descriptions. -/
def Described.dataSize (d : Described) (h : Header) : Nat := if h.describes then h.size else d.memberSize h

/-- A size rounded up to whole blocks. -/
def paddedSize (size : Nat) : Nat := (size + (blockSize - 1)) / blockSize * blockSize

/-- The archive that ends here. -/
def Archive.ended : Archive := ⟨[], false⟩

/-- The archive that breaks here. -/
def Archive.brokenOff : Archive := ⟨[], true⟩

/-- Reads on at a header. `cut` tells that the bytes end because no more of them can be read, `position` counts those
in front of the header, and `described` is what was read about the next member. -/
def Archive.readFrom (cut : Bool) (position : Nat) (described : Described) (bytes : List UInt8) : Archive :=
  if _short : bytes.length < blockSize then
    if bytes.isEmpty && described.isEmpty && !cut then ended else brokenOff
  else
    let block := bytes.take blockSize
    if block.all (· == 0) then
      if described.isEmpty then ended else brokenOff
    else
      match Header.decode? block with
      | none => brokenOff
      | some h =>
        let size := described.dataSize h
        -- Sizes and positions have to fit into words, or the archive is broken.
        let next := position + blockSize + paddedSize size
        if size + (blockSize - 1) ≥ wordLimit || next ≥ wordLimit then brokenOff
        else
          let body := bytes.drop blockSize
          let data := body.take size
          let rest := body.drop (paddedSize size)
          let whole := paddedSize size ≤ body.length
          match h.announces with
          | .pieces =>
            match pieceBlocks? block size body with
            | none => brokenOff
            | some blocks =>
              let data := (body.drop (blocks * blockSize)).take size
              let rest := body.drop (blocks * blockSize + paddedSize size)
              let tail :=
                if blocks * blockSize + paddedSize size ≤ body.length then
                  readFrom cut (next + blocks * blockSize) {} rest
                else brokenOff
              let member : Member := ⟨.other, described.memberName h, described.memberLink h, size, data, cut⟩
              ⟨member :: tail.members, tail.broken⟩
          | .longName =>
            if whole && described.name.isNone then
              readFrom cut next { described with name := some data } rest
            else brokenOff
          | .longLink =>
            if whole && described.link.isNone then
              readFrom cut next { described with link := some data } rest
            else brokenOff
          | .attributes =>
            if whole && described.attributes.isNone then
              readFrom cut next { described with attributes := some (readAttributes data) } rest
            else brokenOff
          | .member kind =>
            let tail := if whole then readFrom cut next {} rest else brokenOff
            let member : Member :=
              ⟨kind, described.memberName h, described.memberLink h, size, data, cut⟩
            ⟨member :: tail.members, tail.broken⟩
  termination_by bytes.length
  decreasing_by
    all_goals simp only [blockSize, List.length_drop] at *; omega

/-- Reads an archive from its start. -/
def Archive.read (bytes : List UInt8) : Archive := readFrom false 0 {} bytes

/-- Reads an archive of which no more than these bytes can be read. -/
def Archive.readCut (bytes : List UInt8) : Archive := readFrom true 0 {} bytes

end Bootstrap.Tar
