import Bootstrap.Text.Blank
import Bootstrap.Text.Utf8

/-!
# Headers of archive members

An archive is a sequence of blocks of 512 bytes. Each member starts with a header block, whose fields stand at
fixed places: names up to their first NUL byte, numbers as octal digits. A size that octal digits cannot hold
has its first bit set and is written in base 256.

* `Header.encode` writes a header block, `Header.decode?` reads one.
* A header counts only if its checksum is right: the sum of its bytes, with blanks for the checksum itself.
-/

namespace Bootstrap.Tar

/-- The length of a block. -/
def blockSize : Nat := 512

/-- Numbers in headers stay below this. -/
def wordLimit : Nat := Nat.pow 2 64

/-- The bytes of a block from a place on. -/
def field (block : List UInt8) (start length : Nat) : List UInt8 := (block.drop start).take length

/-- The bytes in front of the first NUL. -/
def untilNul (bytes : List UInt8) : List UInt8 := bytes.takeWhile (· != 0)

/-! ### Numbers -/

/-- The value of digits in some base, most significant first. -/
def digitsValue? (base : Nat) (digits : List Char) : Option Nat :=
  digits.foldlM (fun n c =>
    if c.isDigit && c.toNat - '0'.toNat < base then some (n * base + (c.toNat - '0'.toNat)) else none) 0

/-- Reads an unsigned number below `wordLimit`. A plus sign may stand in front of the digits. -/
def readNumber? (base : Nat) (cs : List Char) : Option Nat :=
  let digits := match cs with
    | '+' :: rest => rest
    | _ => cs
  if digits.isEmpty then none
  else (digitsValue? base digits).filter (· < wordLimit)

/-- Reads an octal field: digits with blanks around them, up to the first NUL. -/
def readOctal? (bytes : List UInt8) : Option Nat := do
  readNumber? 8 (Text.trim (← Text.decode? (untilNul bytes)).toList)

/-- Reads a number from its last eight bytes in base 256. -/
def readBase256 (bytes : List UInt8) : Nat :=
  (bytes.drop (bytes.length - 8)).foldl (fun n b => n * 256 + b.toNat) 0

/-- Reads a size field. -/
def readSize? (bytes : List UInt8) : Option Nat :=
  match bytes with
  | [] => none
  | b :: _ => if b.toNat ≥ 0x80 then some (readBase256 bytes) else readOctal? bytes

/-- The last `width` digits of a number in some base, most significant first. -/
def digitsOf (base : Nat) : (width : Nat) → Nat → List Nat
  | 0, _ => []
  | width + 1, n => digitsOf base width (n / base) ++ [n % base]

/-- Writes an octal field of `width` bytes, the last of them a NUL. -/
def writeOctal (width n : Nat) : List UInt8 :=
  (digitsOf 8 (width - 1) n).map (fun d => UInt8.ofNat (0x30 + d)) ++ [0]

/-- Writes a size field of twelve bytes. -/
def writeSize (n : Nat) : List UInt8 :=
  if n < Nat.pow 8 11 then writeOctal 12 n
  else 0x80 :: (digitsOf 256 11 n).map UInt8.ofNat

/-! ### Header blocks -/

/-- What a header says. -/
structure Header where
  /-- One byte for the kind of the member. -/
  flag : UInt8
  name : List UInt8
  /-- Empty when the member has no link field. -/
  link : List UInt8
  size : Nat
  /-- Whether the header is of one of the two formats that extend the oldest one. -/
  extended : Bool
deriving DecidableEq

/-- Bytes cut or filled up with zeros to a length. -/
def fit (length : Nat) (bytes : List UInt8) : List UInt8 :=
  bytes.take length ++ List.replicate (length - bytes.length) 0

def magicUstar : List UInt8 := [0x75, 0x73, 0x74, 0x61, 0x72, 0x00, 0x30, 0x30]

def magicGnu : List UInt8 := [0x75, 0x73, 0x74, 0x61, 0x72, 0x20, 0x20, 0x00]

/-- The sum of the bytes of a header block, with blanks in place of the checksum. -/
def checksum (block : List UInt8) : Nat :=
  (block.take 148 ++ block.drop 156).foldl (fun sum b => sum + b.toNat) (8 * 0x20)

namespace Header

/-- A header block with some bytes in place of its checksum. -/
def withChecksum (block sum : List UInt8) : List UInt8 := block.take 148 ++ fit 8 sum ++ block.drop 156

/-- The header block without a checksum. -/
def encodeUnsigned (h : Header) : List UInt8 :=
  fit 100 h.name ++ List.replicate 24 0 ++ writeSize h.size ++ List.replicate 20 0 ++ [h.flag] ++
    fit 100 h.link ++ magicGnu ++ List.replicate 247 0

def encode (h : Header) : List UInt8 :=
  withChecksum h.encodeUnsigned (writeOctal 8 (checksum h.encodeUnsigned))

/-- The name in a header block. One of the extended formats can hold the front part of a long name in a field
of its own. -/
def blockName (block : List UInt8) : List UInt8 :=
  let name := untilNul (field block 0 100)
  let front := untilNul (field block 345 155)
  if field block 257 8 = magicUstar && !front.isEmpty then front ++ 0x2F :: name else name

def decode? (block : List UInt8) : Option Header := do
  let sum ← readOctal? (field block 148 8)
  let size ← readSize? (field block 124 12)
  if sum % Nat.pow 2 32 ≠ checksum block then none
  else
    some {
      flag := (block.drop 156).headD 0
      name := blockName block
      link := untilNul (field block 157 100)
      size := size
      extended := field block 257 8 == magicUstar || field block 257 8 == magicGnu }

end Header

end Bootstrap.Tar
