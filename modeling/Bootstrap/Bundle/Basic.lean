import Bootstrap.Tar.Archive
import Bootstrap.Tar.Writer

/-!
# Bundles

A bundle is an archive in one compressed stream. What matters about the compression is whether some bytes are a
compressed stream, what it holds and whether it can be read to its end, so a bundle is given by that: the contents of
the stream, the contents in front of a damage, or bytes that are no such stream.
-/

namespace Bootstrap

inductive Bundle where
  /-- A complete compressed stream with these contents. -/
  | compressed (contents : List UInt8)
  /-- A compressed stream that breaks off or is damaged behind these contents. -/
  | cut (contents : List UInt8)
  /-- Bytes that are no compressed stream. -/
  | raw (bytes : List UInt8)
deriving DecidableEq

namespace Bundle

/-- The bytes with which a compressed stream starts. -/
def magic : List UInt8 := [0x1F, 0x8B]

/-- Whether the bytes of a bundle start as those of a compressed stream. -/
def looksCompressed : Bundle → Bool
  | .compressed _ | .cut _ => true
  | .raw bytes => magic.isPrefixOf bytes

/-- The archive in a bundle. Bytes that are no stream break off at their start. -/
def archive : Bundle → Tar.Archive
  | .compressed contents => .read contents
  | .cut contents => .readCut contents
  | .raw _ => .brokenOff

/-! ### Packing -/

/-- Something to put into a bundle. -/
inductive Item where
  | directory (name : Path)
  | file (name : Path) (content : List UInt8)
  | link (name target : Path)
deriving DecidableEq

def Item.entry : Item → Tar.Entry
  | .directory name => ⟨0x35, name.bytes, [], [], []⟩
  | .file name content => ⟨0x30, name.bytes, [], content, []⟩
  | .link name target => ⟨0x32, name.bytes, target.bytes, [], []⟩

/-- A bundle of some items, in order. -/
def pack (items : List Item) : Bundle := .compressed (Tar.encodeArchive (items.map Item.entry))

end Bundle

end Bootstrap
