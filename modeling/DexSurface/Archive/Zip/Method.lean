import DexSurface.Archive.Entry
import DexSurface.Archive.Bzip2
import DexSurface.Archive.Inflate
import DexSurface.Archive.Lzma.Chunks
import DexSurface.Archive.Zstandard.Frame

/-!
# Methods

A number tells how the content of an entry is stored.  One method is known by its number, but what
it stores is not read.
-/

namespace DexSurface

namespace Zip

/-- How the content of an entry is stored. -/
inductive Method where
  | stored
  | deflated (dialect : Inflate.Dialect)
  | bzip2
  | lzma
  | xz
  | zstandard
  /-- In a way that is known but not read. -/
  | foreign

namespace Method

/-- The method that a number stands for. -/
def ofNumber? (number : Nat) : Option Method :=
  if number = 0 then some .stored
  else if number = 8 then some (.deflated .short)
  else if number = 9 then some (.deflated .long)
  else if number = 12 then some .bzip2
  else if number = 14 then some .lzma
  else if number = 93 then some .zstandard
  else if number = 95 then some .xz
  else if number = 98 then some .foreign
  else none

/-- How a copy of the content is written: only what was stored as it is stays so. -/
def compression : Method → Compression
  | .stored => .stored
  | .deflated _ | .bzip2 | .lzma | .xz | .zstandard | .foreign => .deflated

/-- The content of a stated size that bytes stand for; only one method needs the size. -/
def content (method : Method) (bytes : ByteArray) (size : Nat) : Content :=
  match method with
  | .stored => .whole bytes
  | .deflated dialect => Inflate.inflate dialect bytes
  | .bzip2 => Unpacking.content Bzip2.unpack bytes
  | .lzma => Lzma.content (Lzma.decodeSized size) bytes
  | .xz => Lzma.content Lzma.stream bytes
  | .zstandard => Unpacking.content Zstandard.unpack bytes
  | .foreign => .unreadable .corrupt

end Method

end Zip

end DexSurface
