import DexSurface.Archive.Checksum
import DexSurface.Archive.Error

/-!
# Contents of entries

The content of an entry is read as far as its stored form allows.  A reader that needs only its
first bytes does not mind what follows them.
-/

namespace DexSurface

/-- The content of an entry as far as it can be read, and why it ends early if it does. -/
structure Content where
  bytes : ByteArray
  failure : Option ContentError

namespace Content

/-- A content that can be read to its end. -/
def whole (bytes : ByteArray) : Content where
  bytes
  failure := none

/-- A content that cannot be read at all. -/
def unreadable (failure : ContentError) : Content where
  bytes := .empty
  failure := some failure

/-- A content of which one that is read to its end must have a given checksum. -/
def checked (content : Content) (checksum : Nat) : Content :=
  if content.failure.isNone && (Checksum.ofContent content.bytes).toNat != checksum then
    { content with failure := some .checksum }
  else
    content

/-- All bytes of the content. -/
def all (content : Content) : Except ContentError ByteArray :=
  match content.failure with
  | some failure => .error failure
  | none => .ok content.bytes

end Content

end DexSurface
