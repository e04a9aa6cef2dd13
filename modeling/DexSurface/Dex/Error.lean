import DexSurface.EncodedValue
import DexSurface.Text.Hex

/-!
# Why a dex image cannot be read

Every way in which the bytes of an image fail to describe classes.
-/

namespace DexSurface

namespace Dex

/-- The index tables of an image. -/
inductive TableKind where
  | string
  | type
  | proto
  | field
  | method
  | classDef
  deriving Repr, DecidableEq

/-- The word for a table in messages. -/
def TableKind.name : TableKind → String
  | .string => "string"
  | .type => "type"
  | .proto => "proto"
  | .field => "field"
  | .method => "method"
  | .classDef => "class_def"

/-- The failures of reading an image. -/
inductive Error where
  /-- The image does not start with its magic. -/
  | badMagic
  /-- The version is not a number in the supported range. -/
  | unsupportedVersion (text : String)
  /-- The numbers of the image have their high byte first. -/
  | byteSwapped (text : String)
  /-- Some bytes are wanted where fewer are left. -/
  | truncated (offset length : Nat)
  /-- A table has no entry of an index. -/
  | indexOutOfRange (table : TableKind) (index : Nat)
  /-- A variable-length number does not end within five bytes. -/
  | invalidLeb128 (offset : Nat)
  /-- A string does not end or is not modified UTF-8. -/
  | invalidString (offset : Nat)
  /-- Values that are method types are not supported. -/
  | methodTypeValue
  /-- Values that are method handles are not supported. -/
  | methodHandleValue
  /-- A value has a type code that is not defined. -/
  | invalidValueType (code : UInt8) (offset : Nat)
  /-- A value is stored in more bytes than its type has. -/
  | invalidValueSize (size offset : Nat)
  /-- An annotation has a visibility that is not defined. -/
  | invalidVisibility (visibility : UInt8) (offset : Nat)
  /-- The last instruction extends behind the code. -/
  | codeOverrun (units : Nat)
  /-- A payload ends before its size is known. -/
  | truncatedPayload (address : Nat)
  /-- A payload has an identification that is not defined. -/
  | unknownPayload (unit : UInt16) (address : Nat)
  /-- A local starts in a register that cannot exist. -/
  | registerOutOfRange (register : Nat)
  /-- The sum of index differences or address advances does not fit 32 bits. -/
  | counterOverflow
  /-- Metadata of a parameter cannot be read. -/
  | record (error : RecordError)
  deriving Repr, DecidableEq

/-- The text of a failure. -/
def Error.message : Error → String
  | .badMagic => "bad dex magic"
  | .unsupportedVersion text => "unsupported dex version " ++ text
  | .byteSwapped text => "unsupported dex version " ++ text ++ " (byte-swapped)"
  | .truncated offset length =>
      "truncated data: need " ++ Nat.repr length ++ " bytes at offset " ++ hexadecimal 0 offset
  | .indexOutOfRange table index =>
      table.name ++ " index " ++ Nat.repr index ++ " out of range"
  | .invalidLeb128 offset => "invalid LEB128 at offset " ++ hexadecimal 0 offset
  | .invalidString offset => "invalid MUTF-8 string at offset " ++ hexadecimal 0 offset
  | .methodTypeValue => "unsupported encoded value type: method type"
  | .methodHandleValue => "unsupported encoded value type: method handle"
  | .invalidValueType code offset =>
      "invalid encoded value type " ++ hexadecimal 2 code.toNat ++ " at offset "
        ++ hexadecimal 0 offset
  | .invalidValueSize size offset =>
      "encoded value of " ++ Nat.repr size ++ " bytes too wide at offset " ++ hexadecimal 0 offset
  | .invalidVisibility visibility offset =>
      "invalid annotation visibility " ++ hexadecimal 2 visibility.toNat ++ " at offset "
        ++ hexadecimal 0 offset
  | .codeOverrun units =>
      "malformed instruction stream: last instruction overruns code by " ++ Nat.repr units
        ++ " units"
  | .truncatedPayload address =>
      "malformed instruction stream: truncated payload at " ++ hexadecimal 0 address
  | .unknownPayload unit address =>
      "malformed instruction stream: unknown payload " ++ hexadecimal 4 unit.toNat ++ " at "
        ++ hexadecimal 0 address
  | .registerOutOfRange register =>
      "malformed instruction stream: register v" ++ Nat.repr register ++ " out of range"
  | .counterOverflow => "counter overflow"
  | .record error => error.message

end Dex

end DexSurface
