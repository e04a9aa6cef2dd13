import DexSurface.ClassFile.ConstantPool
import DexSurface.EncodedValue

/-!
# Why a run fails

Every failure of a run, from unreadable inputs to values that a class file cannot hold.
-/

namespace DexSurface

/-- Where a value stands that a class file must hold. -/
inductive ValuePlace where
  | annotationElement
  | fieldInitializer
  deriving Repr, DecidableEq

/-- The words for a place in messages. -/
def ValuePlace.name : ValuePlace → String
  | .annotationElement => "annotation element"
  | .fieldInitializer => "field initializer"

/-- The failures of a run. -/
inductive RunError where
  /-- A file cannot be read or written. -/
  | fileAccess
  /-- An archive cannot be read, or its entries cannot be written. -/
  | archive
  /-- A configuration is malformed. -/
  | configuration
  /-- A source of classes fails. -/
  | source (reason : String)
  /-- No source can read an input. -/
  | unsupportedInput (path : String)
  /-- A class file has no form for a value at its place. -/
  | unsupportedValue (kind : ValueKind) (place : ValuePlace)
  /-- A class file cannot be written. -/
  | classFile (error : ClassFile.Error)
  /-- Metadata of a class cannot be read. -/
  | record (error : RecordError)
  /-- A counter does not fit its width, which breaks the run off. -/
  | counterOverflow
  deriving Repr, DecidableEq

/-- The text of a failure. -/
def RunError.message : RunError → String
  | .fileAccess => "I/O error"
  | .archive => "Zip error"
  | .configuration => "Config error"
  | .source reason => "Class source error: " ++ reason
  | .unsupportedInput path => "No class source can read " ++ path
  | .unsupportedValue kind place => s!"Unsupported {kind.name} value in {place.name}"
  | .classFile error => error.message
  | .record error => error.message
  | .counterOverflow => "counter overflow"

/-- Pass a metadata error on as a failure of the run. -/
def RunError.ofRecord (result : Except RecordError α) : Except RunError α :=
  result.mapError .record

end DexSurface
