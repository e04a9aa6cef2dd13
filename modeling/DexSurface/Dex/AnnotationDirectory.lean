import Std.Data.TreeMap
import DexSurface.Dex.Value

/-!
# The annotations of a class and its members

A directory holds the annotations of a class and names annotation sets of fields, methods and
parameters by index.  A later entry replaces an earlier one of the same index, and an entry is used
up by the first member that takes it.
-/

namespace DexSurface

namespace Dex

/-- The annotations of a class, and those of its members by index. -/
structure AnnotationDirectory where
  ofClass : Annotations
  ofFields : Std.TreeMap Nat Annotations
  ofMethods : Std.TreeMap Nat Annotations
  ofParameters : Std.TreeMap Nat (List Annotations)

/-- A directory without annotations. -/
def AnnotationDirectory.empty : AnnotationDirectory where
  ofClass := []
  ofFields := ∅
  ofMethods := ∅
  ofParameters := ∅

namespace Image

/-- The annotation at an offset, behind its visibility. -/
def annotationItem (image : Image) (offset : Nat) : Except Error Annotation :=
  image.readAt offset do
    let byte ← Decoder.u8
    match Visibility.ofByte? byte with
    | none => throw (.invalidVisibility byte offset)
    | some visibility =>
        let (annotationType, elements) ← image.annotationParts
        return { visibility, annotationType, elements }

/-- The annotations of a set; offset zero stands for the empty set. -/
def annotationSet (image : Image) (offset : Nat) : Except Error Annotations :=
  if offset = 0 then
    .ok []
  else
    image.readAt offset do
      times (← Decoder.u32) (do image.annotationItem (← Decoder.u32))

/-- The annotation sets of parameters. -/
def annotationSets (image : Image) (offset : Nat) : Except Error (List Annotations) :=
  image.readAt offset do
    times (← Decoder.u32) (do image.annotationSet (← Decoder.u32))

/-- Entries of an index and an offset, with what stands at the offset. -/
def directoryEntries (count : Nat) (item : Nat → Except Error α) :
    Decoder (Std.TreeMap Nat α) := do
  let entries ← times count do
    let index ← Decoder.u32
    let offset ← Decoder.u32
    return (index, ← item offset)
  return entries.foldl (fun directory entry => directory.insert entry.1 entry.2) ∅

/-- The directory at an offset; offset zero stands for the empty directory. -/
def annotationDirectory (image : Image) (offset : Nat) : Except Error AnnotationDirectory :=
  if offset = 0 then
    .ok .empty
  else
    image.readAt offset do
      let classOffset ← Decoder.u32
      let fieldCount ← Decoder.u32
      let methodCount ← Decoder.u32
      let parameterCount ← Decoder.u32
      let ofClass ← image.annotationSet classOffset
      let ofFields ← directoryEntries fieldCount image.annotationSet
      let ofMethods ← directoryEntries methodCount image.annotationSet
      let ofParameters ← directoryEntries parameterCount image.annotationSets
      return { ofClass, ofFields, ofMethods, ofParameters }

end Image

end Dex

end DexSurface
