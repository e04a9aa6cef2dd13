import DexSurface.Dex.Assembly

/-!
# Building images call by call

A builder is called in any order.  It numbers entries as they are mentioned, and it encodes values,
annotations and debug information on their own.  A class is given with items that have been encoded
for it; its own names are numbered as it is given.  The image is assembled from what the calls have
left behind.
-/

namespace DexSurface

namespace Dex

/-- A call of a builder. -/
inductive BuilderCall where
  | string (text : String)
  | typeName (descriptor : TypeDescriptor)
  | field (reference : FieldRef)
  | method (reference : MethodRef)
  | encode (fragment : Fragment)
  | give (draft : ClassDraft) (items : Numbering.ClassItems)

/-- What the calls of a builder have left behind. -/
structure ImageBuilder where
  tables : EntryTables
  /-- The fragments that have been encoded, each with its item. -/
  encoded : List (Fragment × Item)
  /-- The classes that have been given, in their order. -/
  classes : List NumberedClass

namespace ImageBuilder

/-- A builder that has not been called. -/
def empty : ImageBuilder where
  tables := .empty
  encoded := []
  classes := []

/-- Number an entry that is mentioned. -/
def mention (builder : ImageBuilder) (run : Numbering Nat) : ImageBuilder :=
  { builder with tables := (run builder.tables).2 }

/-- Encode a fragment. -/
def encode (builder : ImageBuilder) (fragment : Fragment) : ImageBuilder :=
  let (item, tables) := fragment.bytes builder.tables
  { builder with tables, encoded := (fragment, item) :: builder.encoded }

/-- Take a class with its items. -/
def give (builder : ImageBuilder) (draft : ClassDraft) (items : Numbering.ClassItems) :
    ImageBuilder :=
  let (entry, tables) := Numbering.classWith draft items builder.tables
  { builder with tables, classes := builder.classes ++ [entry] }

/-- A builder behind a call. -/
def call (builder : ImageBuilder) : BuilderCall → ImageBuilder
  | .string text => builder.mention (Numbering.string text)
  | .typeName descriptor => builder.mention (Numbering.typeName descriptor)
  | .field reference => builder.mention (Numbering.field reference)
  | .method reference => builder.mention (Numbering.method reference)
  | .encode fragment => builder.encode fragment
  | .give draft items => builder.give draft items

/-- A builder behind calls in a row. -/
def after (builder : ImageBuilder) (calls : List BuilderCall) : ImageBuilder :=
  calls.foldl call builder

/-- The image of the classes that have been given. -/
def bytes (builder : ImageBuilder) : ByteArray :=
  Assembly.imageOf builder.tables builder.classes

end ImageBuilder

end Dex

end DexSurface
