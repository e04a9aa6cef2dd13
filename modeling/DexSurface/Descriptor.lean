/-!
# Type descriptors and internal names

A type descriptor is a run of `[` followed by a primitive letter or by `L`, a class name and `;`.
The internal name of a class is the name between `L` and `;`.  Class-file references use internal
names, dex images use descriptors, and this module converts between the two.
-/

namespace DexSurface

/-- A type descriptor such as `Ljava/lang/Object;`, `[I` or `J`. -/
abbrev TypeDescriptor := String

/-- A class name such as `java/lang/Object`; an array keeps its descriptor. -/
abbrev InternalName := String

namespace Descriptor

/-- The descriptor of the root class. -/
def object : TypeDescriptor := "Ljava/lang/Object;"

/-- The descriptor of the string class. -/
def string : TypeDescriptor := "Ljava/lang/String;"

/-- The return type of a method without a result. -/
def void : TypeDescriptor := "V"

/-- The letters of the primitive field types. -/
def primitiveLetters : List Char := ['Z', 'B', 'S', 'C', 'I', 'J', 'F', 'D']

/-- The name between `L` and `;`; any other text is returned unchanged. -/
def internalName (descriptor : TypeDescriptor) : InternalName :=
  match descriptor.toList with
  | 'L' :: rest =>
      if rest.getLast? = some ';' then String.ofList rest.dropLast else descriptor
  | _ => descriptor

/-- The descriptor of a class name; array descriptors are already descriptors. -/
def ofInternalName (name : InternalName) : TypeDescriptor :=
  match name.toList with
  | '[' :: _ => name
  | _ => "L" ++ name ++ ";"

/-- The name of the archive entry that holds a class: its internal name and `.class`. -/
def entryName (descriptor : TypeDescriptor) : String :=
  internalName descriptor ++ ".class"

/-- A class type is an `L`, a name and a `;`. -/
def IsClassType (descriptor : TypeDescriptor) : Prop :=
  ∃ name : InternalName, descriptor = "L" ++ name ++ ";"

/-- A class type spelled from a name has this name. -/
theorem internalName_classType (name : InternalName) :
    internalName ("L" ++ name ++ ";") = name := by
  have letters : ("L" ++ name ++ ";").toList = 'L' :: (name.toList ++ [';']) := by
    rw [String.toList_append, String.toList_append]
    rfl
  rw [internalName, letters]
  simp

/-- Different class types have different archive entries. -/
theorem eq_of_entryName_eq
    {first second : TypeDescriptor}
    (isFirstClass : IsClassType first)
    (isSecondClass : IsClassType second)
    (sameEntry : entryName first = entryName second) :
    first = second := by
  obtain ⟨firstName, rfl⟩ := isFirstClass
  obtain ⟨secondName, rfl⟩ := isSecondClass
  rw [entryName, entryName, internalName_classType, internalName_classType,
    String.append_left_inj] at sameEntry
  rw [sameEntry]

/-- The element type of an array descriptor: leading `[` are dropped. -/
def elementType (descriptor : TypeDescriptor) : TypeDescriptor :=
  String.ofList (descriptor.toList.dropWhile (· = '['))

/-- Class types and arrays of class types are references to a class. -/
def isReference (descriptor : TypeDescriptor) : Bool :=
  (elementType descriptor).toList.head? = some 'L'

/-- The number of local slots of a value: two for `long` and `double`, else one. -/
def slotWidth (descriptor : TypeDescriptor) : Nat :=
  match descriptor.toList with
  | 'J' :: _ => 2
  | 'D' :: _ => 2
  | _ => 1

/-- The descriptor of a method: parameter types in parentheses, then the return type. -/
def ofMethod
    (parameterTypes : List TypeDescriptor)
    (returnType : TypeDescriptor) : String :=
  "(" ++ String.join parameterTypes ++ ")" ++ returnType

/--
The outermost class of a nested class: the text before the first `$` after the last `/`.
A name without such a `$` has none.
-/
def outermostName? (name : InternalName) : Option InternalName :=
  let letters := name.toList
  let package := (letters.reverse.dropWhile (· ≠ '/')).reverse
  let simpleName := letters.drop package.length
  let outermost := simpleName.takeWhile (· ≠ '$')
  if outermost.length < simpleName.length then
    some (String.ofList (package ++ outermost))
  else
    none

/-- The element type is a primitive letter alone, or `L`, a non-empty text and a final `;`. -/
def isValid (descriptor : TypeDescriptor) : Bool :=
  match (elementType descriptor).toList with
  | 'L' :: rest => 1 < rest.length && rest.getLast? = some ';'
  | [letter] => primitiveLetters.contains letter
  | _ => false

end Descriptor

end DexSurface
