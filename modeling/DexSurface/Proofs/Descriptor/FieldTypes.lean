import Mathlib.Data.List.TakeWhile
import DexSurface.Descriptor
import DexSurface.Total

namespace DexSurface

/-!
# Field types

A well-formed descriptor spells one field type: a primitive type, a class or an array of a field
type.  The spelling of a field type shows where it ends, so the types that a method descriptor is
put together from can be read back from it, whatever its return type is.
-/

/-- The primitive types of fields. -/
inductive PrimitiveType where
  | boolean
  | byte
  | short
  | char
  | int
  | long
  | float
  | double
  deriving Repr, DecidableEq

/-- The letter of a primitive type. -/
def PrimitiveType.letter : PrimitiveType → Char
  | .boolean => 'Z'
  | .byte => 'B'
  | .short => 'S'
  | .char => 'C'
  | .int => 'I'
  | .long => 'J'
  | .float => 'F'
  | .double => 'D'

/-- The primitive type of a letter. -/
def PrimitiveType.ofLetter? : Char → Option PrimitiveType
  | 'Z' => some .boolean
  | 'B' => some .byte
  | 'S' => some .short
  | 'C' => some .char
  | 'I' => some .int
  | 'J' => some .long
  | 'F' => some .float
  | 'D' => some .double
  | _ => none

/-- The primitive type of a letter has that letter. -/
theorem PrimitiveType.letter_of_ofLetter? {letter : Char} {type : PrimitiveType}
    (given : PrimitiveType.ofLetter? letter = some type) : type.letter = letter := by
  rw [PrimitiveType.ofLetter?.eq_def] at given
  split at given <;> cases given <;> rfl

/-- Field types; the name of a class is not empty and has no `;`. -/
inductive FieldType where
  | primitive (type : PrimitiveType)
  | object (name : List Char) (isName : name ≠ [] ∧ ';' ∉ name)
  | array (element : FieldType)
  deriving Repr, DecidableEq

namespace FieldType

/-- The letters of the descriptor of a field type. -/
def letters : FieldType → List Char
  | primitive type => [type.letter]
  | object name _ => 'L' :: (name ++ [';'])
  | array element => '[' :: element.letters

/-- The descriptor of a field type. -/
def descriptor (type : FieldType) : TypeDescriptor :=
  String.ofList type.letters

/-- The number of local slots that a value of a field type takes. -/
def size : FieldType → Nat
  | primitive .long => 2
  | primitive .double => 2
  | _ => 1

/-- The text up to a semicolon is a name if it is not empty. -/
theorem isName_takeWhile {text : List Char} (notEmpty : text.takeWhile (· ≠ ';') ≠ []) :
    text.takeWhile (· ≠ ';') ≠ [] ∧ ';' ∉ text.takeWhile (· ≠ ';') :=
  ⟨notEmpty, fun member => by simpa using List.mem_takeWhile_imp member⟩

/-- The field type at the front of a text, and what follows it. -/
def read? : List Char → Option (FieldType × List Char)
  | '[' :: text => (read? text).map fun (element, rest) => (array element, rest)
  | 'L' :: text =>
      if notEmpty : text.takeWhile (· ≠ ';') ≠ [] then
        match text.dropWhile (· ≠ ';') with
        | ';' :: rest => some (object (text.takeWhile (· ≠ ';')) (isName_takeWhile notEmpty), rest)
        | _ => none
      else
        none
  | letter :: text => (PrimitiveType.ofLetter? letter).map fun type => (primitive type, text)
  | [] => none

/-- A field type is read back from its letters, whatever follows them. -/
theorem read?_letters_append (type : FieldType) (rest : List Char) :
    read? (type.letters ++ rest) = some (type, rest) := by
  induction type with
  | primitive type => cases type <;> rfl
  | object name isName =>
      have noEnd : ∀ letter ∈ name, decide (letter ≠ ';') = true := by
        intro letter member
        exact decide_eq_true fun isEnd => isName.2 (isEnd ▸ member)
      have stops : (name ++ ';' :: rest).takeWhile (· ≠ ';') = name := by
        rw [List.takeWhile_append_of_pos noEnd]
        simp
      have leaves : (name ++ ';' :: rest).dropWhile (· ≠ ';') = ';' :: rest := by
        rw [List.dropWhile_append_of_pos noEnd]
        simp
      have spelled : (object name isName).letters ++ rest = 'L' :: (name ++ ';' :: rest) := by
        simp [letters]
      rw [spelled, read?]
      simp only [stops, leaves]
      rw [dif_pos isName.1]
  | array element inductionHypothesis =>
      have spelled : (array element).letters ++ rest = '[' :: (element.letters ++ rest) := rfl
      rw [spelled, read?, inductionHypothesis]
      rfl

/-- What is read and what follows it make up the text. -/
theorem letters_append_of_read? {text rest : List Char} {type : FieldType}
    (given : read? text = some (type, rest)) : type.letters ++ rest = text := by
  fun_induction read? text generalizing type with
  | case1 text inductionHypothesis =>
      obtain ⟨⟨element, behind⟩, elementGiven, same⟩ := Option.map_eq_some_iff.mp given
      cases same
      rw [letters, List.cons_append, inductionHypothesis elementGiven]
  | case2 text notEmpty behind ends =>
      cases given
      have parts := List.takeWhile_append_dropWhile (p := (· ≠ ';')) (l := text)
      rw [ends] at parts
      simpa [letters] using parts
  | case3 => cases given
  | case4 => cases given
  | case5 letter text _ _ =>
      obtain ⟨primitiveType, primitiveGiven, same⟩ := Option.map_eq_some_iff.mp given
      cases same
      rw [letters, PrimitiveType.letter_of_ofLetter? primitiveGiven]
      rfl
  | case6 => cases given

/-- Reading a field type takes at least one character. -/
theorem length_lt_of_read? {text rest : List Char} {type : FieldType}
    (given : read? text = some (type, rest)) : rest.length < text.length := by
  rw [← letters_append_of_read? given, List.length_append]
  cases type <;> simp [letters]

/-- What follows a closing parenthesis. -/
def behindParameters? : List Char → Option (List Char)
  | ')' :: rest => some rest
  | _ => none

/-- The field types up to a closing parenthesis, and what follows it. -/
def readParameters? (text : List Char) : Option (List FieldType × List Char) :=
  match _given : read? text with
  | some (type, rest) =>
      (readParameters? rest).map fun (types, behind) => (type :: types, behind)
  | none => (behindParameters? text).map fun rest => ([], rest)
termination_by text.length
decreasing_by exact length_lt_of_read? _given

/-- The letters of field types in front of a closing parenthesis are read back as the types. -/
theorem readParameters?_letters_append (types : List FieldType) (rest : List Char) :
    readParameters? (types.flatMap letters ++ ')' :: rest) = some (types, rest) := by
  induction types with
  | nil =>
      have noType : read? (')' :: rest) = none := rfl
      rw [List.flatMap_nil, List.nil_append, readParameters?, noType]
      rfl
  | cons first others inductionHypothesis =>
      have spelled :
          (first :: others).flatMap letters ++ ')' :: rest =
            first.letters ++ (others.flatMap letters ++ ')' :: rest) := by
        rw [List.flatMap_cons, List.append_assoc]
      rw [spelled, readParameters?, read?_letters_append]
      simp only [inductionHypothesis, Option.map_some]

/-- The parameter types of a method descriptor, and its return type as it stands there. -/
def readMethod? (descriptor : String) : Option (List FieldType × TypeDescriptor) :=
  match descriptor.toList with
  | '(' :: text =>
      (readParameters? text).map fun (types, rest) => (types, String.ofList rest)
  | _ => none

/-- A method descriptor is read back as the types that it was put together from. -/
theorem readMethod?_ofMethod (types : List FieldType) (returnType : TypeDescriptor) :
    readMethod? (Descriptor.ofMethod (types.map descriptor) returnType)
      = some (types, returnType) := by
  have spelled :
      (Descriptor.ofMethod (types.map descriptor) returnType).toList =
        '(' :: (types.flatMap letters ++ ')' :: returnType.toList) := by
    simp [Descriptor.ofMethod, String.toList_join, List.flatMap_map, descriptor]
  rw [readMethod?, spelled]
  simp only [readParameters?_letters_append, Option.map_some, String.ofList_toList]

/-- A value of a field type takes as many slots as its descriptor says. -/
theorem slotWidth_descriptor (type : FieldType) :
    Descriptor.slotWidth type.descriptor = type.size := by
  rw [Descriptor.slotWidth, descriptor, String.toList_ofList]
  cases type with
  | primitive type => cases type <;> rfl
  | object name isName => rfl
  | array element => rfl

/-- The descriptors of field types have the slots of the types. -/
theorem total_slotWidth_map_descriptor (types : List FieldType) :
    total Descriptor.slotWidth (types.map descriptor) = total size types := by
  induction types with
  | nil => rfl
  | cons first rest inductionHypothesis =>
      rw [List.map_cons, total_cons, total_cons, slotWidth_descriptor, inductionHypothesis]

end FieldType

/-- A descriptor is well formed if it spells a field type. -/
def Descriptor.IsFieldType (descriptor : TypeDescriptor) : Prop :=
  ∃ type : FieldType, type.descriptor = descriptor

/-- The argument size that a method descriptor states: the slots of its parameter types. -/
def Descriptor.argumentSize? (descriptor : String) : Option Nat :=
  (FieldType.readMethod? descriptor).map fun (types, _) => total FieldType.size types

/-- Well-formed descriptors spell a list of field types. -/
theorem Descriptor.exists_map_descriptor
    {descriptors : List TypeDescriptor}
    (wellFormed : ∀ descriptor ∈ descriptors, IsFieldType descriptor) :
    ∃ types : List FieldType, types.map FieldType.descriptor = descriptors := by
  induction descriptors with
  | nil => exact ⟨[], rfl⟩
  | cons first rest inductionHypothesis =>
      obtain ⟨type, spelled⟩ := wellFormed first List.mem_cons_self
      obtain ⟨types, restSpelled⟩ :=
        inductionHypothesis fun descriptor member =>
          wellFormed descriptor (List.mem_cons_of_mem _ member)
      exact ⟨type :: types, by rw [List.map_cons, spelled, restSpelled]⟩

/-- The argument size of a method with well-formed parameter types is their total width. -/
theorem Descriptor.argumentSize?_ofMethod
    {parameterTypes : List TypeDescriptor}
    (wellFormed : ∀ descriptor ∈ parameterTypes, IsFieldType descriptor)
    (returnType : TypeDescriptor) :
    argumentSize? (ofMethod parameterTypes returnType) =
      some (total slotWidth parameterTypes) := by
  obtain ⟨types, rfl⟩ := exists_map_descriptor wellFormed
  rw [argumentSize?, FieldType.readMethod?_ofMethod, Option.map_some,
    FieldType.total_slotWidth_map_descriptor]

/-- A method descriptor shows its well-formed parameter types and its return type. -/
theorem Descriptor.eq_of_ofMethod_eq
    {parameterTypes otherTypes : List TypeDescriptor}
    {returnType otherReturn : TypeDescriptor}
    (wellFormed : ∀ descriptor ∈ parameterTypes, IsFieldType descriptor)
    (otherWellFormed : ∀ descriptor ∈ otherTypes, IsFieldType descriptor)
    (same : ofMethod parameterTypes returnType = ofMethod otherTypes otherReturn) :
    parameterTypes = otherTypes ∧ returnType = otherReturn := by
  obtain ⟨types, rfl⟩ := exists_map_descriptor wellFormed
  obtain ⟨others, rfl⟩ := exists_map_descriptor otherWellFormed
  have sameReading := congrArg FieldType.readMethod? same
  rw [FieldType.readMethod?_ofMethod, FieldType.readMethod?_ofMethod] at sameReading
  cases sameReading
  exact ⟨rfl, rfl⟩

end DexSurface
