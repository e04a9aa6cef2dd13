import DexSurface.Proofs.Dex.StableNumbering

namespace DexSurface

namespace Dex

/-!
# Settled numbers name their entries

Numbering a string, a type, a prototype, a field or a method is stable, and so is everything that is
put together from these.  A settled number leads to an entry that states what was numbered.
-/

namespace Numbering

variable {tables : EntryTables} {index : Nat}

/-! Entries of a single table. -/

/-- A table among the tables of an image, and how another one takes its place. -/
structure IsSlot
    (table : EntryTables → Array α)
    (replace : EntryTables → Array α → EntryTables) : Prop where
  table_replace : ∀ tables grown, table (replace tables grown) = grown
  replace_table : ∀ tables, replace tables (table tables) = tables
  isPart_replace :
    ∀ {tables grown},
      (table tables).toList <+: grown.toList → tables.IsPartOf (replace tables grown)
  isPart :
    ∀ {earlier later : EntryTables},
      earlier.IsPartOf later → (table earlier).toList <+: (table later).toList

/-- The strings are one of the tables. -/
theorem isSlot_strings :
    IsSlot (·.strings) fun tables strings => { tables with strings } where
  table_replace _ _ := rfl
  replace_table _ := rfl
  isPart_replace isPart :=
    ⟨isPart, List.prefix_rfl, List.prefix_rfl, List.prefix_rfl, List.prefix_rfl⟩
  isPart := EntryTables.IsPartOf.strings

/-- The types are one of the tables. -/
theorem isSlot_types :
    IsSlot (·.types) fun tables types => { tables with types } where
  table_replace _ _ := rfl
  replace_table _ := rfl
  isPart_replace isPart :=
    ⟨List.prefix_rfl, isPart, List.prefix_rfl, List.prefix_rfl, List.prefix_rfl⟩
  isPart := EntryTables.IsPartOf.types

/-- The fields are one of the tables. -/
theorem isSlot_fields :
    IsSlot (·.fields) fun tables fields => { tables with fields } where
  table_replace _ _ := rfl
  replace_table _ := rfl
  isPart_replace isPart :=
    ⟨List.prefix_rfl, List.prefix_rfl, List.prefix_rfl, isPart, List.prefix_rfl⟩
  isPart := EntryTables.IsPartOf.fields

/-- The methods are one of the tables. -/
theorem isSlot_methods :
    IsSlot (·.methods) fun tables methods => { tables with methods } where
  table_replace _ _ := rfl
  replace_table _ := rfl
  isPart_replace isPart :=
    ⟨List.prefix_rfl, List.prefix_rfl, List.prefix_rfl, List.prefix_rfl, isPart⟩
  isPart := EntryTables.IsPartOf.methods

section Slot

variable
  [BEq α]
  {table : EntryTables → Array α}
  {replace : EntryTables → Array α → EntryTables}
  {entry : α}

/-- The number of an entry in one of the tables. -/
def entryIn
    (table : EntryTables → Array α)
    (replace : EntryTables → Array α → EntryTables)
    (entry : α) : Numbering Nat :=
  modifyGet fun tables =>
    let (index, grown) := numberIn (table tables) entry
    (index, replace tables grown)

/-- Numbering an entry in one of the tables is stable. -/
theorem isStable_entryIn
    [LawfulBEq α]
    (slot : IsSlot table replace) :
    IsStable (entryIn table replace entry) := by
  intro tables
  refine ⟨slot.isPart_replace (prefix_numberIn _ _), fun later isPart => ?_⟩
  change (replace tables (numberIn (table tables) entry).2).IsPartOf later at isPart
  have grown := slot.isPart isPart
  rw [slot.table_replace] at grown
  change ((numberIn (table later) entry).1, replace later (numberIn (table later) entry).2) = _
  rw [numberIn_of_isPart grown, slot.replace_table]
  rfl

/-- At the settled number of an entry the table has that entry. -/
theorem getElem?_of_settles_entryIn
    [LawfulBEq α]
    (slot : IsSlot table replace)
    (settled : Settles tables (entryIn table replace entry) index) :
    (table tables)[index]? = some entry := by
  change ((numberIn (table tables) entry).1,
    replace tables (numberIn (table tables) entry).2) = (index, tables) at settled
  obtain ⟨sameIndex, sameTables⟩ := Prod.mk.inj settled
  have sameTable := slot.table_replace tables (numberIn (table tables) entry).2
  rw [sameTables] at sameTable
  exact getElem?_of_numberIn (Prod.ext sameIndex sameTable.symm)

end Slot

/-! Strings and types. -/

/-- A string is an entry in the table of strings. -/
theorem string_eq (text : String) :
    string text = entryIn (·.strings) (fun tables strings => { tables with strings }) text :=
  rfl

/-- Numbering a string is stable. -/
theorem isStable_string (text : String) : IsStable (string text) := by
  rw [string_eq]
  exact isStable_entryIn isSlot_strings

/-- At the settled number of a string the table has that string. -/
theorem getElem?_of_settles_string
    {text : String}
    (settled : Settles tables (string text) index) :
    tables.strings[index]? = some text := by
  rw [string_eq] at settled
  exact getElem?_of_settles_entryIn isSlot_strings settled

/-- The number of the type whose descriptor has a number. -/
def typeOf (text : Nat) : Numbering Nat :=
  entryIn (·.types) (fun tables types => { tables with types }) text

/-- A type is numbered behind the string of its descriptor. -/
theorem typeName_eq (descriptor : TypeDescriptor) :
    typeName descriptor = string descriptor >>= typeOf :=
  rfl

/-- Numbering a type whose descriptor has a number is stable. -/
theorem isStable_typeOf (text : Nat) : IsStable (typeOf text) :=
  isStable_entryIn isSlot_types

/-- Numbering a type is stable. -/
theorem isStable_typeName (descriptor : TypeDescriptor) : IsStable (typeName descriptor) :=
  (isStable_string descriptor).bind isStable_typeOf

/-- The entry of a type names the string of its descriptor. -/
theorem exists_of_settles_typeName
    {descriptor : TypeDescriptor}
    (settled : Settles tables (typeName descriptor) index) :
    ∃ text, tables.types[index]? = some text ∧ tables.strings[text]? = some descriptor := by
  rw [typeName_eq, settles_bind_iff (isStable_string descriptor) isStable_typeOf] at settled
  obtain ⟨text, textSettled, typeSettled⟩ := settled
  exact ⟨text, getElem?_of_settles_entryIn isSlot_types typeSettled,
    getElem?_of_settles_string textSettled⟩

/-- Numbering types is stable. -/
theorem isStable_typeNames (descriptors : List TypeDescriptor) :
    IsStable (descriptors.mapM typeName) :=
  isStable_listMapM descriptors fun descriptor _ => isStable_typeName descriptor

/-! Prototypes. -/

/-- The prototype with given numbers. -/
def isProto (returnIndex : Nat) (parameterIndices : List Nat) (entry : ProtoEntry) : Bool :=
  entry.returnType = returnIndex && entry.parameterTypes = parameterIndices

/-- Add a prototype whose short form is a string of its own. -/
def newProto (shortForm : String) (returnIndex : Nat) (parameterIndices : List Nat) :
    Numbering Nat := do
  let shortIndex ← string shortForm
  modifyGet fun tables =>
    (tables.protos.size,
      { tables with
        protos := tables.protos.push {
          shortForm := shortIndex
          returnType := returnIndex
          parameterTypes := parameterIndices } })

/-- The number of the prototype whose types have numbers. -/
def protoOf (shortForm : String) (returnIndex : Nat) (parameterIndices : List Nat) :
    Numbering Nat := do
  match (← get).protos.findIdx? (isProto returnIndex parameterIndices) with
  | some index => return index
  | none => newProto shortForm returnIndex parameterIndices

/-- A prototype is numbered behind its return type and its parameter types. -/
theorem proto_eq (parameterTypes : List TypeDescriptor) (returnType : TypeDescriptor) :
    proto parameterTypes returnType =
      typeName returnType >>= fun returnIndex =>
        parameterTypes.mapM typeName >>= fun parameterIndices =>
          protoOf (shortForm parameterTypes returnType) returnIndex parameterIndices :=
  rfl

section Proto

variable {shortForm : String} {returnIndex : Nat} {parameterIndices : List Nat}

/-- A prototype that is found keeps its number. -/
theorem protoOf_of_found
    (found : tables.protos.findIdx? (isProto returnIndex parameterIndices) = some index) :
    protoOf shortForm returnIndex parameterIndices tables = (index, tables) := by
  change (match tables.protos.findIdx? (isProto returnIndex parameterIndices) with
    | some index => pure index
    | none => newProto shortForm returnIndex parameterIndices) tables = _
  rw [found]
  rfl

/-- A prototype that is not found is added. -/
theorem protoOf_of_new
    (absent : tables.protos.findIdx? (isProto returnIndex parameterIndices) = none) :
    protoOf shortForm returnIndex parameterIndices tables =
      newProto shortForm returnIndex parameterIndices tables := by
  change (match tables.protos.findIdx? (isProto returnIndex parameterIndices) with
    | some index => pure index
    | none => newProto shortForm returnIndex parameterIndices) tables = _
  rw [absent]

/-- Searching a table is searching the list of its entries. -/
theorem findIdx?_eq_toList (table : Array α) (holds : α → Bool) :
    table.findIdx? holds = table.toList.findIdx? holds := by
  rcases table with ⟨list⟩
  rw [List.findIdx?_toArray]

/-- A prototype is found at its number in all tables that have grown from its numbering. -/
theorem findIdx?_protoOf
    {later : EntryTables}
    (isPart : (protoOf shortForm returnIndex parameterIndices tables).2.IsPartOf later) :
    later.protos.findIdx? (isProto returnIndex parameterIndices) =
      some (protoOf shortForm returnIndex parameterIndices tables).1 := by
  rw [findIdx?_eq_toList]
  apply findIdx?_of_isPart isPart.protos
  cases known : tables.protos.findIdx? (isProto returnIndex parameterIndices) with
  | some index =>
      rw [protoOf_of_found known]
      rw [findIdx?_eq_toList] at known
      exact known
  | none =>
      rw [protoOf_of_new known]
      rw [findIdx?_eq_toList] at known
      change (tables.protos.push _).toList.findIdx? _ = some tables.protos.size
      rw [Array.toList_push, ← Array.length_toList]
      apply findIdx?_append_singleton known
      simp [isProto]

/-- Numbering a prototype whose types have numbers is stable. -/
theorem isStable_protoOf : IsStable (protoOf shortForm returnIndex parameterIndices) := by
  intro tables
  refine ⟨?_, fun later isPart => protoOf_of_found (findIdx?_protoOf isPart)⟩
  cases known : tables.protos.findIdx? (isProto returnIndex parameterIndices) with
  | some index =>
      rw [protoOf_of_found known]
      exact .refl tables
  | none =>
      rw [protoOf_of_new known]
      refine ((isStable_string shortForm) tables).1.trans ?_
      refine ⟨List.prefix_rfl, List.prefix_rfl, ?_, List.prefix_rfl, List.prefix_rfl⟩
      change tables.protos.toList <+: (tables.protos.push _).toList
      rw [Array.toList_push]
      exact List.prefix_append _ _

/-- Numbering a prototype is stable. -/
theorem isStable_proto (parameterTypes : List TypeDescriptor) (returnType : TypeDescriptor) :
    IsStable (proto parameterTypes returnType) := by
  rw [proto_eq]
  refine (isStable_typeName returnType).bind fun returnIndex => ?_
  exact (isStable_typeNames parameterTypes).bind fun parameterIndices => isStable_protoOf

end Proto

/-- The entry of a prototype names its types. -/
theorem exists_of_settles_proto
    {parameterTypes : List TypeDescriptor}
    {returnType : TypeDescriptor}
    (settled : Settles tables (proto parameterTypes returnType) index) :
    ∃ entry,
      tables.protos[index]? = some entry
        ∧ Settles tables (typeName returnType) entry.returnType
        ∧ Settles tables (parameterTypes.mapM typeName) entry.parameterTypes := by
  rw [proto_eq, settles_bind_iff (isStable_typeName returnType) fun returnIndex =>
    (isStable_typeNames parameterTypes).bind fun parameterIndices => isStable_protoOf] at settled
  obtain ⟨returnIndex, returnSettled, rest⟩ := settled
  rw [settles_bind_iff (isStable_typeNames parameterTypes) fun parameterIndices =>
    isStable_protoOf] at rest
  obtain ⟨parameterIndices, parametersSettled, protoSettled⟩ := rest
  have isPart : (protoOf (shortForm parameterTypes returnType) returnIndex parameterIndices
      tables).2.IsPartOf tables := by
    rw [show protoOf _ _ _ tables = _ from protoSettled]
    exact .refl tables
  have found := findIdx?_protoOf isPart
  rw [show protoOf _ _ _ tables = _ from protoSettled,
    Array.findIdx?_eq_some_iff_getElem] at found
  obtain ⟨inRange, same, -⟩ := found
  rw [isProto, Bool.and_eq_true, decide_eq_true_eq, decide_eq_true_eq] at same
  refine ⟨tables.protos[index], Array.getElem?_eq_getElem inRange, ?_, ?_⟩
  · rw [same.1]
    exact returnSettled
  · rw [same.2]
    exact parametersSettled

/-! Fields and methods. -/

section Member

variable
  {members : EntryTables → Array MemberEntry}
  {replace : EntryTables → Array MemberEntry → EntryTables}
  {definingClass : TypeDescriptor}
  {shape : Numbering Nat}
  {name : String}

/-- The number of a member in a table: its class, its type or prototype, its name. -/
def memberIn
    (members : EntryTables → Array MemberEntry)
    (replace : EntryTables → Array MemberEntry → EntryTables)
    (definingClass : TypeDescriptor)
    (shape : Numbering Nat)
    (name : String) : Numbering Nat := do
  let definingClass ← typeName definingClass
  let shape ← shape
  let name ← string name
  entryIn members replace { definingClass, shape, name }

/-- Numbering a member is stable if numbering its type or prototype is. -/
theorem isStable_memberIn
    (slot : IsSlot members replace)
    (shapeStable : IsStable shape) :
    IsStable (memberIn members replace definingClass shape name) := by
  refine (isStable_typeName _).bind fun classIndex => ?_
  refine shapeStable.bind fun shapeIndex => ?_
  exact (isStable_string _).bind fun nameIndex => isStable_entryIn slot

/-- The entry of a member names its class, its type or prototype, and its name. -/
theorem exists_of_settles_memberIn
    (slot : IsSlot members replace)
    (shapeStable : IsStable shape)
    (settled : Settles tables (memberIn members replace definingClass shape name) index) :
    ∃ entry,
      (members tables)[index]? = some entry
        ∧ Settles tables (typeName definingClass) entry.definingClass
        ∧ Settles tables shape entry.shape
        ∧ Settles tables (string name) entry.name := by
  have nameStable (classIndex shapeIndex : Nat) :
      IsStable (string name >>= fun nameIndex =>
        entryIn members replace
          { definingClass := classIndex, shape := shapeIndex, name := nameIndex }) :=
    (isStable_string name).bind fun nameIndex => isStable_entryIn slot
  rw [memberIn, settles_bind_iff (isStable_typeName _) fun classIndex =>
    shapeStable.bind (nameStable classIndex)] at settled
  obtain ⟨classIndex, classSettled, rest⟩ := settled
  rw [settles_bind_iff shapeStable (nameStable classIndex)] at rest
  obtain ⟨shapeIndex, shapeSettled, rest⟩ := rest
  rw [settles_bind_iff (isStable_string _) fun nameIndex => isStable_entryIn slot] at rest
  obtain ⟨nameIndex, nameSettled, entrySettled⟩ := rest
  exact ⟨_, getElem?_of_settles_entryIn slot entrySettled, classSettled, shapeSettled, nameSettled⟩

end Member

/-- A field is a member in the table of fields. -/
theorem field_eq (reference : FieldRef) :
    field reference =
      memberIn (·.fields) (fun tables fields => { tables with fields })
        reference.definingClass (typeName reference.fieldType) reference.name :=
  rfl

/-- Numbering a field is stable. -/
theorem isStable_field (reference : FieldRef) : IsStable (field reference) := by
  rw [field_eq]
  exact isStable_memberIn isSlot_fields (isStable_typeName _)

/-- At the settled number of a field stands an entry with the settled numbers of its parts. -/
theorem exists_of_settles_field
    {reference : FieldRef}
    (settled : Settles tables (field reference) index) :
    ∃ entry,
      tables.fields[index]? = some entry
        ∧ Settles tables (typeName reference.definingClass) entry.definingClass
        ∧ Settles tables (typeName reference.fieldType) entry.shape
        ∧ Settles tables (string reference.name) entry.name := by
  rw [field_eq] at settled
  exact exists_of_settles_memberIn isSlot_fields (isStable_typeName _) settled

/-- A method is a member in the table of methods. -/
theorem method_eq (reference : MethodRef) :
    method reference =
      memberIn (·.methods) (fun tables methods => { tables with methods })
        reference.definingClass (proto reference.parameterTypes reference.returnType)
        reference.name :=
  rfl

/-- Numbering a method is stable. -/
theorem isStable_method (reference : MethodRef) : IsStable (method reference) := by
  rw [method_eq]
  exact isStable_memberIn isSlot_methods (isStable_proto _ _)

/-- At the settled number of a method stands an entry with the settled numbers of its parts. -/
theorem exists_of_settles_method
    {reference : MethodRef}
    (settled : Settles tables (method reference) index) :
    ∃ entry,
      tables.methods[index]? = some entry
        ∧ Settles tables (typeName reference.definingClass) entry.definingClass
        ∧ Settles tables (proto reference.parameterTypes reference.returnType) entry.shape
        ∧ Settles tables (string reference.name) entry.name := by
  rw [method_eq] at settled
  exact exists_of_settles_memberIn isSlot_methods (isStable_proto _ _) settled

/-! Entries with the same settled number are the same. -/

/-- No two strings settle on one number. -/
theorem eq_of_settles_string
    {first second : String}
    (firstSettled : Settles tables (string first) index)
    (secondSettled : Settles tables (string second) index) :
    first = second := by
  have found := getElem?_of_settles_string firstSettled
  rw [getElem?_of_settles_string secondSettled] at found
  exact (Option.some.inj found).symm

/-- No two types settle on one number. -/
theorem eq_of_settles_typeName
    {first second : TypeDescriptor}
    (firstSettled : Settles tables (typeName first) index)
    (secondSettled : Settles tables (typeName second) index) :
    first = second := by
  obtain ⟨text, isType, isText⟩ := exists_of_settles_typeName firstSettled
  obtain ⟨otherText, isOtherType, isOtherText⟩ := exists_of_settles_typeName secondSettled
  obtain rfl : text = otherText := Option.some.inj (isType.symm.trans isOtherType)
  exact Option.some.inj (isText.symm.trans isOtherText)

/-- No two lists of types settle on the same numbers. -/
theorem eq_of_settles_typeNames
    {first second : List TypeDescriptor}
    {indices : List Nat}
    (firstSettled : Settles tables (first.mapM typeName) indices)
    (secondSettled : Settles tables (second.mapM typeName) indices) :
    first = second := by
  rw [settles_listMapM_iff fun descriptor _ => isStable_typeName descriptor]
    at firstSettled secondSettled
  induction firstSettled generalizing second with
  | nil => exact (List.forall₂_nil_right_iff.mp secondSettled).symm
  | cons headSettled tailSettled inductionHypothesis =>
      cases secondSettled with
      | cons otherHead otherTail =>
          rw [eq_of_settles_typeName headSettled otherHead, inductionHypothesis otherTail]

/-- No two fields settle on one number. -/
theorem eq_of_settles_field
    {first second : FieldRef}
    (firstSettled : Settles tables (field first) index)
    (secondSettled : Settles tables (field second) index) :
    first = second := by
  obtain ⟨entry, isField, classSettled, shapeSettled, nameSettled⟩ :=
    exists_of_settles_field firstSettled
  obtain ⟨otherEntry, isOtherField, otherClass, otherShape, otherName⟩ :=
    exists_of_settles_field secondSettled
  obtain rfl : entry = otherEntry := Option.some.inj (isField.symm.trans isOtherField)
  rcases first with ⟨definingClass, name, fieldType⟩
  rcases second with ⟨otherDefiningClass, otherFieldName, otherFieldType⟩
  obtain rfl := eq_of_settles_typeName classSettled otherClass
  obtain rfl := eq_of_settles_typeName shapeSettled otherShape
  obtain rfl := eq_of_settles_string nameSettled otherName
  rfl

/-- No two methods settle on one number. -/
theorem eq_of_settles_method
    {first second : MethodRef}
    (firstSettled : Settles tables (method first) index)
    (secondSettled : Settles tables (method second) index) :
    first = second := by
  obtain ⟨entry, isMethod, classSettled, shapeSettled, nameSettled⟩ :=
    exists_of_settles_method firstSettled
  obtain ⟨otherEntry, isOtherMethod, otherClass, otherShape, otherName⟩ :=
    exists_of_settles_method secondSettled
  obtain rfl : entry = otherEntry := Option.some.inj (isMethod.symm.trans isOtherMethod)
  obtain ⟨shape, isProto, returnSettled, parametersSettled⟩ := exists_of_settles_proto shapeSettled
  obtain ⟨otherShape, isOtherProto, otherReturn, otherParameters⟩ :=
    exists_of_settles_proto otherShape
  obtain rfl : shape = otherShape := Option.some.inj (isProto.symm.trans isOtherProto)
  rcases first with ⟨definingClass, name, parameterTypes, returnType⟩
  rcases second with ⟨otherDefiningClass, otherMethodName, otherParameterTypes, otherReturnType⟩
  obtain rfl := eq_of_settles_typeName classSettled otherClass
  obtain rfl := eq_of_settles_typeName returnSettled otherReturn
  obtain rfl := eq_of_settles_typeNames parametersSettled otherParameters
  obtain rfl := eq_of_settles_string nameSettled otherName
  rfl

end Numbering

end Dex

end DexSurface
