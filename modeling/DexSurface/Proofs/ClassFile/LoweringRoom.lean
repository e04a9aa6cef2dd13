import DexSurface.Proofs.GivenValues
import DexSurface.Proofs.ClassFile.LoweredClasses

namespace DexSurface

namespace ClassFile

/-!
# Classes that can be lowered

Lowering enters a bounded number of constants for each part of a class.  If the indices of all these
constants fit, the only other reasons to refuse a class are its version, a field descriptor, a body
that is too large and a parameter table that is too long.
-/

namespace Interning

/-- With room for some more indices the computation succeeds and takes no more than these. -/
def FitsIn (run : Interning α) (need : Nat) : Prop :=
  ∀ before : ConstantPool,
    before.nextIndex + need ≤ ConstantPool.maxIndex + 1 →
      ∃ value after, run before = .ok value after ∧ after.nextIndex ≤ before.nextIndex + need

variable {run : Interning α} {next : α → Interning β} {need more : Nat}

/-- A computation fits in any larger room. -/
theorem FitsIn.mono (fits : FitsIn run need) (enough : need ≤ more) : FitsIn run more := by
  intro before room
  obtain ⟨value, after, ran, bound⟩ := fits before (by omega)
  exact ⟨value, after, ran, by omega⟩

/-- A computation that returns at once fits in any room. -/
theorem fitsIn_pure (value : α) (need : Nat) : FitsIn (pure value) need :=
  fun before _ => ⟨value, before, rfl, Nat.le_add_right _ _⟩

/-- What follows need only fit for the values that the first part can give. -/
theorem FitsIn.bind_of_canGive
    (first : FitsIn run need)
    (second : ∀ value, CanGive run value → FitsIn (next value) more) :
    FitsIn (run >>= next) (need + more) := by
  intro before room
  obtain ⟨value, middle, ran, bound⟩ := first before (by omega)
  obtain ⟨result, after, nextRan, nextBound⟩ :=
    second value ⟨before, middle, ran⟩ middle (by omega)
  refine ⟨result, after, ?_, by omega⟩
  change EStateM.bind run next before = _
  rw [EStateM.bind, ran]
  exact nextRan

/-- Two computations in sequence fit in the sum of their rooms. -/
theorem FitsIn.bind
    (first : FitsIn run need)
    (second : ∀ value, FitsIn (next value) more) :
    FitsIn (run >>= next) (need + more) :=
  first.bind_of_canGive fun value _ => second value

/-- Converting the value of a computation takes no room. -/
theorem FitsIn.map (first : FitsIn run need) (convert : α → β) :
    FitsIn (convert <$> run) need := by
  rw [map_eq_pure_bind]
  exact first.bind fun value => fitsIn_pure (convert value) 0

/-- Entering a list fits in the sum of the rooms of its items. -/
theorem fitsIn_mapM
    {enter : α → Interning β}
    {room : α → Nat}
    {items : List α}
    (fits : ∀ item ∈ items, FitsIn (enter item) (room item)) :
    FitsIn (items.mapM enter) (total room items) := by
  induction items with
  | nil => exact fitsIn_pure [] 0
  | cons item rest inductionHypothesis =>
      rw [List.mapM_cons, total_cons]
      refine (fits item List.mem_cons_self).bind fun entry => ?_
      have restFits : FitsIn (rest.mapM enter) (total room rest) :=
        inductionHypothesis fun other inRest => fits other (List.mem_cons_of_mem item inRest)
      exact restFits.bind fun entries => fitsIn_pure (entry :: entries) 0

/-- Entering a list fits in as many times the room of one item as there are items. -/
theorem fitsIn_mapM_const
    {enter : α → Interning β}
    (fits : ∀ item, FitsIn (enter item) need)
    (items : List α) :
    FitsIn (items.mapM enter) (need * items.length) := by
  rw [← total_const]
  exact fitsIn_mapM fun item _ => fits item

/-- Entering some items of a list fits in the room for all of them. -/
theorem fitsIn_filterMapM_const
    {enter? : α → Interning (Option β)}
    (fits : ∀ item, FitsIn (enter? item) need)
    (items : List α) :
    FitsIn (items.filterMapM enter?) (need * items.length) := by
  induction items with
  | nil => exact fitsIn_pure [] 0
  | cons item rest inductionHypothesis =>
      rw [List.filterMapM_cons, List.length_cons, Nat.mul_succ, Nat.add_comm]
      refine (fits item).bind fun entry? => ?_
      cases entry? with
      | none => exact inductionHypothesis
      | some entry =>
          exact inductionHypothesis.bind fun entries => fitsIn_pure (entry :: entries) 0

/-! Requests. -/

/-- A constant fits in its width. -/
theorem fitsIn_constant (constant : Constant) :
    FitsIn (Interning.constant constant) constant.width := by
  intro before room
  rw [Interning.constant]
  split
  · next index known => exact ⟨index, before, rfl, Nat.le_add_right _ _⟩
  · have positive := ConstantPool.width_pos constant
    refine ⟨_, _, if_pos (by omega), ?_⟩
    rw [ConstantPool.nextIndex_push]

/-- A text takes one index. -/
theorem fitsIn_utf8 (text : String) : FitsIn (utf8 text) 1 :=
  fitsIn_constant (.utf8 text)

/-- A class takes two indices, one of them for its name. -/
theorem fitsIn_classRef (name : InternalName) : FitsIn (classRef name) 2 :=
  (fitsIn_utf8 name).bind fun part => fitsIn_constant (.classRef part)

/-- A string takes two indices, one of them for its text. -/
theorem fitsIn_string (text : String) : FitsIn (string text) 2 :=
  (fitsIn_utf8 text).bind fun part => fitsIn_constant (.string part)

/-- A name with a type takes three indices. -/
theorem fitsIn_nameAndType (name descriptor : String) : FitsIn (nameAndType name descriptor) 3 := by
  refine ((fitsIn_utf8 name).bind fun namePart => ?_ : FitsIn _ (1 + 2))
  refine ((fitsIn_utf8 descriptor).bind fun descriptorPart => ?_ : FitsIn _ (1 + 1))
  exact fitsIn_constant (.nameAndType namePart descriptorPart)

/-- A method takes six indices: two for its owner, three for its name and type, one of its own. -/
theorem fitsIn_methodRef (owner : InternalName) (name descriptor : String) :
    FitsIn (methodRef owner name descriptor) 6 := by
  refine ((fitsIn_classRef owner).bind fun ownerPart => ?_ : FitsIn _ (2 + 4))
  refine ((fitsIn_nameAndType name descriptor).bind fun memberPart => ?_ : FitsIn _ (3 + 1))
  exact fitsIn_constant (.methodRef ownerPart memberPart)

end Interning

open Interning (FitsIn fitsIn_pure fitsIn_mapM)

/-! How many indices a part of a class can take. -/

namespace ElementValue

mutual

/-- The indices for an element value. -/
def room : ElementValue → Nat
  | .enum _ _ => 2
  | .nested _ values => 1 + roomNamed values
  | .array values => roomAll values
  | _ => 2

/-- The indices for element values. -/
def roomAll : List ElementValue → Nat
  | [] => 0
  | value :: rest => room value + roomAll rest

/-- The indices for the named values of an annotation. -/
def roomNamed : List (String × ElementValue) → Nat
  | [] => 0
  | (_, value) :: rest => 1 + room value + roomNamed rest

end

end ElementValue

/-- The indices for an annotation. -/
def AnnotationTree.room (note : AnnotationTree) : Nat :=
  1 + ElementValue.roomNamed note.values

/-- The indices for the annotations of an element, with the names of two attributes. -/
def AnnotationSet.room (annotations : AnnotationSet) : Nat :=
  2 + total AnnotationTree.room annotations.visible
    + total AnnotationTree.room annotations.invisible

/-- The indices for a field, with the names of its own attributes. -/
def FieldTree.room (field : FieldTree) : Nat :=
  8 + field.annotations.room

/-- The indices for a body, with the names of its tables. -/
def Body.room (body : Body) : Nat :=
  3 + 6 * body.instructions.length + 4 * body.localVariables.length

/-- The indices for a table of parameter annotations. -/
def ParameterTable.room (table : ParameterTable) : Nat :=
  1 + total (total AnnotationTree.room) table

/-- The indices for a method, with the names of its own attributes. -/
def MethodTree.room (method : MethodTree) : Nat :=
  8 + (method.body.map Body.room).getD 0
    + 2 * method.exceptions.length
    + method.annotations.room
    + method.parameters.length
    + (method.annotationDefault.map ElementValue.room).getD 0
    + method.visibleParameters.room
    + method.invisibleParameters.room

/-- What a method needs besides room: a short body and short parameter tables. -/
structure MethodTree.IsShort (method : MethodTree) : Prop where
  code : ∀ body ∈ method.body, 3 * body.instructions.length ≤ 0xffff
  visible : method.visibleParameters.length ≤ Lowering.maxParameterRows
  invisible : method.invisibleParameters.length ≤ Lowering.maxParameterRows

/-- The indices for a class, with the names of its own attributes. -/
def ClassTree.room (tree : ClassTree) : Nat :=
  17 + 2 * tree.interfaces.length
    + total FieldTree.room tree.fields
    + total MethodTree.room tree.methods
    + 5 * tree.innerClasses.length
    + tree.annotations.room
    + 2 * tree.permittedSubclasses.length

namespace Lowering

/-- A class that may be absent takes at most two indices. -/
theorem fitsIn_optionalClass (name? : Option InternalName) : FitsIn (optionalClass name?) 2 := by
  cases name? with
  | none => exact fitsIn_pure 0 2
  | some name => exact Interning.fitsIn_classRef name

/-- A text that may be absent takes at most one index. -/
theorem fitsIn_optionalUtf8 (text? : Option String) : FitsIn (optionalUtf8 text?) 1 := by
  cases text? with
  | none => exact fitsIn_pure 0 1
  | some text => exact Interning.fitsIn_utf8 text

/-- An attribute takes one index for its name. -/
theorem fitsIn_attributeOf (content : AttributeContent) : FitsIn (attributeOf content) 1 :=
  (Interning.fitsIn_utf8 content.attributeName).map _

/-- A constant takes at most two indices. -/
theorem width_le (constant : Constant) : constant.width ≤ 2 := by
  cases constant <;> simp [Constant.width]

mutual

/-- An element value fits in its room. -/
theorem fitsIn_elementValue : ∀ value : ElementValue, FitsIn (elementValue value) value.room
  | .boolean _ | .byte _ | .short _ | .char _ | .int _ | .long _ | .float _ | .double _ => by
      rw [elementValue]
      exact ((Interning.fitsIn_constant _).mono (width_le _)).bind fun _ => fitsIn_pure _ 0
  | .string text | .classLiteral text => by
      rw [elementValue]
      exact ((Interning.fitsIn_utf8 text).mono (by decide)).bind fun _ => fitsIn_pure _ 0
  | .enum descriptor name => by
      rw [elementValue]
      refine ((Interning.fitsIn_utf8 descriptor).bind fun typeIndex => ?_ : FitsIn _ (1 + 1))
      exact (Interning.fitsIn_utf8 name).bind fun nameIndex => fitsIn_pure _ 0
  | .nested descriptor values => by
      rw [elementValue]
      refine (Interning.fitsIn_utf8 descriptor).bind fun typeIndex => ?_
      exact (fitsIn_namedValues values).bind fun elements => fitsIn_pure _ 0
  | .array values => by
      rw [elementValue]
      exact (fitsIn_elementValues values).bind fun entries => fitsIn_pure _ 0

/-- The values of an array fit in the sum of their rooms. -/
theorem fitsIn_elementValues :
    ∀ values : List ElementValue, FitsIn (elementValues values) (ElementValue.roomAll values)
  | [] => by
      rw [elementValues]
      exact fitsIn_pure [] 0
  | value :: rest => by
      rw [elementValues]
      refine (fitsIn_elementValue value).bind fun entry => ?_
      exact (fitsIn_elementValues rest).bind fun entries => fitsIn_pure _ 0

/-- Named values fit in the rooms of the values and one index for each name. -/
theorem fitsIn_namedValues :
    ∀ values : List (String × ElementValue),
      FitsIn (namedValues values) (ElementValue.roomNamed values)
  | [] => by
      rw [namedValues]
      exact fitsIn_pure [] 0
  | (name, value) :: rest => by
      rw [namedValues, ElementValue.roomNamed, Nat.add_assoc]
      refine (Interning.fitsIn_utf8 name).bind fun nameIndex => ?_
      refine (fitsIn_elementValue value).bind fun entry => ?_
      exact (fitsIn_namedValues rest).bind fun elements => fitsIn_pure _ 0

end

/-- An annotation fits in its room. -/
theorem fitsIn_annotationEntry (note : AnnotationTree) :
    FitsIn (annotationEntry note) note.room := by
  refine (Interning.fitsIn_utf8 note.descriptor).bind fun typeIndex => ?_
  exact (fitsIn_namedValues note.values).bind fun elements => fitsIn_pure _ 0

/-- Annotations fit in the sum of their rooms. -/
theorem fitsIn_annotationEntries (notes : List AnnotationTree) :
    FitsIn (notes.mapM annotationEntry) (total AnnotationTree.room notes) :=
  fitsIn_mapM fun note _ => fitsIn_annotationEntry note

/-- The annotations of one visibility fit in their rooms and one index for the attribute. -/
theorem fitsIn_annotationAttribute (visible : Bool) (notes : List AnnotationTree) :
    FitsIn (annotationAttribute visible notes) (1 + total AnnotationTree.room notes) := by
  rw [annotationAttribute]
  split
  · exact fitsIn_pure [] _
  · refine (Interning.fitsIn_utf8 _).bind fun attributeName => ?_
    exact (fitsIn_annotationEntries notes).bind fun entries => fitsIn_pure _ 0

/-- The shared attributes fit in the room of the annotations and three more indices. -/
theorem fitsIn_commonAttributes
    (flags : AccessFlags)
    (signature : Option String)
    (annotations : AnnotationSet) :
    FitsIn (commonAttributes flags signature annotations) (3 + annotations.room) := by
  have signatureFits : FitsIn (signatureAttribute signature) 2 := by
    cases signature with
    | none => exact fitsIn_pure [] 2
    | some text =>
        refine ((Interning.fitsIn_utf8 _).bind fun attributeName => ?_ : FitsIn _ (1 + 1))
        exact (Interning.fitsIn_utf8 text).bind fun textIndex => fitsIn_pure _ 0
  have deprecatedFits : FitsIn (deprecatedAttribute flags) 1 := by
    rw [deprecatedAttribute]
    split
    · exact (fitsIn_attributeOf .deprecated).map _
    · exact fitsIn_pure [] 1
  have fits :
      FitsIn (commonAttributes flags signature annotations)
        (2 + (1 + (1 + total AnnotationTree.room annotations.visible
          + (1 + total AnnotationTree.room annotations.invisible)))) := by
    rw [commonAttributes_eq]
    refine signatureFits.bind fun signatures => ?_
    refine deprecatedFits.bind fun deprecated => ?_
    refine (fitsIn_annotationAttribute true annotations.visible).bind fun visible => ?_
    exact (fitsIn_annotationAttribute false annotations.invisible).bind fun _ => fitsIn_pure _ 0
  refine fits.mono ?_
  rw [AnnotationSet.room]
  omega

/-! Bodies. -/

/-- An instruction takes at most six indices. -/
theorem fitsIn_instruction (operand : Instruction) : FitsIn (instruction operand) 6 := by
  cases operand with
  | simple => exact fitsIn_pure _ 6
  | new name => exact ((Interning.fitsIn_classRef name).mono (by decide)).map _
  | loadString text =>
      refine ((Interning.fitsIn_string text).bind fun index => ?_ : FitsIn _ (2 + 4))
      split
      · exact fitsIn_pure _ 4
      · exact fitsIn_pure _ 4
  | invokeSpecial owner name descriptor =>
      exact (Interning.fitsIn_methodRef owner name descriptor).map _

/-- An operation takes at most three bytes. -/
theorem size_le (operation : Operation) : operation.size ≤ 3 := by
  cases operation <;> simp [Operation.size]

/-- Lowered instructions take at most three bytes each. -/
theorem total_size_of_mapM
    {items : List Instruction}
    {operations : List Operation}
    (given : CanGive (items.mapM instruction) operations) :
    total Operation.size operations ≤ 3 * items.length := by
  induction items generalizing operations with
  | nil =>
      obtain ⟨_, _, ran⟩ := given
      cases ran
      simp
  | cons item rest inductionHypothesis =>
      rw [List.mapM_cons] at given
      obtain ⟨operation, _, restGiven⟩ := isGiving_state.of_bind given
      obtain ⟨others, othersGiven, _, _, ran⟩ := isGiving_state.of_bind restGiven
      cases ran
      have restBound := inductionHypothesis othersGiven
      have firstBound := size_le operation
      rw [total_cons, List.length_cons]
      omega

/-- An entry for a variable takes at most two indices. -/
theorem fitsIn_variableEntry (length : UInt16) (localVariable : LocalVariable) (type : String) :
    FitsIn (variableEntry length localVariable type) 2 := by
  refine ((Interning.fitsIn_utf8 localVariable.name).bind fun nameIndex => ?_ : FitsIn _ (1 + 1))
  exact (Interning.fitsIn_utf8 type).bind fun typeIndex => fitsIn_pure _ 0

/-- A table of variables takes at most one index. -/
theorem fitsIn_variableTable (kind : VariableTableKind) (entries : List VariableEntry) :
    FitsIn (variableTable kind entries) 1 := by
  rw [variableTable]
  split
  · exact fitsIn_pure [] 1
  · exact (Interning.fitsIn_utf8 _).bind fun _ => fitsIn_pure _ 0

/--
Every instruction takes at most three bytes, so a body with few instructions has a length that can
be stored, whatever operations were given for them.
-/
theorem fitsIn_code {body : Body} (short : 3 * body.instructions.length ≤ 0xffff) :
    FitsIn (code body) body.room := by
  have fits :
      FitsIn (code body)
        (6 * body.instructions.length
          + (0 + (2 * body.localVariables.length
            + (1 + (2 * body.localVariables.length + (1 + 1)))))) := by
    refine (Interning.fitsIn_mapM_const fitsIn_instruction body.instructions).bind_of_canGive
      fun operations given => ?_
    have bound := total_size_of_mapM given
    have lengthFits : FitsIn (codeLength operations) 0 := by
      rw [codeLength, if_pos (by omega)]
      exact fitsIn_pure _ 0
    refine lengthFits.bind fun length => ?_
    refine (Interning.fitsIn_mapM_const (fun localVariable =>
      fitsIn_variableEntry length localVariable _) body.localVariables).bind fun entries => ?_
    refine (fitsIn_variableTable .descriptors entries).bind fun descriptors => ?_
    refine (Interning.fitsIn_filterMapM_const (fun localVariable => ?_) body.localVariables).bind
      fun signed => ?_
    · split
      · exact fitsIn_pure none 2
      · exact (fitsIn_variableEntry length localVariable _).map some
    · exact (fitsIn_variableTable .signatures signed).bind fun signatures => fitsIn_attributeOf _
  refine fits.mono ?_
  rw [Body.room]
  omega

/-! Members. -/

/--
An attribute made of a list takes the room of its items and one index, and none when it is empty.
-/
theorem fitsIn_listAttribute
    {α β : Type}
    {enter : α → Interning β}
    {need : Nat}
    (fits : ∀ item, FitsIn (enter item) need)
    (items : List α)
    (content : List β → AttributeContent) :
    FitsIn
      (if items.isEmpty then
        return []
      else do
        return [← attributeOf (content (← items.mapM enter))])
      (need * items.length + 1) := by
  split
  · exact fitsIn_pure [] _
  · refine (Interning.fitsIn_mapM_const fits items).bind fun entries => ?_
    exact (fitsIn_attributeOf (content entries)).map _

/-- The initial value of a field takes at most two indices. -/
theorem fitsIn_fieldConstant (value : FieldConstant) : FitsIn (fieldConstant value) 2 := by
  cases value with
  | string text => exact Interning.fitsIn_string text
  | int | long | float | double => exact (Interning.fitsIn_constant _).mono (width_le _)

/-- A field with a well-formed descriptor fits in its room. -/
theorem fitsIn_field {tree : FieldTree} (typed : checkFieldType tree.descriptor.toList = .ok ()) :
    FitsIn (field tree) tree.room := by
  have valueFits : FitsIn (valueAttribute tree.value) 3 := by
    cases tree.value with
    | none => exact fitsIn_pure [] 3
    | some value =>
        exact (fitsIn_fieldConstant value).bind fun index => (fitsIn_attributeOf _).map _
  have fits : FitsIn (field tree) (1 + (1 + (3 + (3 + tree.annotations.room + 0)))) := by
    rw [field_eq]
    refine (Interning.fitsIn_utf8 tree.name).bind fun name => ?_
    refine (Interning.fitsIn_utf8 tree.descriptor).bind fun descriptor => ?_
    refine valueFits.bind fun values => ?_
    refine (fitsIn_commonAttributes _ _ _).bind fun common => ?_
    rw [typed]
    exact fitsIn_pure _ 0
  refine fits.mono ?_
  rw [FieldTree.room]
  omega

/-- A parameter table with few enough rows fits in its room. -/
theorem fitsIn_parameterAnnotations
    {table : ParameterTable}
    (visible : Bool)
    (short : table.length ≤ maxParameterRows) :
    FitsIn (parameterAnnotations visible table) table.room := by
  rw [parameterAnnotations, if_neg (Nat.not_lt.mpr short), ParameterTable.room, Nat.add_comm]
  split
  · exact fitsIn_pure [] _
  · refine (fitsIn_mapM fun row _ => fitsIn_annotationEntries row).bind fun rows => ?_
    exact (fitsIn_attributeOf _).map _

/-- A method with a short body and short parameter tables fits in its room. -/
theorem fitsIn_method {tree : MethodTree} (short : tree.IsShort) :
    FitsIn (method tree) tree.room := by
  have bodyFits : FitsIn (bodyAttribute tree.body) ((tree.body.map Body.room).getD 0) := by
    cases present : tree.body with
    | none => exact fitsIn_pure [] 0
    | some body => exact (fitsIn_code (short.code body present)).map _
  have exceptionsFit : FitsIn (exceptions tree.exceptions) (2 * tree.exceptions.length + 1) :=
    fitsIn_listAttribute Interning.fitsIn_classRef tree.exceptions .exceptions
  have parameterFits (parameter : NamedParameter) : FitsIn (parameterEntry parameter) 1 :=
    (fitsIn_optionalUtf8 _).map _
  have parametersFit :
      FitsIn (methodParameters tree.parameters) (1 * tree.parameters.length + 1) :=
    fitsIn_listAttribute parameterFits tree.parameters .methodParameters
  have defaultFits :
      FitsIn (annotationDefault tree.annotationDefault)
        (1 + (tree.annotationDefault.map ElementValue.room).getD 0) := by
    cases tree.annotationDefault with
    | none => exact fitsIn_pure [] _
    | some value =>
        exact (Interning.fitsIn_utf8 _).bind fun name => (fitsIn_elementValue value).map _
  have fits :
      FitsIn (method tree)
        (1 + (1 + ((tree.body.map Body.room).getD 0
          + (2 * tree.exceptions.length + 1
            + (3 + tree.annotations.room
              + (1 * tree.parameters.length + 1
                + (1 + (tree.annotationDefault.map ElementValue.room).getD 0
                  + (tree.visibleParameters.room
                    + (tree.invisibleParameters.room + 0))))))))) := by
    rw [method_eq]
    refine (Interning.fitsIn_utf8 tree.name).bind fun name => ?_
    refine (Interning.fitsIn_utf8 tree.descriptor).bind fun descriptor => ?_
    refine bodyFits.bind fun bodies => ?_
    refine exceptionsFit.bind fun thrown => ?_
    refine (fitsIn_commonAttributes _ _ _).bind fun common => ?_
    refine parametersFit.bind fun parameters => ?_
    refine defaultFits.bind fun defaults => ?_
    refine (fitsIn_parameterAnnotations true short.visible).bind fun visible => ?_
    refine (fitsIn_parameterAnnotations false short.invisible).bind fun invisible => ?_
    exact fitsIn_pure _ 0
  refine fits.mono ?_
  rw [MethodTree.room]
  omega

/-! Classes. -/

/-- The attribute for the source file takes at most two indices. -/
theorem fitsIn_sourceFile (file : Option String) : FitsIn (sourceFile file) 2 := by
  cases file with
  | none => exact fitsIn_pure [] 2
  | some file => exact (Interning.fitsIn_utf8 _).bind fun _ => (Interning.fitsIn_utf8 file).map _

/-- The entry for an inner class takes at most five indices. -/
theorem fitsIn_innerClass (inner : InnerClass) : FitsIn (innerClass inner) 5 := by
  refine ((Interning.fitsIn_classRef inner.name).bind fun classIndex => ?_ : FitsIn _ (2 + 3))
  refine ((fitsIn_optionalClass inner.outerName).bind fun outerIndex => ?_ : FitsIn _ (2 + 1))
  exact (fitsIn_optionalUtf8 inner.innerName).map _

/-- The attribute for an enclosing method takes at most six indices. -/
theorem fitsIn_enclosingMethod (enclosing : Option EnclosingMethod) :
    FitsIn (enclosingMethod enclosing) 6 := by
  cases enclosing with
  | none => exact fitsIn_pure [] 6
  | some enclosing =>
      have memberFits : FitsIn (enclosingMember enclosing) 3 := by
        rw [enclosingMember]
        split
        · exact Interning.fitsIn_nameAndType _ _
        · exact fitsIn_pure 0 3
      rw [enclosingMethod_some]
      refine (memberFits.bind fun memberIndex => ?_ : FitsIn _ (3 + 3))
      refine ((Interning.fitsIn_utf8 _).bind fun attributeName => ?_ : FitsIn _ (1 + 2))
      exact (Interning.fitsIn_classRef enclosing.owner).map _

/-- The attributes of a class fit in the rooms of their lists and thirteen more indices. -/
theorem fitsIn_classAttributes (tree : ClassTree) :
    FitsIn (classAttributes tree)
      (13 + 5 * tree.innerClasses.length + tree.annotations.room
        + 2 * tree.permittedSubclasses.length) := by
  have innerFit : FitsIn (innerClasses tree.innerClasses) (5 * tree.innerClasses.length + 1) :=
    fitsIn_listAttribute fitsIn_innerClass tree.innerClasses .innerClasses
  have permittedFit :
      FitsIn (permittedSubclasses tree.permittedSubclasses)
        (2 * tree.permittedSubclasses.length + 1) :=
    fitsIn_listAttribute Interning.fitsIn_classRef tree.permittedSubclasses .permittedSubclasses
  have fits :
      FitsIn (classAttributes tree)
        (2 + (5 * tree.innerClasses.length + 1
          + (6 + (3 + tree.annotations.room
            + (2 * tree.permittedSubclasses.length + 1 + 0))))) := by
    refine (fitsIn_sourceFile tree.sourceFile).bind fun source => ?_
    refine innerFit.bind fun inner => ?_
    refine (fitsIn_enclosingMethod tree.enclosingMethod).bind fun enclosing => ?_
    refine (fitsIn_commonAttributes _ _ _).bind fun common => ?_
    exact permittedFit.bind fun permitted => fitsIn_pure _ 0
  exact fits.mono (by omega)

/-- A class of a supported version with well-typed fields and short methods fits in its room. -/
theorem fitsIn_classTree
    {tree : ClassTree}
    (supported : oldestVersion ≤ tree.version ∧ tree.version ≤ newestVersion)
    (typed : ∀ field ∈ tree.fields, checkFieldType field.descriptor.toList = .ok ())
    (short : ∀ method ∈ tree.methods, method.IsShort) :
    FitsIn (classTree tree) tree.room := by
  have fieldsFit : FitsIn (tree.fields.mapM field) (total FieldTree.room tree.fields) :=
    fitsIn_mapM fun field inFields => fitsIn_field (typed field inFields)
  have methodsFit : FitsIn (tree.methods.mapM method) (total MethodTree.room tree.methods) :=
    fitsIn_mapM fun method inMethods => fitsIn_method (short method inMethods)
  have fits :
      FitsIn (classTree tree)
        (2 + (2 + (2 * tree.interfaces.length
          + (total FieldTree.room tree.fields
            + (total MethodTree.room tree.methods
              + (13 + 5 * tree.innerClasses.length + tree.annotations.room
                  + 2 * tree.permittedSubclasses.length + 0)))))) := by
    refine (Interning.fitsIn_classRef tree.name).bind fun thisClass => ?_
    refine (fitsIn_optionalClass tree.superclass).bind fun superclass => ?_
    refine (Interning.fitsIn_mapM_const Interning.fitsIn_classRef tree.interfaces).bind
      fun interfaces => ?_
    refine fieldsFit.bind fun fields => ?_
    refine methodsFit.bind fun methods => ?_
    refine (fitsIn_classAttributes tree).bind fun attributes => ?_
    rw [if_pos supported]
    exact fitsIn_pure _ 0
  refine fits.mono ?_
  rw [ClassTree.room]
  omega

end Lowering

/-- A class with few constants and no other fault can be lowered. -/
theorem ClassTree.exists_lower
    {tree : ClassTree}
    (supported : Lowering.oldestVersion ≤ tree.version ∧ tree.version ≤ Lowering.newestVersion)
    (typed : ∀ field ∈ tree.fields, Lowering.checkFieldType field.descriptor.toList = .ok ())
    (short : ∀ method ∈ tree.methods, method.IsShort)
    (room : tree.room ≤ ConstantPool.maxIndex) :
    ∃ file, tree.lower = .ok file := by
  have first : ConstantPool.empty.nextIndex = 1 := rfl
  obtain ⟨build, after, ran, _⟩ :=
    Lowering.fitsIn_classTree supported typed short ConstantPool.empty (by omega)
  exact ⟨build after, by rw [lower, ran]⟩

end ClassFile

end DexSurface
