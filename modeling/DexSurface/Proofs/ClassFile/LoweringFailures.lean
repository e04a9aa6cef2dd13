import DexSurface.Proofs.ClassFile.LoweredClasses
import DexSurface.Proofs.ClassFile.PoolRuns

namespace DexSurface

namespace ClassFile

/-!
# Why lowering fails

Of all parts of a class only the parameter tables fail for their number of rows.  Up to such a table
a class is lowered as if it had no such table, so the table is its first fault if without these
tables it has none.
-/

/-- A table has an annotation and more rows than a class file can count. -/
def ParameterTable.IsOversized (table : ParameterTable) : Prop :=
  (∃ row ∈ table, row ≠ []) ∧ 255 < table.length

instance (table : ParameterTable) : Decidable table.IsOversized :=
  inferInstanceAs (Decidable (_ ∧ _))

/-- A table, or none if it is oversized. -/
def ParameterTable.withoutOversized (table : ParameterTable) : ParameterTable :=
  if table.IsOversized then [] else table

namespace MethodTree

/-- The parameter annotations of one side. -/
def parameterTable (method : MethodTree) (visible : Bool) : ParameterTable :=
  if visible then method.visibleParameters else method.invisibleParameters

/-- A method without its oversized parameter tables. -/
def withoutOversized (method : MethodTree) : MethodTree :=
  { method with
    visibleParameters := method.visibleParameters.withoutOversized
    invisibleParameters := method.invisibleParameters.withoutOversized }

end MethodTree

namespace ClassTree

/-- A class without the oversized parameter tables of its methods. -/
def withoutOversized (tree : ClassTree) : ClassTree :=
  { tree with methods := tree.methods.map MethodTree.withoutOversized }

/-- A method of a class has an oversized parameter table with so many rows. -/
def HasOversized (tree : ClassTree) (size : Nat) : Prop :=
  ∃ method ∈ tree.methods, ∃ visible,
    (method.parameterTable visible).IsOversized
      ∧ (method.parameterTable visible).length = size

/--
A class is refused for an oversized parameter table only if it has one, a class with such a table is
never lowered, and without other faults this is why.
-/
structure RefusesOversized (tree : ClassTree) : Prop where
  only :
    ∀ size,
      tree.lower = .error (.tooLarge .annotatedParameters size) →
      tree.HasOversized size
  always :
    ∀ size,
      tree.HasOversized size →
      ∃ error, tree.lower = .error error
  exactly :
    ∀ file,
      tree.withoutOversized.lower = .ok file →
      ((∃ size, tree.lower = .error (.tooLarge .annotatedParameters size))
        ↔ ∃ size, tree.HasOversized size)

end ClassTree

/-- An error that is not about a parameter table. -/
def Error.IsAside : Error → Prop
  | .tooLarge .annotatedParameters _ => False
  | _ => True

/-- An error that is not about the size of a part. -/
def Error.IsUnsized : Error → Prop
  | .tooLarge _ _ => False
  | _ => True

/-- An error without a size is not about a parameter table. -/
theorem Error.IsUnsized.isAside {error : Error} (isUnsized : error.IsUnsized) : error.IsAside := by
  cases error with
  | tooLarge => exact isUnsized.elim
  | _ => trivial

/-! Computations that fail only with some errors. -/

namespace Interning

/-- If a computation fails, then with an error of a kind. -/
def FailsWith (allowed : Error → Prop) (run : Interning α) : Prop :=
  ∀ before after error, run before = .error error after → allowed error

variable {allowed more : Error → Prop} {run : Interning α} {next : α → Interning β}

/-- A kind of errors may be replaced by a wider one. -/
theorem FailsWith.imp
    (failsWith : FailsWith allowed run)
    (weaker : ∀ error, allowed error → more error) : FailsWith more run :=
  fun before after error failed => weaker error (failsWith before after error failed)

/-- A computation that returns at once never fails. -/
theorem failsWith_pure (value : α) : FailsWith allowed (pure value) := by
  intro before after error failed
  cases failed

/-- A computation that fails at once fails with its error. -/
theorem failsWith_throw {error : Error} (isAllowed : allowed error) :
    FailsWith allowed (throw error : Interning α) := by
  intro before after thrown failed
  cases failed
  exact isAllowed

/-- Two computations in sequence fail as one of them does. -/
theorem FailsWith.bind
    (first : FailsWith allowed run)
    (second : ∀ value, FailsWith allowed (next value)) :
    FailsWith allowed (run >>= next) := by
  intro before after error failed
  cases ran : run before with
  | error firstError middle =>
      rw [bind_of_error ran] at failed
      cases failed
      exact first _ _ _ ran
  | ok value middle =>
      rw [bind_of_ok ran] at failed
      exact second value _ _ _ failed

/-- Converting the value of a computation adds no error. -/
theorem FailsWith.map (first : FailsWith allowed run) (convert : α → β) :
    FailsWith allowed (convert <$> run) := by
  rw [map_eq_pure_bind]
  exact first.bind fun value => failsWith_pure (convert value)

/-- Entering a list fails as entering one of its items does. -/
theorem failsWith_mapM
    {enter : α → Interning β}
    {items : List α}
    (fails : ∀ item ∈ items, FailsWith allowed (enter item)) :
    FailsWith allowed (items.mapM enter) := by
  induction items with
  | nil => exact failsWith_pure []
  | cons item rest inductionHypothesis =>
      rw [List.mapM_cons]
      refine (fails item List.mem_cons_self).bind fun entry => ?_
      have restFails : FailsWith allowed (rest.mapM enter) :=
        inductionHypothesis fun other inRest => fails other (List.mem_cons_of_mem item inRest)
      exact restFails.bind fun entries => failsWith_pure (entry :: entries)

/-- Entering some items of a list fails as entering one of them does. -/
theorem failsWith_filterMapM
    {enter? : α → Interning (Option β)}
    (fails : ∀ item, FailsWith allowed (enter? item))
    (items : List α) :
    FailsWith allowed (items.filterMapM enter?) := by
  induction items with
  | nil => exact failsWith_pure []
  | cons item rest inductionHypothesis =>
      rw [List.filterMapM_cons]
      refine (fails item).bind fun entry? => ?_
      cases entry? with
      | none => exact inductionHypothesis
      | some entry => exact inductionHypothesis.bind fun entries => failsWith_pure _

/-- A request fails only because no index is left. -/
theorem failsWith_enter (request : Request) : FailsWith Error.IsUnsized request.enter := by
  intro before after error failed
  rw [(Request.runsOutOnly_enter request before after error failed).1]
  trivial

/-- Entering a text fails without a size. -/
theorem failsWith_utf8 (text : String) : FailsWith Error.IsUnsized (utf8 text) :=
  failsWith_enter (.utf8 text)

/-- Entering a class fails without a size. -/
theorem failsWith_classRef (name : InternalName) : FailsWith Error.IsUnsized (classRef name) :=
  failsWith_enter (.classRef name)

/-- A computation that does what another one does, unless it stops earlier. -/
def FollowsUntil (stops : Error → Prop) (run other : Interning α) : Prop :=
  ∀ before,
    (∃ error after, stops error ∧ run before = .error error after)
      ∨ run before = other before

variable
  {stops : Error → Prop}
  {other : Interning α}
  {otherNext : α → Interning β}

/-- A computation follows itself. -/
theorem FollowsUntil.refl (run : Interning α) : FollowsUntil stops run run :=
  fun _ => Or.inr rfl

/-- A computation that stops at once follows any other one. -/
theorem followsUntil_throw {error : Error} (isStop : stops error) :
    FollowsUntil stops (throw error) other :=
  fun before => Or.inl ⟨error, before, isStop, rfl⟩

/-- Computations in sequence follow one another when their parts do. -/
theorem FollowsUntil.bind
    (first : FollowsUntil stops run other)
    (second : ∀ value, FollowsUntil stops (next value) (otherNext value)) :
    FollowsUntil stops (run >>= next) (other >>= otherNext) := by
  intro before
  rcases first before with ⟨error, after, isStop, ran⟩ | same
  · exact Or.inl ⟨error, after, isStop, bind_of_error ran⟩
  · cases ran : run before with
    | error error after =>
        rw [bind_of_error ran, bind_of_error (same ▸ ran)]
        exact Or.inr rfl
    | ok value middle =>
        rw [bind_of_ok ran, bind_of_ok (same ▸ ran)]
        exact second value middle

/-- Entering a list follows entering the changed list when this holds of each item. -/
theorem followsUntil_mapM
    {enter : α → Interning β}
    {change : α → α}
    (follows : ∀ item, FollowsUntil stops (enter item) (enter (change item)))
    (items : List α) :
    FollowsUntil stops (items.mapM enter) ((items.map change).mapM enter) := by
  induction items with
  | nil => exact .refl _
  | cons item rest inductionHypothesis =>
      rw [List.map_cons, List.mapM_cons, List.mapM_cons]
      refine (follows item).bind fun entry => ?_
      refine inductionHypothesis.bind fun entries => ?_
      exact .refl _

end Interning

open Interning (FailsWith FollowsUntil failsWith_pure failsWith_throw failsWith_mapM)

namespace Lowering

/-! The parts of a class that have no parameter tables. -/

/-- Entering a class that may be absent fails without a size. -/
theorem failsWith_optionalClass (name? : Option InternalName) :
    FailsWith Error.IsUnsized (optionalClass name?) := by
  cases name? with
  | none => exact failsWith_pure 0
  | some name => exact Interning.failsWith_classRef name

/-- Entering a text that may be absent fails without a size. -/
theorem failsWith_optionalUtf8 (text? : Option String) :
    FailsWith Error.IsUnsized (optionalUtf8 text?) := by
  cases text? with
  | none => exact failsWith_pure 0
  | some text => exact Interning.failsWith_utf8 text

/-- Making an attribute fails without a size. -/
theorem failsWith_attributeOf (content : AttributeContent) :
    FailsWith Error.IsUnsized (attributeOf content) :=
  (Interning.failsWith_utf8 content.attributeName).map _

mutual

/-- Lowering an element value fails without a size. -/
theorem failsWith_elementValue :
    ∀ value : ElementValue, FailsWith Error.IsUnsized (elementValue value)
  | .boolean _ | .byte _ | .short _ | .char _ | .int _ => by
      rw [elementValue]
      exact (Interning.failsWith_enter (.integer _)).bind fun _ => failsWith_pure _
  | .long value => by
      rw [elementValue]
      exact (Interning.failsWith_enter (.long value)).bind fun _ => failsWith_pure _
  | .float bits => by
      rw [elementValue]
      exact (Interning.failsWith_enter (.float bits)).bind fun _ => failsWith_pure _
  | .double bits => by
      rw [elementValue]
      exact (Interning.failsWith_enter (.double bits)).bind fun _ => failsWith_pure _
  | .string text | .classLiteral text => by
      rw [elementValue]
      exact (Interning.failsWith_utf8 text).bind fun _ => failsWith_pure _
  | .enum descriptor name => by
      rw [elementValue]
      refine (Interning.failsWith_utf8 descriptor).bind fun typeIndex => ?_
      refine (Interning.failsWith_utf8 name).bind fun nameIndex => ?_
      exact failsWith_pure _
  | .nested descriptor values => by
      rw [elementValue]
      refine (Interning.failsWith_utf8 descriptor).bind fun typeIndex => ?_
      refine (failsWith_namedValues values).bind fun elements => ?_
      exact failsWith_pure _
  | .array values => by
      rw [elementValue]
      exact (failsWith_elementValues values).bind fun _ => failsWith_pure _

/-- Lowering the values of an array fails without a size. -/
theorem failsWith_elementValues :
    ∀ values : List ElementValue, FailsWith Error.IsUnsized (elementValues values)
  | [] => by
      rw [elementValues]
      exact failsWith_pure []
  | value :: rest => by
      rw [elementValues]
      refine (failsWith_elementValue value).bind fun entry => ?_
      refine (failsWith_elementValues rest).bind fun entries => ?_
      exact failsWith_pure _

/-- Lowering named values fails without a size. -/
theorem failsWith_namedValues :
    ∀ values : List (String × ElementValue), FailsWith Error.IsUnsized (namedValues values)
  | [] => by
      rw [namedValues]
      exact failsWith_pure []
  | (name, value) :: rest => by
      rw [namedValues]
      refine (Interning.failsWith_utf8 name).bind fun nameIndex => ?_
      refine (failsWith_elementValue value).bind fun entry => ?_
      refine (failsWith_namedValues rest).bind fun elements => ?_
      exact failsWith_pure _

end

/-- Lowering annotations fails without a size. -/
theorem failsWith_annotationEntries (notes : List AnnotationTree) :
    FailsWith Error.IsUnsized (notes.mapM annotationEntry) := by
  refine failsWith_mapM fun note _ => ?_
  refine (Interning.failsWith_utf8 note.descriptor).bind fun typeIndex => ?_
  refine (failsWith_namedValues note.values).bind fun elements => ?_
  exact failsWith_pure _

/-- Lowering the annotations of one visibility fails without a size. -/
theorem failsWith_annotationAttribute (visible : Bool) (notes : List AnnotationTree) :
    FailsWith Error.IsUnsized (annotationAttribute visible notes) := by
  rw [annotationAttribute]
  split
  · exact failsWith_pure []
  · refine (Interning.failsWith_utf8 _).bind fun attributeName => ?_
    refine (failsWith_annotationEntries notes).bind fun entries => ?_
    exact failsWith_pure _

/-- Lowering the shared attributes fails without a size. -/
theorem failsWith_commonAttributes
    (flags : AccessFlags)
    (signature : Option String)
    (annotations : AnnotationSet) :
    FailsWith Error.IsUnsized (commonAttributes flags signature annotations) := by
  have signatureFails : FailsWith Error.IsUnsized (signatureAttribute signature) := by
    cases signature with
    | none => exact failsWith_pure []
    | some text =>
        refine (Interning.failsWith_utf8 _).bind fun attributeName => ?_
        refine (Interning.failsWith_utf8 text).bind fun textIndex => ?_
        exact failsWith_pure _
  have deprecatedFails : FailsWith Error.IsUnsized (deprecatedAttribute flags) := by
    rw [deprecatedAttribute]
    split
    · exact (failsWith_attributeOf .deprecated).map _
    · exact failsWith_pure []
  rw [commonAttributes_eq]
  refine signatureFails.bind fun signatures => ?_
  refine deprecatedFails.bind fun deprecated => ?_
  refine (failsWith_annotationAttribute true annotations.visible).bind fun visible => ?_
  refine (failsWith_annotationAttribute false annotations.invisible).bind fun invisible => ?_
  exact failsWith_pure _

/-- A list that is stated by one attribute, or by none if it is empty. -/
theorem failsWith_listAttribute
    {α β : Type}
    {enter : α → Interning β}
    (fails : ∀ item, FailsWith Error.IsUnsized (enter item))
    (items : List α)
    (content : List β → AttributeContent) :
    FailsWith Error.IsUnsized
      (if items.isEmpty then
        return []
      else do
        return [← attributeOf (content (← items.mapM enter))]) := by
  split
  · exact failsWith_pure []
  · refine (failsWith_mapM fun item _ => fails item).bind fun entries => ?_
    exact (failsWith_attributeOf (content entries)).map _

/-! Bodies. -/

/-- Lowering an instruction fails without a size. -/
theorem failsWith_instruction (operand : Instruction) :
    FailsWith Error.IsUnsized (instruction operand) := by
  cases operand with
  | simple => exact failsWith_pure _
  | new name => exact (Interning.failsWith_classRef name).map _
  | loadString text =>
      refine (Interning.failsWith_enter (.string text)).bind fun index => ?_
      split
      · exact failsWith_pure _
      · exact failsWith_pure _
  | invokeSpecial owner name descriptor =>
      exact (Interning.failsWith_enter (.methodRef owner name descriptor)).map _

/-- Making a table of variables fails without a size. -/
theorem failsWith_variableTable (kind : VariableTableKind) (entries : List VariableEntry) :
    FailsWith Error.IsUnsized (variableTable kind entries) := by
  rw [variableTable]
  split
  · exact failsWith_pure []
  · exact (Interning.failsWith_utf8 _).bind fun _ => failsWith_pure _

/-- Lowering a variable fails without a size. -/
theorem failsWith_variableEntry (length : UInt16) (localVariable : LocalVariable) (type : String) :
    FailsWith Error.IsUnsized (variableEntry length localVariable type) := by
  refine (Interning.failsWith_utf8 localVariable.name).bind fun nameIndex => ?_
  refine (Interning.failsWith_utf8 type).bind fun typeIndex => ?_
  exact failsWith_pure _

/-- Lower the variables of a body whose instructions have a length. -/
def codeBehindLength (body : Body) (operations : List Operation) (length : UInt16) :
    Interning Attribute := do
  let entries ← body.localVariables.mapM fun localVariable =>
    variableEntry length localVariable localVariable.descriptor
  let descriptors ← variableTable .descriptors entries
  let typed ← body.localVariables.filterMapM fun localVariable =>
    match localVariable.signature with
    | none => pure none
    | some signature => some <$> variableEntry length localVariable signature
  let signatures ← variableTable .signatures typed
  attributeOf (.code body.maxStack body.maxLocals operations (descriptors ++ signatures))

/-- A body is lowered by its instructions, their length and then its variables. -/
theorem code_eq_behindLength (body : Body) :
    code body = (do
      let operations ← body.instructions.mapM instruction
      let length ← codeLength operations
      codeBehindLength body operations length) :=
  rfl

/-- Once its length is known, lowering a body fails without a size. -/
theorem failsWith_codeBehindLength (body : Body) (operations : List Operation) (length : UInt16) :
    FailsWith Error.IsUnsized (codeBehindLength body operations length) := by
  refine (failsWith_mapM fun localVariable _ =>
    failsWith_variableEntry length localVariable _).bind fun entries => ?_
  refine (failsWith_variableTable .descriptors entries).bind fun descriptors => ?_
  refine (Interning.failsWith_filterMapM (fun localVariable => ?_) _).bind fun typed => ?_
  · split
    · exact failsWith_pure none
    · exact (failsWith_variableEntry length localVariable _).map some
  · exact (failsWith_variableTable .signatures typed).bind fun _ => failsWith_attributeOf _

/-- Lowering a body fails for no parameter table. -/
theorem failsWith_code (body : Body) : FailsWith Error.IsAside (code body) := by
  have lengthFails (operations : List Operation) :
      FailsWith Error.IsAside (codeLength operations) := by
    rw [codeLength]
    split
    · exact failsWith_pure _
    · exact failsWith_throw trivial
  have instructionsFail : FailsWith Error.IsUnsized (body.instructions.mapM instruction) :=
    failsWith_mapM fun operand _ => failsWith_instruction operand
  rw [code_eq_behindLength]
  refine (instructionsFail.imp fun _ => Error.IsUnsized.isAside).bind fun operations => ?_
  refine (lengthFails operations).bind fun length => ?_
  exact (failsWith_codeBehindLength body operations length).imp fun _ => Error.IsUnsized.isAside

/-! Members. -/

/-- A descriptor of a field is refused without a size. -/
theorem isUnsized_of_checkFieldType {text : List Char} {error : Error} :
    checkFieldType text = .error error → error.IsUnsized := by
  fun_induction checkFieldType text <;> grind [Error.IsUnsized]

/-- Lowering a field fails without a size. -/
theorem failsWith_field (tree : FieldTree) : FailsWith Error.IsUnsized (field tree) := by
  have constantFails (value : FieldConstant) : FailsWith Error.IsUnsized (fieldConstant value) := by
    cases value with
    | int value => exact Interning.failsWith_enter (.integer value)
    | long value => exact Interning.failsWith_enter (.long value)
    | float bits => exact Interning.failsWith_enter (.float bits)
    | double bits => exact Interning.failsWith_enter (.double bits)
    | string text => exact Interning.failsWith_enter (.string text)
  have valueFails : FailsWith Error.IsUnsized (valueAttribute tree.value) := by
    cases tree.value with
    | none => exact failsWith_pure []
    | some value => exact (constantFails value).bind fun _ => (failsWith_attributeOf _).map _
  rw [field_eq]
  refine (Interning.failsWith_utf8 tree.name).bind fun name => ?_
  refine (Interning.failsWith_utf8 tree.descriptor).bind fun descriptor => ?_
  refine valueFails.bind fun values => ?_
  refine (failsWith_commonAttributes _ _ _).bind fun common => ?_
  split
  · next rejected => exact failsWith_throw (isUnsized_of_checkFieldType rejected)
  · exact failsWith_pure _

/-- An error is not about a size, or it refuses an oversized table of a method. -/
def RefusesTable (method : MethodTree) (error : Error) : Prop :=
  error.IsUnsized
    ∨ ∃ visible,
        (method.parameterTable visible).IsOversized
          ∧ error = .tooLarge .annotatedParameters (method.parameterTable visible).length

/-- The attribute of a table is refused exactly if the table is oversized. -/
theorem parameterAnnotations_of_isOversized
    {table : ParameterTable}
    (visible : Bool)
    (oversized : table.IsOversized) :
    parameterAnnotations visible table = throw (.tooLarge .annotatedParameters table.length) := by
  obtain ⟨⟨row, inTable, annotated⟩, long⟩ := oversized
  have tooLong : maxParameterRows < table.length := long
  rw [parameterAnnotations, if_neg, if_pos tooLong]
  intro bare
  exact annotated (List.isEmpty_iff.mp (List.all_eq_true.mp bare row inTable))

/-- Lowering a parameter table that fits fails without a size. -/
theorem failsWith_parameterAnnotations
    {table : ParameterTable}
    (visible : Bool)
    (fitting : ¬ table.IsOversized) :
    FailsWith Error.IsUnsized (parameterAnnotations visible table) := by
  rw [parameterAnnotations]
  split
  · exact failsWith_pure []
  · next annotated =>
      have short : ¬ maxParameterRows < table.length := by
        intro long
        refine fitting ⟨?_, long⟩
        simpa [List.isEmpty_iff] using annotated
      rw [if_neg short]
      refine (failsWith_mapM fun row _ => failsWith_annotationEntries row).bind fun rows => ?_
      exact (failsWith_attributeOf _).map _

/-- Lower a method whose name, descriptor and body have been lowered. -/
def methodBehindBody (tree : MethodTree) (name descriptor : Index) (bodies : List Attribute) :
    Interning Member := do
  let thrown ← exceptions tree.exceptions
  let common ← commonAttributes tree.flags tree.signature tree.annotations
  let parameters ← methodParameters tree.parameters
  let defaults ← annotationDefault tree.annotationDefault
  let visible ← parameterAnnotations true tree.visibleParameters
  let invisible ← parameterAnnotations false tree.invisibleParameters
  return {
    flags := tree.flags.toUInt16
    name
    descriptor
    attributes := bodies ++ thrown ++ common ++ parameters ++ defaults ++ visible ++ invisible
  }

/-- A method is lowered by its name, its descriptor, its body and then its other attributes. -/
theorem method_eq_behindBody (tree : MethodTree) :
    method tree = (do
      let name ← Interning.utf8 tree.name
      let descriptor ← Interning.utf8 tree.descriptor
      let bodies ← bodyAttribute tree.body
      methodBehindBody tree name descriptor bodies) :=
  method_eq tree

/-- Behind its body, lowering a method fails for no size but that of an oversized table. -/
theorem failsWith_methodBehindBody
    (tree : MethodTree)
    (name descriptor : Index)
    (bodies : List Attribute) :
    FailsWith (RefusesTable tree) (methodBehindBody tree name descriptor bodies) := by
  have unsized {α : Type} {run : Interning α} (fails : FailsWith Error.IsUnsized run) :
      FailsWith (RefusesTable tree) run :=
    fails.imp fun _ => Or.inl
  have parameterFails (parameter : NamedParameter) :
      FailsWith Error.IsUnsized (parameterEntry parameter) :=
    (failsWith_optionalUtf8 _).map _
  have defaultFails : FailsWith Error.IsUnsized (annotationDefault tree.annotationDefault) := by
    cases tree.annotationDefault with
    | none => exact failsWith_pure []
    | some value =>
        exact (Interning.failsWith_utf8 _).bind fun _ => (failsWith_elementValue value).map _
  have tableFails (visible : Bool) :
      FailsWith (RefusesTable tree)
        (parameterAnnotations visible (tree.parameterTable visible)) := by
    by_cases oversized : (tree.parameterTable visible).IsOversized
    · rw [parameterAnnotations_of_isOversized visible oversized]
      exact failsWith_throw (Or.inr ⟨visible, oversized, rfl⟩)
    · exact unsized (failsWith_parameterAnnotations visible oversized)
  refine (unsized (failsWith_listAttribute Interning.failsWith_classRef tree.exceptions _)).bind
    fun thrown => ?_
  refine (unsized (failsWith_commonAttributes _ _ _)).bind fun common => ?_
  refine (unsized (failsWith_listAttribute parameterFails tree.parameters _)).bind
    fun parameters => ?_
  refine (unsized defaultFails).bind fun defaults => ?_
  refine (tableFails true).bind fun visible => ?_
  refine (tableFails false).bind fun invisible => ?_
  exact failsWith_pure _

/-- Besides the errors of its other parts a method has those of its body. -/
theorem failsWith_method (tree : MethodTree) :
    FailsWith (fun error => error.IsAside ∨ RefusesTable tree error) (method tree) := by
  have aside {α : Type} {run : Interning α} (fails : FailsWith Error.IsUnsized run) :
      FailsWith (fun error => error.IsAside ∨ RefusesTable tree error) run :=
    fails.imp fun _ isUnsized => Or.inl isUnsized.isAside
  have bodyFails : FailsWith Error.IsAside (bodyAttribute tree.body) := by
    cases tree.body with
    | none => exact failsWith_pure []
    | some body => exact (failsWith_code body).map _
  rw [method_eq_behindBody]
  refine (aside (Interning.failsWith_utf8 tree.name)).bind fun name => ?_
  refine (aside (Interning.failsWith_utf8 tree.descriptor)).bind fun descriptor => ?_
  refine (bodyFails.imp fun _ => Or.inl).bind fun bodies => ?_
  exact (failsWith_methodBehindBody tree name descriptor bodies).imp fun _ => Or.inr

/-! Classes. -/

/-- Lowering the attributes of a class fails without a size. -/
theorem failsWith_classAttributes (tree : ClassTree) :
    FailsWith Error.IsUnsized (classAttributes tree) := by
  have sourceFails : FailsWith Error.IsUnsized (sourceFile tree.sourceFile) := by
    cases tree.sourceFile with
    | none => exact failsWith_pure []
    | some file =>
        exact (Interning.failsWith_utf8 _).bind fun _ => (Interning.failsWith_utf8 file).map _
  have innerFails (inner : InnerClass) : FailsWith Error.IsUnsized (innerClass inner) := by
    refine (Interning.failsWith_classRef inner.name).bind fun classIndex => ?_
    refine (failsWith_optionalClass inner.outerName).bind fun outerIndex => ?_
    exact (failsWith_optionalUtf8 inner.innerName).map _
  have memberFails (enclosing : EnclosingMethod) :
      FailsWith Error.IsUnsized (enclosingMember enclosing) := by
    rw [enclosingMember]
    split
    · exact Interning.failsWith_enter (.nameAndType _ _)
    · exact failsWith_pure 0
  have enclosingFails : FailsWith Error.IsUnsized (enclosingMethod tree.enclosingMethod) := by
    cases tree.enclosingMethod with
    | none => exact failsWith_pure []
    | some enclosing =>
        rw [enclosingMethod_some]
        refine (memberFails enclosing).bind fun memberIndex => ?_
        refine (Interning.failsWith_utf8 _).bind fun attributeName => ?_
        exact (Interning.failsWith_classRef enclosing.owner).map _
  refine sourceFails.bind fun source => ?_
  refine (failsWith_listAttribute innerFails tree.innerClasses _).bind fun inner => ?_
  refine enclosingFails.bind fun enclosing => ?_
  refine (failsWith_commonAttributes _ _ _).bind fun common => ?_
  refine (failsWith_listAttribute Interning.failsWith_classRef tree.permittedSubclasses _).bind
    fun permitted => ?_
  exact failsWith_pure _

/-- Lower a class whose references, fields and methods have been lowered. -/
def classBehindMethods
    (tree : ClassTree)
    (thisClass superclass : Index)
    (interfaces : List Index)
    (fields methods : List Member) : Interning (ConstantPool → File) := do
  let attributes ← classAttributes tree
  if oldestVersion ≤ tree.version ∧ tree.version ≤ newestVersion then
    return fun pool => {
      version := tree.version
      pool
      flags := tree.flags.toUInt16
      thisClass
      superclass
      interfaces
      fields
      methods
      attributes
    }
  else
    throw (.unsupportedVersion tree.version)

/-- A class is lowered by its names, its fields, its methods and then its attributes. -/
theorem classTree_eq_behindMethods (tree : ClassTree) :
    classTree tree = (do
      let thisClass ← Interning.classRef tree.name
      let superclass ← optionalClass tree.superclass
      let interfaces ← tree.interfaces.mapM Interning.classRef
      let fields ← tree.fields.mapM field
      let methods ← tree.methods.mapM method
      classBehindMethods tree thisClass superclass interfaces fields methods) :=
  rfl

/-- Behind its methods, lowering a class fails without a size. -/
theorem failsWith_classBehindMethods
    (tree : ClassTree)
    (thisClass superclass : Index)
    (interfaces : List Index)
    (fields methods : List Member) :
    FailsWith Error.IsUnsized
      (classBehindMethods tree thisClass superclass interfaces fields methods) := by
  refine (failsWith_classAttributes tree).bind fun attributes => ?_
  split
  · exact failsWith_pure _
  · exact failsWith_throw trivial

/-- An error is not about parameter tables, or it refuses an oversized table of a class. -/
def RefusesSomeTable (tree : ClassTree) (error : Error) : Prop :=
  error.IsAside ∨ ∃ size, tree.HasOversized size ∧ error = .tooLarge .annotatedParameters size

/-- Lowering a class fails for no parameter table but an oversized one of its methods. -/
theorem failsWith_classTree (tree : ClassTree) :
    FailsWith (RefusesSomeTable tree) (classTree tree) := by
  have aside {α : Type} {run : Interning α} (fails : FailsWith Error.IsUnsized run) :
      FailsWith (RefusesSomeTable tree) run :=
    fails.imp fun _ isUnsized => Or.inl isUnsized.isAside
  have methodFails (declared : MethodTree) (inMethods : declared ∈ tree.methods) :
      FailsWith (RefusesSomeTable tree) (method declared) := by
    refine (failsWith_method declared).imp fun error refuses => ?_
    rcases refuses with isAside | isUnsized | ⟨visible, oversized, same⟩
    · exact Or.inl isAside
    · exact Or.inl isUnsized.isAside
    · exact Or.inr ⟨_, ⟨declared, inMethods, visible, oversized, rfl⟩, same⟩
  rw [classTree_eq_behindMethods]
  refine (aside (Interning.failsWith_classRef tree.name)).bind fun thisClass => ?_
  refine (aside (failsWith_optionalClass tree.superclass)).bind fun superclass => ?_
  refine (aside (failsWith_mapM fun name _ => Interning.failsWith_classRef name)).bind
    fun interfaces => ?_
  refine (aside (failsWith_mapM fun declared _ => failsWith_field declared)).bind fun fields => ?_
  refine (failsWith_mapM methodFails).bind fun methods => ?_
  exact aside (failsWith_classBehindMethods tree _ _ _ _ _)

/-! Oversized tables. -/

/-- A method with an oversized table is never lowered. -/
theorem not_canGive_method
    {tree : MethodTree}
    {visible : Bool}
    (oversized : (tree.parameterTable visible).IsOversized)
    (member : Member) : ¬ CanGive (method tree) member := by
  intro given
  rw [method_eq] at given
  obtain ⟨_, _, given⟩ := isGiving_state.of_bind given
  obtain ⟨_, _, given⟩ := isGiving_state.of_bind given
  obtain ⟨_, _, given⟩ := isGiving_state.of_bind given
  obtain ⟨_, _, given⟩ := isGiving_state.of_bind given
  obtain ⟨_, _, given⟩ := isGiving_state.of_bind given
  obtain ⟨_, _, given⟩ := isGiving_state.of_bind given
  obtain ⟨_, _, given⟩ := isGiving_state.of_bind given
  obtain ⟨_, visibleGiven, given⟩ := isGiving_state.of_bind given
  obtain ⟨_, invisibleGiven, -⟩ := isGiving_state.of_bind given
  have refused {attributes : List Attribute} :
      ¬ CanGive (parameterAnnotations visible (tree.parameterTable visible)) attributes := by
    rw [parameterAnnotations_of_isOversized visible oversized]
    rintro ⟨before, after, ran⟩
    cases ran
  cases visible with
  | true => exact refused visibleGiven
  | false => exact refused invisibleGiven

/-- A class with an oversized table is never lowered. -/
theorem not_canGive_classTree
    {tree : ClassTree}
    {size : Nat}
    (hasOversized : tree.HasOversized size)
    (build : ConstantPool → File) : ¬ CanGive (classTree tree) build := by
  obtain ⟨declared, inMethods, visible, oversized, -⟩ := hasOversized
  intro given
  obtain ⟨_, _, given⟩ := isGiving_state.of_bind given
  obtain ⟨_, _, given⟩ := isGiving_state.of_bind given
  obtain ⟨_, _, given⟩ := isGiving_state.of_bind given
  obtain ⟨_, _, given⟩ := isGiving_state.of_bind given
  obtain ⟨members, membersGiven, -⟩ := isGiving_state.of_bind given
  obtain ⟨member, memberGiven⟩ :=
    exists_of_mem_of_forall₂ (isGiving_state.forall₂_of_mapM membersGiven) inMethods
  exact not_canGive_method oversized member memberGiven

/-- An error that refuses a parameter table. -/
def IsRefusal (error : Error) : Prop :=
  ∃ size, error = .tooLarge .annotatedParameters size

/-- A parameter table is lowered as if it were absent, unless it is refused. -/
theorem followsUntil_parameterAnnotations (visible : Bool) (table : ParameterTable) :
    FollowsUntil IsRefusal (parameterAnnotations visible table)
      (parameterAnnotations visible table.withoutOversized) := by
  rw [ParameterTable.withoutOversized]
  split
  · next oversized =>
      rw [parameterAnnotations_of_isOversized visible oversized]
      exact Interning.followsUntil_throw ⟨table.length, rfl⟩
  · exact .refl _

/-- Up to its first oversized table a method is lowered as without these tables. -/
theorem followsUntil_method (tree : MethodTree) :
    FollowsUntil IsRefusal (method tree) (method tree.withoutOversized) := by
  rw [method_eq, method_eq]
  refine (FollowsUntil.refl _).bind fun name => ?_
  refine (FollowsUntil.refl _).bind fun descriptor => ?_
  refine (FollowsUntil.refl _).bind fun bodies => ?_
  refine (FollowsUntil.refl _).bind fun thrown => ?_
  refine (FollowsUntil.refl _).bind fun common => ?_
  refine (FollowsUntil.refl _).bind fun parameters => ?_
  refine (FollowsUntil.refl _).bind fun defaults => ?_
  refine (followsUntil_parameterAnnotations true _).bind fun visible => ?_
  refine (followsUntil_parameterAnnotations false _).bind fun invisible => ?_
  exact .refl _

/-- A class is lowered as if its oversized tables were absent, unless one is refused. -/
theorem followsUntil_classTree (tree : ClassTree) :
    FollowsUntil IsRefusal (classTree tree) (classTree tree.withoutOversized) := by
  refine (FollowsUntil.refl _).bind fun thisClass => ?_
  refine (FollowsUntil.refl _).bind fun superclass => ?_
  refine (FollowsUntil.refl _).bind fun interfaces => ?_
  refine (FollowsUntil.refl _).bind fun fields => ?_
  refine (Interning.followsUntil_mapM followsUntil_method tree.methods).bind fun methods => ?_
  exact .refl _

end Lowering

namespace ClassTree

variable {tree : ClassTree} {size : Nat}

/-- Lowering a class fails as its computation does from the empty pool. -/
theorem lower_eq_error_iff {error : Error} :
    tree.lower = .error error
      ↔ ∃ after, Lowering.classTree tree ConstantPool.empty = .error error after := by
  rw [lower]
  split
  · next ran => simp [ran]
  · next failed after ran => simp [ran]

/-- A class with an oversized parameter table is never lowered. -/
theorem exists_error_of_hasOversized (hasOversized : tree.HasOversized size) :
    ∃ error, tree.lower = .error error := by
  obtain ⟨error, after, failed⟩ :=
    fails_of_forall_not_canGive (Lowering.not_canGive_classTree hasOversized) ConstantPool.empty
  exact ⟨error, lower_eq_error_iff.mpr ⟨after, failed⟩⟩

/-- Lowering refuses an oversized table, or it does what it does without these tables. -/
theorem lower_of_withoutOversized (tree : ClassTree) :
    (∃ size, tree.lower = .error (.tooLarge .annotatedParameters size))
      ∨ tree.lower = tree.withoutOversized.lower := by
  rcases Lowering.followsUntil_classTree tree ConstantPool.empty with
    ⟨error, after, ⟨size, rfl⟩, failed⟩ | same
  · exact Or.inl ⟨size, lower_eq_error_iff.mpr ⟨after, failed⟩⟩
  · refine Or.inr ?_
    rw [lower, lower, same]

/-- Oversized parameter tables are refused, and nothing else is refused in their name. -/
theorem refusesOversized (tree : ClassTree) : tree.RefusesOversized := by
  have only {size : Nat} (refused : tree.lower = .error (.tooLarge .annotatedParameters size)) :
      tree.HasOversized size := by
    obtain ⟨after, failed⟩ := lower_eq_error_iff.mp refused
    rcases Lowering.failsWith_classTree tree _ _ _ failed with isAside | ⟨_, hasOversized, same⟩
    · cases isAside
    · cases same
      exact hasOversized
  refine ⟨fun _ => only, fun _ => exists_error_of_hasOversized, fun file lowered => ?_⟩
  constructor
  · rintro ⟨size, refused⟩
    exact ⟨size, only refused⟩
  · rintro ⟨size, hasOversized⟩
    obtain ⟨error, failed⟩ := exists_error_of_hasOversized hasOversized
    rcases tree.lower_of_withoutOversized with refused | same
    · exact refused
    · rw [same, lowered] at failed
      cases failed

end ClassTree

end ClassFile

end DexSurface
