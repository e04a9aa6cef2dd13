import DexSurface.Proofs.ClassFile.LoweredBodies

namespace DexSurface

namespace ClassFile

/-!
# Reading lowered fields and methods

Each part of a field or method is stated by its own attributes, or by none when the part is absent.
Reading them puts the part into whatever has been read of the element so far, so the parts of an
element are read back one after the other.
-/

open Interning (Enters enters_pure enters_throw)

/-- Reading attributes puts a part into every element that lacks it. -/
def StatesPart
    (add? : ConstantPool → element → Attribute → Option element)
    (put : part → element → element)
    (absent value : part)
    (pool : ConstantPool)
    (attributes : List Attribute) : Prop :=
  ∀ before,
    put absent before = before → attributes.foldlM (add? pool) before = some (put value before)

variable
  {pool : ConstantPool}
  {add? : ConstantPool → element → Attribute → Option element}
  {put : part → element → element}
  {absent value : part}
  {item : Attribute}

/-- No attributes state a part that is absent. -/
theorem statesPart_nil : StatesPart add? put absent absent pool [] := by
  intro before unchanged
  rw [unchanged]
  rfl

/-- One attribute states the part that reading it puts into any element. -/
theorem statesPart_singleton
    (added : ∀ before, add? pool before item = some (put value before)) :
    StatesPart add? put absent value pool [item] := by
  intro before _
  simp [added]

/-- The attributes of a part are read before those that follow. -/
theorem StatesPart.foldlM_append
    {attributes rest : List Attribute}
    {before : element}
    (states : StatesPart add? put absent value pool attributes)
    (lacks : put absent before = before) :
    (attributes ++ rest).foldlM (add? pool) before
      = rest.foldlM (add? pool) (put value before) := by
  rw [List.foldlM_append, states before lacks]
  rfl

/-- A shared attribute is read within an element as it is read on its own. -/
def ReadsCommon
    (add? : ConstantPool → element → Attribute → Option element)
    (withCommon : element → CommonParts → element) : Prop :=
  ∀ pool before parts next item,
    CommonParts.addAttribute? pool parts item = some next →
    add? pool (withCommon before parts) item = some (withCommon before next)

/-- Attributes that are read into the shared parts state them for every kind of element. -/
theorem ReadsCommon.statesPart
    {withCommon : element → CommonParts → element}
    {started finished : CommonParts}
    {attributes : List Attribute}
    (reads : ReadsCommon add? withCommon)
    (commonRead :
      attributes.foldlM (CommonParts.addAttribute? pool) started = some finished) :
    StatesPart add? (fun parts before => withCommon before parts) started finished pool
      attributes := by
  intro before lacks
  suffices ∀ parts,
      attributes.foldlM (CommonParts.addAttribute? pool) parts = some finished →
      attributes.foldlM (add? pool) (withCommon before parts)
        = some (withCommon before finished) by
    simpa only [lacks] using this started commonRead
  clear commonRead
  induction attributes with
  | nil =>
      rintro parts ⟨rfl⟩
      rfl
  | cons item rest inductionHypothesis =>
      intro parts partsRead
      rw [List.foldlM_cons, Option.bind_eq_bind, Option.bind_eq_some_iff] at partsRead
      obtain ⟨next, itemRead, restRead⟩ := partsRead
      rw [List.foldlM_cons, reads pool before parts next item itemRead]
      exact inductionHypothesis next restRead

/-- A list that is stated by one attribute, or by none if it is empty. -/
theorem enters_listAttribute
    {enter : α → Interning β}
    {content : List β → AttributeContent}
    {items : List α}
    {put : List γ → element → element}
    {values : List γ}
    {read? : ConstantPool → β → Option γ}
    (enters : Enters (items.mapM enter) fun pool entries =>
      entries.mapM (read? pool) = some values)
    (empty : items = [] → values = [])
    (added : ∀ pool item entries before,
      item.content? pool = some (content entries) →
      entries.mapM (read? pool) = some values →
      add? pool before item = some (put values before)) :
    Enters
      (if items.isEmpty then
        return []
      else do
        return [← Lowering.attributeOf (content (← items.mapM enter))])
      (StatesPart add? put [] values) := by
  split
  · next isEmpty =>
      rw [empty (List.isEmpty_iff.mp isEmpty)]
      exact enters_pure fun _ _ => statesPart_nil
  · refine enters.bind fun entries => ?_
    refine (Lowering.enters_attributeOf _).bind fun item => ?_
    refine enters_pure fun pool _ named entriesRead => ?_
    exact statesPart_singleton fun before => added pool item entries before named entriesRead

namespace Lowering

/-! Parts that classes, fields and methods share. -/

/-- The attribute for annotations of one visibility is read back as the annotations. -/
theorem enters_annotationAttribute (visible : Bool) (notes : List AnnotationTree) :
    Enters (annotationAttribute visible notes)
      (StatesPart CommonParts.addAttribute?
        (fun notes parts =>
          { parts with annotations := parts.annotations.withSide visible notes }) [] notes) := by
  rw [annotationAttribute]
  split
  · next isEmpty =>
      rw [List.isEmpty_iff.mp isEmpty]
      exact enters_pure fun _ _ => statesPart_nil
  · refine (Interning.enters_utf8 _).bind fun name => ?_
    refine (enters_annotationEntries notes).bind fun entries => ?_
    refine enters_pure fun pool _ entriesRead named => statesPart_singleton fun before => ?_
    have kept : (AttributeContent.annotations visible entries).attributeName
        = (AttributeContent.annotations visible []).attributeName := by
      cases visible <;> rfl
    simp [CommonParts.addAttribute?, Attribute.content?, CommonParts.add?, named, kept, entriesRead]

/-- The attribute with a signature, its name entered first. -/
def signatureAttribute : Option String → Interning (List Attribute)
  | none => return []
  | some text => do
      let name ← Interning.utf8 (AttributeContent.signature 0).attributeName
      return [{ name, content := .signature (← Interning.utf8 text) }]

/-- The attribute of a deprecated element. -/
def deprecatedAttribute (flags : AccessFlags) : Interning (List Attribute) := do
  if flags.has AccessFlags.deprecatedBit then
    return [← attributeOf .deprecated]
  else
    return []

/--
The shared attributes are the signature, the deprecation and the two lists of annotations, in this
order.
-/
theorem commonAttributes_eq
    (flags : AccessFlags)
    (signature : Option String)
    (annotations : AnnotationSet) :
    commonAttributes flags signature annotations = do
      let signatures ← signatureAttribute signature
      let deprecated ← deprecatedAttribute flags
      let visible ← annotationAttribute true annotations.visible
      let invisible ← annotationAttribute false annotations.invisible
      return signatures ++ deprecated ++ visible ++ invisible := by
  cases signature <;> simp [commonAttributes, signatureAttribute, deprecatedAttribute] <;>
    split <;> simp

/-- The attribute for a signature is read back as the signature. -/
theorem enters_signatureAttribute (signature : Option String) :
    Enters (signatureAttribute signature)
      (StatesPart CommonParts.addAttribute? (fun signature parts => { parts with signature })
        none signature) := by
  cases signature with
  | none => exact enters_pure fun _ _ => statesPart_nil
  | some text =>
      refine (Interning.enters_utf8 _).bind fun name => ?_
      refine (Interning.enters_utf8 text).bind fun index => ?_
      refine enters_pure fun pool _ found named => statesPart_singleton fun before => ?_
      simp [CommonParts.addAttribute?, Attribute.content?, CommonParts.add?, named, found,
        AttributeContent.attributeName]

/-- The attribute for deprecation is read back as the stored flags. -/
theorem enters_deprecatedAttribute (flags : AccessFlags) :
    Enters (deprecatedAttribute flags)
      (StatesPart CommonParts.addAttribute? (fun flags parts => { parts with flags })
        (entryFlags flags) (storedFlags flags)) := by
  rw [deprecatedAttribute]
  split
  · next marked =>
      refine (enters_attributeOf .deprecated).bind fun item => ?_
      refine enters_pure fun pool _ named before started => ?_
      have flagsBefore : before.flags = entryFlags flags :=
        (congrArg CommonParts.flags started).symm
      simp [CommonParts.addAttribute?, named, CommonParts.add?, storedFlags, and_deprecatedBit,
        marked, flagsBefore, entryFlags]
  · next unmarked =>
      have same : storedFlags flags = entryFlags flags := by
        simp [storedFlags, entryFlags, and_deprecatedBit, unmarked]
      rw [same]
      exact enters_pure fun _ _ => statesPart_nil

/-- The shared attributes are read back as the stored flags, the signature and the annotations. -/
theorem enters_commonAttributes
    (flags : AccessFlags)
    (signature : Option String)
    (annotations : AnnotationSet) :
    Enters (commonAttributes flags signature annotations) fun pool attributes =>
      attributes.foldlM (CommonParts.addAttribute? pool) ⟨entryFlags flags, none, .empty⟩
        = some ⟨storedFlags flags, signature, annotations⟩ := by
  rw [commonAttributes_eq]
  refine (enters_signatureAttribute signature).bind fun signatures => ?_
  refine (enters_deprecatedAttribute flags).bind fun deprecated => ?_
  refine (enters_annotationAttribute true annotations.visible).bind fun visible => ?_
  refine (enters_annotationAttribute false annotations.invisible).bind fun invisible => ?_
  refine enters_pure fun pool _ => ?_
  intro invisibleRead visibleRead flagsRead signatureRead
  simp only [List.append_assoc]
  rw [signatureRead.foldlM_append rfl, flagsRead.foldlM_append rfl, visibleRead.foldlM_append rfl]
  exact invisibleRead _ rfl

/-- The shared attributes state the shared parts of any kind of element. -/
theorem enters_commonPart
    {withCommon : element → CommonParts → element}
    (reads : ReadsCommon add? withCommon)
    (flags : AccessFlags)
    (signature : Option String)
    (annotations : AnnotationSet) :
    Enters (commonAttributes flags signature annotations)
      (StatesPart add? (fun parts before => withCommon before parts)
        ⟨entryFlags flags, none, .empty⟩ ⟨storedFlags flags, signature, annotations⟩) :=
  (enters_commonAttributes flags signature annotations).imp fun _ _ _ => reads.statesPart

/-! Fields. -/

/-- The attribute with the initial value of a field. -/
def valueAttribute : Option FieldConstant → Interning (List Attribute)
  | none => return []
  | some value => do return [← attributeOf (.constantValue (← fieldConstant value))]

/--
Lowering a field enters its name, its descriptor and its attributes before its type is checked.
-/
theorem field_eq (tree : FieldTree) :
    field tree = do
      let name ← Interning.utf8 tree.name
      let descriptor ← Interning.utf8 tree.descriptor
      let values ← valueAttribute tree.value
      let common ← commonAttributes tree.flags tree.signature tree.annotations
      match checkFieldType tree.descriptor.toList with
      | .error error => throw error
      | .ok () =>
          return {
            flags := tree.flags.toUInt16
            name
            descriptor
            attributes := values ++ common
          } := by
  refine bind_congr fun name => ?_
  refine bind_congr fun descriptor => ?_
  cases tree.value with
  | none => rfl
  | some value =>
      refine Eq.trans (bind_congr fun index => ?_) (bind_assoc _ _ _).symm
      refine Eq.trans (bind_congr fun item => ?_) (bind_assoc _ _ _).symm
      rfl

/-- The index for the initial value of a field stands for a constant that is read as this value. -/
theorem enters_fieldConstant (value : FieldConstant) :
    Enters (fieldConstant value) fun pool index =>
      ∃ request, pool.request? index = some request ∧ fieldConstant? request = some value := by
  cases value with
  | int value => exact (Request.enters (.integer value)).imp fun _ _ _ found => ⟨_, found, rfl⟩
  | long value => exact (Request.enters (.long value)).imp fun _ _ _ found => ⟨_, found, rfl⟩
  | float bits => exact (Request.enters (.float bits)).imp fun _ _ _ found => ⟨_, found, rfl⟩
  | double bits => exact (Request.enters (.double bits)).imp fun _ _ _ found => ⟨_, found, rfl⟩
  | string text => exact (Request.enters (.string text)).imp fun _ _ _ found => ⟨_, found, rfl⟩

/-- The attribute for an initial value is read back as the value. -/
theorem enters_valueAttribute (value : Option FieldConstant) :
    Enters (valueAttribute value)
      (StatesPart FieldTree.addAttribute? (fun value field => { field with value })
        none value) := by
  cases value with
  | none => exact enters_pure fun _ _ => statesPart_nil
  | some value =>
      refine (enters_fieldConstant value).bind fun index => ?_
      refine (enters_attributeOf _).bind fun item => ?_
      refine enters_pure fun pool _ named => ?_
      rintro ⟨request, found, shown⟩
      refine statesPart_singleton fun before => ?_
      simp [FieldTree.addAttribute?, named, found, shown]

/-- A field reads the shared attributes as they are read on their own. -/
theorem readsCommon_field : ReadsCommon FieldTree.addAttribute? FieldTree.withCommon := by
  intro pool before parts next item added
  obtain ⟨content, named, contentAdded⟩ := Option.bind_eq_some_iff.mp added
  cases content <;>
    simp_all [FieldTree.addAttribute?, CommonParts.add?, FieldTree.common, FieldTree.withCommon]

/-- A lowered field is read back as what a class file keeps of it. -/
theorem enters_field (tree : FieldTree) :
    Enters (field tree) fun pool member => member.readField? pool = some tree.stored := by
  rw [field_eq]
  refine (Interning.enters_utf8 tree.name).bind fun name => ?_
  refine (Interning.enters_utf8 tree.descriptor).bind fun descriptor => ?_
  refine (enters_valueAttribute tree.value).bind fun values => ?_
  refine (enters_commonPart readsCommon_field tree.flags tree.signature
    tree.annotations).bind fun common => ?_
  split
  · exact enters_throw _
  · refine enters_pure fun pool _ commonRead valueRead described named => ?_
    rw [Member.readField?, named, described]
    simp only [Option.bind_eq_bind, Option.bind_some, toUInt32_toUInt16]
    rw [valueRead.foldlM_append rfl]
    exact commonRead _ rfl

/-! Methods. -/

/--
A member states a method: attributes for its body, and behind them others that are read into any
method with its name, descriptor and flags, whatever body that one has.
-/
structure StatesMethod (pool : ConstantPool) (tree : MethodTree) (member : Member) : Prop where
  flags : member.flags = tree.flags.toUInt16
  name : pool.utf8? member.name = some tree.name
  descriptor : pool.utf8? member.descriptor = some tree.descriptor
  attributes :
    ∃ bodies others,
      member.attributes = bodies ++ others
        ∧ StatesBody pool tree.body bodies
        ∧ ∀ body,
            others.foldlM (MethodTree.addAttribute? pool)
                { MethodTree.bare (entryFlags tree.flags) tree.name tree.descriptor with body }
              = some { tree.stored with body }

/-- The attribute with the body of a method. -/
def bodyAttribute : Option Body → Interning (List Attribute)
  | none => return []
  | some body => do return [← code body]

/-- Lowering a method enters its name, its descriptor and its attributes, the body first. -/
theorem method_eq (tree : MethodTree) :
    method tree = do
      let name ← Interning.utf8 tree.name
      let descriptor ← Interning.utf8 tree.descriptor
      let bodies ← bodyAttribute tree.body
      let thrown ← exceptions tree.exceptions
      let common ← commonAttributes tree.flags tree.signature tree.annotations
      let parameters ← methodParameters tree.parameters
      let defaults ← annotationDefault tree.annotationDefault
      let visible ← parameterAnnotations true tree.visibleParameters
      let invisible ← parameterAnnotations false tree.invisibleParameters
      return {
        flags := tree.flags.toUInt16
        name
        descriptor
        attributes := bodies ++ thrown ++ common ++ parameters ++ defaults ++ visible ++ invisible
      } := by
  cases present : tree.body <;> simp [method, bodyAttribute, present]

/-- The attributes for a body state it. -/
theorem enters_bodyAttribute (body : Option Body) :
    Enters (bodyAttribute body) fun pool attributes => StatesBody pool body attributes := by
  cases body with
  | none => exact enters_pure fun _ _ => .none
  | some body => exact (enters_code body).bind fun item => enters_pure fun _ _ => id

/-- The attributes that state a body are read back as the body with its signatures in order. -/
theorem statesPart_body
    {body : Option Body}
    {attributes : List Attribute}
    (states : StatesBody pool body attributes) :
    StatesPart MethodTree.addAttribute? (fun body method => { method with body })
      none (body.map Body.signedInOrder) pool attributes := by
  cases states with
  | none => exact statesPart_nil
  | code named lowers =>
      refine statesPart_singleton fun before => ?_
      simp [MethodTree.addAttribute?, named, lowers.readBody?_eq]

/-- The attribute for declared exceptions is read back as their names. -/
theorem enters_exceptions (names : List InternalName) :
    Enters (exceptions names)
      (StatesPart MethodTree.addAttribute? (fun exceptions method => { method with exceptions })
        [] names) := by
  refine enters_listAttribute (Interning.enters_mapM_self Interning.enters_classRef names) id ?_
  intro pool item entries before named entriesRead
  simp [MethodTree.addAttribute?, named, entriesRead]

/-- Lower a declared parameter; an empty name is absent. -/
def parameterEntry (parameter : NamedParameter) : Interning ParameterEntry := do
  let name := if parameter.name.isEmpty then none else some parameter.name
  return { name := ← optionalUtf8 name, flags := parameter.flags.toUInt16 }

/-- The entry for a parameter is read back as what a class file keeps of it. -/
theorem enters_parameterEntry (parameter : NamedParameter) :
    Enters (parameterEntry parameter) fun pool entry =>
      entry.read? pool = some parameter.stored := by
  refine (enters_optionalUtf8 _).bind fun name => ?_
  refine enters_pure fun pool _ named => ?_
  simp only [ParameterEntry.read?, named, toUInt32_toUInt16]
  by_cases absent : parameter.name = ""
  · simp [NamedParameter.stored, absent]
  · simp [NamedParameter.stored, absent]

/-- The attribute for parameters is read back as what a class file keeps of them. -/
theorem enters_methodParameters (parameters : List NamedParameter) :
    Enters (methodParameters parameters)
      (StatesPart MethodTree.addAttribute? (fun parameters method => { method with parameters })
        [] (parameters.map NamedParameter.stored)) := by
  refine enters_listAttribute (Interning.enters_mapM enters_parameterEntry parameters) ?_ ?_
  · rintro rfl
    rfl
  · intro pool item entries before named entriesRead
    simp [MethodTree.addAttribute?, named, entriesRead]

/-- The attribute for a default value is read back as the value. -/
theorem enters_annotationDefault (value : Option ElementValue) :
    Enters (annotationDefault value)
      (StatesPart MethodTree.addAttribute?
        (fun annotationDefault method => { method with annotationDefault }) none value) := by
  cases value with
  | none => exact enters_pure fun _ _ => statesPart_nil
  | some value =>
      refine (Interning.enters_utf8 _).bind fun name => ?_
      refine (enters_elementValue value).bind fun entry => ?_
      refine enters_pure fun pool _ valueRead named => statesPart_singleton fun before => ?_
      simp [MethodTree.addAttribute?, Attribute.content?, AttributeContent.attributeName, named,
        valueRead]

/-- The attribute for parameter annotations is read back as the table that a class file keeps. -/
theorem enters_parameterAnnotations (visible : Bool) (table : ParameterTable) :
    Enters (parameterAnnotations visible table)
      (StatesPart MethodTree.addAttribute?
        (fun table method => method.withParameterTable visible table) [] table.stored) := by
  rw [parameterAnnotations]
  split
  · next bare =>
      rw [ParameterTable.stored, if_pos bare]
      exact enters_pure fun _ _ => statesPart_nil
  · next annotated =>
      rw [ParameterTable.stored, if_neg annotated]
      split
      · exact enters_throw _
      · refine (Interning.enters_mapM_self enters_annotationEntries table).bind fun rows => ?_
        refine (enters_attributeOf _).bind fun item => ?_
        refine enters_pure fun pool _ named rowsRead => statesPart_singleton fun before => ?_
        simp [MethodTree.addAttribute?, named, rowsRead]

/-- A method reads the shared attributes as they are read on their own. -/
theorem readsCommon_method : ReadsCommon MethodTree.addAttribute? MethodTree.withCommon := by
  intro pool before parts next item added
  obtain ⟨content, named, contentAdded⟩ := Option.bind_eq_some_iff.mp added
  cases content <;>
    simp_all [MethodTree.addAttribute?, CommonParts.add?, MethodTree.common,
      MethodTree.withCommon]

/-- A lowered method states the method. -/
theorem enters_method (tree : MethodTree) :
    Enters (method tree) fun pool member => StatesMethod pool tree member := by
  rw [method_eq]
  refine (Interning.enters_utf8 tree.name).bind fun name => ?_
  refine (Interning.enters_utf8 tree.descriptor).bind fun descriptor => ?_
  refine (enters_bodyAttribute tree.body).bind fun bodies => ?_
  refine (enters_exceptions tree.exceptions).bind fun thrown => ?_
  refine (enters_commonPart readsCommon_method tree.flags tree.signature
    tree.annotations).bind fun common => ?_
  refine (enters_methodParameters tree.parameters).bind fun parameters => ?_
  refine (enters_annotationDefault tree.annotationDefault).bind fun defaults => ?_
  refine (enters_parameterAnnotations true tree.visibleParameters).bind fun visible => ?_
  refine (enters_parameterAnnotations false tree.invisibleParameters).bind fun invisible => ?_
  refine enters_pure fun pool _ invisibleRead visibleRead defaultRead parametersRead commonRead
    thrownRead states described named => ?_
  refine ⟨rfl, named, described, bodies,
    thrown ++ (common ++ (parameters ++ (defaults ++ (visible ++ invisible)))), ?_, states, ?_⟩
  · simp only [List.append_assoc]
  · intro body
    rw [thrownRead.foldlM_append rfl, commonRead.foldlM_append rfl,
      parametersRead.foldlM_append rfl, defaultRead.foldlM_append rfl,
      visibleRead.foldlM_append rfl]
    exact invisibleRead _ rfl

/-- The body of a method is read first, and what is read behind it leaves it as it is. -/
theorem readMethod?_of_statesMethod
    {tree : MethodTree}
    {member : Member}
    (states : StatesMethod pool tree member) :
    member.readMethod? pool = some tree.stored.signedInOrder := by
  obtain ⟨flags, named, described, bodies, others, attributes, statesBody, othersRead⟩ := states
  rw [Member.readMethod?, named, described, flags, attributes]
  simp only [Option.bind_eq_bind, Option.bind_some, toUInt32_toUInt16]
  rw [(statesPart_body statesBody).foldlM_append rfl]
  exact othersRead _

end Lowering

end ClassFile

end DexSurface
