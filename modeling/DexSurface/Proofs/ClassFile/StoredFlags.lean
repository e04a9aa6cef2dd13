import DexSurface.Proofs.AccessFlags
import DexSurface.Proofs.ClassFile.LoweredClasses
import DexSurface.Proofs.Parameters.NameRecovery

namespace DexSurface

namespace ClassFile

/-!
# The flags of lowered elements

A class file stores sixteen flags of each element.  The mark for deprecation is not among them: an
element has an attribute for it instead.  Both are read off a class file as it is read back, since
reading an attribute changes no flag but this mark.
-/

open AccessFlags (deprecatedBit)

/-- One of the attributes is the mark of a deprecated element. -/
def IsMarkedDeprecated (pool : ConstantPool) (attributes : List Attribute) : Prop :=
  ∃ item ∈ attributes, pool.utf8? item.name = some "Deprecated"

instance (pool : ConstantPool) (attributes : List Attribute) :
    Decidable (IsMarkedDeprecated pool attributes) :=
  inferInstanceAs (Decidable (∃ item ∈ attributes, _))

/-- The low sixteen flags are stored, and the mark for deprecation is an attribute. -/
structure StoresFlags
    (pool : ConstantPool)
    (flags : AccessFlags)
    (stored : UInt16)
    (attributes : List Attribute) : Prop where
  stored_eq : stored = flags.toUInt16
  isMarked_iff : IsMarkedDeprecated pool attributes ↔ flags.has deprecatedBit = true

/-- A class file has the version of a class tree, and it stores the flags of all elements. -/
structure StoresAllFlags (tree : ClassTree) (file : File) : Prop where
  version : file.version = tree.version
  ofClass : StoresFlags file.pool tree.flags file.flags file.attributes
  fields :
    List.Forall₂
      (fun (field : FieldTree) (member : Member) =>
        StoresFlags file.pool field.flags member.flags member.attributes)
      tree.fields file.fields
  methods :
    List.Forall₂
      (fun (method : MethodTree) (member : Member) =>
        StoresFlags file.pool method.flags member.flags member.attributes)
      tree.methods file.methods

/-! Marks. -/

/-- The mark for deprecation, if there is one. -/
def markIf (marked : Prop) [Decidable marked] : AccessFlags :=
  if marked then deprecatedBit else 0

/-- Equivalent conditions set the same mark. -/
theorem markIf_congr
    {first second : Prop}
    [Decidable first]
    [Decidable second]
    (same : first ↔ second) : markIf first = markIf second := by
  rw [markIf, markIf, if_congr same rfl rfl]

/-- The mark is present exactly under its condition. -/
theorem has_markIf (marked : Prop) [Decidable marked] :
    (markIf marked).has deprecatedBit = decide marked := by
  by_cases isMarked : marked
  case pos =>
    rw [markIf, if_pos isMarked, decide_eq_true isMarked]
    rfl
  case neg =>
    rw [markIf, if_neg isMarked, decide_eq_false isMarked]
    rfl

/-- The mark lies above the sixteen stored flags. -/
theorem toUInt16_markIf (marked : Prop) [Decidable marked] : (markIf marked).toUInt16 = 0 := by
  rw [markIf]
  split <;> rfl

/-- Marking under either of two conditions is marking under each. -/
theorem markIf_or (first second : Prop) [Decidable first] [Decidable second] :
    markIf (first ∨ second) = markIf first ||| markIf second := by
  by_cases isFirst : first <;> by_cases isSecond : second <;>
    simp [markIf, isFirst, isSecond]

/-- Reading an attribute adds its mark to the flags of an element. -/
def ReadsMark
    {element : Type}
    (add? : ConstantPool → element → Attribute → Option element)
    (flagsOf : element → AccessFlags) : Prop :=
  ∀ pool before item after,
    add? pool before item = some after →
      flagsOf after = flagsOf before ||| markIf (pool.utf8? item.name = some "Deprecated")

variable
  {element : Type}
  {pool : ConstantPool}
  {attributes : List Attribute}
  {add? : ConstantPool → element → Attribute → Option element}
  {flagsOf : element → AccessFlags}

/-- The mark is the first attribute or one of the others. -/
theorem isMarkedDeprecated_cons_iff {item : Attribute} :
    IsMarkedDeprecated pool (item :: attributes)
      ↔ pool.utf8? item.name = some "Deprecated" ∨ IsMarkedDeprecated pool attributes := by
  rw [IsMarkedDeprecated, List.exists_mem_cons_iff]
  rfl

/-- Reading attributes adds a mark exactly if one of them is a mark. -/
theorem ReadsMark.flags_of_foldlM
    (reads : ReadsMark add? flagsOf)
    {start result : element}
    (given : attributes.foldlM (add? pool) start = some result) :
    flagsOf result = flagsOf start ||| markIf (IsMarkedDeprecated pool attributes) := by
  induction attributes generalizing start with
  | nil =>
      obtain rfl := Option.some.inj given
      simp [IsMarkedDeprecated, markIf]
  | cons item rest inductionHypothesis =>
      rw [List.foldlM_cons] at given
      obtain ⟨middle, itemGiven, restGiven⟩ := isGiving_option.of_bind given
      rw [inductionHypothesis restGiven, reads pool start item middle itemGiven, UInt32.or_assoc,
        ← markIf_or]
      exact congrArg (flagsOf start ||| ·) (markIf_congr isMarkedDeprecated_cons_iff.symm)

/-- The stored flags agree with the source in the low sixteen bits. -/
theorem toUInt16_storedFlags (flags : AccessFlags) :
    (storedFlags flags).toUInt16 = flags.toUInt16 := by
  have high : (flags &&& deprecatedBit).toUInt16 = 0 := by
    rw [UInt32.toUInt16_and]
    exact UInt16.and_zero
  rw [storedFlags, AccessFlags.toUInt16_or_of_above high,
    AccessFlags.toUInt16_and_of_above (by decide)]

/-- The stored flags agree with the source about deprecation. -/
theorem has_deprecatedBit_storedFlags (flags : AccessFlags) :
    (storedFlags flags).has deprecatedBit = flags.has deprecatedBit := by
  rw [storedFlags, AccessFlags.has_or, AccessFlags.has_and_of_apart (by decide),
    AccessFlags.has_and_of_kept (by decide), Bool.false_or]

/-- What is read back with its stored flags had its flags stored. -/
theorem storesFlags_of_eq
    {flags : AccessFlags}
    {stored : UInt16}
    (read :
      storedFlags flags = stored.toUInt32 ||| markIf (IsMarkedDeprecated pool attributes)) :
    StoresFlags pool flags stored attributes := by
  constructor
  case stored_eq =>
    rw [← toUInt16_storedFlags, read, AccessFlags.toUInt16_or_of_above (toUInt16_markIf _),
      UInt16.toUInt16_toUInt32]
  case isMarked_iff =>
    rw [← has_deprecatedBit_storedFlags, read, AccessFlags.has_or,
      AccessFlags.has_deprecatedBit_toUInt32, Bool.false_or, has_markIf, decide_eq_true_iff]

/-! Reading attributes. -/

/-- A content is the mark for deprecation exactly if it has its name. -/
theorem utf8?_of_content?
    {item : Attribute}
    {content : AttributeContent}
    (named : item.content? pool = some content) :
    pool.utf8? item.name = some content.attributeName := by
  obtain ⟨name, found, same⟩ := isGiving_option.of_bind named
  split at same
  · next isName =>
      obtain rfl := Option.some.inj same
      rw [found, isName]
  · cases same

/-- Reading one shared attribute sets the mark exactly if it is the attribute for deprecation. -/
theorem flags_of_add?
    {before after : CommonParts}
    {content : AttributeContent}
    (added : before.add? pool content = some after) :
    after.flags = before.flags ||| markIf (content.attributeName = "Deprecated") := by
  cases content with
  | deprecated =>
      obtain rfl := Option.some.inj added
      rfl
  | signature index =>
      obtain ⟨text, -, same⟩ := isGiving_option.of_bind added
      obtain rfl := Option.some.inj same
      exact (UInt32.or_zero).symm
  | annotations visible entries =>
      obtain ⟨notes, -, same⟩ := isGiving_option.of_bind added
      obtain rfl := Option.some.inj same
      cases visible <;> exact (UInt32.or_zero).symm
  | _ => cases added

/-- Reading the attributes of a field adds their mark to its flags. -/
theorem readsMark_field : ReadsMark FieldTree.addAttribute? FieldTree.flags := by
  intro pool before item after added
  obtain ⟨content, named, contentAdded⟩ := isGiving_option.of_bind added
  rw [utf8?_of_content? named]
  simp only [Option.some.injEq]
  cases content with
  | constantValue value =>
      obtain ⟨constant, -, same⟩ := isGiving_option.of_bind contentAdded
      obtain rfl := Option.some.inj same
      exact (UInt32.or_zero).symm
  | _ =>
      obtain ⟨parts, partsAdded, same⟩ := isGiving_option.of_bind contentAdded
      obtain rfl := Option.some.inj same
      exact flags_of_add? partsAdded

/-- Reading the attributes of a method adds their mark to its flags. -/
theorem readsMark_method : ReadsMark MethodTree.addAttribute? MethodTree.flags := by
  intro pool before item after added
  obtain ⟨content, named, contentAdded⟩ := isGiving_option.of_bind added
  rw [utf8?_of_content? named]
  simp only [Option.some.injEq]
  cases content with
  | code | exceptions | methodParameters | annotationDefault =>
      obtain ⟨_, -, same⟩ := isGiving_option.of_bind contentAdded
      obtain rfl := Option.some.inj same
      exact (UInt32.or_zero).symm
  | parameterAnnotations visible rows =>
      obtain ⟨_, -, same⟩ := isGiving_option.of_bind contentAdded
      obtain rfl := Option.some.inj same
      cases visible <;> exact (UInt32.or_zero).symm
  | _ =>
      obtain ⟨parts, partsAdded, same⟩ := isGiving_option.of_bind contentAdded
      obtain rfl := Option.some.inj same
      exact flags_of_add? partsAdded

/-- Reading the attributes of a class adds their mark to its flags. -/
theorem readsMark_class : ReadsMark ClassTree.addAttribute? ClassTree.flags := by
  intro pool before item after added
  obtain ⟨content, named, contentAdded⟩ := isGiving_option.of_bind added
  rw [utf8?_of_content? named]
  simp only [Option.some.injEq]
  cases content with
  | sourceFile | innerClasses | permittedSubclasses =>
      obtain ⟨_, -, same⟩ := isGiving_option.of_bind contentAdded
      obtain rfl := Option.some.inj same
      exact (UInt32.or_zero).symm
  | enclosingMethod owner method =>
      obtain ⟨_, -, rest⟩ := isGiving_option.of_bind contentAdded
      obtain ⟨_, -, same⟩ := isGiving_option.of_bind rest
      obtain rfl := Option.some.inj same
      exact (UInt32.or_zero).symm
  | _ =>
      obtain ⟨parts, partsAdded, same⟩ := isGiving_option.of_bind contentAdded
      obtain rfl := Option.some.inj same
      exact flags_of_add? partsAdded

/-- Attributes change neither the version nor the members of a class. -/
theorem kept_of_addAttribute?
    {before after : ClassTree}
    {item : Attribute}
    (added : before.addAttribute? pool item = some after) :
    after.version = before.version
      ∧ after.fields = before.fields
      ∧ after.methods = before.methods := by
  obtain ⟨content, -, contentAdded⟩ := isGiving_option.of_bind added
  cases content with
  | enclosingMethod owner method =>
      obtain ⟨_, -, rest⟩ := isGiving_option.of_bind contentAdded
      obtain ⟨_, -, same⟩ := isGiving_option.of_bind rest
      obtain rfl := Option.some.inj same
      exact ⟨rfl, rfl, rfl⟩
  | _ =>
      obtain ⟨_, -, same⟩ := isGiving_option.of_bind contentAdded
      obtain rfl := Option.some.inj same
      exact ⟨rfl, rfl, rfl⟩

/-! Reading class files. -/

/-- A field that is read has the stored flags and the mark of its attributes. -/
theorem flags_of_readField?
    {member : Member}
    {field : FieldTree}
    (read : member.readField? pool = some field) :
    field.flags =
      member.flags.toUInt32 ||| markIf (IsMarkedDeprecated pool member.attributes) := by
  obtain ⟨_, -, rest⟩ := isGiving_option.of_bind read
  obtain ⟨_, -, attributesRead⟩ := isGiving_option.of_bind rest
  exact readsMark_field.flags_of_foldlM attributesRead

/-- A method that is read has the stored flags and the mark of its attributes. -/
theorem flags_of_readMethod?
    {member : Member}
    {method : MethodTree}
    (read : member.readMethod? pool = some method) :
    method.flags =
      member.flags.toUInt32 ||| markIf (IsMarkedDeprecated pool member.attributes) := by
  obtain ⟨_, -, rest⟩ := isGiving_option.of_bind read
  obtain ⟨_, -, attributesRead⟩ := isGiving_option.of_bind rest
  exact readsMark_method.flags_of_foldlM attributesRead

/-- What a class file is read back as, part by part. -/
theorem parts_of_read?
    {file : File}
    {tree : ClassTree}
    (read : file.read? = some tree) :
    file.version = tree.version
      ∧ tree.flags =
          file.flags.toUInt32 ||| markIf (IsMarkedDeprecated file.pool file.attributes)
      ∧ List.Forall₂ (fun (member : Member) field => member.readField? file.pool = some field)
          file.fields tree.fields
      ∧ List.Forall₂ (fun (member : Member) method => member.readMethod? file.pool = some method)
          file.methods tree.methods := by
  obtain ⟨_, -, rest⟩ := isGiving_option.of_bind read
  obtain ⟨_, -, rest⟩ := isGiving_option.of_bind rest
  obtain ⟨_, -, rest⟩ := isGiving_option.of_bind rest
  obtain ⟨fields, fieldsRead, rest⟩ := isGiving_option.of_bind rest
  obtain ⟨methods, methodsRead, attributesRead⟩ := isGiving_option.of_bind rest
  have flags := readsMark_class.flags_of_foldlM attributesRead
  obtain ⟨version, sameFields, sameMethods⟩ :
      tree.version = file.version ∧ tree.fields = fields ∧ tree.methods = methods := by
    refine isGiving_option.foldlM_induction
      (motive := fun after : ClassTree =>
        after.version = file.version ∧ after.fields = fields ∧ after.methods = methods)
      attributesRead ⟨rfl, rfl, rfl⟩ ?_
    rintro before after item - ⟨version, sameFields, sameMethods⟩ added
    obtain ⟨keptVersion, keptFields, keptMethods⟩ := kept_of_addAttribute? added
    exact ⟨keptVersion.trans version, keptFields.trans sameFields,
      keptMethods.trans sameMethods⟩
  subst sameFields sameMethods
  exact ⟨version.symm, flags, mapM_eq_some_iff_forall₂.mp fieldsRead,
    mapM_eq_some_iff_forall₂.mp methodsRead⟩

/-- A lowered class stores its version and all flags. -/
theorem storesAllFlags_of_lower
    {tree : ClassTree}
    {file : File}
    (lowered : tree.lower = .ok file) : StoresAllFlags tree file := by
  obtain ⟨version, flags, fieldsRead, methodsRead⟩ :=
    parts_of_read? (ClassTree.read?_eq_of_lower lowered)
  refine ⟨version, storesFlags_of_eq flags, ?_, ?_⟩
  · rw [ClassTree.signedInOrder, ClassTree.stored, List.forall₂_map_right_iff] at fieldsRead
    refine fieldsRead.flip.imp ?_
    intro entry field fieldRead
    exact storesFlags_of_eq (flags_of_readField? fieldRead)
  · rw [ClassTree.signedInOrder, ClassTree.stored, List.map_map,
      List.forall₂_map_right_iff] at methodsRead
    refine methodsRead.flip.imp ?_
    intro entry method methodRead
    exact storesFlags_of_eq (flags_of_readMethod? methodRead)

end ClassFile

end DexSurface
