import DexSurface.Proofs.Dex.MemberRuns

namespace DexSurface

namespace Dex

open Dex.Numbering (Settles Denotes DenotesField DenotesMethod)
open Decoder (Reads reads_pure reads_uleb128 reads_of_length_le)
open Layout (Yields yields_pure yields_bind yields_mapM yields_place)

/-!
# The class data are placed and read back

The members of a class stand behind their counts.  Whoever knows where the class data stand, and
starts with the values, the flags and the directory of the class, reads the members that are meant.
-/

/-- The bytes of members in four lists behind their counts. -/
def membersItem
    (staticFields instanceFields directMethods virtualMethods : List StoredMember) : Item :=
  [staticFields, instanceFields, directMethods, virtualMethods].flatMap
      (fun members => Leb128.encode members.length)
    ++ StoredMember.bytesFrom StoredMember.fieldTail 0 staticFields
    ++ StoredMember.bytesFrom StoredMember.fieldTail 0 instanceFields
    ++ StoredMember.bytesFrom StoredMember.methodTail 0 directMethods
    ++ StoredMember.bytesFrom StoredMember.methodTail 0 virtualMethods

/-- Members are at most as many as their bytes. -/
theorem length_le_length_bytesFrom
    (tail : StoredMember → List UInt8)
    (previous : Nat)
    (members : List StoredMember) :
    members.length ≤ (StoredMember.bytesFrom tail previous members).length := by
  induction members generalizing previous with
  | nil => exact Nat.le_refl 0
  | cons member rest inductionHypothesis =>
      have fewRest := inductionHypothesis member.index
      have nonempty := List.length_pos_iff.mpr (Leb128.encode_ne_nil (member.index - previous))
      rw [StoredMember.bytesFrom, List.length_cons, List.length_append, List.length_append]
      omega

/-- The counts of the four lists are at most the number of bytes. -/
theorem counts_le_length_membersItem
    (staticFields instanceFields directMethods virtualMethods : List StoredMember) :
    let length :=
      (membersItem staticFields instanceFields directMethods virtualMethods).length
    staticFields.length ≤ length ∧ instanceFields.length ≤ length
      ∧ directMethods.length ≤ length ∧ virtualMethods.length ≤ length := by
  have fewStatic := length_le_length_bytesFrom StoredMember.fieldTail 0 staticFields
  have fewInstance := length_le_length_bytesFrom StoredMember.fieldTail 0 instanceFields
  have fewDirect := length_le_length_bytesFrom StoredMember.methodTail 0 directMethods
  have fewVirtual := length_le_length_bytesFrom StoredMember.methodTail 0 virtualMethods
  simp only [membersItem, List.length_append]
  omega

/-- Positions are kept when elements are changed. -/
theorem mapIdx_map
    (change : α → β)
    (give : Nat → β → γ)
    (elements : List α) :
    (elements.map change).mapIdx give = elements.mapIdx fun offset element =>
      give offset (change element) := by
  induction elements generalizing give with
  | nil => rfl
  | cons first rest inductionHypothesis =>
      rw [List.map_cons, List.mapIdx_cons, List.mapIdx_cons, inductionHypothesis]

/-- Each member of a class with the offset of its body, all in the order of their numbers. -/
structure SortedMembers where
  staticFields : List FieldDraft
  instanceFields : List FieldDraft
  directMethods : List (MethodDraft × Nat)
  virtualMethods : List (MethodDraft × Nat)

namespace SortedMembers

/-- The fields, static ones first. -/
def fields (members : SortedMembers) : List FieldDraft :=
  members.staticFields ++ members.instanceFields

/-- The methods with the offsets of their bodies, direct ones first. -/
def methods (members : SortedMembers) : List (MethodDraft × Nat) :=
  members.directMethods ++ members.virtualMethods

/-- The bytes of the members. -/
def item
    (members : SortedMembers)
    (tables : EntryTables)
    (definingClass : TypeDescriptor) : Item :=
  membersItem
    (members.staticFields.map (storedField tables definingClass))
    (members.instanceFields.map (storedField tables definingClass))
    (members.directMethods.map (storedMethod tables definingClass))
    (members.virtualMethods.map (storedMethod tables definingClass))

/-- The members are readable, have settled numbers and stand in their order. -/
structure IsReadable
    (members : SortedMembers)
    (image : Image)
    (tables : EntryTables)
    (definingClass : TypeDescriptor) : Prop where
  fields : ∀ field ∈ members.fields, field.IsReadable
  methods : ∀ pair ∈ members.methods, pair.1.IsReadable
  numbersField : ∀ field ∈ members.fields, tables.NumbersField definingClass field
  numbersMethod : ∀ pair ∈ members.methods, tables.NumbersMethod definingClass pair.1
  bodies :
    ∀ pair ∈ members.methods,
      IsReadAt image.optionalBody pair.2
        (pair.1.body.map BodyDraft.record, pair.1.parameterNames)
  staticAscends :
    members.staticFields.Pairwise fun first second =>
      tables.fieldNumber definingClass first ≤ tables.fieldNumber definingClass second
  instanceAscends :
    members.instanceFields.Pairwise fun first second =>
      tables.fieldNumber definingClass first ≤ tables.fieldNumber definingClass second
  directAscends :
    members.directMethods.Pairwise fun first second =>
      tables.methodNumber definingClass first.1 ≤ tables.methodNumber definingClass second.1
  virtualAscends :
    members.virtualMethods.Pairwise fun first second =>
      tables.methodNumber definingClass first.1 ≤ tables.methodNumber definingClass second.1

/-- The fields that are meant, as members of a class. -/
def fieldRecords (members : SortedMembers) (draft : ClassDraft) : List FieldRecord :=
  members.staticFields.mapIdx (fun position field =>
      field.record draft.typeName (draft.valueAt position) (draft.categoriesAt position))
    ++ members.instanceFields.mapIdx fun position field =>
      field.record draft.typeName none
        (draft.categoriesAt (members.staticFields.length + position))

/-- The methods that are meant, as members of a class. -/
def methodRecords (members : SortedMembers) (draft : ClassDraft) : List MethodRecord :=
  members.directMethods.mapIdx (fun position pair =>
      pair.1.record draft.typeName (draft.categoriesAt (members.fields.length + position)))
    ++ members.virtualMethods.mapIdx fun position pair =>
      pair.1.record draft.typeName
        (draft.categoriesAt (members.fields.length + members.directMethods.length + position))

end SortedMembers

section Reading

variable
  {image : Image}
  {tables : EntryTables}
  {draft : ClassDraft}
  {members : SortedMembers}
  {state : MemberState}

/-- The members are read in four runs behind their counts; static values end with their run. -/
theorem reads_members_of_runs
    {staticFields instanceFields directMethods virtualMethods : List StoredMember}
    {staticRecords instanceRecords : List FieldRecord}
    {directRecords virtualRecords : List MethodRecord}
    {afterStatic afterInstance afterDirect afterVirtual : MemberState}
    (fits : image.bytes.size < Bytes.span 4)
    (staticReads :
      Reads image.bytes ((Image.memberList staticFields.length image.field).run state)
        (StoredMember.bytesFrom StoredMember.fieldTail 0 staticFields)
        (staticRecords, afterStatic))
    (instanceReads :
      Reads image.bytes ((Image.memberList instanceFields.length image.field).run
          { afterStatic with values := [] })
        (StoredMember.bytesFrom StoredMember.fieldTail 0 instanceFields)
        (instanceRecords, afterInstance))
    (directReads :
      Reads image.bytes ((Image.memberList directMethods.length image.method).run afterInstance)
        (StoredMember.bytesFrom StoredMember.methodTail 0 directMethods)
        (directRecords, afterDirect))
    (virtualReads :
      Reads image.bytes ((Image.memberList virtualMethods.length image.method).run afterDirect)
        (StoredMember.bytesFrom StoredMember.methodTail 0 virtualMethods)
        (virtualRecords, afterVirtual)) :
    Reads image.bytes (image.members.run state)
      (membersItem staticFields instanceFields directMethods virtualMethods)
      ((staticRecords ++ instanceRecords, directRecords ++ virtualRecords), afterVirtual) := by
  refine reads_of_length_le fun bound => ?_
  obtain ⟨fewStatic, fewInstance, fewDirect, fewVirtual⟩ :=
    counts_le_length_membersItem staticFields instanceFields directMethods virtualMethods
  simp only [membersItem, List.flatMap_cons, List.flatMap_nil, List.append_assoc, List.nil_append]
  refine reads_run_bind (reads_run_lift (reads_uleb128 (by omega))) ?_
  refine reads_run_bind (reads_run_lift (reads_uleb128 (by omega))) ?_
  refine reads_run_bind (reads_run_lift (reads_uleb128 (by omega))) ?_
  refine reads_run_bind (reads_run_lift (reads_uleb128 (by omega))) ?_
  refine reads_run_bind staticReads ?_
  refine reads_run_silent (reads_pure ((), { afterStatic with values := [] })) ?_
  refine reads_run_bind instanceReads ?_
  refine reads_run_bind directReads ?_
  rw [← List.append_nil (StoredMember.bytesFrom _ _ _)]
  refine reads_run_bind virtualReads ?_
  exact reads_pure _

/-- The members are read in the order of their numbers, with what the draft says about each. -/
theorem reads_members
    (shown : image.Shows tables)
    (plainClass : IsPlainType draft.typeName)
    (readable : members.IsReadable image tables draft.typeName)
    (sameValues : state.values = draft.staticValues.map ValueDraft.value)
    (awaits : Awaits image.bytes tables draft 0 members.fields (members.methods.map Prod.fst)
      state) :
    ∃ next,
      Reads image.bytes (image.members.run state) (members.item tables draft.typeName)
        ((members.fieldRecords draft, members.methodRecords draft), next) := by
  rcases members with ⟨staticFields, instanceFields, directMethods, virtualMethods⟩
  rw [SortedMembers.methods, List.map_append] at awaits
  have staticPending :
      AwaitsFields image tables draft (draft.staticValues.map ValueDraft.value) instanceFields
        (directMethods.map Prod.fst ++ virtualMethods.map Prod.fst) 0 staticFields state :=
    ⟨fun field member => readable.fields field (List.mem_append_left _ member),
      fun field member => readable.numbersField field (List.mem_append_left _ member),
      sameValues, awaits⟩
  obtain ⟨afterStatic, staticAwaits, staticReads⟩ :=
    reads_fieldList shown plainClass readable.staticAscends staticPending
  rw [Nat.zero_add, ← List.append_nil instanceFields] at staticAwaits
  have instancePending :
      AwaitsFields image tables draft [] [] (directMethods.map Prod.fst
        ++ virtualMethods.map Prod.fst) staticFields.length instanceFields
        { afterStatic with values := [] } :=
    ⟨fun field member => readable.fields field (List.mem_append_right _ member),
      fun field member => readable.numbersField field (List.mem_append_right _ member),
      List.drop_nil.symm, staticAwaits.of_same rfl rfl⟩
  obtain ⟨afterInstance, instanceAwaits, instanceReads⟩ :=
    reads_fieldList shown plainClass readable.instanceAscends instancePending
  have directPending :
      AwaitsMethods image tables draft (virtualMethods.map Prod.fst)
        (staticFields.length + instanceFields.length) directMethods afterInstance :=
    ⟨fun pair member => readable.methods pair (List.mem_append_left _ member),
      fun pair member => readable.numbersMethod pair (List.mem_append_left _ member),
      fun pair member => readable.bodies pair (List.mem_append_left _ member), instanceAwaits⟩
  obtain ⟨afterDirect, directAwaits, directReads⟩ :=
    reads_methodList shown plainClass readable.directAscends directPending
  rw [← List.append_nil (virtualMethods.map Prod.fst)] at directAwaits
  have virtualPending :
      AwaitsMethods image tables draft []
        (staticFields.length + instanceFields.length + directMethods.length) virtualMethods
        afterDirect :=
    ⟨fun pair member => readable.methods pair (List.mem_append_right _ member),
      fun pair member => readable.numbersMethod pair (List.mem_append_right _ member),
      fun pair member => readable.bodies pair (List.mem_append_right _ member), directAwaits⟩
  obtain ⟨afterVirtual, -, virtualReads⟩ :=
    reads_methodList shown plainClass readable.virtualAscends virtualPending
  rw [← List.length_map (storedField tables draft.typeName)] at staticReads instanceReads
  rw [← List.length_map (storedMethod tables draft.typeName)] at directReads virtualReads
  have reads :=
    reads_members_of_runs shown.imageFits staticReads instanceReads directReads virtualReads
  simp only [Nat.zero_add, List.getElem?_map] at reads
  rw [SortedMembers.fieldRecords, SortedMembers.methodRecords, SortedMembers.fields,
    List.length_append]
  exact ⟨afterVirtual, reads⟩

end Reading

/-! The members of a draft. -/

/-- The members of a class, whose bodies stand at offsets. -/
def sortedMembers
    (tables : EntryTables)
    (draft : ClassDraft)
    (directOffsets virtualOffsets : List Nat) : SortedMembers where
  staticFields := tables.sortFields draft.typeName draft.staticFields
  instanceFields := tables.sortFields draft.typeName draft.instanceFields
  directMethods := sortPairs tables draft.typeName (draft.directMethods.zip directOffsets)
  virtualMethods := sortPairs tables draft.typeName (draft.virtualMethods.zip virtualOffsets)

section Draft

variable
  {image : Image}
  {tables : EntryTables}
  {draft : ClassDraft}
  {directOffsets virtualOffsets : List Nat}

/-- The bodies of methods are read at offsets. -/
def BodiesRead (image : Image) (methods : List MethodDraft) (offsets : List Nat) : Prop :=
  List.Forall₂
    (fun method offset =>
      IsReadAt image.optionalBody offset
        (method.body.map BodyDraft.record, method.parameterNames))
    methods offsets

/-- Sorting methods with the offsets of their bodies sorts the methods. -/
theorem map_fst_sortPairs_zip
    {methods : List MethodDraft}
    {offsets : List Nat}
    (bodies : BodiesRead image methods offsets) :
    (sortPairs tables draft.typeName (methods.zip offsets)).map Prod.fst =
      tables.sortMethods draft.typeName methods := by
  rw [map_fst_sortPairs, List.map_fst_zip (Nat.le_of_eq bodies.length_eq)]

/-- The sorted fields are those of the class. -/
theorem perm_fields :
    (sortedMembers tables draft directOffsets virtualOffsets).fields.Perm draft.fields :=
  (List.mergeSort_perm _ _).append (List.mergeSort_perm _ _)

/-- The sorted methods are those of the class. -/
theorem perm_methods
    (directBodies : BodiesRead image draft.directMethods directOffsets)
    (virtualBodies : BodiesRead image draft.virtualMethods virtualOffsets) :
    ((sortedMembers tables draft directOffsets virtualOffsets).methods.map Prod.fst).Perm
      draft.methods := by
  rw [SortedMembers.methods, List.map_append, sortedMembers]
  dsimp only
  rw [map_fst_sortPairs_zip directBodies, map_fst_sortPairs_zip virtualBodies]
  exact (List.mergeSort_perm _ _).append (List.mergeSort_perm _ _)

/-- The sorted fields are the fields that the class means. -/
theorem fieldRecords_eq :
    (sortedMembers tables draft directOffsets virtualOffsets).fieldRecords draft =
      (draft.record tables).fields :=
  rfl

/-- The sorted methods are the methods that the class means. -/
theorem methodRecords_eq
    (directBodies : BodiesRead image draft.directMethods directOffsets)
    (virtualBodies : BodiesRead image draft.virtualMethods virtualOffsets) :
    (sortedMembers tables draft directOffsets virtualOffsets).methodRecords draft =
      (draft.record tables).methods := by
  have sameDirect := @map_fst_sortPairs_zip image tables draft _ _ directBodies
  have sameVirtual := @map_fst_sortPairs_zip image tables draft _ _ virtualBodies
  have sameCount := congrArg List.length sameDirect
  rw [List.length_map] at sameCount
  rw [SortedMembers.methodRecords, SortedMembers.fields, List.length_append, ClassDraft.record,
    sortedMembers]
  dsimp only
  rw [← sameDirect, ← sameVirtual, mapIdx_map, mapIdx_map, List.length_map]

/-- The body of a sorted method is read at its offset. -/
theorem body_of_mem_sortPairs
    {methods : List MethodDraft}
    {offsets : List Nat}
    (bodies : BodiesRead image methods offsets)
    {pair : MethodDraft × Nat}
    (member : pair ∈ sortPairs tables draft.typeName (methods.zip offsets)) :
    pair.1 ∈ methods
      ∧ IsReadAt image.optionalBody pair.2
        (pair.1.body.map BodyDraft.record, pair.1.parameterNames) := by
  have inZip := List.mem_mergeSort.mp member
  exact ⟨(List.of_mem_zip inZip).1, List.forall₂_zip bodies inZip⟩

/-- The sorted members of a readable class are readable and have settled numbers. -/
theorem isReadable_sortedMembers
    {entry : NumberedClass}
    (readable : draft.IsReadable)
    (denoted : Denotes tables draft entry)
    (directBodies : BodiesRead image draft.directMethods directOffsets)
    (virtualBodies : BodiesRead image draft.virtualMethods virtualOffsets) :
    (sortedMembers tables draft directOffsets virtualOffsets).IsReadable image tables
      draft.typeName := by
  have fieldsOfDraft :
      ∀ field ∈ (sortedMembers tables draft directOffsets virtualOffsets).fields,
        field ∈ draft.fields :=
    fun field member => perm_fields.mem_iff.mp member
  have methodsOfDraft :
      ∀ pair ∈ (sortedMembers tables draft directOffsets virtualOffsets).methods,
        pair.1 ∈ draft.methods
          ∧ IsReadAt image.optionalBody pair.2
            (pair.1.body.map BodyDraft.record, pair.1.parameterNames) := by
    intro pair member
    rcases List.mem_append.mp member with inDirect | inVirtual
    · obtain ⟨inMethods, isRead⟩ := body_of_mem_sortPairs directBodies inDirect
      exact ⟨List.mem_append_left _ inMethods, isRead⟩
    · obtain ⟨inMethods, isRead⟩ := body_of_mem_sortPairs virtualBodies inVirtual
      exact ⟨List.mem_append_right _ inMethods, isRead⟩
  exact {
    fields := fun field member => readable.fields field (fieldsOfDraft field member)
    methods := fun pair member => readable.methods pair.1 (methodsOfDraft pair member).1
    numbersField := fun field member =>
      numbersField_of_mem denoted (fieldsOfDraft field member)
    numbersMethod := fun pair member =>
      numbersMethod_of_mem denoted (methodsOfDraft pair member).1
    bodies := fun pair member => (methodsOfDraft pair member).2
    staticAscends := pairwise_mergeSort_le _ _
    instanceAscends := pairwise_mergeSort_le _ _
    directAscends := pairwise_mergeSort_le _ _
    virtualAscends := pairwise_mergeSort_le _ _
  }

/-- At the start the state says everything that the class says about its members. -/
theorem awaits_start
    {entry : NumberedClass}
    {state : MemberState}
    (readable : draft.IsReadable)
    (denoted : Denotes tables draft entry)
    (directBodies : BodiesRead image draft.directMethods directOffsets)
    (virtualBodies : BodiesRead image draft.virtualMethods virtualOffsets)
    (flagsStand : FlagsStand image.bytes draft 0 state.restrictions)
    (isDirectory : IsDirectoryOf tables draft state.directory) :
    Awaits image.bytes tables draft 0
      (sortedMembers tables draft directOffsets virtualOffsets).fields
      ((sortedMembers tables draft directOffsets virtualOffsets).methods.map Prod.fst) state := by
  have fieldsPerm :
      (sortedMembers tables draft directOffsets virtualOffsets).fields.Perm draft.fields :=
    perm_fields
  have methodsPerm :=
    @perm_methods image tables draft directOffsets virtualOffsets directBodies virtualBodies
  exact {
    flagsStand
    flagsLeft := fun flags member => by
      rw [fieldsPerm.length_eq, methodsPerm.length_eq, Nat.zero_add,
        readable.restrictions flags member]
    distinctFields := (fieldsPerm.map _).nodup_iff.mpr (nodup_fields readable denoted)
    distinctMethods := (methodsPerm.map _).nodup_iff.mpr (nodup_methods readable denoted)
    ofFields := fun field member => isDirectory.ofFields field (fieldsPerm.mem_iff.mp member)
    ofMethods := fun method member =>
      isDirectory.ofMethods method (methodsPerm.mem_iff.mp member)
    ofParameters := fun method member =>
      isDirectory.ofParameters method (methodsPerm.mem_iff.mp member)
  }

/-- The class data at an offset are read as the members that are meant. -/
structure HoldsMembers
    (image : Image)
    (tables : EntryTables)
    (draft : ClassDraft)
    (offset : Nat) : Prop where
  fits : offset < Bytes.span 4
  reads :
    ∀ {index : Nat} {head : Image.ClassHead} {directory : AnnotationDirectory}
      {place? : Option Nat},
      head.dataOffset = offset →
      image.staticValues head.valuesOffset = .ok (draft.staticValues.map ValueDraft.value) →
      image.restrictionFlags index = .ok place? →
      FlagsStand image.bytes draft 0 place? →
      IsDirectoryOf tables draft directory →
      image.classMembers index head directory =
        .ok ((draft.record tables).fields, (draft.record tables).methods)

/-- A class without members has none at the offset zero. -/
theorem holdsMembers_zero
    (noFields : draft.fields = [])
    (noMethods : draft.methods = []) :
    HoldsMembers image tables draft 0 where
  fits := by decide
  reads := fun isOffset _ _ _ _ => by
    rw [ClassDraft.fields, List.append_eq_nil_iff] at noFields
    rw [ClassDraft.methods, List.append_eq_nil_iff] at noMethods
    rw [Image.classMembers, if_pos isOffset, ClassDraft.record, noFields.1, noFields.2,
      noMethods.1, noMethods.2, EntryTables.sortFields, EntryTables.sortMethods,
      List.mergeSort_nil, List.mergeSort_nil]
    rfl

/-- The members of a readable class are read where their bytes are placed. -/
theorem holdsMembers_of_isPlaced
    {entry : NumberedClass}
    {offset : Nat}
    (shown : image.Shows tables)
    (readable : draft.IsReadable)
    (denoted : Denotes tables draft entry)
    (directBodies : BodiesRead image draft.directMethods directOffsets)
    (virtualBodies : BodiesRead image draft.virtualMethods virtualOffsets)
    (placed : IsPlaced image.bytes offset
      ((sortedMembers tables draft directOffsets virtualOffsets).item tables draft.typeName)) :
    HoldsMembers image tables draft offset where
  fits := placed.fits
  reads := fun {index head directory place?} isOffset valuesRead flagsRead flagsStand
      isDirectory => by
    obtain ⟨next, reads⟩ :=
      @reads_members image tables draft _
        { index := 0
          values := draft.staticValues.map ValueDraft.value
          restrictions := place?
          directory }
        shown readable.typeName
        (isReadable_sortedMembers readable denoted directBodies virtualBodies) rfl
        (awaits_start readable denoted directBodies virtualBodies flagsStand isDirectory)
    rw [Image.classMembers, isOffset, if_neg placed.notZero, valuesRead, flagsRead]
    rw [fieldRecords_eq, methodRecords_eq directBodies virtualBodies] at reads
    exact Decoder.runAt_eq_ok (reads.bind_pure _) placed.stands

/-- The members of a readable class are read where they are placed, if their bodies are read. -/
theorem yields_classData
    {start : Nat}
    (shown : image.Shows tables)
    (positive : 0 < start)
    {entry : NumberedClass}
    (readable : draft.IsReadable)
    (denoted : Denotes tables draft entry) :
    Yields image.bytes start (Layout.classData entry directOffsets virtualOffsets) fun offset =>
      BodiesRead image draft.virtualMethods virtualOffsets →
      BodiesRead image draft.directMethods directOffsets →
      HoldsMembers image tables draft offset := by
  by_cases isEmpty : (entry.fields.isEmpty && entry.methods.isEmpty) = true
  · rw [Layout.classData, if_pos isEmpty]
    rw [Bool.and_eq_true, ← isEmpty_eq_of_forall₂ (forall₂_fields denoted),
      ← isEmpty_eq_of_forall₂ (forall₂_methods denoted), List.isEmpty_iff, List.isEmpty_iff]
      at isEmpty
    exact yields_pure fun _ _ => holdsMembers_zero isEmpty.1 isEmpty.2
  · rw [Layout.classData, if_neg isEmpty]
    refine (yields_place positive shown.imageFits _).imp ?_
    intro offset placed virtualBodies directBodies
    apply holdsMembers_of_isPlaced shown readable denoted directBodies virtualBodies
    have distinctFields := nodup_fields readable denoted
    have distinctMethods := nodup_methods readable denoted
    rw [ClassDraft.fields, List.map_append, List.nodup_append] at distinctFields
    rw [ClassDraft.methods, List.map_append, List.nodup_append] at distinctMethods
    rw [sorted_fields denoted.staticFields distinctFields.1,
      sorted_fields denoted.instanceFields distinctFields.2.1,
      sorted_methods denoted.directMethods directBodies.length_eq distinctMethods.1,
      sorted_methods denoted.virtualMethods virtualBodies.length_eq distinctMethods.2.1] at placed
    exact placed

end Draft

end Dex

end DexSurface
