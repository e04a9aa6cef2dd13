import DexSurface.Proofs.ClassFile.LoweringRoom
import DexSurface.Proofs.ClassFile.StoredFlags
import DexSurface.Proofs.Output.SelectedMembers
import DexSurface.Proofs.Parameters.SlotLayout

namespace DexSurface

/-!
# The flags of stubs in their class files

The flags of an image above the sixteen that a class file stores mean something else in a class
tree.  None of them gets there: an element of a lowered stub has the low flags of its source, and
only annotations decide on its mark for deprecation and on the version of its class.
-/

/-- Some annotation of an element has the given type. -/
def Annotations.Carry (annotations : Annotations) (annotationType : TypeDescriptor) : Prop :=
  ∃ note ∈ annotations, note.annotationType = annotationType

instance (annotations : Annotations) (annotationType : TypeDescriptor) :
    Decidable (annotations.Carry annotationType) :=
  inferInstanceAs (Decidable (∃ note ∈ annotations, _))

namespace Stub

open ClassFile (ClassTree ConstantPool File IsMarkedDeprecated MethodTree StoresFlags)

/--
The stored flags of a method are the low flags of its source.  If the source was declared
`synchronized` and has a body, one of them states whether the body enters a monitor.
-/
structure HasLowFlags (source : MethodRecord) (stored : UInt16) : Prop where
  plain :
    (source.flags.has AccessFlags.declaredSynchronizedBit = false ∨ source.body = none) →
      stored = source.flags.toUInt16
  others : stored &&& ~~~0x20 = source.flags.toUInt16 &&& ~~~0x20
  entering :
    ∀ body ∈ source.body,
      source.flags.has AccessFlags.declaredSynchronizedBit = true →
      (stored &&& 0x20 = 0x20 ↔ monitorEnterOpcode ∈ body.opcodes)

/-- An element of a class file is marked as deprecated exactly if its source is. -/
def MarksSource
    (pool : ConstantPool)
    (source : Annotations)
    (attributes : List ClassFile.Attribute) : Prop :=
  IsMarkedDeprecated pool attributes ↔ source.Carry Platform.deprecated

/-- The class file of a stub has the flags of its source and of the members of its source. -/
structure StoresSourceFlags
    (configuration : Configuration)
    (record : ClassRecord)
    (file : File) : Prop where
  version : file.version = if record.annotations.Carry Platform.record then 61 else 52
  flags :
    file.flags =
      if record.flags.has AccessFlags.interfaceBit then record.flags.toUInt16
      else record.flags.toUInt16 ||| 0x20
  deprecated : MarksSource file.pool record.annotations file.attributes
  fields :
    List.Forall₂
      (fun (field : FieldRecord) (member : ClassFile.Member) =>
        member.flags = field.flags.toUInt16
          ∧ MarksSource file.pool field.annotations member.attributes)
      (record.fields.filter fun field => field.flags.isAccessible) file.fields
  methods :
    ∃ declared added : List ClassFile.Member,
      List.Forall₂
          (fun (method : MethodRecord) (member : ClassFile.Member) =>
            HasLowFlags method member.flags
              ∧ MarksSource file.pool method.annotations member.attributes)
          (record.methods.filter fun method => IsSelected method) declared
        ∧ added.length = (if configuration.stubInitializer then 1 else 0)
        ∧ file.methods = declared ++ added

variable
  {surroundings : Surroundings}
  {record : ClassRecord}

/-! Flags. -/

/-- A type is found among annotations exactly if one of them carries it. -/
theorem hasType_eq_decide (annotations : Annotations) (annotationType : TypeDescriptor) :
    annotations.hasType annotationType = decide (annotations.Carry annotationType) := by
  rw [Bool.eq_iff_iff, decide_eq_true_iff, Annotations.hasType, Annotations.find?,
    List.find?_isSome, Annotations.Carry]
  simp only [decide_eq_true_iff]

/-- Deprecation does not change the sixteen stored flags. -/
theorem toUInt16_withDeprecation (flags : AccessFlags) (annotations : Annotations) :
    (withDeprecation flags annotations).toUInt16 = flags.toUInt16 := by
  rw [withDeprecation]
  split
  · exact AccessFlags.toUInt16_or_of_above (by decide) flags
  · exact AccessFlags.toUInt16_and_of_above (by decide) flags

/-- Only the annotations decide on the mark for deprecation. -/
theorem has_deprecatedBit_withDeprecation (flags : AccessFlags) (annotations : Annotations) :
    (withDeprecation flags annotations).has AccessFlags.deprecatedBit =
      decide (annotations.Carry Platform.deprecated) := by
  rw [withDeprecation, Annotations.isDeprecated, hasType_eq_decide]
  by_cases carry : annotations.Carry Platform.deprecated
  case pos =>
    rw [decide_eq_true carry, if_pos rfl, AccessFlags.has_or]
    exact Bool.or_true _
  case neg =>
    rw [decide_eq_false carry, if_neg Bool.false_ne_true]
    exact AccessFlags.has_and_of_apart (by decide) flags

/-- A member has the sixteen low flags of its source. -/
theorem toUInt16_memberFlags (flags : AccessFlags) (annotations : Annotations) :
    (memberFlags flags annotations).toUInt16 = flags.toUInt16 := by
  rw [memberFlags, toUInt16_withDeprecation]
  exact AccessFlags.toUInt16_and_of_above (by decide) flags

/-- A method has the sixteen low flags of its source, with synchronization as its body says. -/
theorem hasLowFlags_methodFlags (method : MethodRecord) :
    HasLowFlags method (methodFlags method).toUInt16 := by
  have low := toUInt16_memberFlags method.flags method.annotations
  cases declared : method.flags.has AccessFlags.declaredSynchronizedBit with
  | false =>
      rw [methodFlags, declared, if_neg Bool.false_ne_true, low]
      exact ⟨fun _ => rfl, rfl, fun _ _ isDeclared => absurd isDeclared (by simp [declared])⟩
  | true =>
      cases hasBody : method.body with
      | none =>
          rw [methodFlags, declared, if_pos rfl, hasBody]
          exact ⟨fun _ => low, congrArg (· &&& ~~~0x20) low, by simp [hasBody]⟩
      | some body =>
          have notPlain :
              ¬ (method.flags.has AccessFlags.declaredSynchronizedBit = false
                ∨ method.body = none) := by
            simp [declared, hasBody]
          rw [methodFlags, declared, if_pos rfl, hasBody]
          dsimp only
          by_cases enters : body.hasMonitorEnter = true
          case pos =>
            have entering : monitorEnterOpcode ∈ body.opcodes := List.contains_iff_mem.mp enters
            rw [if_pos enters, UInt32.toUInt16_or, low]
            refine ⟨fun plain => absurd plain notPlain, AccessFlags.or_and_not _ 0x20, ?_⟩
            rintro _ isBody -
            obtain rfl := Option.some.inj (hasBody.symm.trans isBody)
            exact ⟨fun _ => entering, fun _ => AccessFlags.or_and_self _ 0x20⟩
          case neg =>
            have quiet : monitorEnterOpcode ∉ body.opcodes :=
              fun entering => enters (List.contains_iff_mem.mpr entering)
            have cleared (stored : UInt16) : stored &&& ~~~0x20 &&& 0x20 = 0 := by
              rw [UInt16.and_assoc, UInt16.not_and_self, UInt16.and_zero]
            rw [if_neg enters, UInt32.toUInt16_and, UInt32.toUInt16_not, low]
            refine ⟨fun plain => absurd plain notPlain, ?_, ?_⟩
            · exact (UInt16.and_assoc _ _ _).trans (congrArg _ UInt16.and_self)
            · rintro _ isBody -
              obtain rfl := Option.some.inj (hasBody.symm.trans isBody)
              refine ⟨fun isSet => ?_, fun entering => absurd entering quiet⟩
              exact absurd ((cleared _).symm.trans isSet) (by decide)

/-- A class has the sixteen low flags of its source, and one more unless it is an interface. -/
theorem toUInt16_classFlags (record : ClassRecord) :
    (classFlags record).toUInt16 =
      if record.flags.has AccessFlags.interfaceBit then record.flags.toUInt16
      else record.flags.toUInt16 ||| 0x20 := by
  have low : (record.flags &&& AccessFlags.storedMask).toUInt16 = record.flags.toUInt16 :=
    AccessFlags.toUInt16_and_of_above (by decide) record.flags
  have marked (flags : AccessFlags) :
      (if record.annotations.isRecord then flags ||| AccessFlags.recordBit else flags).toUInt16 =
        flags.toUInt16 := by
    split
    · exact AccessFlags.toUInt16_or_of_above (by decide) flags
    · rfl
  rw [classFlags, toUInt16_withDeprecation, marked, ClassRecord.isInterface]
  by_cases isInterface : record.flags.has AccessFlags.interfaceBit = true
  case pos => rw [if_pos isInterface, if_pos isInterface, low]
  case neg =>
    rw [if_neg isInterface, if_neg isInterface, UInt32.toUInt16_or, low]
    rfl

/-- The image sets no mark for records: only the annotations decide on it. -/
theorem has_recordBit_classFlags (record : ClassRecord) :
    (classFlags record).has AccessFlags.recordBit =
      decide (record.annotations.Carry Platform.record) := by
  have unset :
      (if record.isInterface then record.flags &&& AccessFlags.storedMask
        else record.flags &&& AccessFlags.storedMask ||| AccessFlags.superBit).has
          AccessFlags.recordBit = false := by
    split
    · exact AccessFlags.has_and_of_apart (by decide) record.flags
    · rw [AccessFlags.has_or_of_apart (by decide)]
      exact AccessFlags.has_and_of_apart (by decide) record.flags
  rw [classFlags, has_withDeprecation (by decide) (by decide), Annotations.isRecord,
    hasType_eq_decide]
  by_cases carry : record.annotations.Carry Platform.record
  case pos =>
    rw [decide_eq_true carry, if_pos rfl, AccessFlags.has_or]
    exact Bool.or_true _
  case neg =>
    rw [decide_eq_false carry, if_neg Bool.false_ne_true, unset]

/-! Stubs. -/

/-- A stub has the flags of its class and the version that they require. -/
theorem flags_and_version_of_emitClass?
    {tree : ClassTree}
    (given : CanGive (emitClass? surroundings record) (some tree)) :
    tree.flags = classFlags record ∧ tree.version = classVersion (classFlags record) := by
  obtain ⟨head, noted, _, _, headGiven, notedGiven, -, -, -, made⟩ :=
    exists_parts_of_emitClass? given
  have ofHead :
      head.flags = classFlags record ∧ head.version = classVersion (classFlags record) := by
    obtain ⟨signature, -, isHead⟩ := isGiving_except.of_bind headGiven
    obtain rfl := Except.ok.inj isHead
    exact ⟨rfl, rfl⟩
  have ofNoted :
      noted.flags = classFlags record ∧ noted.version = classVersion (classFlags record) := by
    refine isGiving_state.foldlM_induction
      (motive := fun after : ClassTree =>
        after.flags = classFlags record ∧ after.version = classVersion (classFlags record))
      notedGiven ofHead ?_
    intro before after note _ ofBefore added
    cases takesNote_of_addAnnotationToClass added <;> exact ofBefore
  rw [made]
  exact ofNoted

/-- What is stored with the flags of a node whose mark annotations decide on. -/
theorem marksSource_of_storesFlags
    {pool : ConstantPool}
    {flags : AccessFlags}
    {stored : UInt16}
    {attributes : List ClassFile.Attribute}
    {source : Annotations}
    (stores : StoresFlags pool flags stored attributes)
    (decided :
      flags.has AccessFlags.deprecatedBit = decide (source.Carry Platform.deprecated)) :
    MarksSource pool source attributes := by
  rw [MarksSource, stores.isMarked_iff, decided, decide_eq_true_iff]

/-- The lowered stub of a class has the flags of its source. -/
theorem storesSourceFlags_of_lower
    {tree : ClassTree}
    {file : File}
    (given : CanGive (emitClass? surroundings record) (some tree))
    (lowered : tree.lower = .ok file) :
    StoresSourceFlags surroundings.configuration record file := by
  have stores := ClassFile.storesAllFlags_of_lower lowered
  obtain ⟨flags, version⟩ := flags_and_version_of_emitClass? given
  obtain ⟨_, _, defaults, methods, -, -, fieldsGiven, -, methodsGiven, made⟩ :=
    exists_parts_of_emitClass? given
  constructor
  case version =>
    rw [stores.version, version, classVersion, has_recordBit_classFlags]
    exact if_congr decide_eq_true_iff rfl rfl
  case flags => rw [stores.ofClass.stored_eq, flags, toUInt16_classFlags]
  case deprecated =>
    refine marksSource_of_storesFlags stores.ofClass ?_
    rw [flags, classFlags, has_deprecatedBit_withDeprecation]
  case fields =>
    refine (forall₂_comp (isGiving_state.forall₂_of_mapM fieldsGiven) stores.fields).imp ?_
    rintro field member ⟨node, nodeGiven, nodeStored⟩
    have nodeFlags := flags_of_emitField nodeGiven
    refine ⟨?_, marksSource_of_storesFlags nodeStored ?_⟩
    · rw [nodeStored.stored_eq, nodeFlags, toUInt16_memberFlags]
    · rw [nodeFlags, memberFlags, has_deprecatedBit_withDeprecation]
  case methods =>
    have areMethods := stores.methods.flip
    rw [congrArg ClassTree.methods made] at areMethods
    have declared := (List.forall₂_take_append _ _ _ areMethods).flip
    have added := List.forall₂_drop_append _ _ _ areMethods
    rw [filter_isEmitted_eq] at methodsGiven
    refine ⟨_, _, (forall₂_comp (isGiving_state.forall₂_of_mapM methodsGiven) declared).imp ?_, ?_,
      (List.take_append_drop methods.length file.methods).symm⟩
    · rintro method member ⟨node, nodeGiven, nodeStored⟩
      have nodeFlags := flags_of_emitMethod nodeGiven
      refine ⟨?_, marksSource_of_storesFlags nodeStored ?_⟩
      · rw [nodeStored.stored_eq, nodeFlags]
        exact hasLowFlags_methodFlags method
      · rw [nodeFlags, has_methodFlags (by decide) (by decide), memberFlags,
          has_deprecatedBit_withDeprecation]
    · rw [added.length_eq, addedMethods]
      split <;> rfl

/-- A public method of a vault that was declared `synchronized`. -/
def vaultMethod (name : String) (opcodes : List UInt8) : MethodRecord :=
  { (default : MethodRecord) with
    definingClass := "Lpkg/Vault;"
    name
    flags :=
      AccessFlags.publicBit ||| AccessFlags.synchronizedBit ||| AccessFlags.declaredSynchronizedBit
    returnType := "V"
    body := some { registerCount := 1, opcodes, locals := [] } }

/-- A deprecated record with all the flags that only images have. -/
def vault : ClassRecord :=
  { (default : ClassRecord) with
    typeName := "Lpkg/Vault;"
    flags := AccessFlags.publicBit ||| 0xffff0000
    superclass := some Descriptor.object
    annotations := [⟨.runtime, Platform.deprecated, []⟩, ⟨.system, Platform.record, []⟩]
    fields := [
      { (default : FieldRecord) with
        definingClass := "Lpkg/Vault;"
        name := "size"
        fieldType := "I"
        flags := AccessFlags.publicBit ||| 0xffff0000 }]
    methods := [vaultMethod "open" [0x1d, 0x1e, 0x0e], vaultMethod "close" [0x0e]] }

/-- A method of the vault has no parameters. -/
theorem placedParameters_vaultMethod (name : String) (opcodes : List UInt8) :
    placedParameters (vaultMethod name opcodes) = [] := by
  obtain ⟨recovered, kept, placed⟩ := exists_placedParameters_eq (vaultMethod name opcodes)
  cases kept
  exact placed

/-- The node of a method of a vault. -/
def vaultNode (name : String) (opcodes : List UInt8) : MethodTree :=
  { MethodTree.bare (methodFlags (vaultMethod name opcodes)) name "()V" with
    body := some (methodBody vault (vaultMethod name opcodes) []) }

/-- A method of the vault is emitted as its node. -/
theorem emitMethod_vaultMethod (name : String) (opcodes : List UInt8) (before : Journal) :
    emitMethod ⟨∅, ∅, .standard⟩ vault [] (vaultMethod name opcodes) before =
      .ok (vaultNode name opcodes) before := by
  refine Run.bind_eq_ok_iff.mpr ⟨_, before, rfl, ?_⟩
  refine Run.bind_eq_ok_iff.mpr ⟨_, before, rfl, ?_⟩
  rw [methodTail, placedParameters_vaultMethod]
  rfl

/-- The stub of a vault. -/
def vaultTree : ClassTree :=
  { ClassTree.bare 61 (classFlags vault) "pkg/Vault" with
    superclass := some "java/lang/Object"
    annotations := ⟨[⟨Platform.deprecated, []⟩], []⟩
    fields := [
      { flags := memberFlags (AccessFlags.publicBit ||| 0xffff0000) []
        name := "size"
        descriptor := "I"
        signature := none
        value := none
        annotations := .empty }]
    methods := [vaultNode "open" [0x1d, 0x1e, 0x0e], vaultNode "close" [0x0e], initializer] }

/-- The vault has its stub. -/
theorem emitClass?_vault : CanGive (emitClass? ⟨∅, ∅, .standard⟩ vault) (some vaultTree) := by
  have methodsGiven (before : Journal) :
      (vault.methods.filter isEmitted).mapM (emitMethod ⟨∅, ∅, .standard⟩ vault []) before =
        .ok [vaultNode "open" [0x1d, 0x1e, 0x0e], vaultNode "close" [0x0e]] before := by
    have areEmitted :
        vault.methods.filter isEmitted =
          [vaultMethod "open" [0x1d, 0x1e, 0x0e], vaultMethod "close" [0x0e]] :=
      rfl
    rw [areEmitted, List.mapM_cons]
    refine Run.bind_eq_ok_iff.mpr ⟨_, before, emitMethod_vaultMethod _ _ before, ?_⟩
    rw [List.mapM_cons]
    refine Run.bind_eq_ok_iff.mpr ⟨[vaultNode "close" [0x0e]], before, ?_, rfl⟩
    exact Run.bind_eq_ok_iff.mpr ⟨_, before, emitMethod_vaultMethod _ _ before, rfl⟩
  have emitted : ∃ after, emitClass ⟨∅, ∅, .standard⟩ vault .empty = .ok vaultTree after :=
    ⟨_, Run.bind_eq_ok_iff.mpr ⟨_, _, rfl, Run.bind_eq_ok_iff.mpr ⟨_, _, rfl,
      Run.bind_eq_ok_iff.mpr ⟨_, _, rfl, Run.bind_eq_ok_iff.mpr ⟨_, _, rfl,
        Run.bind_eq_ok_iff.mpr ⟨_, _, methodsGiven _, rfl⟩⟩⟩⟩⟩⟩
  obtain ⟨after, emitted⟩ := emitted
  refine ⟨.empty, after, ?_⟩
  change (some <$> emitClass ⟨∅, ∅, .standard⟩ vault) .empty = _
  rw [map_eq_pure_bind, bind_of_ok emitted]
  rfl

/-- The stub of the vault is lowered. -/
theorem exists_lower_vaultTree : ∃ file, vaultTree.lower = .ok file := by
  refine ClassTree.exists_lower (by decide) ?_ ?_ (by decide)
  · intro field inFields
    obtain rfl := List.mem_singleton.mp inFields
    rfl
  · intro method inMethods
    simp only [vaultTree, List.mem_cons, List.not_mem_nil, or_false] at inMethods
    rcases inMethods with rfl | rfl | rfl <;>
      exact ⟨fun _ isBody => Option.some.inj isBody ▸ by decide, Nat.zero_le _, Nat.zero_le _⟩

/-- The class file of the vault has the flags of its source. -/
theorem storesSourceFlags_of_lower_vault :
    ∃ tree file,
      CanGive (emitClass? ⟨∅, ∅, .standard⟩ vault) (some tree)
        ∧ tree.lower = .ok file
        ∧ StoresSourceFlags .standard vault file
        ∧ file.version = 61
        ∧ file.flags = 0x21 := by
  obtain ⟨file, lowered⟩ := exists_lower_vaultTree
  have stores : StoresSourceFlags .standard vault file :=
    storesSourceFlags_of_lower emitClass?_vault lowered
  exact ⟨vaultTree, file, emitClass?_vault, lowered, stores, stores.version.trans (by decide),
    stores.flags.trans (by decide)⟩

end Stub

end DexSurface
