import DexSurface.Proofs.AccessFlags
import DexSurface.Proofs.Descriptor.FieldTypes
import DexSurface.Proofs.Output.MemberAnnotations

namespace DexSurface

/-!
# Which members a stub has

The members of a stub stand in the order of its class, one for each selected member and no other.
A method descriptor shows the types that it is put together from, so methods that differ in their
source still differ in the stub.
-/

namespace Stub

open ClassFile (FieldTree MethodTree ClassTree)

/-- The methods of the root class by name, parameter types and return type. -/
def rootMethods : List (String × List TypeDescriptor × TypeDescriptor) :=
  [("clone", [], "Ljava/lang/Object;"),
    ("equals", ["Ljava/lang/Object;"], "Z"),
    ("finalize", [], "V"),
    ("hashCode", [], "I"),
    ("toString", [], "Ljava/lang/String;")]

/-- What tells the methods of a class apart. -/
def sourceSignature (method : MethodRecord) : String × List TypeDescriptor × TypeDescriptor :=
  (method.name, method.parameterTypes, method.returnType)

/-- What tells the methods of a class file apart. -/
def treeSignature (method : MethodTree) : String × String :=
  (method.name, method.descriptor)

/-- An instance method below the root class that overrides a method of the root class. -/
structure OverridesRoot (method : MethodRecord) : Prop where
  isInstance : method.isStatic = false
  isBelowRoot : method.definingClass ≠ "Ljava/lang/Object;"
  signature : sourceSignature method ∈ rootMethods

/-- A method that has a node in the stub of its class. -/
structure IsSelected (method : MethodRecord) : Prop where
  accessible : method.flags.isAccessible = true
  noBridge : method.flags.has AccessFlags.bridgeBit = false
  noInitializer : method.name ≠ "<clinit>"
  noOverride : ¬ OverridesRoot method

/-- The static initialiser that makes an exception with a message and throws it. -/
def throwingInitializer : MethodTree :=
  { MethodTree.bare AccessFlags.staticBit "<clinit>" "()V" with
    body := some {
      maxStack := 3
      maxLocals := 0
      instructions := [
        .new "java/lang/RuntimeException",
        .simple .dup,
        .loadString "Stub!",
        .invokeSpecial "java/lang/RuntimeException" "<init>" "(Ljava/lang/String;)V",
        .simple .athrow]
      localVariables := [] } }

/-- A field of a stub has the name and the type of its source and is not synthetic. -/
structure IsFieldOf (source : FieldRecord) (node : FieldTree) : Prop where
  name : node.name = source.name
  descriptor : node.descriptor = source.fieldType
  notSynthetic : node.flags.has AccessFlags.syntheticBit = false

/-- A method of a stub has the name and the descriptor of its source and is not synthetic. -/
structure IsMethodOf (source : MethodRecord) (node : MethodTree) : Prop where
  name : node.name = source.name
  descriptor : node.descriptor = Descriptor.ofMethod source.parameterTypes source.returnType
  notSynthetic : node.flags.has AccessFlags.syntheticBit = false

/--
A method is found to be inherited from the root exactly if it overrides a method of the root class.
-/
theorem overridesRoot_iff {method : MethodRecord} :
    isInheritedFromRoot method = true ↔ OverridesRoot method := by
  simp only [isInheritedFromRoot, Bool.and_eq_true, Bool.not_eq_true', bne_iff_ne,
    List.contains_iff_mem]
  constructor
  · rintro ⟨⟨isInstance, isBelowRoot⟩, signature⟩
    exact ⟨isInstance, isBelowRoot, signature⟩
  · rintro ⟨isInstance, isBelowRoot, signature⟩
    exact ⟨⟨isInstance, isBelowRoot⟩, signature⟩

/-- A method is emitted exactly if it is selected. -/
theorem isEmitted_iff {method : MethodRecord} : isEmitted method = true ↔ IsSelected method := by
  simp only [isEmitted, Bool.and_eq_true, Bool.not_eq_true', bne_iff_ne,
    ← Bool.not_eq_true (isInheritedFromRoot method), overridesRoot_iff]
  constructor
  · rintro ⟨⟨⟨accessible, noBridge⟩, noInitializer⟩, noOverride⟩
    exact ⟨accessible, noBridge, noInitializer, noOverride⟩
  · rintro ⟨accessible, noBridge, noInitializer, noOverride⟩
    exact ⟨⟨⟨accessible, noBridge⟩, noInitializer⟩, noOverride⟩

instance : DecidablePred IsSelected :=
  fun _ => decidable_of_iff _ isEmitted_iff

/-- The emitted methods are the selected ones, in order. -/
theorem filter_isEmitted_eq (methods : List MethodRecord) :
    methods.filter isEmitted = methods.filter fun method => IsSelected method :=
  List.filter_congr fun method _ => by
    rw [Bool.eq_iff_iff, isEmitted_iff, decide_eq_true_eq]

/--
The members of a stub are the selected members of its class in order, and then the static
initialiser if the configuration adds it.
-/
structure SelectsMembers
    (configuration : Configuration)
    (record : ClassRecord)
    (tree : ClassTree) : Prop where
  fields :
    List.Forall₂ IsFieldOf (record.fields.filter fun field => field.flags.isAccessible) tree.fields
  methods :
    ∃ declared,
      List.Forall₂ IsMethodOf (record.methods.filter fun method => IsSelected method) declared
        ∧ tree.methods =
            declared ++ if configuration.stubInitializer then [throwingInitializer] else []
  /-- Methods that differ in their source differ in the stub. -/
  distinct :
    (∀ method ∈ record.methods, ∀ type ∈ method.parameterTypes, Descriptor.IsFieldType type) →
      (record.methods.map sourceSignature).Nodup →
        (tree.methods.map treeSignature).Nodup

variable {surroundings : Surroundings} {record : ClassRecord}

/-! The flags of emitted members. -/

section Flags

variable {mask : AccessFlags}

/-- Annotations decide on one flag only. -/
theorem has_withDeprecation
    (apart : AccessFlags.deprecatedBit &&& mask = 0)
    (kept : ~~~AccessFlags.deprecatedBit &&& mask = mask)
    (flags : AccessFlags)
    (annotations : Annotations) :
    (withDeprecation flags annotations).has mask = flags.has mask := by
  rw [withDeprecation]
  split
  · exact AccessFlags.has_or_of_apart apart flags
  · exact AccessFlags.has_and_of_kept kept flags

/-- The flags of a member of the stub are synthetic only if those of the source are. -/
theorem has_syntheticBit_memberFlags (flags : AccessFlags) (annotations : Annotations) :
    (memberFlags flags annotations).has AccessFlags.syntheticBit =
      flags.has AccessFlags.syntheticBit := by
  rw [memberFlags, has_withDeprecation (by decide) (by decide)]
  exact AccessFlags.has_and_of_kept (by decide) flags

/-- Only one flag of a method depends on its body. -/
theorem has_methodFlags
    (apart : AccessFlags.synchronizedBit &&& mask = 0)
    (kept : ~~~AccessFlags.synchronizedBit &&& mask = mask)
    (method : MethodRecord) :
    (methodFlags method).has mask = (memberFlags method.flags method.annotations).has mask := by
  rw [methodFlags]
  split
  · cases method.body with
    | none => rfl
    | some body =>
        dsimp only
        split
        · exact AccessFlags.has_or_of_apart apart _
        · exact AccessFlags.has_and_of_kept kept _
  · rfl

end Flags

/-- An emitted field has the flags of a member. -/
theorem flags_of_emitField
    {source : FieldRecord}
    {node : FieldTree}
    (given : CanGive (emitField surroundings source) node) :
    node.flags = memberFlags source.flags source.annotations := by
  obtain ⟨_, _, _, -, -, rfl⟩ := exists_parts_of_emitField given
  rfl

/-- An emitted method has the flags of a method. -/
theorem flags_of_emitMethod
    {defaults : AnnotationDefaults}
    {source : MethodRecord}
    {node : MethodTree}
    (given : CanGive (emitMethod surroundings record defaults source) node) :
    node.flags = methodFlags source := by
  obtain ⟨_, _, _, _, -, -, same⟩ := exists_parts_of_emitMethod given
  exact congrArg MethodTree.flags same

/-- An emitted field has the name and the type of its source. -/
theorem isFieldOf_of_emitField
    {source : FieldRecord}
    {node : FieldTree}
    (accessible : source.flags.isAccessible = true)
    (given : CanGive (emitField surroundings source) node) :
    IsFieldOf source node := by
  have isNode := isNodeOfField_of_emitField given
  refine ⟨isNode.name, isNode.descriptor, ?_⟩
  rw [flags_of_emitField given, has_syntheticBit_memberFlags]
  exact AccessFlags.has_syntheticBit_eq_false accessible

/-- An emitted method has the name and the descriptor of its source. -/
theorem isMethodOf_of_emitMethod
    {defaults : AnnotationDefaults}
    {source : MethodRecord}
    {node : MethodTree}
    (accessible : source.flags.isAccessible = true)
    (given : CanGive (emitMethod surroundings record defaults source) node) :
    IsMethodOf source node := by
  have isNode := isNodeOfMethod_of_emitMethod given
  refine ⟨isNode.name, isNode.descriptor, ?_⟩
  rw [flags_of_emitMethod given, has_methodFlags (by decide) (by decide),
    has_syntheticBit_memberFlags]
  exact AccessFlags.has_syntheticBit_eq_false accessible

/-! Methods that differ. -/

/-- The signatures in the stub are those of the sources, written as descriptors. -/
theorem treeSignatures_eq
    {sources : List MethodRecord}
    {nodes : List MethodTree}
    (areMethods : List.Forall₂ IsMethodOf sources nodes) :
    nodes.map treeSignature =
      sources.map fun source =>
        (source.name, Descriptor.ofMethod source.parameterTypes source.returnType) := by
  induction areMethods with
  | nil => rfl
  | cons isFirst _ inductionHypothesis =>
      rw [List.map_cons, List.map_cons, inductionHypothesis, treeSignature, isFirst.name,
        isFirst.descriptor]

/-- Methods of different signatures are emitted with different signatures. -/
theorem nodup_treeSignatures
    {sources : List MethodRecord}
    {nodes : List MethodTree}
    (areMethods : List.Forall₂ IsMethodOf sources nodes)
    (wellFormed :
      ∀ source ∈ sources, ∀ type ∈ source.parameterTypes, Descriptor.IsFieldType type)
    (distinct : (sources.map sourceSignature).Nodup) :
    (nodes.map treeSignature).Nodup := by
  rw [treeSignatures_eq areMethods]
  rw [List.Nodup, List.pairwise_map] at distinct ⊢
  refine distinct.imp_of_mem ?_
  intro first second inFirst inSecond differ same
  obtain ⟨sameName, sameDescriptor⟩ := Prod.mk.inj same
  obtain ⟨sameParameters, sameReturn⟩ :=
    Descriptor.eq_of_ofMethod_eq (wellFormed first inFirst) (wellFormed second inSecond)
      sameDescriptor
  exact differ (by rw [sourceSignature, sourceSignature, sameName, sameParameters, sameReturn])

/--
No method of the class stands beside the static initialiser under its name: no selected method is an
initialiser.
-/
theorem nodup_treeSignatures_append
    {sources : List MethodRecord}
    {nodes : List MethodTree}
    (areMethods : List.Forall₂ IsMethodOf sources nodes)
    (selected : ∀ source ∈ sources, IsSelected source)
    (distinct : (nodes.map treeSignature).Nodup)
    (isOn : Bool) :
    ((nodes ++ if isOn then [throwingInitializer] else []).map treeSignature).Nodup := by
  cases isOn with
  | false => simpa using distinct
  | true =>
      rw [List.map_append]
      refine List.nodup_append.mpr ⟨distinct, List.pairwise_singleton _ _, ?_⟩
      intro declared isDeclared added isAdded same
      rw [treeSignatures_eq areMethods] at isDeclared
      obtain ⟨source, inSources, rfl⟩ := List.mem_map.mp isDeclared
      obtain rfl := List.mem_singleton.mp isAdded
      exact (selected source inSources).noInitializer (congrArg Prod.fst same)

/-! Classes. -/

/--
A stub has exactly one node for each accessible field and one for each selected method, in the order
of the class, and then the static initialiser if the configuration adds it.  Of methods with
well-formed parameter types no two get the same name and descriptor, unless the class has two with
the same name, parameter types and return type.
-/
theorem selectsMembers_of_emitClass?
    {tree : ClassTree}
    (given : CanGive (emitClass? surroundings record) (some tree)) :
    SelectsMembers surroundings.configuration record tree := by
  obtain ⟨_, _, defaults, methods, -, -, fieldsGiven, -, methodsGiven, made⟩ :=
    exists_parts_of_emitClass? given
  have accessible :
      ∀ source ∈ record.fields.filter fun field => field.flags.isAccessible,
        source.flags.isAccessible = true :=
    fun source member => (List.mem_filter.mp member).2
  have fieldNodes :
      List.Forall₂ IsFieldOf (record.fields.filter fun field => field.flags.isAccessible)
        tree.fields := by
    have related := isGiving_state.forall₂_of_mapM fieldsGiven
    exact ((List.forall₂_and_left _ _).mpr ⟨accessible, related⟩).imp
      fun source node ⟨isAccessible, nodeGiven⟩ => isFieldOf_of_emitField isAccessible nodeGiven
  have selected :
      ∀ source ∈ record.methods.filter fun method => IsSelected method, IsSelected source :=
    fun source member => of_decide_eq_true (List.mem_filter.mp member).2
  have methodNodes :
      List.Forall₂ IsMethodOf (record.methods.filter fun method => IsSelected method)
        methods := by
    rw [filter_isEmitted_eq] at methodsGiven
    have related := isGiving_state.forall₂_of_mapM methodsGiven
    refine ((List.forall₂_and_left _ _).mpr ⟨selected, related⟩).imp ?_
    rintro source node ⟨isSelected, nodeGiven⟩
    exact isMethodOf_of_emitMethod isSelected.accessible nodeGiven
  have sameMethods := congrArg ClassTree.methods made
  constructor
  case fields => exact fieldNodes
  case methods => exact ⟨methods, methodNodes, sameMethods⟩
  case distinct =>
    intro wellFormed distinct
    rw [sameMethods]
    refine nodup_treeSignatures_append methodNodes selected ?_ _
    refine nodup_treeSignatures methodNodes ?_ (distinct.sublist (List.filter_sublist.map _))
    exact fun source member => wellFormed source (List.mem_of_mem_filter member)

/-- A public method of a palette without a body. -/
def paletteMethod (name : String) (types : List TypeDescriptor) (returnType : TypeDescriptor) :
    MethodRecord :=
  { (default : MethodRecord) with
    definingClass := "Lpkg/Palette;"
    name
    flags := AccessFlags.publicBit ||| AccessFlags.abstractBit
    parameters := types.map fun type => ⟨type, none, none, []⟩
    returnType }

/-- A public class with two methods of one name and some members that are left out. -/
def palette : ClassRecord :=
  { (default : ClassRecord) with
    typeName := "Lpkg/Palette;"
    flags := AccessFlags.publicBit ||| AccessFlags.abstractBit
    superclass := some Descriptor.object
    fields := [
      { (default : FieldRecord) with
        definingClass := "Lpkg/Palette;"
        name := "cache"
        fieldType := "[I" },
      { (default : FieldRecord) with
        definingClass := "Lpkg/Palette;"
        name := "size"
        fieldType := "I"
        flags := AccessFlags.publicBit }]
    methods := [
      paletteMethod "mix" ["Lpkg/Ink;", "Lpkg/Ink;"] "V",
      paletteMethod "mix" ["[Lpkg/Ink;"] "V",
      { paletteMethod "mix" ["Lpkg/Ink;", "Lpkg/Ink;"] "Ljava/lang/Object;" with
        flags := AccessFlags.publicBit ||| AccessFlags.bridgeBit },
      paletteMethod "hashCode" [] "I"] }

/-- The palette has the selected members of its class, two methods of one name among them. -/
theorem selectsMembers_of_emitClass?_palette :
    ∃ tree,
      CanGive (emitClass? ⟨∅, ∅, .standard⟩ palette) (some tree)
        ∧ SelectsMembers .standard palette tree
        ∧ (∀ method ∈ palette.methods, ∀ type ∈ method.parameterTypes,
            Descriptor.IsFieldType type)
        ∧ (palette.methods.map sourceSignature).Nodup
        ∧ tree.fields.map FieldTree.name = ["size"]
        ∧ tree.methods.map treeSignature =
            [("mix", "(Lpkg/Ink;Lpkg/Ink;)V"), ("mix", "([Lpkg/Ink;)V"), ("<clinit>", "()V")]
        ∧ (tree.methods.map treeSignature).Nodup := by
  obtain ⟨tree, given, fields, methods⟩ :
      ∃ tree,
        CanGive (emitClass? ⟨∅, ∅, .standard⟩ palette) (some tree)
          ∧ tree.fields.map FieldTree.name = ["size"]
          ∧ tree.methods.map treeSignature =
              [("mix", "(Lpkg/Ink;Lpkg/Ink;)V"), ("mix", "([Lpkg/Ink;)V"), ("<clinit>", "()V")] :=
    ⟨_, ⟨.empty, _, rfl⟩, rfl, rfl⟩
  have selects : SelectsMembers .standard palette tree := selectsMembers_of_emitClass? given
  have isType : Descriptor.IsFieldType "Lpkg/Ink;" := ⟨.object "pkg/Ink".toList (by decide), rfl⟩
  have isArray : Descriptor.IsFieldType "[Lpkg/Ink;" :=
    ⟨.array (.object "pkg/Ink".toList (by decide)), rfl⟩
  have allTypes :
      palette.methods.flatMap MethodRecord.parameterTypes =
        ["Lpkg/Ink;", "Lpkg/Ink;", "[Lpkg/Ink;", "Lpkg/Ink;", "Lpkg/Ink;"] :=
    rfl
  have wellFormed :
      ∀ method ∈ palette.methods, ∀ type ∈ method.parameterTypes, Descriptor.IsFieldType type := by
    intro method member type isParameter
    have listed : type ∈ palette.methods.flatMap MethodRecord.parameterTypes :=
      List.mem_flatMap.mpr ⟨method, member, isParameter⟩
    simp only [allTypes, List.mem_cons, List.not_mem_nil, or_false] at listed
    rcases listed with rfl | rfl | rfl | rfl | rfl <;> assumption
  have distinct : (palette.methods.map sourceSignature).Nodup := by decide
  exact ⟨tree, given, selects, wellFormed, distinct, fields, methods,
    selects.distinct wellFormed distinct⟩

end Stub

end DexSurface
