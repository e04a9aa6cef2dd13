import DexSurface.Dex.Assembly
import DexSurface.Proofs.Dex.PlacedDirectory

namespace DexSurface

namespace Dex

open Dex.Numbering (Settles)
open Decoder (Reads reads_pure reads_uleb128)
open EntryTables (NumbersField NumbersMethod)

/-!
# The members of a class are read back

A decoder of members carries a state from one member to the next.  What the state says about the
members to come is an invariant: reading a member keeps it for those that follow.
-/

section Steps

variable {bytes : ByteArray} {first second : List UInt8} {state middle : MemberState}

/-- Members in sequence are read from their items in sequence. -/
theorem reads_run_bind
    {member : MemberDecoder α}
    {next : α → MemberDecoder β}
    {value : α}
    {result : β × MemberState}
    (reads : Reads bytes (member.run state) first (value, middle))
    (nextReads : Reads bytes ((next value).run middle) second result) :
    Reads bytes ((member >>= next).run state) (first ++ second) result := by
  rw [StateT.run_bind]
  exact reads.bind nextReads

/-- A step that reads no bytes of the member. -/
theorem reads_run_silent
    {member : MemberDecoder α}
    {next : α → MemberDecoder β}
    {value : α}
    {result : β × MemberState}
    (reads : Reads bytes (member.run state) [] (value, middle))
    (nextReads : Reads bytes ((next value).run middle) second result) :
    Reads bytes ((member >>= next).run state) second result := by
  rw [StateT.run_bind]
  exact reads.bind nextReads

/-- Reading something else in between keeps the state of the members. -/
theorem reads_run_lift
    {decoder : Decoder α}
    {value : α}
    (reads : Reads bytes decoder first value) :
    Reads bytes ((liftM decoder : MemberDecoder α).run state) first (value, state) :=
  reads.bind_pure fun given => (given, state)

/-- A given result takes no bytes and keeps the state of the members. -/
theorem reads_run_except
    {given : Except Error α}
    {value : α}
    (succeeded : given = .ok value) :
    Reads bytes ((liftM given : MemberDecoder α).run state) [] (value, state) :=
  (Decoder.reads_lift succeeded).bind_pure fun given => (given, state)

/-- The index of a member is read from its difference to the one before. -/
theorem reads_memberIndex
    {index : Nat}
    (ascending : state.index ≤ index)
    (fits : index < Bytes.span 4) :
    Reads bytes (Image.memberIndex.run state) (Leb128.encode (index - state.index))
      (index, { state with index }) := by
  have advanced : advance state.index (index - state.index) = .ok index := by
    rw [advance_of_lt (by omega), Nat.add_sub_cancel' ascending]
  rw [← List.append_nil (Leb128.encode _)]
  refine reads_run_bind (reads_run_lift (reads_uleb128 (by omega))) ?_
  refine reads_run_silent (reads_pure (state, state)) ?_
  exact reads_run_silent (reads_run_except advanced) (reads_pure _)

/-- The value of a static field is the next one of the state and takes no bytes. -/
theorem reads_memberValue :
    Reads bytes (Image.memberValue.run state) []
      (state.values.head?, { state with values := state.values.tail }) :=
  reads_pure _

/-- The annotations of a field are taken out of the state and take no bytes. -/
theorem reads_fieldAnnotations (index : Nat) :
    Reads bytes ((Image.fieldAnnotations index).run state) []
      (state.directory.ofFields.getD index [],
        { state with
          directory := { state.directory with
            ofFields := state.directory.ofFields.erase index } }) :=
  reads_pure _

/-- The annotations of a method are taken out of the state and take no bytes. -/
theorem reads_methodAnnotations (index : Nat) :
    Reads bytes ((Image.methodAnnotations index).run state) []
      (state.directory.ofMethods.getD index [],
        { state with
          directory := { state.directory with
            ofMethods := state.directory.ofMethods.erase index } }) :=
  reads_pure _

/-- The annotations of parameters are taken out of the state and take no bytes. -/
theorem reads_parameterAnnotations (index : Nat) :
    Reads bytes ((Image.parameterAnnotations index).run state) []
      (state.directory.ofParameters.getD index [],
        { state with
          directory := { state.directory with
            ofParameters := state.directory.ofParameters.erase index } }) :=
  reads_pure _

/-- The flags of the members from a position on stand where the state says. -/
def FlagsStand
    (bytes : ByteArray)
    (draft : ClassDraft)
    (position : Nat)
    (place? : Option Nat) : Prop :=
  Option.Rel
    (fun place flags => Stands bytes place (Assembly.restrictionItem (flags.drop position)))
    place? draft.restrictions

/-- The flags from a position on are those of one member followed by those behind it. -/
theorem restrictionItem_drop
    {flags : List UInt32}
    {position : Nat}
    (inRange : position < flags.length) :
    Assembly.restrictionItem (flags.drop position) =
      Leb128.encode (flags.getD position 0).toNat
        ++ Assembly.restrictionItem (flags.drop (position + 1)) := by
  rw [List.drop_eq_getElem_cons inRange, List.getD_eq_getElem?_getD,
    List.getElem?_eq_getElem inRange]
  rfl

/-- The flags of a member are read, and those of the following members stand behind them. -/
theorem reads_memberRestrictions
    {draft : ClassDraft}
    {position : Nat}
    (flagsStand : FlagsStand bytes draft position state.restrictions)
    (inRange : ∀ flags ∈ draft.restrictions, position < flags.length) :
    ∃ following,
      FlagsStand bytes draft (position + 1) following
        ∧ Reads bytes (Image.memberRestrictions.run state) []
          (draft.categoriesAt position, { state with restrictions := following }) := by
  rcases state with ⟨index, values, place?, directory⟩
  rw [ClassDraft.categoriesAt]
  unfold FlagsStand at flagsStand ⊢
  dsimp only at flagsStand
  generalize draft.restrictions = flags? at flagsStand inRange
  rcases flagsStand with ⟨stands⟩ | _
  · next place flags =>
      rw [restrictionItem_drop (inRange flags rfl)] at stands
      refine ⟨_, .some stands.right, ?_⟩
      dsimp only
      generalize flags.getD position 0 = flag at stands
      have read : Reads bytes (Decoder.readAt place Decoder.uleb128) []
          (flag.toNat, place + (Leb128.encode flag.toNat).length) :=
        fun position _ => Decoder.readAt_eq_ok (reads_uleb128 flag.toNat_lt) stands.left
      have sameFlag : flag.toNat.toUInt32 = flag := UInt32.ofNat_toNat
      have result :
          Reads bytes
            (Image.memberRestrictions.run { index, values, restrictions := some place, directory })
            []
            (HiddenApi.Categories.ofFlags flag.toNat.toUInt32, {
              index
              values
              restrictions := some (place + (Leb128.encode flag.toNat).length)
              directory
            }) :=
        reads_run_silent (reads_pure (_, _))
          (reads_run_silent (reads_run_lift read) (reads_pure _))
      rw [sameFlag] at result
      exact result
  · exact ⟨none, .none, reads_pure _⟩

end Steps

/-! The invariant of the state. -/

/-- What a state says about the members of a class that are still to come. -/
structure Awaits
    (bytes : ByteArray)
    (tables : EntryTables)
    (draft : ClassDraft)
    (position : Nat)
    (fields : List FieldDraft)
    (methods : List MethodDraft)
    (state : MemberState) : Prop where
  flagsStand : FlagsStand bytes draft position state.restrictions
  flagsLeft :
    ∀ flags ∈ draft.restrictions, position + (fields.length + methods.length) = flags.length
  distinctFields : (fields.map (tables.fieldNumber draft.typeName)).Nodup
  distinctMethods : (methods.map (tables.methodNumber draft.typeName)).Nodup
  ofFields :
    ∀ field ∈ fields,
      state.directory.ofFields.getD (tables.fieldNumber draft.typeName field) [] =
        notes field.annotations
  ofMethods :
    ∀ method ∈ methods,
      state.directory.ofMethods.getD (tables.methodNumber draft.typeName method) [] =
        notes method.annotations
  ofParameters :
    ∀ method ∈ methods,
      state.directory.ofParameters.getD (tables.methodNumber draft.typeName method) [] =
        method.parameterAnnotations.map notes

/-- The invariant only depends on the flags and the directory. -/
theorem Awaits.of_same
    {bytes : ByteArray}
    {tables : EntryTables}
    {draft : ClassDraft}
    {fields : List FieldDraft}
    {methods : List MethodDraft}
    {position : Nat}
    {state next : MemberState}
    (awaits : Awaits bytes tables draft position fields methods state)
    (sameFlags : next.restrictions = state.restrictions)
    (sameDirectory : next.directory = state.directory) :
    Awaits bytes tables draft position fields methods next where
  flagsStand := by
    rw [sameFlags]
    exact awaits.flagsStand
  flagsLeft := awaits.flagsLeft
  distinctFields := awaits.distinctFields
  distinctMethods := awaits.distinctMethods
  ofFields := by
    rw [sameDirectory]
    exact awaits.ofFields
  ofMethods := by
    rw [sameDirectory]
    exact awaits.ofMethods
  ofParameters := by
    rw [sameDirectory]
    exact awaits.ofParameters

/-- The next member has a flag, if the class has flags. -/
theorem Awaits.lt_length
    {bytes : ByteArray}
    {tables : EntryTables}
    {draft : ClassDraft}
    {fields : List FieldDraft}
    {methods : List MethodDraft}
    {position : Nat}
    {state : MemberState}
    (awaits : Awaits bytes tables draft position fields methods state)
    (someLeft : 0 < fields.length + methods.length) :
    ∀ flags ∈ draft.restrictions, position < flags.length := by
  intro flags member
  have left := awaits.flagsLeft flags member
  omega

/-- Erasing the entry of the first element keeps those of the others. -/
theorem getD_erase_of_nodup
    {entries : Std.TreeMap Nat β}
    {number : α → Nat}
    {value : α → β}
    {fallback : β}
    {first : α}
    {rest : List α}
    (distinct : ((first :: rest).map number).Nodup)
    (found : ∀ element ∈ first :: rest, entries.getD (number element) fallback = value element) :
    ∀ element ∈ rest,
      (entries.erase (number first)).getD (number element) fallback = value element := by
  intro element member
  rw [List.map_cons, List.nodup_cons] at distinct
  have different : number first ≠ number element := by
    intro same
    rw [same] at distinct
    exact distinct.1 (List.mem_map_of_mem member)
  rw [Std.TreeMap.getD_erase, if_neg fun same => different (Nat.compare_eq_eq.mp same)]
  exact found element (List.mem_cons_of_mem _ member)

/-- The state behind a field. -/
def MemberState.behindField
    (state : MemberState)
    (number : Nat)
    (following : Option Nat) : MemberState where
  index := number
  values := state.values.tail
  restrictions := following
  directory := { state.directory with ofFields := state.directory.ofFields.erase number }

/-- The state behind a method. -/
def MemberState.behindMethod
    (state : MemberState)
    (number : Nat)
    (following : Option Nat) : MemberState where
  index := number
  values := state.values
  restrictions := following
  directory := { state.directory with
    ofMethods := state.directory.ofMethods.erase number
    ofParameters := state.directory.ofParameters.erase number }

section Members

variable
  {image : Image}
  {tables : EntryTables}
  {draft : ClassDraft}
  {position : Nat}
  {state : MemberState}

/-- Behind a field the state awaits the members that are left. -/
theorem Awaits.behindField
    {field : FieldDraft}
    {fields : List FieldDraft}
    {methods : List MethodDraft}
    {following : Option Nat}
    (awaits : Awaits image.bytes tables draft position (field :: fields) methods state)
    (flagsStand : FlagsStand image.bytes draft (position + 1) following) :
    Awaits image.bytes tables draft (position + 1) fields methods
      (state.behindField (tables.fieldNumber draft.typeName field) following) where
  flagsStand
  flagsLeft := fun flags member => by
    rw [← awaits.flagsLeft flags member, List.length_cons]
    omega
  distinctFields := (List.nodup_cons.mp awaits.distinctFields).2
  distinctMethods := awaits.distinctMethods
  ofFields := getD_erase_of_nodup awaits.distinctFields awaits.ofFields
  ofMethods := awaits.ofMethods
  ofParameters := awaits.ofParameters

/-- Behind a method the state awaits the methods that are left. -/
theorem Awaits.behindMethod
    {method : MethodDraft}
    {methods : List MethodDraft}
    {following : Option Nat}
    (awaits : Awaits image.bytes tables draft position [] (method :: methods) state)
    (flagsStand : FlagsStand image.bytes draft (position + 1) following) :
    Awaits image.bytes tables draft (position + 1) [] methods
      (state.behindMethod (tables.methodNumber draft.typeName method) following) where
  flagsStand
  flagsLeft := fun flags member => by
    rw [← awaits.flagsLeft flags member, List.length_cons]
    omega
  distinctFields := awaits.distinctFields
  distinctMethods := (List.nodup_cons.mp awaits.distinctMethods).2
  ofFields := awaits.ofFields
  ofMethods := getD_erase_of_nodup awaits.distinctMethods awaits.ofMethods
  ofParameters := getD_erase_of_nodup awaits.distinctMethods awaits.ofParameters

/-- A field is read with what the state says about it. -/
theorem reads_field
    (shown : image.Shows tables)
    (plainClass : IsPlainType draft.typeName)
    {field : FieldDraft}
    {fields : List FieldDraft}
    {methods : List MethodDraft}
    (readable : field.IsReadable)
    (numbered : tables.NumbersField draft.typeName field)
    (awaits : Awaits image.bytes tables draft position (field :: fields) methods state)
    (ascending : state.index ≤ tables.fieldNumber draft.typeName field) :
    ∃ next,
      Awaits image.bytes tables draft (position + 1) fields methods next
        ∧ next.index = tables.fieldNumber draft.typeName field
        ∧ next.values = state.values.tail
        ∧ Reads image.bytes (image.field.run state)
          (Leb128.encode (tables.fieldNumber draft.typeName field - state.index)
            ++ Leb128.encode field.flags.toNat)
          (field.record draft.typeName state.values.head? (draft.categoriesAt position), next) := by
  have fits := Nat.lt_of_succ_lt (shown.field_succ_lt numbered)
  have isReference :=
    shown.fieldRef_eq ⟨plainClass, readable.fieldType, readable.name⟩ numbered
  have sameFlags : field.flags.toNat.toUInt32 = field.flags := UInt32.ofNat_toNat
  have inRange := awaits.lt_length (by rw [List.length_cons]; omega)
  obtain ⟨following, flagsStand, flagsRead⟩ :=
    @reads_memberRestrictions image.bytes
      { index := tables.fieldNumber draft.typeName field
        values := state.values.tail
        restrictions := state.restrictions
        directory := state.directory }
      draft position awaits.flagsStand inRange
  have notesFound := awaits.ofFields field List.mem_cons_self
  refine ⟨state.behindField _ following, awaits.behindField flagsStand, rfl, rfl, ?_⟩
  refine reads_run_bind (reads_memberIndex ascending fits) ?_
  rw [← List.append_nil (Leb128.encode field.flags.toNat)]
  refine reads_run_bind (reads_run_lift (reads_uleb128 field.flags.toNat_lt)) ?_
  refine reads_run_silent reads_memberValue ?_
  refine reads_run_silent flagsRead ?_
  refine reads_run_silent (reads_run_except isReference) ?_
  refine reads_run_silent (reads_fieldAnnotations _) ?_
  rw [sameFlags, notesFound]
  exact reads_pure _

/-- The parameter of a type with the name and the annotations at a position. -/
def parameterOf
    (names : List (Option String))
    (sets : List Annotations)
    (position : Nat)
    (parameterType : TypeDescriptor) : Parameter where
  parameterType
  name := names[position]?.join
  signature := signatureOf (sets[position]?.getD [])
  annotations := sets[position]?.getD []

/-- Parameters are read with their types, their names and their annotations. -/
theorem parameters_eq
    (types : List TypeDescriptor)
    {names : List (Option String)}
    {sets : List Annotations}
    (wellFormed : ∀ set ∈ sets, set.genericSignature? = .ok (signatureOf set)) :
    Image.parameters types names sets = .ok (types.mapIdx (parameterOf names sets)) := by
  induction types generalizing names sets with
  | nil => rfl
  | cons first rest inductionHypothesis =>
      have tailWellFormed : ∀ set ∈ sets.tail, set.genericSignature? = .ok (signatureOf set) :=
        fun set member => wellFormed set (List.mem_of_mem_tail member)
      have restRead := @inductionHypothesis names.tail sets.tail tailWellFormed
      have headWellFormed :
          (sets.headD []).genericSignature? = .ok (signatureOf (sets.headD [])) := by
        cases sets with
        | nil => rfl
        | cons set others => exact wellFormed set List.mem_cons_self
      have firstRead :
          Parameter.ofAnnotations first names.head?.join (sets.headD []) =
            .ok (parameterOf names sets 0 first) := by
        rw [Parameter.ofAnnotations, headWellFormed, parameterOf]
        cases names <;> cases sets <;> rfl
      have sameRest :
          (fun position => parameterOf names.tail sets.tail position) =
            fun position => parameterOf names sets (position + 1) := by
        funext position
        cases names <;> cases sets <;> rfl
      rw [Image.parameters, firstRead, restRead, List.mapIdx_cons, ← sameRest]
      rfl

/-- The parameters of a readable method are those that are meant. -/
theorem parameters_eq_mapIdx
    {method : MethodDraft}
    (readable : method.IsReadable) :
    Image.parameters method.parameterTypes method.parameterNames
        (method.parameterAnnotations.map notes) =
      .ok (method.parameterTypes.mapIdx method.parameterAt) := by
  rw [parameters_eq]
  · congr 2
    funext position parameterType
    rw [parameterOf, MethodDraft.parameterAt, MethodDraft.notesAt, List.getElem?_map]
    cases method.parameterAnnotations[position]? <;> rfl
  · intro set member
    obtain ⟨drafts, inMethod, rfl⟩ := List.mem_map.mp member
    exact readable.signatures drafts inMethod

/-- A method is read with what the state says about it. -/
theorem reads_method
    (shown : image.Shows tables)
    (plainClass : IsPlainType draft.typeName)
    {method : MethodDraft}
    {methods : List MethodDraft}
    {bodyOffset : Nat}
    (readable : method.IsReadable)
    (numbered : tables.NumbersMethod draft.typeName method)
    (bodyRead : IsReadAt image.optionalBody bodyOffset
      (method.body.map BodyDraft.record, method.parameterNames))
    (awaits : Awaits image.bytes tables draft position [] (method :: methods) state)
    (ascending : state.index ≤ tables.methodNumber draft.typeName method) :
    ∃ next,
      Awaits image.bytes tables draft (position + 1) [] methods next
        ∧ next.index = tables.methodNumber draft.typeName method
        ∧ Reads image.bytes (image.method.run state)
          (Leb128.encode (tables.methodNumber draft.typeName method - state.index)
            ++ (Leb128.encode method.flags.toNat ++ Leb128.encode bodyOffset))
          (method.record draft.typeName (draft.categoriesAt position), next) := by
  have fits := Nat.lt_of_succ_lt (shown.method_succ_lt numbered)
  have isReference :=
    shown.methodRef_eq plainClass readable.name readable.parameterTypes readable.returnType numbered
  have sameFlags : method.flags.toNat.toUInt32 = method.flags := UInt32.ofNat_toNat
  have inRange := awaits.lt_length (by rw [List.length_cons]; omega)
  obtain ⟨following, flagsStand, flagsRead⟩ :=
    @reads_memberRestrictions image.bytes
      { index := tables.methodNumber draft.typeName method
        values := state.values
        restrictions := state.restrictions
        directory := state.directory }
      draft position awaits.flagsStand inRange
  have notesFound := awaits.ofMethods method List.mem_cons_self
  have setsFound := awaits.ofParameters method List.mem_cons_self
  refine ⟨state.behindMethod _ following, awaits.behindMethod flagsStand, rfl, ?_⟩
  refine reads_run_bind (reads_memberIndex ascending fits) ?_
  refine reads_run_bind (reads_run_lift (reads_uleb128 method.flags.toNat_lt)) ?_
  rw [← List.append_nil (Leb128.encode bodyOffset)]
  refine reads_run_bind (reads_run_lift (reads_uleb128 bodyRead.fits)) ?_
  refine reads_run_silent flagsRead ?_
  refine reads_run_silent (reads_run_except isReference) ?_
  refine reads_run_silent (reads_run_except bodyRead.reads) ?_
  refine reads_run_silent (reads_parameterAnnotations _) ?_
  dsimp only
  rw [setsFound, MethodDraft.reference, parameters_eq_mapIdx readable]
  refine reads_run_silent (reads_methodAnnotations _) ?_
  dsimp only
  rw [sameFlags, notesFound]
  exact reads_pure _

end Members

end Dex

end DexSurface
