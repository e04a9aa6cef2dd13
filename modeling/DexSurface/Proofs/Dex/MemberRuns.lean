import DexSurface.Proofs.Dex.MemberReading

namespace DexSurface

namespace Dex

open Dex.Numbering (Settles Denotes DenotesField DenotesMethod)
open Decoder (Reads reads_pure reads_uleb128)
open EntryTables (NumbersField NumbersMethod)
open Layout (Yields yields_pure yields_bind yields_mapM yields_place)

/-!
# The data of a class are read back

Members stand in the order of their numbers, each number as the difference to the one before.  A run
of the decoder over a list of members keeps the invariant and gives the members in that order.
-/

section Runs

variable {bytes : ByteArray}

/-- Members are read in a row if each of them is read before those that follow. -/
theorem reads_memberRun
    {member : MemberDecoder α}
    (stored : β → StoredMember)
    {tail : StoredMember → List UInt8}
    (value : Nat → β → α)
    (holds : Nat → List β → MemberState → Prop)
    (step : ∀ position element rest state,
      holds position (element :: rest) state → state.index ≤ (stored element).index →
        ∃ next, holds (position + 1) rest next
          ∧ next.index = (stored element).index
          ∧ Reads bytes (member.run state)
            (Leb128.encode ((stored element).index - state.index) ++ tail (stored element))
            (value position element, next))
    {elements : List β}
    (ascending : elements.Pairwise fun first second =>
      (stored first).index ≤ (stored second).index)
    {position : Nat}
    (state : MemberState)
    (starts : holds position elements state)
    (above : ∀ element ∈ elements, state.index ≤ (stored element).index) :
    ∃ next, holds (position + elements.length) [] next
      ∧ Reads bytes ((times elements.length member).run state)
        (StoredMember.bytesFrom tail state.index (elements.map stored))
        (elements.mapIdx fun offset element => value (position + offset) element, next) := by
  induction elements generalizing position state with
  | nil => exact ⟨state, starts, reads_pure _⟩
  | cons first rest inductionHypothesis =>
      obtain ⟨middle, middleHolds, middleIndex, firstReads⟩ :=
        step position first rest state starts (above first List.mem_cons_self)
      obtain ⟨firstBelow, restAscending⟩ := List.pairwise_cons.mp ascending
      obtain ⟨next, nextHolds, restReads⟩ :=
        inductionHypothesis restAscending middle middleHolds fun element inRest => by
          rw [middleIndex]
          exact firstBelow element inRest
      refine ⟨next, ?_, ?_⟩
      · rw [List.length_cons, ← Nat.add_assoc, Nat.add_right_comm]
        exact nextHolds
      · have sameValues :
            (fun offset element => value (position + 1 + offset) element) =
              fun offset element => value (position + (offset + 1)) element := by
          funext offset element
          rw [Nat.add_assoc, Nat.add_comm 1]
        rw [middleIndex, sameValues] at restReads
        rw [List.length_cons, times_succ, List.mapIdx_cons, List.map_cons, StoredMember.bytesFrom]
        refine reads_run_bind firstReads ?_
        rw [← List.append_nil (StoredMember.bytesFrom _ _ _)]
        exact reads_run_bind restReads (reads_pure _)

/-- A list of members starts at the index zero. -/
theorem reads_memberList
    {count : Nat}
    {member : MemberDecoder α}
    {item : List UInt8}
    {state : MemberState}
    {result : List α × MemberState}
    (reads : Reads bytes ((times count member).run { state with index := 0 }) item result) :
    Reads bytes ((Image.memberList count member).run state) item result :=
  reads_run_silent (reads_pure ((), { state with index := 0 })) reads

end Runs

/-! Members in the order of their numbers. -/

/-- A field of a class as the class data store it. -/
def storedField
    (tables : EntryTables)
    (definingClass : TypeDescriptor)
    (draft : FieldDraft) : StoredMember where
  index := tables.fieldNumber definingClass draft
  flags := draft.flags.toNat
  bodyOffset := 0

/-- A method of a class and the offset of its body as the class data store them. -/
def storedMethod
    (tables : EntryTables)
    (definingClass : TypeDescriptor)
    (pair : MethodDraft × Nat) : StoredMember where
  index := tables.methodNumber definingClass pair.1
  flags := pair.1.flags.toNat
  bodyOffset := pair.2

/-- A member precedes itself. -/
theorem precedes_self (member : StoredMember) : member.precedes member = true := by
  rw [StoredMember.precedes, if_pos rfl, if_pos rfl]
  exact decide_eq_true (Nat.le_refl _)

/-- Of two members with different indices the one with the smaller index precedes the other. -/
theorem precedes_of_ne
    {first second : StoredMember}
    (different : first.index ≠ second.index) :
    first.precedes second = decide (first.index ≤ second.index) := by
  rw [StoredMember.precedes, if_neg different]
  exact decide_eq_decide.mpr ⟨Nat.le_of_lt, fun atMost => Nat.lt_of_le_of_ne atMost different⟩

/-- Members with different numbers are sorted by their numbers alone. -/
theorem sorted_map
    {stored : α → StoredMember}
    {elements : List α}
    (distinct : (elements.map fun element => (stored element).index).Nodup) :
    StoredMember.sorted (elements.map stored) =
      (elements.mergeSort fun first second =>
        (stored first).index ≤ (stored second).index).map stored := by
  refine (List.map_mergeSort fun first firstMember second secondMember => ?_).symm
  by_cases same : (stored first).index = (stored second).index
  · obtain rfl := List.inj_on_of_nodup_map distinct firstMember secondMember same
    rw [precedes_self]
    exact decide_eq_true (Nat.le_refl _)
  · exact (precedes_of_ne same).symm

/-- Elements sorted by their numbers have ascending numbers. -/
theorem pairwise_mergeSort_le (number : α → Nat) (elements : List α) :
    (elements.mergeSort fun first second => number first ≤ number second).Pairwise
      fun first second => number first ≤ number second := by
  refine (List.pairwise_mergeSort ?_ ?_ elements).imp fun first => of_decide_eq_true first
  · intro first second third firstBelow secondBelow
    exact decide_eq_true
      (Nat.le_trans (of_decide_eq_true firstBelow) (of_decide_eq_true secondBelow))
  · intro first second
    rw [Bool.or_eq_true, decide_eq_true_eq, decide_eq_true_eq]
    exact Nat.le_total _ _

section Lists

variable
  {image : Image}
  {tables : EntryTables}
  {draft : ClassDraft}
  {state : MemberState}

/-- The invariant of a run over fields that come before other members. -/
structure AwaitsFields
    (image : Image)
    (tables : EntryTables)
    (draft : ClassDraft)
    (values : List EncodedValue)
    (later : List FieldDraft)
    (methods : List MethodDraft)
    (position : Nat)
    (pending : List FieldDraft)
    (state : MemberState) : Prop where
  readable : ∀ field ∈ pending, field.IsReadable
  numbered : ∀ field ∈ pending, tables.NumbersField draft.typeName field
  sameValues : state.values = values.drop position
  awaits : Awaits image.bytes tables draft position (pending ++ later) methods state

/-- The invariant of a run over methods that come before other methods. -/
structure AwaitsMethods
    (image : Image)
    (tables : EntryTables)
    (draft : ClassDraft)
    (later : List MethodDraft)
    (position : Nat)
    (pending : List (MethodDraft × Nat))
    (state : MemberState) : Prop where
  readable : ∀ pair ∈ pending, pair.1.IsReadable
  numbered : ∀ pair ∈ pending, tables.NumbersMethod draft.typeName pair.1
  bodiesRead :
    ∀ pair ∈ pending,
      IsReadAt image.optionalBody pair.2
        (pair.1.body.map BodyDraft.record, pair.1.parameterNames)
  awaits : Awaits image.bytes tables draft position [] (pending.map Prod.fst ++ later) state

variable
  (shown : image.Shows tables)
  (plainClass : IsPlainType draft.typeName)

include shown plainClass

/-- Reading a field keeps the invariant of the fields that are left. -/
theorem step_field
    {values : List EncodedValue}
    {later : List FieldDraft}
    {methods : List MethodDraft}
    (position : Nat)
    (field : FieldDraft)
    (rest : List FieldDraft)
    (state : MemberState)
    (pending : AwaitsFields image tables draft values later methods position (field :: rest) state)
    (above : state.index ≤ (storedField tables draft.typeName field).index) :
    ∃ next,
      AwaitsFields image tables draft values later methods (position + 1) rest next
        ∧ next.index = (storedField tables draft.typeName field).index
        ∧ Reads image.bytes (image.field.run state)
          (Leb128.encode ((storedField tables draft.typeName field).index - state.index)
            ++ StoredMember.fieldTail (storedField tables draft.typeName field))
          (field.record draft.typeName values[position]? (draft.categoriesAt position), next) := by
  obtain ⟨next, nextAwaits, nextIndex, nextValues, reads⟩ :=
    reads_field shown plainClass (pending.readable field List.mem_cons_self)
      (pending.numbered field List.mem_cons_self) pending.awaits above
  rw [pending.sameValues, List.head?_drop] at reads
  refine ⟨next, ⟨?_, ?_, ?_, nextAwaits⟩, nextIndex, reads⟩
  · exact fun other member => pending.readable other (List.mem_cons_of_mem _ member)
  · exact fun other member => pending.numbered other (List.mem_cons_of_mem _ member)
  · rw [nextValues, pending.sameValues, List.tail_drop]

/-- Reading a method keeps the invariant of the methods that are left. -/
theorem step_method
    {later : List MethodDraft}
    (position : Nat)
    (pair : MethodDraft × Nat)
    (rest : List (MethodDraft × Nat))
    (state : MemberState)
    (pending : AwaitsMethods image tables draft later position (pair :: rest) state)
    (above : state.index ≤ (storedMethod tables draft.typeName pair).index) :
    ∃ next,
      AwaitsMethods image tables draft later (position + 1) rest next
        ∧ next.index = (storedMethod tables draft.typeName pair).index
        ∧ Reads image.bytes (image.method.run state)
          (Leb128.encode ((storedMethod tables draft.typeName pair).index - state.index)
            ++ StoredMember.methodTail (storedMethod tables draft.typeName pair))
          (pair.1.record draft.typeName (draft.categoriesAt position), next) := by
  obtain ⟨next, nextAwaits, nextIndex, reads⟩ :=
    reads_method shown plainClass (pending.readable pair List.mem_cons_self)
      (pending.numbered pair List.mem_cons_self) (pending.bodiesRead pair List.mem_cons_self)
      pending.awaits above
  refine ⟨next, ⟨?_, ?_, ?_, nextAwaits⟩, nextIndex, reads⟩
  · exact fun other member => pending.readable other (List.mem_cons_of_mem _ member)
  · exact fun other member => pending.numbered other (List.mem_cons_of_mem _ member)
  · exact fun other member => pending.bodiesRead other (List.mem_cons_of_mem _ member)

/-- A run over fields gives their records. -/
theorem reads_fieldList
    {fields later : List FieldDraft}
    {methods : List MethodDraft}
    {values : List EncodedValue}
    {position : Nat}
    (ascending : fields.Pairwise fun first second =>
      tables.fieldNumber draft.typeName first ≤ tables.fieldNumber draft.typeName second)
    (pending : AwaitsFields image tables draft values later methods position fields state) :
    ∃ next,
      Awaits image.bytes tables draft (position + fields.length) later methods next
        ∧ Reads image.bytes ((Image.memberList fields.length image.field).run state)
          (StoredMember.bytesFrom StoredMember.fieldTail 0
            (fields.map (storedField tables draft.typeName)))
          (fields.mapIdx fun offset field =>
              field.record draft.typeName values[position + offset]?
                (draft.categoriesAt (position + offset)),
            next) := by
  obtain ⟨next, nextPending, reads⟩ :=
    reads_memberRun (storedField tables draft.typeName)
      (fun position field =>
        field.record draft.typeName values[position]? (draft.categoriesAt position))
      (AwaitsFields image tables draft values later methods)
      (step_field shown plainClass) ascending { state with index := 0 }
      ⟨pending.readable, pending.numbered, pending.sameValues, pending.awaits.of_same rfl rfl⟩
      fun field member => Nat.zero_le _
  exact ⟨next, nextPending.awaits, reads_memberList reads⟩

/-- A run over methods gives their records. -/
theorem reads_methodList
    {methods : List (MethodDraft × Nat)}
    {later : List MethodDraft}
    {position : Nat}
    (ascending : methods.Pairwise fun first second =>
      tables.methodNumber draft.typeName first.1 ≤ tables.methodNumber draft.typeName second.1)
    (pending : AwaitsMethods image tables draft later position methods state) :
    ∃ next,
      Awaits image.bytes tables draft (position + methods.length) [] later next
        ∧ Reads image.bytes ((Image.memberList methods.length image.method).run state)
          (StoredMember.bytesFrom StoredMember.methodTail 0
            (methods.map (storedMethod tables draft.typeName)))
          (methods.mapIdx fun offset pair =>
              pair.1.record draft.typeName (draft.categoriesAt (position + offset)),
            next) := by
  obtain ⟨next, nextPending, reads⟩ :=
    reads_memberRun (storedMethod tables draft.typeName)
      (fun position pair => pair.1.record draft.typeName (draft.categoriesAt position))
      (AwaitsMethods image tables draft later)
      (step_method shown plainClass) ascending { state with index := 0 }
      ⟨pending.readable, pending.numbered, pending.bodiesRead, pending.awaits.of_same rfl rfl⟩
      fun pair member => Nat.zero_le _
  exact ⟨next, nextPending.awaits, reads_memberList reads⟩

end Lists

/-! The lists of members in the class data. -/

section Sorted

variable {tables : EntryTables} {definingClass : TypeDescriptor}

/-- Numbered fields are stored as their drafts say. -/
theorem map_ofField_eq
    {drafts : List FieldDraft}
    {entries : List NumberedField}
    (denoted : List.Forall₂ (DenotesField tables definingClass) drafts entries) :
    entries.map StoredMember.ofField = drafts.map (storedField tables definingClass) := by
  induction denoted with
  | nil => rfl
  | cons firstDenoted restDenoted inductionHypothesis =>
      rw [List.map_cons, List.map_cons, inductionHypothesis, StoredMember.ofField, storedField,
        EntryTables.fieldNumber_eq firstDenoted, firstDenoted.flags]

/-- Numbered methods are stored as their drafts and the offsets of their bodies say. -/
theorem zipWith_ofMethod_eq
    {drafts : List MethodDraft}
    {entries : List NumberedMethod}
    (offsets : List Nat)
    (denoted : List.Forall₂ (DenotesMethod tables definingClass) drafts entries) :
    entries.zipWith StoredMember.ofMethod offsets =
      (drafts.zip offsets).map (storedMethod tables definingClass) := by
  induction denoted generalizing offsets with
  | nil => rfl
  | cons firstDenoted restDenoted inductionHypothesis =>
      cases offsets with
      | nil => rfl
      | cons offset others =>
          rw [List.zipWith_cons_cons, List.zip_cons_cons, List.map_cons, inductionHypothesis,
            StoredMember.ofMethod, storedMethod, EntryTables.methodNumber_eq firstDenoted,
            firstDenoted.flags]

/-- Methods with the offsets of their bodies, in the order of their numbers. -/
def sortPairs
    (tables : EntryTables)
    (definingClass : TypeDescriptor)
    (pairs : List (MethodDraft × Nat)) : List (MethodDraft × Nat) :=
  pairs.mergeSort fun left right =>
    tables.methodNumber definingClass left.1 ≤ tables.methodNumber definingClass right.1

/-- Sorting methods with the offsets of their bodies sorts the methods. -/
theorem map_fst_sortPairs (pairs : List (MethodDraft × Nat)) :
    (sortPairs tables definingClass pairs).map Prod.fst =
      tables.sortMethods definingClass (pairs.map Prod.fst) :=
  List.map_mergeSort fun _ _ _ _ => rfl

/-- The stored fields are sorted by the numbers of their drafts. -/
theorem sorted_fields
    {drafts : List FieldDraft}
    {entries : List NumberedField}
    (denoted : List.Forall₂ (DenotesField tables definingClass) drafts entries)
    (distinct : (drafts.map (tables.fieldNumber definingClass)).Nodup) :
    StoredMember.sorted (entries.map .ofField) =
      (tables.sortFields definingClass drafts).map (storedField tables definingClass) := by
  rw [map_ofField_eq denoted]
  exact sorted_map distinct

/-- The stored methods are sorted by the numbers of their drafts. -/
theorem sorted_methods
    {drafts : List MethodDraft}
    {entries : List NumberedMethod}
    {offsets : List Nat}
    (denoted : List.Forall₂ (DenotesMethod tables definingClass) drafts entries)
    (sameLength : drafts.length = offsets.length)
    (distinct : (drafts.map (tables.methodNumber definingClass)).Nodup) :
    StoredMember.sorted (entries.zipWith .ofMethod offsets) =
      (sortPairs tables definingClass (drafts.zip offsets)).map
        (storedMethod tables definingClass) := by
  rw [zipWith_ofMethod_eq offsets denoted]
  apply sorted_map
  rw [← List.map_fst_zip (Nat.le_of_eq sameLength), List.map_map] at distinct
  exact distinct

end Sorted

end Dex

end DexSurface
