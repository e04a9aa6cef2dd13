import DexSurface.Proofs.Dex.ExactAddresses

namespace DexSurface

namespace Dex

open Decoder (of_bind_eq_ok of_bind_eq_error of_lift_bind_eq_ok of_lift_eq_error bind_eq_of_ok
  uleb128_reports)

/-!
# Members at sums of differences

A member is stored as the difference of its index to the one before, and the numbers behind it.
Members that are read stand at the sums of the differences up to them, counted without bound; a
member breaks off only where such a sum, or a sum of advances in its body, takes more than 32 bits.
-/

/-! Members as they are encoded. -/

/-- The numbers of a member: the difference of its index to the one before, and those behind it. -/
structure EncodedMember where
  difference : Nat
  operands : List Nat

namespace EncodedMember

/-- The next member. -/
def decode (operands : Nat) : Decoder EncodedMember := do
  let difference ← Decoder.uleb128
  return { difference, operands := ← times operands Decoder.uleb128 }

/-- A member is encoded from a position on and ends at another. -/
def IsEncoded
    (bytes : ByteArray)
    (operands position : Nat)
    (member : EncodedMember)
    (after : Nat) : Prop :=
  decode operands bytes position = .ok (member, after)

/-- The flags of a member. -/
def flags (member : EncodedMember) : Nat :=
  member.operands.getD 0 0

/-- The offset of the body of a member, zero if it has none. -/
def bodyOffset (member : EncodedMember) : Nat :=
  member.operands.getD 1 0

/-- The sum of the differences of members. -/
def sum (members : List EncodedMember) : Nat :=
  total EncodedMember.difference members

/-- The indices of members, each the sum of the differences up to it. -/
def indices (members : List EncodedMember) : List Nat :=
  (List.range members.length).map fun position => sum (members.take (position + 1))

end EncodedMember

/-! Records at exact sums. -/

/-- What a directory holds at an index that no member before has used. -/
def untaken (entries : Std.TreeMap Nat (List α)) (used : List Nat) (index : Nat) : List α :=
  if index ∈ used then [] else entries.getD index []

/-- Records belong to encoded members at the sums of the differences up to them. -/
structure IndexedExactly
    (shows : (used : List Nat) → (index : Nat) → EncodedMember → α → Prop)
    (used : List Nat)
    (members : List EncodedMember)
    (records : List α) : Prop where
  sameLength : records.length = members.length
  fits : EncodedMember.sum members < Bytes.span 4
  shows :
    ∀ position member record,
      members[position]? = some member →
        records[position]? = some record →
          shows (used ++ (EncodedMember.indices members).take position)
            (EncodedMember.sum (members.take (position + 1))) member record

namespace Image

/-- A record of a field at an index, with the annotations of the directory at that index. -/
structure ShowsField
    (image : Image)
    (directory : AnnotationDirectory)
    (used : List Nat)
    (index : Nat)
    (member : EncodedMember)
    (record : FieldRecord) : Prop where
  reference :
    image.fieldRef index =
      .ok {
        definingClass := record.definingClass
        name := record.name
        fieldType := record.fieldType
      }
  flags : record.flags = member.flags.toUInt32
  annotations : record.annotations = untaken directory.ofFields used index

/--
A record of a method at an index, with the annotations of the directory at that index, and a body
whose locals start at exact sums.
-/
structure ShowsMethod
    (image : Image)
    (directory : AnnotationDirectory)
    (used : List Nat)
    (index : Nat)
    (member : EncodedMember)
    (record : MethodRecord) : Prop where
  reference :
    ∃ parameterTypes names,
      image.methodRef index =
          .ok {
            definingClass := record.definingClass
            name := record.name
            parameterTypes
            returnType := record.returnType
          }
        ∧ parameters parameterTypes names (untaken directory.ofParameters used index)
          = .ok record.parameters
  flags : record.flags = member.flags.toUInt32
  annotations : record.annotations = untaken directory.ofMethods used index
  withoutBody : member.bodyOffset = 0 → record.body = none
  withBody :
    member.bodyOffset ≠ 0 →
      ∃ body, record.body = some body ∧ image.StartsExactly member.bodyOffset body.locals

end Image

/-! Steps of a decoder of members. -/

namespace Image

/-- The index of a member is its difference to the one before, advanced without overflow. -/
theorem memberIndex_run (state : MemberState) :
    memberIndex.run state =
      Decoder.uleb128 >>= fun difference =>
        liftM (advance state.index difference) >>= fun index =>
          pure (index, { state with index }) := by
  simp [memberIndex]

/-- A field is read as its index, its flags, its restrictions and then its reference. -/
theorem field_run (image : Image) (state : MemberState) :
    image.field.run state =
      memberIndex.run state >>= fun placed =>
        Decoder.uleb128 >>= fun flags =>
          memberRestrictions.run { placed.2 with values := placed.2.values.tail } >>=
            fun restricted =>
              liftM (image.fieldRef placed.1) >>= fun reference =>
                pure
                  ({  definingClass := reference.definingClass
                      name := reference.name
                      fieldType := reference.fieldType
                      flags := flags.toUInt32
                      initialValue := placed.2.values.head?
                      annotations := restricted.2.directory.ofFields.getD placed.1 []
                      hiddenApi := restricted.1 },
                    { restricted.2 with
                      directory := { restricted.2.directory with
                        ofFields := restricted.2.directory.ofFields.erase placed.1 } }) := by
  simp [field, memberValue, fieldAnnotations, takeEntry]

/-- Restrictions are read from the state if it has any. -/
theorem memberRestrictions_run (state : MemberState) :
    memberRestrictions.run state =
      match state.restrictions with
      | none => pure (.empty, state)
      | some position => Decoder.readAt position Decoder.uleb128 >>= fun read =>
          pure (HiddenApi.Categories.ofFlags read.1.toUInt32,
            { state with restrictions := some read.2 }) := by
  cases restrictions : state.restrictions <;> simp [memberRestrictions, restrictions]

/-- A method is read as its index, its flags, the offset of its body and then its reference. -/
theorem method_run (image : Image) (state : MemberState) :
    image.method.run state =
      memberIndex.run state >>= fun placed =>
        Decoder.uleb128 >>= fun flags => Decoder.uleb128 >>= fun bodyOffset =>
          memberRestrictions.run placed.2 >>= fun restricted =>
            liftM (image.methodRef placed.1) >>= fun reference =>
              liftM (image.optionalBody bodyOffset) >>= fun shown =>
                match parameters reference.parameterTypes shown.2
                    (restricted.2.directory.ofParameters.getD placed.1 []) with
                | .error error => throw (.record error)
                | .ok parameters =>
                    pure
                      ({  definingClass := reference.definingClass
                          name := reference.name
                          flags := flags.toUInt32
                          parameters
                          returnType := reference.returnType
                          annotations := restricted.2.directory.ofMethods.getD placed.1 []
                          hiddenApi := restricted.1
                          body := shown.1 },
                        { restricted.2 with
                          directory := { restricted.2.directory with
                            ofMethods := restricted.2.directory.ofMethods.erase placed.1
                            ofParameters :=
                              restricted.2.directory.ofParameters.erase placed.1 } }) := by
  simp only [method, methodAnnotations, parameterAnnotations, takeEntry, StateT.run_bind]
  refine bind_congr fun placed => ?_
  simp
  refine bind_congr fun flags => ?_
  refine bind_congr fun bodyOffset => ?_
  refine bind_congr fun restricted => ?_
  refine bind_congr fun reference => ?_
  refine bind_congr fun shown => ?_
  cases parameters reference.parameterTypes shown.2
    (restricted.2.directory.ofParameters.getD placed.1 []) with
  | error error => rfl
  | ok parameters => simp

end Image

section Steps

variable {image : Image} {bytes : ByteArray} {state next : MemberState} {position after : Nat}

/-- An index that is read is an exact sum of less than 32 bits. -/
theorem memberIndex_eq_ok
    {index : Nat}
    (read : Image.memberIndex.run state bytes position = .ok ((index, next), after)) :
    ∃ difference,
      Decoder.uleb128 bytes position = .ok (difference, after)
        ∧ state.index + difference < Bytes.span 4
        ∧ index = state.index + difference
        ∧ next = { state with index } := by
  rw [Image.memberIndex_run] at read
  obtain ⟨difference, _, readDifference, read⟩ := of_bind_eq_ok read
  obtain ⟨reached, advanced, read⟩ := of_lift_bind_eq_ok read
  cases read
  rw [advance] at advanced
  split at advanced
  · next inRange =>
      cases advanced
      exact ⟨difference, readDifference, inRange, rfl, rfl⟩
  · cases advanced

/-- An index that overflows is a sum of more than 32 bits. -/
theorem memberIndex_eq_overflow
    (failed : Image.memberIndex.run state bytes position = .error .counterOverflow) :
    ∃ difference after,
      Decoder.uleb128 bytes position = .ok (difference, after)
        ∧ Bytes.span 4 ≤ state.index + difference := by
  rw [Image.memberIndex_run] at failed
  rcases of_bind_eq_error failed with failed | ⟨difference, after, readDifference, failed⟩
  · exact absurd rfl (uleb128_reports failed)
  · refine ⟨difference, after, readDifference, Nat.not_lt.mp fun inRange => ?_⟩
    rw [advance_of_lt inRange] at failed
    cases failed

/-- Reading restrictions changes nothing else of the state and takes no bytes. -/
theorem memberRestrictions_eq_ok
    {categories : HiddenApi.Categories}
    (read : Image.memberRestrictions.run state bytes position = .ok ((categories, next), after)) :
    (∃ restrictions, next = { state with restrictions }) ∧ after = position := by
  rw [Image.memberRestrictions_run] at read
  cases place : state.restrictions with
  | none =>
      rw [place] at read
      cases read
      exact ⟨⟨state.restrictions, rfl⟩, rfl⟩
  | some other =>
      rw [place] at read
      obtain ⟨⟨flags, following⟩, middle, readFlags, read⟩ := of_bind_eq_ok read
      cases read
      rw [Decoder.readAt] at readFlags
      split at readFlags <;> cases readFlags
      exact ⟨⟨_, rfl⟩, rfl⟩

/-- Reading restrictions fails in a way that is reported. -/
theorem memberRestrictions_reports
    {error : Error}
    (failed : Image.memberRestrictions.run state bytes position = .error error) :
    error.IsReported := by
  rw [Image.memberRestrictions_run] at failed
  cases place : state.restrictions with
  | none =>
      rw [place] at failed
      cases failed
  | some other =>
      rw [place] at failed
      rcases of_bind_eq_error failed with failed | ⟨_, _, _, failed⟩
      · rw [Decoder.readAt] at failed
        split at failed
        · cases failed
        · next failsThere =>
            cases failed
            exact uleb128_reports failsThere
      · cases failed

end Steps

/-! What is left of a directory. -/

/-- Erasing the entry at an index leaves what no member has used, that index included. -/
theorem untaken_erase
    {entries left : Std.TreeMap Nat (List α)}
    {used : List Nat}
    (isLeft : ∀ index, left.getD index [] = untaken entries used index)
    (taken index : Nat) :
    (left.erase taken).getD index [] = untaken entries (used ++ [taken]) index := by
  rw [Std.TreeMap.getD_erase, isLeft, untaken, untaken]
  simp only [List.mem_append, List.mem_singleton, Nat.compare_eq_eq]
  by_cases same : taken = index
  · subst same
    simp
  · rw [if_neg same]
    simp [Ne.symm same]

/-- A directory is what fields and methods have left of another. -/
structure IsLeftOf
    (directory : AnnotationDirectory)
    (fields methods : List Nat)
    (left : AnnotationDirectory) : Prop where
  ofFields : ∀ index, left.ofFields.getD index [] = untaken directory.ofFields fields index
  ofMethods : ∀ index, left.ofMethods.getD index [] = untaken directory.ofMethods methods index
  ofParameters :
    ∀ index, left.ofParameters.getD index [] = untaken directory.ofParameters methods index

/-- Before any member the directory is what is left of itself. -/
theorem IsLeftOf.refl (directory : AnnotationDirectory) : IsLeftOf directory [] [] directory where
  ofFields index := by simp [untaken]
  ofMethods index := by simp [untaken]
  ofParameters index := by simp [untaken]

namespace IsLeftOf

variable {directory left : AnnotationDirectory} {fields methods : List Nat}

/-- Erasing the entry of a field leaves what this field and those before have left. -/
theorem eraseField (isLeft : IsLeftOf directory fields methods left) (index : Nat) :
    IsLeftOf directory (fields ++ [index]) methods
      { left with ofFields := left.ofFields.erase index } where
  ofFields := untaken_erase isLeft.ofFields index
  ofMethods := isLeft.ofMethods
  ofParameters := isLeft.ofParameters

/-- Erasing the entries of a method leaves what this method and those before have left. -/
theorem eraseMethod (isLeft : IsLeftOf directory fields methods left) (index : Nat) :
    IsLeftOf directory fields (methods ++ [index])
      { left with
        ofMethods := left.ofMethods.erase index
        ofParameters := left.ofParameters.erase index } where
  ofFields := isLeft.ofFields
  ofMethods := untaken_erase isLeft.ofMethods index
  ofParameters := untaken_erase isLeft.ofParameters index

end IsLeftOf

/-! Stepping by differences. -/

namespace EncodedMember

variable {bytes : ByteArray} {position middle behind after difference flags bodyOffset : Nat}

/-- The two numbers of a field encode it. -/
theorem isEncoded_field
    (readDifference : Decoder.uleb128 bytes position = .ok (difference, middle))
    (readFlags : Decoder.uleb128 bytes middle = .ok (flags, after)) :
    IsEncoded bytes 1 position ⟨difference, [flags]⟩ after := by
  rw [IsEncoded, decode, bind_eq_of_ok readDifference]
  simp only [times_succ, times_zero, bind_assoc, pure_bind]
  exact bind_eq_of_ok readFlags

/-- The three numbers of a method encode it. -/
theorem isEncoded_method
    (readDifference : Decoder.uleb128 bytes position = .ok (difference, middle))
    (readFlags : Decoder.uleb128 bytes middle = .ok (flags, behind))
    (readOffset : Decoder.uleb128 bytes behind = .ok (bodyOffset, after)) :
    IsEncoded bytes 2 position ⟨difference, [flags, bodyOffset]⟩ after := by
  rw [IsEncoded, decode, bind_eq_of_ok readDifference]
  simp only [times_succ, times_zero, bind_assoc, pure_bind]
  rw [bind_eq_of_ok readFlags]
  exact bind_eq_of_ok readOffset

end EncodedMember

/--
A member is read from the numbers of an encoded one, at the index before it and the difference; it
breaks off only if that sum or something else of the member takes more than 32 bits.
-/
structure StepsExactly
    (bytes : ByteArray)
    (operands : Nat)
    (member : MemberDecoder α)
    (holds : List Nat → AnnotationDirectory → Prop)
    (shows : List Nat → Nat → EncodedMember → α → Prop)
    (exceeds : EncodedMember → Prop) : Prop where
  ok :
    ∀ used state position record next after,
      holds used state.directory →
        member.run state bytes position = .ok ((record, next), after) →
          ∃ encoded,
            EncodedMember.IsEncoded bytes operands position encoded after
              ∧ state.index + encoded.difference < Bytes.span 4
              ∧ next.index = state.index + encoded.difference
              ∧ holds (used ++ [state.index + encoded.difference]) next.directory
              ∧ shows used (state.index + encoded.difference) encoded record
  overflow :
    ∀ state position,
      member.run state bytes position = .error .counterOverflow →
        (∃ difference after,
            Decoder.uleb128 bytes position = .ok (difference, after)
              ∧ Bytes.span 4 ≤ state.index + difference)
          ∨ ∃ encoded after,
            EncodedMember.IsEncoded bytes operands position encoded after ∧ exceeds encoded

namespace Image

variable (image : Image) (directory : AnnotationDirectory)

/-- A field is read at an exact index, and it breaks off only for that index. -/
theorem field_stepsExactly (methods : List Nat) :
    StepsExactly image.bytes 1 image.field (fun fields => IsLeftOf directory fields methods)
      (image.ShowsField directory) (fun _ => False) where
  ok := by
    intro used state position record next after isLeft read
    rw [field_run] at read
    obtain ⟨⟨index, placed⟩, _, readIndex, read⟩ := of_bind_eq_ok read
    obtain ⟨flags, _, readFlags, read⟩ := of_bind_eq_ok read
    obtain ⟨⟨categories, restricted⟩, _, readRestrictions, read⟩ := of_bind_eq_ok read
    obtain ⟨reference, readReference, read⟩ := of_lift_bind_eq_ok read
    cases read
    obtain ⟨difference, readDifference, fits, rfl, rfl⟩ := memberIndex_eq_ok readIndex
    obtain ⟨⟨restrictions, rfl⟩, rfl⟩ := memberRestrictions_eq_ok readRestrictions
    refine ⟨⟨difference, [flags]⟩, ?_, fits, rfl, isLeft.eraseField _, ?_⟩
    · exact EncodedMember.isEncoded_field readDifference readFlags
    · exact {
        reference := readReference
        flags := rfl
        annotations := isLeft.ofFields _
      }
  overflow := by
    intro state position failed
    rw [field_run] at failed
    rcases of_bind_eq_error failed with failed | ⟨⟨index, placed⟩, _, _, failed⟩
    · exact .inl (memberIndex_eq_overflow failed)
    rcases of_bind_eq_error failed with failed | ⟨flags, _, _, failed⟩
    · exact absurd rfl (uleb128_reports failed)
    rcases of_bind_eq_error failed with failed | ⟨⟨categories, restricted⟩, _, _, failed⟩
    · exact absurd rfl (memberRestrictions_reports failed)
    rcases of_bind_eq_error failed with failed | ⟨reference, _, _, failed⟩
    · exact absurd rfl (image.reports_fieldRef index _ (of_lift_eq_error failed))
    · cases failed

variable {image} in
/-- A body that is read has its locals at the exact sums of the advances. -/
theorem startsExactly_of_optionalBody
    {offset : Nat}
    {body? : Option MethodBody}
    {names : List (Option String)}
    (read : image.optionalBody offset = .ok (body?, names)) :
    (offset = 0 → body? = none)
      ∧ (offset ≠ 0 → ∃ body, body? = some body ∧ image.StartsExactly offset body.locals) := by
  rw [optionalBody] at read
  split at read
  · next absent =>
      cases read
      exact ⟨fun _ => rfl, fun present => absurd absent present⟩
  · next present =>
      obtain ⟨⟨body, _⟩, readBody, read⟩ := isGiving_except.of_bind read
      cases read
      exact ⟨fun absent => absurd absent present, fun _ => ⟨body, rfl,
        startsExactly_of_body readBody⟩⟩

/-- A body whose reading breaks off has events that add up to more than 32 bits. -/
theorem eventsExceed_of_optionalBody
    {offset : Nat}
    (failed : image.optionalBody offset = .error .counterOverflow) :
    offset ≠ 0 ∧ image.EventsExceed offset := by
  rw [optionalBody] at failed
  split at failed
  · cases failed
  · next present =>
      rcases error_of_bind failed with failed | ⟨_, _, failed⟩
      · exact ⟨present, eventsExceed_of_body failed⟩
      · cases failed

/-- A method is read at an exact index, and it breaks off only for that index or its body. -/
theorem method_stepsExactly (fields : List Nat) :
    StepsExactly image.bytes 2 image.method (IsLeftOf directory fields)
      (image.ShowsMethod directory)
      (fun member => member.bodyOffset ≠ 0 ∧ image.EventsExceed member.bodyOffset) where
  ok := by
    intro used state position record next after isLeft read
    rw [method_run] at read
    obtain ⟨⟨index, placed⟩, _, readIndex, read⟩ := of_bind_eq_ok read
    obtain ⟨flags, _, readFlags, read⟩ := of_bind_eq_ok read
    obtain ⟨bodyOffset, _, readOffset, read⟩ := of_bind_eq_ok read
    obtain ⟨⟨categories, restricted⟩, _, readRestrictions, read⟩ := of_bind_eq_ok read
    obtain ⟨reference, readReference, read⟩ := of_lift_bind_eq_ok read
    obtain ⟨⟨body?, names⟩, readBody, read⟩ := of_lift_bind_eq_ok read
    dsimp only at read
    cases isParameters : parameters reference.parameterTypes names
      (restricted.directory.ofParameters.getD index []) with
    | error failure =>
        rw [isParameters] at read
        cases read
    | ok parameters =>
    rw [isParameters] at read
    cases read
    obtain ⟨difference, readDifference, fits, rfl, rfl⟩ := memberIndex_eq_ok readIndex
    obtain ⟨⟨restrictions, rfl⟩, rfl⟩ := memberRestrictions_eq_ok readRestrictions
    refine ⟨⟨difference, [flags, bodyOffset]⟩, ?_, fits, rfl, isLeft.eraseMethod _, ?_⟩
    · exact EncodedMember.isEncoded_method readDifference readFlags readOffset
    · rw [isLeft.ofParameters] at isParameters
      obtain ⟨noBody, withBody⟩ := startsExactly_of_optionalBody readBody
      exact {
        reference := ⟨reference.parameterTypes, names, readReference, isParameters⟩
        flags := rfl
        annotations := isLeft.ofMethods _
        withoutBody := noBody
        withBody := withBody
      }
  overflow := by
    intro state position failed
    rw [method_run] at failed
    rcases of_bind_eq_error failed with failed | ⟨⟨index, placed⟩, _, readIndex, failed⟩
    · exact .inl (memberIndex_eq_overflow failed)
    rcases of_bind_eq_error failed with failed | ⟨flags, _, readFlags, failed⟩
    · exact absurd rfl (uleb128_reports failed)
    rcases of_bind_eq_error failed with failed | ⟨bodyOffset, _, readOffset, failed⟩
    · exact absurd rfl (uleb128_reports failed)
    rcases of_bind_eq_error failed with failed | ⟨⟨categories, restricted⟩, _, _, failed⟩
    · exact absurd rfl (memberRestrictions_reports failed)
    rcases of_bind_eq_error failed with failed | ⟨reference, _, _, failed⟩
    · exact absurd rfl (image.reports_methodRef index _ (of_lift_eq_error failed))
    rcases of_bind_eq_error failed with failed | ⟨shown, _, _, failed⟩
    · obtain ⟨difference, readDifference, -, -, -⟩ := memberIndex_eq_ok readIndex
      exact .inr ⟨⟨difference, [flags, bodyOffset]⟩, _,
        EncodedMember.isEncoded_method readDifference readFlags readOffset,
        image.eventsExceed_of_optionalBody (of_lift_eq_error failed)⟩
    · dsimp only at failed
      cases isParameters : parameters reference.parameterTypes shown.2
        (restricted.directory.ofParameters.getD index []) <;>
        rw [isParameters] at failed <;> cases failed

end Image

/-! Runs of members. -/

/-- The indices of members behind one at an index. -/
def indicesFrom (index : Nat) : List EncodedMember → List Nat
  | [] => []
  | member :: rest =>
      (index + member.difference) :: indicesFrom (index + member.difference) rest

/-- Records belong to encoded members at indices that are counted on from one before. -/
structure IndexedFrom
    (shows : (used : List Nat) → (index : Nat) → EncodedMember → α → Prop)
    (used : List Nat)
    (index : Nat)
    (members : List EncodedMember)
    (records : List α) : Prop where
  sameLength : records.length = members.length
  fits : index + EncodedMember.sum members < Bytes.span 4
  shows :
    ∀ position member record,
      members[position]? = some member →
        records[position]? = some record →
          shows (used ++ (indicesFrom index members).take position)
            (index + EncodedMember.sum (members.take (position + 1))) member record

/-- The first difference is added to those of the other members. -/
theorem EncodedMember.sum_cons (member : EncodedMember) (members : List EncodedMember) :
    sum (member :: members) = member.difference + sum members := by
  rw [sum, total_cons, ← sum]

/-- The differences of members in sequence are the sum of both parts. -/
theorem EncodedMember.sum_append (members others : List EncodedMember) :
    sum (members ++ others) = sum members + sum others := by
  rw [sum, total_append, ← sum, ← sum]

/-- The index of a member is the sum of the differences up to it. -/
theorem indicesFrom_eq (index : Nat) (members : List EncodedMember) :
    indicesFrom index members =
      (List.range members.length).map fun position =>
        index + EncodedMember.sum (members.take (position + 1)) := by
  induction members generalizing index with
  | nil => rfl
  | cons member rest inductionHypothesis =>
      rw [indicesFrom, inductionHypothesis, List.length_cons, List.range_succ_eq_map,
        List.map_cons, List.map_map]
      simp [Function.comp_def, EncodedMember.sum, Nat.add_assoc]

/-- The indices of a list are counted on from zero. -/
theorem indicesFrom_zero (members : List EncodedMember) :
    indicesFrom 0 members = EncodedMember.indices members := by
  simp [indicesFrom_eq, EncodedMember.indices]

namespace IndexedFrom

variable {shows : List Nat → Nat → EncodedMember → α → Prop} {used : List Nat} {index : Nat}
  {member : EncodedMember} {members : List EncodedMember} {record : α} {records : List α}

/-- No members have no records. -/
theorem nil (fits : index < Bytes.span 4) :
    IndexedFrom shows used index [] ([] : List α) where
  sameLength := rfl
  fits := fits
  shows := nofun

/-- A record at the next index stands before those that are counted on from it. -/
theorem cons
    (first : shows used (index + member.difference) member record)
    (rest : IndexedFrom shows (used ++ [index + member.difference]) (index + member.difference)
      members records) :
    IndexedFrom shows used index (member :: members) (record :: records) where
  sameLength := congrArg (· + 1) rest.sameLength
  fits := by
    rw [EncodedMember.sum_cons, ← Nat.add_assoc]
    exact rest.fits
  shows := by
    intro position other record isOther isRecord
    cases position with
    | zero =>
        cases isOther
        cases isRecord
        simpa [EncodedMember.sum] using first
    | succ position =>
        have shown := rest.shows position other record isOther isRecord
        rw [List.append_assoc] at shown
        rw [List.take_succ_cons, EncodedMember.sum_cons, ← Nat.add_assoc]
        exact shown

/-- Records that are counted on from zero stand at the sums of the differences. -/
theorem exactly (indexed : IndexedFrom shows used 0 members records) :
    IndexedExactly shows used members records where
  sameLength := indexed.sameLength
  fits := by
    rw [← Nat.zero_add (EncodedMember.sum members)]
    exact indexed.fits
  shows := by
    intro position member record isMember isRecord
    have shown := indexed.shows position member record isMember isRecord
    rw [indicesFrom_zero, Nat.zero_add] at shown
    exact shown

end IndexedFrom

/-- Members break off behind some of them: a sum or something else takes more than 32 bits. -/
def BreaksOff
    (bytes : ByteArray)
    (operands : Nat)
    (exceeds : EncodedMember → Prop)
    (index count position : Nat) : Prop :=
  ∃ members middle,
    InTurn (EncodedMember.IsEncoded bytes operands) position members middle
      ∧ members.length < count
      ∧ ((∃ difference after,
            Decoder.uleb128 bytes middle = .ok (difference, after)
              ∧ Bytes.span 4 ≤ index + EncodedMember.sum members + difference)
          ∨ ∃ member after,
            EncodedMember.IsEncoded bytes operands middle member after ∧ exceeds member)

namespace StepsExactly

variable {bytes : ByteArray} {operands : Nat} {member : MemberDecoder α}
  {holds : List Nat → AnnotationDirectory → Prop}
  {shows : List Nat → Nat → EncodedMember → α → Prop}
  {exceeds : EncodedMember → Prop}
  {used : List Nat} {state next : MemberState} {position after count : Nat}

/-- Reading one more member reads the first one and then the others. -/
theorem times_run_succ (count : Nat) :
    (times (count + 1) member).run state =
      member.run state >>= fun first =>
        (times count member).run first.2 >>= fun rest =>
          pure (first.1 :: rest.1, rest.2) := by
  simp [times_succ]

/--
Members that are read stand in turn, at the sums of the differences up to them.  The state carries
the index of the member before, and the list of used indices those of all members before.
-/
theorem run
    {records : List α}
    (steps : StepsExactly bytes operands member holds shows exceeds)
    (holding : holds used state.directory)
    (fits : state.index < Bytes.span 4)
    (read : (times count member).run state bytes position = .ok ((records, next), after)) :
    ∃ members,
      InTurn (EncodedMember.IsEncoded bytes operands) position members after
        ∧ members.length = count
        ∧ IndexedFrom shows used state.index members records
        ∧ holds (used ++ indicesFrom state.index members) next.directory := by
  induction count generalizing used state position records with
  | zero =>
      rw [times_zero] at read
      cases read
      refine ⟨[], .nil _, rfl, .nil fits, ?_⟩
      rw [indicesFrom, List.append_nil]
      exact holding
  | succ count inductionHypothesis =>
      rw [times_run_succ] at read
      obtain ⟨⟨record, reached⟩, middle, readFirst, read⟩ := of_bind_eq_ok read
      obtain ⟨⟨rest, last⟩, behind, readRest, read⟩ := of_bind_eq_ok read
      cases read
      obtain ⟨encoded, isEncoded, fits, sameIndex, holding, shown⟩ :=
        steps.ok used state position record reached middle holding readFirst
      rw [← sameIndex] at fits
      obtain ⟨members, inTurn, length, indexed, holding⟩ :=
        inductionHypothesis (sameIndex ▸ holding) fits readRest
      rw [sameIndex] at indexed holding
      refine ⟨encoded :: members, .cons isEncoded inTurn, congrArg (· + 1) length,
        .cons shown indexed, ?_⟩
      rw [List.append_assoc] at holding
      exact holding

/-- Members break off only if something takes more than 32 bits. -/
theorem run_overflow
    (steps : StepsExactly bytes operands member holds shows exceeds)
    (holding : holds used state.directory)
    (failed : (times count member).run state bytes position = .error .counterOverflow) :
    BreaksOff bytes operands exceeds state.index count position := by
  induction count generalizing used state position with
  | zero =>
      rw [times_zero] at failed
      cases failed
  | succ count inductionHypothesis =>
      rw [times_run_succ] at failed
      rcases of_bind_eq_error failed with failed | ⟨⟨record, reached⟩, middle, readFirst, failed⟩
      · exact ⟨[], position, .nil position, Nat.succ_pos count, steps.overflow _ _ failed⟩
      rcases of_bind_eq_error failed with failed | ⟨_, _, _, failed⟩
      · obtain ⟨encoded, isEncoded, -, sameIndex, holding, -⟩ :=
          steps.ok used state position record reached middle holding readFirst
        obtain ⟨members, last, inTurn, fewer, causes⟩ :=
          inductionHypothesis (sameIndex ▸ holding) failed
        refine ⟨encoded :: members, last, .cons isEncoded inTurn, Nat.succ_lt_succ fewer, ?_⟩
        rw [EncodedMember.sum_cons, ← Nat.add_assoc, ← sameIndex]
        exact causes
      · cases failed

end StepsExactly

end Dex

end DexSurface
