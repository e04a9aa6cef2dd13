import Mathlib
import DexSurface.Proofs.Dex.MemberSums

namespace DexSurface

namespace Dex

open Decoder (Moves of_bind_eq_ok of_bind_eq_error bind_eq_of_ok moves_u8 uleb128_reports)

/-!
# Counters never wrap

A class that is read has the members of each of its lists at the sums of the differences up to them,
and the locals of its bodies at the sums of the advances before them, all counted without bound.
Reading a class breaks off only where such a sum takes more than 32 bits, and where one does there
is no class.
-/

/-! Lists of members. -/

/-- The lists of the members of a class. -/
inductive MemberList where
  | staticFields
  | instanceFields
  | directMethods
  | virtualMethods
  deriving Repr, DecidableEq

namespace MemberList

/--
How many numbers stand behind the difference of a member: its flags, and for a method the offset of
its body.
-/
def operands : MemberList → Nat
  | .staticFields | .instanceFields => 1
  | .directMethods | .virtualMethods => 2

/-- The list behind a list. -/
def next? : MemberList → Option MemberList
  | .staticFields => some .instanceFields
  | .instanceFields => some .directMethods
  | .directMethods => some .virtualMethods
  | .virtualMethods => none

end MemberList

/-- The numbers of members in the lists of a class. -/
def memberCounts : Decoder (MemberList → Nat) := do
  let staticFields ← Decoder.uleb128
  let instanceFields ← Decoder.uleb128
  let directMethods ← Decoder.uleb128
  let virtualMethods ← Decoder.uleb128
  return fun
    | .staticFields => staticFields
    | .instanceFields => instanceFields
    | .directMethods => directMethods
    | .virtualMethods => virtualMethods

/--
Where the lists of a class begin: the first one at a start, the others behind all members of the
list before.
-/
inductive ListBegins (bytes : ByteArray) (counts : MemberList → Nat) (start : Nat) :
    MemberList → Nat → Prop where
  | first : ListBegins bytes counts start .staticFields start
  | next
      {list following : MemberList}
      {position after : Nat}
      {members : List EncodedMember}
      (begins : ListBegins bytes counts start list position)
      (inTurn : InTurn (EncodedMember.IsEncoded bytes list.operands) position members after)
      (all : members.length = counts list)
      (follows : list.next? = some following) :
      ListBegins bytes counts start following after

/-- All members of a list. -/
def StoresList
    (bytes : ByteArray)
    (counts : MemberList → Nat)
    (start : Nat)
    (list : MemberList)
    (members : List EncodedMember) : Prop :=
  ∃ position after,
    ListBegins bytes counts start list position
      ∧ InTurn (EncodedMember.IsEncoded bytes list.operands) position members after
      ∧ members.length = counts list

namespace Image

/-- A class has members: so many in each list, and the first list begins at a position. -/
def MembersBegin
    (image : Image)
    (index : Nat)
    (counts : MemberList → Nat)
    (start : Nat) : Prop :=
  ∃ head,
    image.classHead index = .ok head
      ∧ head.dataOffset ≠ 0
      ∧ image.readAt head.dataOffset (do
          let counts ← memberCounts
          return (counts, ← Decoder.position)) = .ok (counts, start)

/-- The members of a class at exact sums, each list with its own. -/
inductive ListsExactly
    (image : Image)
    (directory : AnnotationDirectory)
    (counts : MemberList → Nat)
    (start : Nat) : List FieldRecord → List MethodRecord → Prop where
  | mk
      {members : MemberList → List EncodedMember}
      {staticFields instanceFields : List FieldRecord}
      {directMethods virtualMethods : List MethodRecord}
      (stores : ∀ list, StoresList image.bytes counts start list (members list))
      (ofStatic : IndexedExactly (image.ShowsField directory) [] (members .staticFields)
        staticFields)
      (ofInstance : IndexedExactly (image.ShowsField directory)
        (EncodedMember.indices (members .staticFields)) (members .instanceFields) instanceFields)
      (ofDirect : IndexedExactly (image.ShowsMethod directory) [] (members .directMethods)
        directMethods)
      (ofVirtual : IndexedExactly (image.ShowsMethod directory)
        (EncodedMember.indices (members .directMethods)) (members .virtualMethods)
        virtualMethods) :
      ListsExactly image directory counts start (staticFields ++ instanceFields)
        (directMethods ++ virtualMethods)

/-- A class has its members at exact sums. -/
inductive CountsExactly (image : Image) (index : Nat) (record : ClassRecord) : Prop where
  | withoutMembers
      {head : ClassHead}
      (isHead : image.classHead index = .ok head)
      (absent : head.dataOffset = 0)
      (noFields : record.fields = [])
      (noMethods : record.methods = [])
  | withMembers
      {head : ClassHead}
      {directory : AnnotationDirectory}
      {counts : MemberList → Nat}
      {start : Nat}
      (isHead : image.classHead index = .ok head)
      (isDirectory : image.annotationDirectory head.annotationsOffset = .ok directory)
      (membersBegin : image.MembersBegin index counts start)
      (exactly : image.ListsExactly directory counts start record.fields record.methods)

/--
The members of a list up to one are followed by a sum of more than 32 bits: that of their
differences and the next one, or that of the advances in the body of the next one.
-/
inductive ListExceeds
    (image : Image)
    (list : MemberList)
    (members : List EncodedMember)
    (position : Nat) : Prop where
  | differences
      {difference after : Nat}
      (last : Decoder.uleb128 image.bytes position = .ok (difference, after))
      (exceeds : Bytes.span 4 ≤ EncodedMember.sum members + difference)
  | advances
      {member : EncodedMember}
      {after : Nat}
      (last : EncodedMember.IsEncoded image.bytes list.operands position member after)
      (hasBody : member.bodyOffset ≠ 0)
      (exceeds : image.EventsExceed member.bodyOffset)

/-- A sum of the members of some list takes more than 32 bits. -/
def ListsExceed (image : Image) (counts : MemberList → Nat) (start : Nat) : Prop :=
  ∃ list position members middle,
    ListBegins image.bytes counts start list position
      ∧ InTurn (EncodedMember.IsEncoded image.bytes list.operands) position members middle
      ∧ members.length < counts list
      ∧ image.ListExceeds list members middle

/-- A sum of the members of a class takes more than 32 bits. -/
def ExceedsCounter (image : Image) (index : Nat) : Prop :=
  ∃ counts start, image.MembersBegin index counts start ∧ image.ListsExceed counts start

/--
No counter of a class wraps: a class that is read has its members at exact sums, and a class whose
sums take more than 32 bits is refused.
-/
structure NeverWraps (image : Image) (index : Nat) : Prop where
  exact : ∀ record, image.classRecord index = .ok record → image.CountsExactly index record
  refuses :
    image.ExceedsCounter index →
      ∃ error, image.classRecord index = .error error ∧ error.IsReported

end Image

/-! Where lists stand. -/

namespace InTurn

variable {next : Nat → α → Nat → Prop} {position middle last : Nat} {items others : List α}

/-- Of items that stand in turn from the same position, the longer ones go on from the others. -/
theorem goesOn
    (functional : ∀ position first second middle last,
      next position first middle → next position second last → first = second ∧ middle = last)
    (inTurn : InTurn next position items middle)
    (longer : InTurn next position others last)
    (notLonger : items.length ≤ others.length) :
    ∃ rest, others = items ++ rest ∧ InTurn next middle rest last := by
  induction inTurn generalizing others with
  | nil => exact ⟨others, rfl, longer⟩
  | cons first _ inductionHypothesis =>
      cases longer with
      | nil => cases notLonger
      | cons otherFirst otherRest =>
          obtain ⟨rfl, rfl⟩ := functional _ _ _ _ _ first otherFirst
          obtain ⟨rest, rfl, goesOn⟩ :=
            inductionHypothesis otherRest (Nat.le_of_succ_le_succ notLonger)
          exact ⟨rest, rfl, goesOn⟩

end InTurn

section Places

variable {bytes : ByteArray} {counts : MemberList → Nat} {start position middle after : Nat}
  {list : MemberList} {members all : List EncodedMember}

/-- At most one member is encoded at a position. -/
theorem EncodedMember.isEncoded_unique
    {operands : Nat}
    (position : Nat)
    (first second : EncodedMember)
    (middle last : Nat)
    (isFirst : EncodedMember.IsEncoded bytes operands position first middle)
    (isSecond : EncodedMember.IsEncoded bytes operands position second last) :
    first = second ∧ middle = last := by
  cases isFirst.symm.trans isSecond
  exact ⟨rfl, rfl⟩

/-- No two lists are followed by the same one. -/
theorem MemberList.eq_of_next?
    {first second following : MemberList}
    (isFirst : first.next? = some following)
    (isSecond : second.next? = some following) :
    first = second := by
  have same : first.next? = second.next? := isFirst.trans isSecond.symm
  cases first <;> cases second <;> simp [MemberList.next?] at same ⊢

/-- No list is followed by that of the static fields. -/
theorem MemberList.next?_ne (list : MemberList) : list.next? ≠ some .staticFields := by
  cases list <;> simp [MemberList.next?]

/-- A list begins at one position only. -/
theorem ListBegins.unique
    {other : Nat}
    (begins : ListBegins bytes counts start list position)
    (beginsThere : ListBegins bytes counts start list other) :
    position = other := by
  induction begins generalizing other with
  | first =>
      cases beginsThere with
      | first => rfl
      | next _ _ _ follows => exact absurd follows (MemberList.next?_ne _)
  | next _ inTurn all follows inductionHypothesis =>
      cases beginsThere with
      | first => exact absurd follows (MemberList.next?_ne _)
      | next begins otherTurn otherAll otherFollows =>
          obtain rfl := MemberList.eq_of_next? follows otherFollows
          obtain rfl := inductionHypothesis begins
          obtain ⟨rest, rfl, goesOn⟩ := inTurn.goesOn EncodedMember.isEncoded_unique otherTurn
            (Nat.le_of_eq (all.trans otherAll.symm))
          have nothing : rest = [] := by
            rw [List.length_append, ← all] at otherAll
            exact List.eq_nil_of_length_eq_zero (by omega)
          subst nothing
          cases goesOn
          rfl

/-- Members of a list that do not reach its end are followed by another one. -/
theorem StoresList.next
    (stores : StoresList bytes counts start list all)
    (begins : ListBegins bytes counts start list position)
    (inTurn : InTurn (EncodedMember.IsEncoded bytes list.operands) position members middle)
    (fewer : members.length < counts list) :
    ∃ member rest after,
      all = members ++ member :: rest
        ∧ EncodedMember.IsEncoded bytes list.operands middle member after := by
  obtain ⟨otherPosition, _, otherBegins, allInTurn, length⟩ := stores
  obtain rfl := begins.unique otherBegins
  obtain ⟨rest, rfl, goesOn⟩ := inTurn.goesOn EncodedMember.isEncoded_unique allInTurn (by omega)
  cases goesOn with
  | nil =>
      rw [List.append_nil] at length
      omega
  | cons first others => exact ⟨_, _, _, rfl, first⟩

end Places

/-! Lists at exact sums. -/

namespace IndexedExactly

variable {shows : List Nat → Nat → EncodedMember → α → Prop} {used : List Nat}
  {members rest : List EncodedMember} {member : EncodedMember} {records : List α}

/-- The differences up to a member do not add up to more than 32 bits. -/
theorem sum_lt (exactly : IndexedExactly shows used (members ++ member :: rest) records) :
    EncodedMember.sum members + member.difference < Bytes.span 4 := by
  have fits := exactly.fits
  rw [EncodedMember.sum_append, EncodedMember.sum_cons] at fits
  omega

/-- Every member has a record. -/
theorem exists_shows (exactly : IndexedExactly shows used (members ++ member :: rest) records) :
    ∃ used index record, shows used index member record := by
  have inRecords : members.length < records.length := by
    rw [exactly.sameLength, List.length_append, List.length_cons]
    omega
  exact ⟨_, _, records[members.length],
    exactly.shows members.length member _ (by simp) (List.getElem?_eq_getElem inRecords)⟩

end IndexedExactly

namespace Image

variable {image : Image} {directory : AnnotationDirectory} {counts : MemberList → Nat}
  {start position : Nat} {fields : List FieldRecord} {methods : List MethodRecord}
  {members rest : List EncodedMember} {list : MemberList} {used : List Nat}

/-- A field has no body. -/
theorem bodyOffset_of_isEncoded
    {bytes : ByteArray}
    {member : EncodedMember}
    {after : Nat}
    (isEncoded : EncodedMember.IsEncoded bytes 1 position member after) :
    member.bodyOffset = 0 := by
  rw [EncodedMember.IsEncoded, EncodedMember.decode] at isEncoded
  simp only [times_succ, times_zero, bind_assoc, pure_bind] at isEncoded
  obtain ⟨difference, _, _, isEncoded⟩ := of_bind_eq_ok isEncoded
  obtain ⟨flags, _, _, isEncoded⟩ := of_bind_eq_ok isEncoded
  cases isEncoded
  rfl

/-- The difference of an encoded member is its first number. -/
theorem difference_of_isEncoded
    {bytes : ByteArray}
    {operands difference middle after : Nat}
    {member : EncodedMember}
    (isEncoded : EncodedMember.IsEncoded bytes operands position member after)
    (read : Decoder.uleb128 bytes position = .ok (difference, middle)) :
    member.difference = difference := by
  rw [EncodedMember.IsEncoded, EncodedMember.decode, bind_eq_of_ok read] at isEncoded
  obtain ⟨numbers, _, _, isEncoded⟩ := of_bind_eq_ok isEncoded
  cases isEncoded
  rfl

/-- No sum of fields at exact sums takes more than 32 bits. -/
theorem fields_not_exceed
    {records : List FieldRecord}
    {member : EncodedMember}
    {after : Nat}
    (operands : list.operands = 1)
    (isEncoded : EncodedMember.IsEncoded image.bytes list.operands position member after)
    (exactly : IndexedExactly (image.ShowsField directory) used (members ++ member :: rest)
      records) :
    ¬ image.ListExceeds list members position := by
  intro exceeded
  cases exceeded with
  | differences last exceeds =>
      rw [← difference_of_isEncoded isEncoded last] at exceeds
      exact Nat.not_lt.mpr exceeds exactly.sum_lt
  | advances last hasBody _ =>
      rw [operands] at last
      exact hasBody (bodyOffset_of_isEncoded last)

/-- No sum of methods at exact sums takes more than 32 bits. -/
theorem methods_not_exceed
    {records : List MethodRecord}
    {member : EncodedMember}
    {after : Nat}
    (isEncoded : EncodedMember.IsEncoded image.bytes list.operands position member after)
    (exactly : IndexedExactly (image.ShowsMethod directory) used (members ++ member :: rest)
      records) :
    ¬ image.ListExceeds list members position := by
  intro exceeded
  cases exceeded with
  | differences last exceeds =>
      rw [← difference_of_isEncoded isEncoded last] at exceeds
      exact Nat.not_lt.mpr exceeds exactly.sum_lt
  | advances last hasBody exceeds =>
      obtain ⟨rfl, -⟩ := EncodedMember.isEncoded_unique _ _ _ _ _ isEncoded last
      obtain ⟨_, _, record, shown⟩ := exactly.exists_shows
      obtain ⟨body, -, exact_⟩ := shown.withBody hasBody
      exact exact_.not_eventsExceed exceeds

/--
Where members are at exact sums, no sum takes more than 32 bits.  The bytes determine the members,
so those before an excess would be the first ones of the list.
-/
theorem ListsExactly.not_listsExceed
    (exactly : image.ListsExactly directory counts start fields methods) :
    ¬ image.ListsExceed counts start := by
  rintro ⟨list, position, members, middle, begins, inTurn, fewer, exceeded⟩
  cases exactly with
  | mk stores ofStatic ofInstance ofDirect ofVirtual =>
      obtain ⟨member, rest, after, same, isEncoded⟩ := (stores list).next begins inTurn fewer
      cases list with
      | staticFields => exact fields_not_exceed rfl isEncoded (same ▸ ofStatic) exceeded
      | instanceFields => exact fields_not_exceed rfl isEncoded (same ▸ ofInstance) exceeded
      | directMethods => exact methods_not_exceed isEncoded (same ▸ ofDirect) exceeded
      | virtualMethods => exact methods_not_exceed isEncoded (same ▸ ofVirtual) exceeded

/-- The members of a class begin at one position, with one count for each list. -/
theorem MembersBegin.unique
    {index otherStart : Nat}
    {otherCounts : MemberList → Nat}
    (begins : image.MembersBegin index counts start)
    (beginsThere : image.MembersBegin index otherCounts otherStart) :
    counts = otherCounts ∧ start = otherStart := by
  obtain ⟨head, isHead, -, read⟩ := begins
  obtain ⟨otherHead, isOtherHead, -, otherRead⟩ := beginsThere
  obtain rfl : head = otherHead := Except.ok.inj (isHead.symm.trans isOtherHead)
  cases read.symm.trans otherRead
  exact ⟨rfl, rfl⟩

/-- A class with its members at exact sums has no sum of more than 32 bits. -/
theorem CountsExactly.not_exceedsCounter
    {index : Nat}
    {record : ClassRecord}
    (exactly : image.CountsExactly index record) :
    ¬ image.ExceedsCounter index := by
  rintro ⟨counts, start, begins, exceed⟩
  cases exactly with
  | withoutMembers isHead absent _ _ =>
      obtain ⟨head, isOther, present, -⟩ := begins
      obtain rfl := Except.ok.inj (isHead.symm.trans isOther)
      exact present absent
  | withMembers _ _ membersBegin exactly =>
      obtain ⟨rfl, rfl⟩ := begins.unique membersBegin
      exact exactly.not_listsExceed exceed

/-! Reading the lists of a class. -/

/-- The members are read as their counts followed by the four lists. -/
theorem members_run (state : MemberState) :
    image.members.run state =
      memberCounts >>= fun counts =>
        (memberList (counts .staticFields) image.field).run state >>= fun ofStatic =>
          (memberList (counts .instanceFields) image.field).run
              { ofStatic.2 with values := [] } >>= fun ofInstance =>
            (memberList (counts .directMethods) image.method).run ofInstance.2 >>= fun ofDirect =>
              (memberList (counts .virtualMethods) image.method).run ofDirect.2 >>=
                fun ofVirtual =>
                  pure
                    ((ofStatic.1 ++ ofInstance.1, ofDirect.1 ++ ofVirtual.1), ofVirtual.2) := by
  simp [members, memberCounts]

end Image

namespace StepsExactly

variable {bytes : ByteArray} {operands : Nat} {member : MemberDecoder α}
  {holds : List Nat → AnnotationDirectory → Prop}
  {shows : List Nat → Nat → EncodedMember → α → Prop}
  {exceeds : EncodedMember → Prop}
  {used : List Nat} {state next : MemberState} {position after count : Nat}

/-- The members of a list stand in turn, at exact sums. -/
theorem list
    {records : List α}
    (steps : StepsExactly bytes operands member holds shows exceeds)
    (read :
      (Image.memberList count member).run state bytes position = .ok ((records, next), after))
    (holding : holds used state.directory) :
    ∃ members,
      InTurn (EncodedMember.IsEncoded bytes operands) position members after
        ∧ members.length = count
        ∧ IndexedExactly shows used members records
        ∧ holds (used ++ EncodedMember.indices members) next.directory := by
  have fits : 0 < Bytes.span 4 := by decide
  obtain ⟨members, inTurn, length, indexed, holding⟩ :=
    @StepsExactly.run _ _ _ _ _ _ _ _ { state with index := 0 } _ _ _ _ _ steps holding fits read
  rw [indicesFrom_zero] at holding
  exact ⟨members, inTurn, length, indexed.exactly, holding⟩

/-- A list breaks off only behind some of its members. -/
theorem list_overflow
    (steps : StepsExactly bytes operands member holds shows exceeds)
    (failed :
      (Image.memberList count member).run state bytes position = .error .counterOverflow)
    (holding : holds used state.directory) :
    BreaksOff bytes operands exceeds 0 count position :=
  @StepsExactly.run_overflow _ _ _ _ _ _ _ _ { state with index := 0 } _ _ steps holding failed

end StepsExactly

namespace Image

section Lists

variable {image : Image} {counts : MemberList → Nat} {start position after : Nat}
  {list : MemberList} {state next : MemberState}

/-- A list that breaks off has a sum of more than 32 bits. -/
theorem listsExceed_of_breaksOff
    {exceeds : EncodedMember → Prop}
    (begins : ListBegins image.bytes counts start list position)
    (breaksOff : BreaksOff image.bytes list.operands exceeds 0 (counts list) position)
    (body : ∀ member, exceeds member → member.bodyOffset ≠ 0
      ∧ image.EventsExceed member.bodyOffset) :
    image.ListsExceed counts start := by
  obtain ⟨members, middle, inTurn, fewer, causes⟩ := breaksOff
  refine ⟨list, position, members, middle, begins, inTurn, fewer, ?_⟩
  rcases causes with ⟨difference, after, last, exceeds⟩ | ⟨member, after, last, exceeded⟩
  · rw [Nat.zero_add] at exceeds
    exact .differences last exceeds
  · obtain ⟨hasBody, exceeds⟩ := body member exceeded
    exact .advances last hasBody exceeds

/-- Members that are read stand at exact sums in their lists. -/
theorem listsExactly_of_members
    {fields : List FieldRecord}
    {methods : List MethodRecord}
    (read : image.members.run state image.bytes position = .ok (((fields, methods), next), after)) :
    ∃ counts start,
      memberCounts image.bytes position = .ok (counts, start)
        ∧ image.ListsExactly state.directory counts start fields methods := by
  rw [members_run] at read
  obtain ⟨counts, start, readCounts, read⟩ := of_bind_eq_ok read
  obtain ⟨ofStatic, _, readStatic, read⟩ := of_bind_eq_ok read
  obtain ⟨ofInstance, _, readInstance, read⟩ := of_bind_eq_ok read
  obtain ⟨ofDirect, _, readDirect, read⟩ := of_bind_eq_ok read
  obtain ⟨ofVirtual, _, readVirtual, read⟩ := of_bind_eq_ok read
  cases read
  obtain ⟨staticFields, staticTurn, staticLength, staticExactly, isLeft⟩ :=
    (image.field_stepsExactly state.directory []).list readStatic (IsLeftOf.refl _)
  obtain ⟨instanceFields, instanceTurn, instanceLength, instanceExactly, isLeft⟩ :=
    (image.field_stepsExactly state.directory []).list readInstance isLeft
  obtain ⟨directMethods, directTurn, directLength, directExactly, isLeft⟩ :=
    (image.method_stepsExactly state.directory _).list readDirect isLeft
  obtain ⟨virtualMethods, virtualTurn, virtualLength, virtualExactly, -⟩ :=
    (image.method_stepsExactly state.directory _).list readVirtual isLeft
  have second : ListBegins image.bytes counts start .instanceFields _ :=
    .next .first staticTurn staticLength rfl
  have third : ListBegins image.bytes counts start .directMethods _ :=
    .next second instanceTurn instanceLength rfl
  have fourth : ListBegins image.bytes counts start .virtualMethods _ :=
    .next third directTurn directLength rfl
  let members : MemberList → List EncodedMember
    | .staticFields => staticFields
    | .instanceFields => instanceFields
    | .directMethods => directMethods
    | .virtualMethods => virtualMethods
  refine ⟨counts, start, readCounts, @ListsExactly.mk image _ counts start members _ _ _ _ ?_
    staticExactly instanceExactly directExactly virtualExactly⟩
  rintro (_ | _ | _ | _)
  · exact ⟨_, _, .first, staticTurn, staticLength⟩
  · exact ⟨_, _, second, instanceTurn, instanceLength⟩
  · exact ⟨_, _, third, directTurn, directLength⟩
  · exact ⟨_, _, fourth, virtualTurn, virtualLength⟩

/-- Reading the counts of members fails in a way that is reported. -/
theorem memberCounts_reports
    {bytes : ByteArray}
    {error : Error}
    (failed : memberCounts bytes position = .error error) :
    error.IsReported := by
  rw [memberCounts] at failed
  iterate 4
    rcases of_bind_eq_error failed with failed | ⟨_, _, _, failed⟩
    · exact uleb128_reports failed
  cases failed

/-- Members whose reading breaks off have a sum of more than 32 bits in some list. -/
theorem listsExceed_of_members
    (failed : image.members.run state image.bytes position = .error .counterOverflow) :
    ∃ counts start,
      memberCounts image.bytes position = .ok (counts, start)
        ∧ image.ListsExceed counts start := by
  have fieldSteps := image.field_stepsExactly state.directory []
  rw [members_run] at failed
  rcases of_bind_eq_error failed with failed | ⟨counts, start, readCounts, failed⟩
  · exact absurd rfl (memberCounts_reports failed)
  refine ⟨counts, start, readCounts, ?_⟩
  rcases of_bind_eq_error failed with failed | ⟨ofStatic, _, readStatic, failed⟩
  · exact listsExceed_of_breaksOff .first (fieldSteps.list_overflow failed (IsLeftOf.refl _)) nofun
  obtain ⟨_, inTurn, length, -, isLeft⟩ := fieldSteps.list readStatic (IsLeftOf.refl _)
  have second : ListBegins image.bytes counts start .instanceFields _ :=
    .next .first inTurn length rfl
  rcases of_bind_eq_error failed with failed | ⟨ofInstance, _, readInstance, failed⟩
  · exact listsExceed_of_breaksOff second (fieldSteps.list_overflow failed isLeft) nofun
  obtain ⟨_, inTurn, length, -, isLeft⟩ := fieldSteps.list readInstance isLeft
  have third : ListBegins image.bytes counts start .directMethods _ :=
    .next second inTurn length rfl
  have methodSteps := image.method_stepsExactly state.directory
  rcases of_bind_eq_error failed with failed | ⟨ofDirect, _, readDirect, failed⟩
  · exact listsExceed_of_breaksOff third ((methodSteps _).list_overflow failed isLeft)
      fun _ => id
  obtain ⟨_, inTurn, length, -, isLeft⟩ := (methodSteps _).list readDirect isLeft
  have fourth : ListBegins image.bytes counts start .virtualMethods _ :=
    .next third inTurn length rfl
  rcases of_bind_eq_error failed with failed | ⟨ofVirtual, _, _, failed⟩
  · exact listsExceed_of_breaksOff fourth ((methodSteps _).list_overflow failed isLeft)
      fun _ => id
  · cases failed

end Lists

end Image

/-! Parts of a class without counters. -/

namespace Image

section Parts

variable {image : Image} {bytes : ByteArray} {start : Nat}

/-- The values of an array end inside the bytes. -/
theorem moves_values : Moves bytes start Error.IsReported image.values fun _ => 0 :=
  .remaining_bind fun limit => (moves_valuesOf (moves_valueWithin limit)).onwards

/-- An annotation ends inside the bytes. -/
theorem moves_annotationParts :
    Moves bytes start Error.IsReported image.annotationParts fun _ => 0 :=
  .remaining_bind fun limit => (moves_annotationOf (moves_valueWithin limit)).onwards

variable (image)

/-- Reading an annotation fails in a way that is reported. -/
theorem reports_annotationItem (offset : Nat) : Reports (image.annotationItem offset) := by
  refine reports_readAt (fun start => moves_u8.reported.onwards.bind fun byte => ?_) offset
  split
  · have refused : (Error.invalidVisibility byte offset).IsReported := nofun
    exact @Moves.throw Annotation _ _ _ _ _ refused
  · exact moves_annotationParts.bind fun _ => .pure _ rfl

/-- A step that reads a number of items, each at an offset. -/
theorem moves_itemsAt
    {item : Nat → Except Error α}
    (reports : ∀ offset, Reports (item offset)) :
    Moves bytes start Error.IsReported
      (Decoder.u32 >>= fun count => times count (Decoder.u32 >>= fun offset => item offset))
      fun _ => 0 := by
  refine moves_u32.bind fun count => ?_
  have itemMoves : Moves bytes start Error.IsReported
      (Decoder.u32 >>= fun offset => item offset) fun _ => 0 :=
    moves_u32.bind fun offset => .lift (reports offset)
  exact (itemMoves.times count).onwards

/-- Reading a set of annotations fails in a way that is reported. -/
theorem reports_annotationSet (offset : Nat) : Reports (image.annotationSet offset) := by
  rw [annotationSet]
  split
  · nofun
  · exact reports_readAt (fun _ => moves_itemsAt image.reports_annotationItem) offset

/-- Reading the annotation sets of parameters fails in a way that is reported. -/
theorem reports_annotationSets (offset : Nat) : Reports (image.annotationSets offset) :=
  reports_readAt (fun _ => moves_itemsAt image.reports_annotationSet) offset

/-- Entries of a directory end inside the bytes if their items fail as they are reported. -/
theorem moves_directoryEntries
    {item : Nat → Except Error α}
    (reports : ∀ offset, Reports (item offset))
    (count : Nat) :
    Moves bytes start Error.IsReported (directoryEntries count item) fun _ => 0 := by
  have entry : Moves bytes start Error.IsReported
      (do
        let index ← Decoder.u32
        let offset ← Decoder.u32
        return (index, ← item offset)) fun _ => 0 := by
    refine moves_u32.bind fun index => ?_
    refine moves_shown moves_u32 reports fun shown => ?_
    exact .pure _ rfl
  refine (entry.times count).onwards.bind fun entries => ?_
  exact .pure _ rfl

/-- Reading the annotations of a class fails in a way that is reported. -/
theorem reports_annotationDirectory (offset : Nat) :
    Reports (image.annotationDirectory offset) := by
  rw [annotationDirectory]
  split
  · nofun
  · refine reports_readAt (fun _ => ?_) offset
    refine moves_u32.bind fun classOffset => ?_
    refine moves_u32.bind fun fieldCount => ?_
    refine moves_u32.bind fun methodCount => ?_
    refine moves_u32.bind fun parameterCount => ?_
    have setReports := image.reports_annotationSet
    have setsReports := image.reports_annotationSets
    refine (Moves.lift (setReports classOffset)).bind fun ofClass => ?_
    refine (moves_directoryEntries setReports fieldCount).bind fun ofFields => ?_
    refine (moves_directoryEntries setReports methodCount).bind fun ofMethods => ?_
    refine (moves_directoryEntries setsReports parameterCount).bind fun ofParameters => ?_
    exact .pure _ rfl

/-- Reading the head of a class fails in a way that is reported. -/
theorem reports_classHead (index : Nat) : Reports (image.classHead index) := by
  have typeReports (word : Nat) := image.reports_optionalType (presentIndex? word)
  have textReports (word : Nat) := image.reports_optionalString (presentIndex? word)
  refine Reports.bind (reports_entry _ _ _ _) fun entry => ?_
  refine reports_readAt (fun start => ?_) entry
  refine moves_shown moves_u32 image.reports_typeName fun typeName => ?_
  refine moves_u32.bind fun flags => ?_
  refine moves_shown moves_u32 typeReports fun superclass => ?_
  refine moves_shown moves_u32 image.reports_typeList fun interfaces => ?_
  refine moves_shown moves_u32 textReports fun sourceFile => ?_
  refine moves_u32.bind fun annotationsOffset => ?_
  refine moves_u32.bind fun dataOffset => ?_
  refine moves_u32.bind fun valuesOffset => ?_
  exact .pure _ rfl

/-- Reading the values of static fields fails in a way that is reported. -/
theorem reports_staticValues (offset : Nat) : Reports (image.staticValues offset) := by
  rw [staticValues]
  split
  · nofun
  · exact reports_readAt (fun _ => moves_values) offset

/-- Finding the restrictions of a class fails in a way that is reported. -/
theorem reports_restrictionFlags (index : Nat) : Reports (image.restrictionFlags index) := by
  rw [restrictionFlags]
  split
  · nofun
  · refine Reports.bind (reports_readAt (fun _ => moves_u32) _) fun offset => ?_
    split
    · nofun
    · refine reports_readAt (fun _ => ?_) _
      rw [map_eq_pure_bind]
      exact .position_bind fun _ _ _ => .pure _ rfl

end Parts

/-! Reading a class. -/

variable {image : Image} {index : Nat} {head : ClassHead} {directory : AnnotationDirectory}

/-- The members of a class begin behind their counts. -/
theorem membersBegin_of_counts
    {counts : MemberList → Nat}
    {start : Nat}
    (isHead : image.classHead index = .ok head)
    (present : head.dataOffset ≠ 0)
    (inside : head.dataOffset ≤ image.bytes.size)
    (read : memberCounts image.bytes head.dataOffset = .ok (counts, start)) :
    image.MembersBegin index counts start := by
  refine ⟨head, isHead, present, readAt_eq_ok_iff.mpr ⟨inside, start, ?_⟩⟩
  rw [bind_eq_of_ok read]
  rfl

/-- Members that are read for a class are counted exactly. -/
theorem countsExactly_of_classMembers
    {record : ClassRecord}
    (isHead : image.classHead index = .ok head)
    (isDirectory : image.annotationDirectory head.annotationsOffset = .ok directory)
    (read : image.classMembers index head directory = .ok (record.fields, record.methods)) :
    image.CountsExactly index record := by
  rw [classMembers] at read
  split at read
  · next absent =>
      obtain ⟨noFields, noMethods⟩ := Prod.ext_iff.mp (Except.ok.inj read)
      exact .withoutMembers isHead absent noFields.symm noMethods.symm
  · next present =>
      obtain ⟨values, _, read⟩ := isGiving_except.of_bind read
      obtain ⟨restrictions, _, read⟩ := isGiving_except.of_bind read
      obtain ⟨inside, _, read⟩ := readAt_eq_ok_iff.mp read
      obtain ⟨⟨shown, last⟩, _, readMembers, read⟩ := of_bind_eq_ok read
      cases read
      obtain ⟨counts, start, readCounts, exactly⟩ := listsExactly_of_members readMembers
      exact .withMembers isHead isDirectory
        (membersBegin_of_counts isHead present inside readCounts) exactly

/-- A class that is read has its members counted exactly. -/
theorem countsExactly_of_classRecord
    {record : ClassRecord}
    (read : image.classRecord index = .ok record) :
    image.CountsExactly index record := by
  obtain ⟨head, isHead, read⟩ := isGiving_except.of_bind read
  obtain ⟨directory, isDirectory, read⟩ := isGiving_except.of_bind read
  obtain ⟨⟨fields, methods⟩, readMembers, read⟩ := isGiving_except.of_bind read
  cases read
  exact countsExactly_of_classMembers isHead isDirectory readMembers

/-- A class whose members break off exceeds a counter. -/
theorem exceedsCounter_of_classMembers
    (isHead : image.classHead index = .ok head)
    (failed : image.classMembers index head directory = .error .counterOverflow) :
    image.ExceedsCounter index := by
  rw [classMembers] at failed
  split at failed
  · cases failed
  · next present =>
      rcases error_of_bind failed with failed | ⟨values, _, failed⟩
      · exact absurd rfl (image.reports_staticValues _ _ failed)
      rcases error_of_bind failed with failed | ⟨restrictions, _, failed⟩
      · exact absurd rfl (image.reports_restrictionFlags _ _ failed)
      obtain ⟨inside, failed⟩ := readAt_eq_overflow failed
      rcases of_bind_eq_error failed with failed | ⟨_, _, _, failed⟩
      · obtain ⟨counts, start, readCounts, exceed⟩ := listsExceed_of_members failed
        exact ⟨counts, start, membersBegin_of_counts isHead present inside readCounts, exceed⟩
      · cases failed

/-- A class whose reading breaks off exceeds a counter. -/
theorem exceedsCounter_of_classRecord
    (failed : image.classRecord index = .error .counterOverflow) :
    image.ExceedsCounter index := by
  rcases error_of_bind failed with failed | ⟨head, isHead, failed⟩
  · exact absurd rfl (image.reports_classHead _ _ failed)
  rcases error_of_bind failed with failed | ⟨directory, _, failed⟩
  · exact absurd rfl (image.reports_annotationDirectory _ _ failed)
  rcases error_of_bind failed with failed | ⟨_, _, failed⟩
  · exact exceedsCounter_of_classMembers isHead failed
  · cases failed

/--
A class that is read has its counters at exact sums and no class whose sums take more than 32 bits
is read; what then refuses it is reported unless the counter itself broke off.
-/
theorem neverWraps_iff (image : Image) (index : Nat) :
    (∀ record, image.classRecord index = .ok record → image.CountsExactly index record)
      ∧ (image.ExceedsCounter index → ∃ error, image.classRecord index = .error error)
      ∧ (image.classRecord index = .error .counterOverflow → image.ExceedsCounter index)
      ∧ (image.NeverWraps index ↔ image.classRecord index ≠ .error .counterOverflow) := by
  have refused (exceeds : image.ExceedsCounter index) :
      ∃ error, image.classRecord index = .error error := by
    cases read : image.classRecord index with
    | ok record => exact absurd exceeds (countsExactly_of_classRecord read).not_exceedsCounter
    | error error => exact ⟨error, rfl⟩
  refine ⟨fun _ => countsExactly_of_classRecord, refused, exceedsCounter_of_classRecord, ?_, ?_⟩
  · intro never brokeOff
    obtain ⟨error, failed, reported⟩ := never.refuses (exceedsCounter_of_classRecord brokeOff)
    exact reported (Except.error.inj (failed.symm.trans brokeOff))
  · intro readOn
    refine ⟨fun _ => countsExactly_of_classRecord, fun exceeds => ?_⟩
    obtain ⟨error, failed⟩ := refused exceeds
    exact ⟨error, failed, fun same => readOn (same ▸ failed)⟩

end Image
namespace WrappingExample

/--
An image with two fields, and a class with two static fields whose differences add up to the number
of all 32-bit indices: a counter of 32 bits would stand at the first field again.  Behind the header
stand the strings, types and fields, then the class definition and its members, and then the texts
of the strings.
-/
def bytes : ByteArray :=
  ([0x64, 0x65, 0x78, 0x0a, 0x30, 0x33, 0x35, 0x00] ++ List.replicate 32 0
    ++ [0x78, 0x56, 0x34, 0x12] ++ List.replicate 12 0
    ++ [2, 0, 0, 0, 0x70, 0, 0, 0, 1, 0, 0, 0, 0x78, 0, 0, 0] ++ List.replicate 8 0
    ++ [2, 0, 0, 0, 0x7c, 0, 0, 0] ++ List.replicate 8 0
    ++ [1, 0, 0, 0, 0x8c, 0, 0, 0] ++ List.replicate 8 0
    ++ [0xb8, 0, 0, 0, 0xbd, 0, 0, 0, 0, 0, 0, 0]
    ++ [0, 0, 0, 0, 0, 0, 0, 0, 0, 0, 0, 0, 1, 0, 0, 0]
    ++ [0, 0, 0, 0, 1, 0, 0, 0, 0xff, 0xff, 0xff, 0xff, 0, 0, 0, 0, 0xff, 0xff, 0xff, 0xff]
    ++ [0, 0, 0, 0, 0xac, 0, 0, 0, 0, 0, 0, 0]
    ++ [2, 0, 0, 0, 1, 9, 0xff, 0xff, 0xff, 0xff, 0x0f, 9]
    ++ [0x03, 0x4c, 0x61, 0x3b, 0x00, 0x01, 0x78, 0x00] : List UInt8).toByteArray

/-- The image as it is parsed. -/
def image : Image where
  bytes
  version := 35
  tables := {
    strings := ⟨2, 0x70⟩
    types := ⟨1, 0x78⟩
    protos := ⟨0, 0⟩
    fields := ⟨2, 0x7c⟩
    methods := ⟨0, 0⟩
    classDefs := ⟨1, 0x8c⟩
  }
  restrictions := none

set_option maxRecDepth 20000 in
/-- The bytes are parsed as the image. -/
theorem parse_bytes : Image.parse bytes = .ok image := by
  cbv

set_option maxRecDepth 20000 in
/-- Reading the class of the image breaks off at a counter. -/
theorem classRecord_image : image.classRecord 0 = .error .counterOverflow := by
  cbv

end WrappingExample

/-- The class of an image breaks off at a sum of index differences of more than 32 bits. -/
theorem not_neverWraps_wrapping :
    ∃ image, Image.parse WrappingExample.bytes = .ok image ∧ ¬ image.NeverWraps 0 := by
  refine ⟨WrappingExample.image, WrappingExample.parse_bytes, fun never => ?_⟩
  have exceeds : WrappingExample.image.ExceedsCounter 0 :=
    Image.exceedsCounter_of_classRecord WrappingExample.classRecord_image
  obtain ⟨error, failed, reported⟩ := never.refuses exceeds
  exact reported (Except.error.inj (failed.symm.trans WrappingExample.classRecord_image))

end Dex

end DexSurface
