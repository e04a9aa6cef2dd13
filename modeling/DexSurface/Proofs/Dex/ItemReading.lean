import DexSurface.Proofs.Dex.DebugStreams
import DexSurface.Proofs.Dex.ValueReading

namespace DexSurface

namespace Dex

open Dex.Numbering (Settles Ensures ensures_pure ensures_map ensures_bind isStable_string
  isStable_typeName)
open Decoder (Reads reads_pure reads_u8 reads_uleb128 reads_remaining)

/-!
# Annotations, value lists and debug information are read back

These items stand in an image without alignment and refer to the tables only.
-/

section Reading

variable {image : Image} {tables : EntryTables} {item : List UInt8} {offset : Nat}

/-- Items that are not empty are at most as many as their bytes. -/
theorem length_le_length_flatten
    {elements : List α}
    {items : List (List UInt8)}
    (nonempty : List.Forall₂ (fun _ item => 1 ≤ item.length) elements items) :
    elements.length ≤ items.flatten.length := by
  induction nonempty with
  | nil => exact Nat.le_refl 0
  | cons firstNonempty restNonempty inductionHypothesis =>
      rw [List.length_cons, List.flatten_cons, List.length_append]
      omega

/-! Annotations. -/

/-- A byte up to two is a visibility. -/
theorem ofByte?_of_le {byte : UInt8} (small : byte ≤ 2) :
    Visibility.ofByte? byte = some ((Visibility.ofByte? byte).getD .build) := by
  have cases : byte = 0 ∨ byte = 1 ∨ byte = 2 := by
    have bound := UInt8.le_iff_toNat_le.mp small
    have value : byte.toNat = 0 ∨ byte.toNat = 1 ∨ byte.toNat = 2 := by
      change byte.toNat ≤ 2 at bound
      omega
    rcases value with value | value | value
    · exact Or.inl (UInt8.toNat_inj.mp value)
    · exact Or.inr (Or.inl (UInt8.toNat_inj.mp value))
    · exact Or.inr (Or.inr (UInt8.toNat_inj.mp value))
  rcases cases with rfl | rfl | rfl <;> rfl

/-- An annotation is read where its bytes stand. -/
theorem annotationItem_eq
    (shown : image.Shows tables)
    {draft : AnnotationDraft}
    (readable : draft.IsReadable)
    (settled : Settles tables draft.bytes item)
    (stands : Stands image.bytes offset item) :
    image.annotationItem offset = .ok draft.note := by
  have elementsEnsured := ensures_encodesElements shown draft.elements readable.elements
  have ensured : Ensures tables draft.bytes fun item =>
      Stands image.bytes offset item → image.annotationItem offset = .ok draft.note := by
    refine ensures_bind (isStable_typeName _) fun typeIndex => ?_
    refine ensures_bind elementsEnsured.1 fun stored => ?_
    refine ensures_pure fun elementsSettled typeSettled stands => ?_
    have bound := stands.le_size
    have fits := shown.imageFits
    rw [List.cons_append, List.cons_append, List.append_assoc] at bound stands
    rw [List.length_cons, List.length_append, List.length_append] at bound
    have encodes := elementsEnsured.2 stored elementsSettled (by omega)
    have few := encodes.length_le
    have parts :
        Reads image.bytes image.annotationParts
          (Leb128.encode typeIndex ++ (Leb128.encode draft.elements.length ++ stored))
          (draft.annotationType, ValueDraft.elementsOf draft.elements) := by
      refine reads_remaining fun limit enough => ?_
      rw [List.length_append, List.length_append] at enough
      rw [← ValueDraft.length_elementsOf draft.elements] at bound ⊢
      exact reads_annotationOf
        (reads_uleb128 (Nat.lt_of_succ_lt (typeIndex_succ_lt shown typeSettled)))
        (shown.typeName_eq readable.annotationType typeSettled) (reads_uleb128 (by omega))
        (encodes.reads limit (by omega))
    refine Decoder.runAt_eq_ok ((reads_u8 draft.visibility).bind ?_) stands
    rw [ofByte?_of_le readable.visibility]
    exact parts.bind_pure fun given =>
      (⟨(Visibility.ofByte? draft.visibility).getD .build, given.1, given.2⟩ : Annotation)
  exact ensured.2 item settled stands

/-! Lists of values. -/

/-- The items that value drafts settle on encode the values that are meant. -/
theorem encodesAll_flatten
    {drafts : List ValueDraft}
    {items : List (List UInt8)}
    (shown : image.Shows tables)
    (readable : ∀ draft ∈ drafts, draft.IsReadable)
    (settled :
      List.Forall₂ (fun draft item => Settles tables (valueBytes draft) item) drafts items)
    (fits : items.flatten.length < Bytes.span 4) :
    EncodesAll image items.flatten (drafts.map ValueDraft.value) := by
  induction settled with
  | nil => exact .nil
  | @cons first item rest items firstSettled restSettled inductionHypothesis =>
      rw [List.flatten_cons, List.length_append] at fits
      refine .cons ?_ (inductionHypothesis ?_ (by omega))
      · exact (ensures_encodes shown first (readable first List.mem_cons_self)).2 item firstSettled
          (by omega)
      · exact fun other member => readable other (List.mem_cons_of_mem _ member)

/-- The values of static fields are read where their bytes stand behind their number. -/
theorem staticValues_eq
    (shown : image.Shows tables)
    {drafts : List ValueDraft}
    {items : List (List UInt8)}
    (readable : ∀ draft ∈ drafts, draft.IsReadable)
    (settled :
      List.Forall₂ (fun draft item => Settles tables (valueBytes draft) item) drafts items)
    (notZero : offset ≠ 0)
    (stands : Stands image.bytes offset (Leb128.encode drafts.length ++ items.flatten)) :
    image.staticValues offset = .ok (drafts.map ValueDraft.value) := by
  have bound := stands.le_size
  have fits := shown.imageFits
  rw [List.length_append] at bound
  have encodes := encodesAll_flatten shown readable settled (by omega)
  have few := encodes.length_le
  rw [← List.length_map ValueDraft.value] at stands
  rw [Image.staticValues, if_neg notZero]
  refine Decoder.runAt_eq_ok (reads_remaining fun limit enough => ?_) stands
  rw [List.length_append] at enough
  exact (reads_uleb128 (by omega)).bind (encodes.reads limit (by omega))

/-! Debug information. -/

/-- The index that a plain text settles on is looked up as the text. -/
theorem optionalString_eq
    (shown : image.Shows tables)
    {text : String}
    {index : Nat}
    (plain : IsPlain text)
    (settled : Settles tables (Numbering.string text) index) :
    image.optionalString (some index) = .ok (some text) := by
  rw [Image.optionalString, shown.string_eq plain settled]
  rfl

/-- The index that a plain type settles on is looked up as the type. -/
theorem optionalType_eq
    (shown : image.Shows tables)
    {descriptor : TypeDescriptor}
    {index : Nat}
    (plain : IsPlainType descriptor)
    (settled : Settles tables (Numbering.typeName descriptor) index) :
    image.optionalType (some index) = .ok (some descriptor) := by
  rw [Image.optionalType, shown.typeName_eq plain settled]
  rfl

/-- The number of a plain text that is present stands for the text. -/
theorem isEntry_string
    (shown : image.Shows tables)
    {text : String}
    {index : Nat}
    (plain : IsPlain text)
    (settled : Settles tables (Numbering.string text) index) :
    DebugStream.IsEntry image.optionalString (presentNumber index) (some text) :=
  ⟨some index, Leb128.isUnsigned_encode (shown.string_succ_lt settled),
    optionalString_eq shown plain settled⟩

/-- The number of a plain type that is present stands for the type. -/
theorem isEntry_type
    (shown : image.Shows tables)
    {descriptor : TypeDescriptor}
    {index : Nat}
    (plain : IsPlainType descriptor)
    (settled : Settles tables (Numbering.typeName descriptor) index) :
    DebugStream.IsEntry image.optionalType (presentNumber index) (some descriptor) :=
  ⟨some index, Leb128.isUnsigned_encode (typeIndex_succ_lt shown settled),
    optionalType_eq shown plain settled⟩

/-- A declared parameter name is written as an entry, also one that is absent. -/
theorem ensures_isEntry_parameterName
    (shown : image.Shows tables)
    (name? : Option String)
    (plain : ∀ name ∈ name?, IsPlain name) :
    Ensures tables (parameterNameBytes name?) fun item =>
      DebugStream.IsEntry image.optionalString item name? := by
  cases name? with
  | none => exact ensures_pure ⟨none, Leb128.isUnsigned_encode (by decide), rfl⟩
  | some name =>
      exact ensures_map (isStable_string name) fun index settled =>
        isEntry_string shown (plain name rfl) settled

/-- The event of a stream that is meant by a draft. -/
def DebugEvent.streamed : DebugEvent → DebugStream.Event
  | .advanceAddress amount => .advanceAddress amount
  | .endLocal register => .endLocal register
  | .startLocal register name localType => .startLocal register (some name) (some localType)
  | .startLocalExtended register name localType signature =>
      .startLocalExtended register (some name) (some localType) (some signature)

/-- The event of a stream advances the address as its draft does. -/
theorem DebugEvent.advance_streamed (event : DebugEvent) :
    event.streamed.advance = event.advance := by
  cases event <;> rfl

/-- The event of a stream starts the local that its draft starts. -/
theorem DebugEvent.start?_streamed (event : DebugEvent) (address : Nat) :
    event.streamed.start? address = event.start? address := by
  cases event <;> rfl

/-- The event of a readable draft starts no local in a register that is too wide. -/
theorem DebugEvent.IsReadable.wideRegister?_streamed
    {event : DebugEvent}
    (readable : event.IsReadable) :
    event.streamed.wideRegister? = none := by
  cases event with
  | startLocal => exact if_pos readable.1
  | startLocalExtended => exact if_pos readable.1
  | _ => rfl

/-- The events of drafts, and the special opcode that is written behind them. -/
def streamed (events : List DebugEvent) : List DebugStream.Event :=
  events.map DebugEvent.streamed ++ [.special 0x0b]

/-- The stream starts the locals that the drafts start. -/
theorem startedFrom_streamed (address : Nat) (events : List DebugEvent) :
    startedFrom DebugStream.Event.advance DebugStream.Event.start? address (streamed events) =
      localsFrom address events := by
  rw [localsFrom]
  induction events generalizing address with
  | nil => rfl
  | cons event rest inductionHypothesis =>
      rw [startedFrom, ← inductionHypothesis, ← event.start?_streamed, ← event.advance_streamed]
      rfl

/-- The stream advances the address as far as the drafts do. -/
theorem advanceOf_streamed (events : List DebugEvent) :
    DebugStream.advanceOf (streamed events) = total DebugEvent.advance events := by
  rw [DebugStream.advanceOf]
  induction events with
  | nil => rfl
  | cons event rest inductionHypothesis =>
      rw [total_cons, ← inductionHypothesis, ← event.advance_streamed]
      rfl

/-- The events of readable drafts start no local in a register that is too wide. -/
theorem findSome?_streamed
    {events : List DebugEvent}
    (readable : ∀ event ∈ events, event.IsReadable) :
    (streamed events).findSome? DebugStream.Event.wideRegister? = none := by
  rw [streamed, List.findSome?_eq_none_iff]
  intro event member
  rw [List.mem_append, List.mem_map, List.mem_singleton] at member
  rcases member with ⟨draft, isDraft, rfl⟩ | rfl
  · exact (readable draft isDraft).wideRegister?_streamed
  · rfl

/-- The bytes of a readable event encode the event of the stream. -/
theorem ensures_encodesEvent
    (shown : image.Shows tables)
    (event : DebugEvent)
    (readable : event.IsReadable)
    (fits : event.advance < Bytes.span 4) :
    Ensures tables event.bytes fun item =>
      DebugStream.EncodesEvent image item event.streamed := by
  have isRegister {register : Nat} (registerFits : register < Bytes.span 2) :=
    Leb128.isUnsigned_encode (Nat.lt_trans registerFits (by decide))
  cases event with
  | advanceAddress amount =>
      exact ensures_pure (.advanceAddress (Leb128.isUnsigned_encode fits))
  | endLocal register => exact ensures_pure (.endLocal (isRegister readable))
  | startLocal register name localType =>
      obtain ⟨registerFits, plainName, plainType⟩ := readable
      refine ensures_bind (isStable_string name) fun nameIndex => ?_
      refine ensures_bind (isStable_typeName localType) fun typeIndex => ?_
      refine ensures_pure fun typeSettled nameSettled => ?_
      rw [List.cons_append, List.cons_append, List.append_assoc]
      exact .startLocal (isRegister registerFits) (isEntry_string shown plainName nameSettled)
        (isEntry_type shown plainType typeSettled)
  | startLocalExtended register name localType signature =>
      obtain ⟨registerFits, plainName, plainType, plainSignature⟩ := readable
      refine ensures_bind (isStable_string name) fun nameIndex => ?_
      refine ensures_bind (isStable_typeName localType) fun typeIndex => ?_
      refine ensures_bind (isStable_string signature) fun signatureIndex => ?_
      refine ensures_pure fun signatureSettled typeSettled nameSettled => ?_
      rw [List.cons_append, List.cons_append, List.cons_append, List.append_assoc,
        List.append_assoc]
      exact .startLocalExtended (isRegister registerFits)
        (isEntry_string shown plainName nameSettled) (isEntry_type shown plainType typeSettled)
        (isEntry_string shown plainSignature signatureSettled)

/-- An event of readable debug information advances the address by less than 32 bits. -/
theorem DebugDraft.IsReadable.advance_lt
    {draft : DebugDraft}
    {event : DebugEvent}
    (readable : draft.IsReadable)
    (member : event ∈ draft.events) :
    event.advance < Bytes.span 4 := by
  have inRange := readable.advances
  obtain ⟨front, rest, isSplit⟩ := List.append_of_mem member
  rw [isSplit, total_append, total_cons] at inRange
  omega

/-- Debug information is written as a stream. -/
theorem ensures_isStream
    (shown : image.Shows tables)
    {draft : DebugDraft}
    (readable : draft.IsReadable) :
    Ensures tables draft.bytes fun item => item.length < Bytes.span 4 →
      DebugStream.IsStream image item draft.parameterNames (streamed draft.events) := by
  refine ensures_bind (isStable_parameterNames _) fun names => ?_
  refine ensures_bind (isStable_events _) fun events => ?_
  refine ensures_pure fun eventsSettled namesSettled fits => ?_
  rw [Numbering.settles_listMapM_iff fun event _ => isStable_eventBytes event] at eventsSettled
  rw [Numbering.settles_listMapM_iff fun name _ => isStable_parameterNameBytes name]
    at namesSettled
  have named :
      List.Forall₂ (DebugStream.IsEntry image.optionalString) names draft.parameterNames := by
    refine (((List.forall₂_and_left _ _).mpr ⟨readable.names, namesSettled⟩).imp ?_).flip
    rintro name? item ⟨plain, settled⟩
    exact (ensures_isEntry_parameterName shown name? plain).2 item settled
  have encodes :
      List.Forall₂ (DebugStream.EncodesEvent image) (events ++ [[0x0b]])
        (streamed draft.events) := by
    refine List.rel_append (List.forall₂_map_right_iff.mpr ?_) (.cons (.special (by decide)) .nil)
    refine (((List.forall₂_and_left _ _).mpr ⟨fun _ => id, eventsSettled⟩).imp ?_).flip
    rintro event item ⟨member, settled⟩
    exact (ensures_encodesEvent shown event (readable.events event member)
      (readable.advance_lt member)).2 item settled
  have few := length_le_length_flatten
    (named.flip.imp fun _ _ isName => DebugStream.IsEntry.length_pos isName)
  simp only [List.length_append] at fits
  have isStream := DebugStream.IsStream.ofItems (Leb128.isUnsigned_encode (by decide : 1 < _))
    (Leb128.isUnsigned_encode (by omega)) named encodes
  rw [List.flatten_append, List.append_assoc] at isStream
  simp only [List.append_assoc]
  exact isStream

/-- Debug information is read where its bytes stand. -/
theorem debugInfo_eq
    (shown : image.Shows tables)
    {draft : DebugDraft}
    (readable : draft.IsReadable)
    (settled : Settles tables draft.bytes item)
    (notZero : offset ≠ 0)
    (stands : Stands image.bytes offset item) :
    image.debugInfo offset =
      .ok { parameterNames := draft.parameterNames, locals := localsFrom 0 draft.events } := by
  have bound := stands.le_size
  have fits := shown.imageFits
  have isStream := (ensures_isStream shown readable).2 item settled (by omega)
  have inRange : DebugStream.advanceOf (streamed draft.events) < Bytes.span 4 := by
    rw [advanceOf_streamed]
    exact readable.advances
  rw [isStream.debugInfo_eq inRange notZero stands, findSome?_streamed readable.events,
    startedFrom_streamed]

end Reading

end Dex

end DexSurface
