import DexSurface.Proofs.Dex.ItemReading
import DexSurface.Proofs.Dex.Placement

namespace DexSurface

namespace Dex

open Dex.Numbering (Settles IsSettled MatchNotes MatchBody)
open Decoder (Reads reads_pure)
open Layout (Yields yields_pure yields_bind yields_mapM yields_place yields_placeAligned)

/-!
# Type lists, annotation sets, values and bodies are read back

Each of these items is placed at an offset, or has offset zero if it is empty.  A reader that is
given the offset reads what was placed.
-/

/-- A reader reads a value at an offset that can be stored. -/
structure IsReadAt (read : Nat → Except Error α) (offset : Nat) (value : α) : Prop where
  reads : read offset = .ok value
  fits : offset < Bytes.span 4

/-- What the offset zero stands for is read there. -/
theorem isReadAt_zero
    {read : Nat → Except Error α}
    {value : α}
    (reads : read 0 = .ok value) :
    IsReadAt read 0 value :=
  ⟨reads, by decide⟩

section Items

variable {image : Image} {tables : EntryTables} {start offset : Nat}

/-! Type lists. -/

/-- A list of types that is not empty is read where it stands. -/
theorem typeList_eq
    {types : List Nat}
    {descriptors : List TypeDescriptor}
    (imageFits : image.bytes.size < Bytes.span 4)
    (typesFit : image.tables.types.size < Bytes.span 2)
    (named : List.Forall₂ (fun index descriptor => image.typeName index = .ok descriptor)
      types descriptors)
    (placed : IsPlaced image.bytes offset (word types.length ++ types.flatMap halfWord)) :
    IsReadAt image.typeList offset descriptors := by
  refine ⟨?_, placed.fits⟩
  rw [Image.typeList, if_neg placed.notZero]
  refine runAt_counted (fun index => ?_) imageFits (named.imp fun index descriptor isNamed => ?_)
    placed.stands
  · rw [length_halfWord]
    decide
  · have inRange := Image.lt_of_typeName_eq_ok isNamed
    rw [← List.append_nil (halfWord index)]
    exact (reads_halfWord (by omega)).bind (Decoder.reads_lift isNamed)

/-- A list of types is placed so that it is read back by whoever reads its types. -/
theorem yields_typeList
    (positive : 0 < start)
    (imageFits : image.bytes.size < Bytes.span 4)
    (typesFit : image.tables.types.size < Bytes.span 2)
    (types : List Nat) :
    Yields image.bytes start (Layout.typeList types) fun offset =>
      ∀ descriptors,
        List.Forall₂ (fun index descriptor => image.typeName index = .ok descriptor)
          types descriptors →
        IsReadAt image.typeList offset descriptors := by
  rw [Layout.typeList]
  cases types with
  | nil =>
      refine yields_pure fun descriptors named => ?_
      obtain rfl := List.forall₂_nil_left_iff.mp named
      exact isReadAt_zero rfl
  | cons first rest =>
      refine (yields_placeAligned positive imageFits _).imp ?_
      intro offset placed descriptors named
      exact typeList_eq imageFits typesFit named placed

/-! Lists of offsets. -/

/-- A list of offsets is read as what is read at each of them. -/
theorem yields_offsetList
    (positive : 0 < start)
    (imageFits : image.bytes.size < Bytes.span 4)
    (read : Nat → Except Error α)
    (offsets : List Nat) :
    Yields image.bytes start (Layout.offsetList offsets) fun offset =>
      ∀ values, List.Forall₂ (IsReadAt read) offsets values →
        offset ≠ 0
          ∧ IsReadAt (fun offset => image.readAt offset do
              times (← Decoder.u32) (do read (← Decoder.u32))) offset values := by
  refine (yields_placeAligned positive imageFits _).imp fun offset placed values readEach => ?_
  refine ⟨placed.notZero, ?_, placed.fits⟩
  refine runAt_counted (fun number => ?_) imageFits
    (readEach.imp fun element value isRead => ?_) placed.stands
  · rw [length_word]
    decide
  · rw [← List.append_nil (word element)]
    exact (reads_word isRead.fits).bind (Decoder.reads_lift isRead.reads)

/-! Annotation sets. -/

/-- Values that are meant by drafts are read at their offsets. -/
theorem isReadAt_of_forall₂
    {read : Nat → Except Error α}
    {means : β → α}
    {drafts : List β}
    {offsets : List Nat}
    (readEach : List.Forall₂ (fun draft offset => IsReadAt read offset (means draft))
      drafts offsets) :
    List.Forall₂ (IsReadAt read) offsets (drafts.map means) := by
  rw [List.forall₂_map_right_iff]
  exact readEach.flip

/-- A set of readable annotations is read where it is placed. -/
theorem yields_annotationSet
    (shown : image.Shows tables)
    (positive : 0 < start)
    {drafts : List AnnotationDraft}
    {items : List Item}
    (readable : ∀ draft ∈ drafts, draft.IsReadable)
    (denoted : MatchNotes (IsSettled tables) drafts items) :
    Yields image.bytes start (Layout.annotationSet items) fun offset =>
      IsReadAt image.annotationSet offset (notes drafts) := by
  have placedEach :
      Yields image.bytes start (items.mapM Layout.place)
        (List.Forall₂ (fun draft offset => IsReadAt image.annotationItem offset draft.note)
          drafts) := by
    have both := (List.forall₂_and_left _ _).mpr ⟨readable, denoted⟩
    refine yields_mapM (both.imp ?_)
    rintro draft item ⟨isReadable, settled⟩
    refine (yields_place positive shown.imageFits item).imp ?_
    intro offset placed
    exact ⟨annotationItem_eq shown isReadable settled placed.stands, placed.fits⟩
  cases denoted with
  | nil => exact yields_pure (isReadAt_zero rfl)
  | cons firstDenoted restDenoted =>
      refine yields_bind placedEach fun offsets => ?_
      refine (yields_offsetList positive shown.imageFits image.annotationItem offsets).imp ?_
      intro offset counted readEach
      obtain ⟨notZero, isRead⟩ := counted _ (isReadAt_of_forall₂ readEach)
      refine ⟨?_, isRead.fits⟩
      rw [Image.annotationSet, if_neg notZero]
      exact isRead.reads

/-- The annotation sets of parameters are read where they are placed. -/
theorem yields_annotationSets
    (shown : image.Shows tables)
    (positive : 0 < start)
    {drafts : List (List AnnotationDraft)}
    {items : List (List Item)}
    (readable : ∀ set ∈ drafts, ∀ draft ∈ set, draft.IsReadable)
    (denoted : List.Forall₂ (MatchNotes (IsSettled tables)) drafts items) :
    Yields image.bytes start (Layout.annotationSets items) fun offset =>
      IsReadAt image.annotationSets offset (drafts.map notes) := by
  have placedEach :
      Yields image.bytes start (items.mapM Layout.annotationSet)
        (List.Forall₂ (fun draft offset => IsReadAt image.annotationSet offset (notes draft))
          drafts) := by
    have both := (List.forall₂_and_left _ _).mpr ⟨readable, denoted⟩
    refine yields_mapM (both.imp ?_)
    rintro draft item ⟨isReadable, setDenoted⟩
    exact yields_annotationSet shown positive isReadable setDenoted
  refine yields_bind placedEach fun offsets => ?_
  refine (yields_offsetList positive shown.imageFits image.annotationSet offsets).imp ?_
  intro offset counted readEach
  exact (counted _ (isReadAt_of_forall₂ readEach)).2

/-! Values. -/

/-- Readable values of static fields are read where they are placed. -/
theorem yields_staticValues
    (shown : image.Shows tables)
    (positive : 0 < start)
    {drafts : List ValueDraft}
    {items : List Item}
    (readable : ∀ draft ∈ drafts, draft.IsReadable)
    (settled :
      List.Forall₂ (fun draft item => Settles tables (valueBytes draft) item) drafts items) :
    Yields image.bytes start (Layout.staticValues items) fun offset =>
      IsReadAt image.staticValues offset (drafts.map ValueDraft.value) := by
  have sameLength := settled.length_eq
  rw [Layout.staticValues]
  cases items with
  | nil =>
      obtain rfl := List.forall₂_nil_right_iff.mp settled
      exact yields_pure (isReadAt_zero rfl)
  | cons first rest =>
      refine (yields_placeAligned positive shown.imageFits _).imp fun offset placed => ?_
      have stands := placed.stands
      rw [← sameLength] at stands
      exact ⟨staticValues_eq shown readable settled placed.notZero stands, placed.fits⟩

/-! Bodies. -/

/-- Readable debug information is read where it is placed. -/
theorem yields_debugInfo
    (shown : image.Shows tables)
    (positive : 0 < start)
    {draft : BodyDraft}
    {debug? : Option Item}
    (readable : draft.IsReadable)
    (settled :
      Option.Rel (fun debug item => Settles tables debug.bytes item) draft.debug debug?) :
    Yields image.bytes start (Layout.debugInfo debug?) fun offset =>
      IsReadAt image.debugInfo offset
        { parameterNames := draft.parameterNames, locals := draft.record.locals } := by
  rcases draft with ⟨registerCount, units, debug⟩
  rcases settled with ⟨itemSettled⟩ | _
  · refine (yields_place positive shown.imageFits _).imp fun offset placed => ?_
    exact ⟨debugInfo_eq shown (readable.debug _ rfl) itemSettled placed.notZero placed.stands,
      placed.fits⟩
  · exact yields_pure (isReadAt_zero rfl)

/-- The units of a body are read back. -/
theorem reads_units (units : List UInt16) :
    Reads image.bytes (times units.length Decoder.u16)
      (units.flatMap fun unit => halfWord unit.toNat) (units.map UInt16.toNat) := by
  apply reads_times_flatMap
  rw [List.forall₂_map_right_iff, List.forall₂_same]
  exact fun unit _ => reads_halfWord unit.toNat_lt

/-- The parts of a body are read where they stand in one piece. -/
theorem bodyParts_eq
    {registerCount debugOffset : Nat}
    {units : List UInt16}
    (imageFits : image.bytes.size < Bytes.span 4)
    (registersFit : registerCount < Bytes.span 2)
    (debugFits : debugOffset < Bytes.span 4)
    (stands : Stands image.bytes offset
      (halfWord registerCount ++ halfWord 0 ++ halfWord 0 ++ halfWord 0 ++ word debugOffset
        ++ word units.length ++ units.flatMap fun unit => halfWord unit.toNat)) :
    image.readAt offset Image.bodyParts =
      .ok (registerCount, debugOffset, units.map UInt16.toNat) := by
  have few : units.length ≤ (units.flatMap fun unit => halfWord unit.toNat).length := by
    apply length_le_length_flatMap
    intro unit
    rw [length_halfWord]
    decide
  have bound := stands.le_size
  rw [List.length_append] at bound
  repeat rw [List.append_assoc] at stands
  refine Decoder.runAt_eq_ok ?_ stands
  refine (reads_halfWord registersFit).bind ?_
  refine (reads_halfWord (by decide)).bind ?_
  refine (reads_halfWord (by decide)).bind ?_
  refine (reads_halfWord (by decide)).bind ?_
  refine (reads_word debugFits).bind ?_
  refine (reads_word (by omega)).bind ?_
  exact (reads_units units).bind_pure _

/-- A body is read from its parts and its debug information. -/
theorem body_eq
    {draft : BodyDraft}
    {debugOffset : Nat}
    (readable : draft.IsReadable)
    (parts : image.readAt offset Image.bodyParts =
      .ok (draft.registerCount.toNat, debugOffset, draft.units.map UInt16.toNat))
    (debugRead : image.debugInfo debugOffset =
      .ok { parameterNames := draft.parameterNames, locals := draft.record.locals }) :
    image.body offset = .ok (draft.record, draft.parameterNames) := by
  have sameUnits : (draft.units.map UInt16.toNat).map Nat.toUInt16 = draft.units := by
    rw [List.map_map]
    exact List.map_id'' (fun unit => UInt16.ofNat_toNat) draft.units
  rw [Image.body, parts]
  change (do
    let opcodes ← Instructions.opcodes ((draft.units.map UInt16.toNat).map Nat.toUInt16)
    let debug ← image.debugInfo debugOffset
    return (MethodBody.mk draft.registerCount.toNat.toUInt16 opcodes debug.locals,
      debug.parameterNames)) = _
  rw [sameUnits, readable.units, debugRead, Nat.toUInt16, UInt16.ofNat_toNat]
  rfl

/-- A body is placed behind its debug information so that both are read back. -/
theorem yields_body
    (shown : image.Shows tables)
    (positive : 0 < start)
    {draft : BodyDraft}
    {entry : NumberedBody}
    (readable : draft.IsReadable)
    (denoted : MatchBody (IsSettled tables) draft entry) :
    Yields image.bytes start (Layout.body entry) fun offset =>
      offset ≠ 0 ∧ IsReadAt image.body offset (draft.record, draft.parameterNames) := by
  refine yields_bind (yields_debugInfo shown positive readable denoted.debug) fun debugOffset => ?_
  refine (yields_placeAligned positive shown.imageFits _).imp fun offset placed debugRead => ?_
  have stands := placed.stands
  rw [denoted.registerCount, denoted.units] at stands
  refine ⟨placed.notZero, ?_, placed.fits⟩
  exact body_eq readable
    (bodyParts_eq shown.imageFits draft.registerCount.toNat_lt debugRead.fits stands)
    debugRead.reads

/-- The body of a method that may have none. -/
theorem yields_optionalBody
    (shown : image.Shows tables)
    (positive : 0 < start)
    {draft : MethodDraft}
    {body? : Option NumberedBody}
    (readable : draft.IsReadable)
    (denoted : Option.Rel (MatchBody (IsSettled tables)) draft.body body?) :
    Yields image.bytes start (Layout.optionalBody body?) fun offset =>
      IsReadAt image.optionalBody offset
        (draft.body.map BodyDraft.record, draft.parameterNames) := by
  have readableBody := readable.body
  rw [MethodDraft.parameterNames]
  generalize draft.body = given at denoted readableBody
  rcases denoted with ⟨bodyDenoted⟩ | _
  · refine (yields_body shown positive (readableBody _ rfl) bodyDenoted).imp ?_
    rintro offset ⟨notZero, isRead⟩
    refine ⟨?_, isRead.fits⟩
    rw [Image.optionalBody, if_neg notZero, isRead.reads]
    rfl
  · exact yields_pure (isReadAt_zero rfl)

end Items

end Dex

end DexSurface
