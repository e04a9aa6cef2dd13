import DexSurface.Proofs.Dex.ShownTables
import DexSurface.Proofs.Dex.StableItems
import DexSurface.Proofs.Dex.ValueEncodings

namespace DexSurface

namespace Dex

open Dex.Numbering (Settles Ensures ensures_pure ensures_map ensures_bind isStable_string
  isStable_typeName isStable_field isStable_pure)
open Leb128 (isUnsigned_encode)

/-!
# Values are read back

The bytes that are written for a value encode it: a number with sign takes the fewest bytes that
hold it, an index takes four.
-/

/-! Numbers with sign. -/

/-- A stored number has at least one byte. -/
theorem one_le_signedWidth (value : Int) (limit : Nat) : 1 ≤ signedWidth value limit := by
  induction limit using signedWidth.induct value with
  | case1 => exact Nat.le_refl 1
  | case2 => exact Nat.le_refl 1
  | case3 limit fits inductionHypothesis =>
      rw [signedWidth, if_pos fits]
      exact inductionHypothesis
  | case4 limit exceeds =>
      rw [signedWidth, if_neg exceeds]
      omega

/-- A number is stored in no more bytes than the limit. -/
theorem signedWidth_le (value : Int) {limit : Nat} (positive : 1 ≤ limit) :
    signedWidth value limit ≤ limit := by
  induction limit using signedWidth.induct value with
  | case1 => exact positive
  | case2 => exact Nat.le_refl 1
  | case3 limit fits inductionHypothesis =>
      have smaller := inductionHypothesis (by omega)
      rw [signedWidth, if_pos fits]
      omega
  | case4 limit exceeds =>
      have whole : signedWidth value (limit + 2) = limit + 2 := by
        rw [signedWidth, if_neg exceeds]
      exact Nat.le_of_eq whole

/-- A number that fits the limit fits its own width. -/
theorem fitsBytes_signedWidth
    {value : Int}
    {limit : Nat}
    (positive : 1 ≤ limit)
    (fits : fitsBytes value limit) :
    fitsBytes value (signedWidth value limit) := by
  induction limit using signedWidth.induct value with
  | case1 => omega
  | case2 => exact fits
  | case3 limit fitsLess inductionHypothesis =>
      rw [signedWidth, if_pos fitsLess]
      exact inductionHypothesis (by omega) fitsLess
  | case4 limit exceeds =>
      rw [signedWidth, if_neg exceeds]
      exact fits

/-- A byte with sign is stored as itself. -/
theorem minimalSigned_byte (value : Int8) : minimalSigned value.toInt 1 = [value.toUInt8] := by
  have sameByte : (value.toInt % 256).toNat = value.toUInt8.toNat := by
    change (value.toBitVec.toInt % 256).toNat = value.toBitVec.toNat
    rw [BitVec.toInt_eq_toNat_cond]
    have bound := value.toBitVec.isLt
    split <;> omega
  change [((value.toInt % 256).toNat % 256).toUInt8] = _
  rw [sameByte, Nat.mod_eq_of_lt value.toUInt8.toNat_lt, Nat.toUInt8, UInt8.ofNat_toNat]

/-- The stored bytes of a number hold it. -/
theorem holdsSigned_minimalSigned
    {value : Int}
    {width : Nat}
    (positive : 1 ≤ width)
    (fits : fitsBytes value width) :
    HoldsSigned width (minimalSigned value width) value :=
  .inBytes (one_le_signedWidth value width) (signedWidth_le value positive)
    (fitsBytes_signedWidth positive fits)

/-- All bytes of some bits hold them. -/
theorem holdsHighBytes_whole {width : Nat} (bits : Nat) (positive : 1 ≤ width) :
    HoldsHighBytes width (Bytes.littleEndian width bits) bits := by
  have holds : HoldsHighBytes width _ bits := .inBytes positive (Nat.le_refl width)
    (by simp [Bytes.span])
  simpa [Bytes.span] using holds

/-- An index takes four bytes. -/
theorem holdsUnsigned_index {index : Nat} (fits : index < Bytes.span 4) :
    HoldsUnsigned 4 (Bytes.littleEndian 4 index) index :=
  .inBytes (by decide) (Nat.le_refl 4) fits

/-- As many values are meant as there are drafts. -/
theorem ValueDraft.length_valuesOf (drafts : List ValueDraft) :
    (valuesOf drafts).length = drafts.length := by
  rw [valuesOf_eq_map, List.length_map]

/-- As many elements are meant as there are drafts. -/
theorem ValueDraft.length_elementsOf (drafts : List (String × ValueDraft)) :
    (elementsOf drafts).length = drafts.length := by
  induction drafts with
  | nil => rfl
  | cons draft rest inductionHypothesis =>
      rw [elementsOf, List.length_cons, inductionHypothesis, List.length_cons]

section Writing

variable {image : Image} {tables : EntryTables}

/-- Types have fewer entries than two bytes can count. -/
theorem typeIndex_succ_lt
    (shown : image.Shows tables)
    {descriptor : TypeDescriptor}
    {index : Nat}
    (settled : Settles tables (Numbering.typeName descriptor) index) :
    index + 1 < Bytes.span 4 :=
  Nat.lt_trans (shown.typeName_succ_lt settled) (by decide)

/-- A byte with sign is encoded behind its header. -/
theorem encodes_byte (value : Int8) : Encodes image (sized 0x00 [value.toUInt8]) (.byte value) := by
  rw [← minimalSigned_byte]
  exact .byte (holdsSigned_minimalSigned (by decide) ⟨Int8.le_toInt value, Int8.toInt_lt value⟩)

mutual

/-- The bytes of a readable value encode the value that is meant. -/
theorem ensures_encodes (shown : image.Shows tables) :
    (draft : ValueDraft) → draft.IsReadable →
      Ensures tables (valueBytes draft) fun item =>
        item.length < Bytes.span 4 → Encodes image item draft.value
  | .boolean value, _ => ensures_pure fun _ => .boolean value
  | .byte value, _ => ensures_pure fun _ => encodes_byte value
  | .char unit, _ =>
      ensures_pure fun _ => .char (.inBytes (by decide) (Nat.le_refl 2) unit.toNat_lt)
  | .int value, _ =>
      ensures_pure fun _ => .int
        (holdsSigned_minimalSigned (by decide) ⟨Int32.le_toInt value, Int32.toInt_lt value⟩)
  | .long value, _ =>
      ensures_pure fun _ => .long
        (holdsSigned_minimalSigned (by decide) ⟨Int64.le_toInt value, Int64.toInt_lt value⟩)
  | .float bits, _ => ensures_pure fun _ => .float (holdsHighBytes_whole bits.toNat (by decide))
  | .double bits, _ => ensures_pure fun _ => .double (holdsHighBytes_whole bits.toNat (by decide))
  | .null, _ => ensures_pure fun _ => .null
  | .string text, plain => by
      refine ensures_map (isStable_string text) fun index settled _ => ?_
      have fitsWord : index < Bytes.span 4 := Nat.lt_of_succ_lt (shown.string_succ_lt settled)
      exact .string (holdsUnsigned_index fitsWord) (shown.string_eq plain settled)
  | .type descriptor, plain => by
      refine ensures_map (isStable_typeName descriptor) fun index settled _ => ?_
      have fitsWord : index < Bytes.span 4 := Nat.lt_of_succ_lt (typeIndex_succ_lt shown settled)
      exact .type (holdsUnsigned_index fitsWord) (shown.typeName_eq plain settled)
  | .enum constant, plain => by
      refine ensures_map (isStable_field constant) fun index settled _ => ?_
      have fitsWord : index < Bytes.span 4 := Nat.lt_of_succ_lt (shown.field_succ_lt settled)
      exact .enum (holdsUnsigned_index fitsWord) (shown.fieldRef_eq plain settled)
  | .array values, readable => by
      have ensured := ensures_encodesAll shown values readable
      refine ensures_bind ensured.1 fun stored => ?_
      refine ensures_pure fun settled fits => ?_
      rw [List.cons_append, List.length_cons, List.length_append] at fits
      have encodes := ensured.2 stored settled (by omega)
      have few := encodes.length_le
      rw [← ValueDraft.length_valuesOf values] at fits ⊢
      exact .array (isUnsigned_encode (by omega)) encodes
  | .nested annotationType elements, ⟨plain, readable⟩ => by
      have ensured := ensures_encodesElements shown elements readable
      refine ensures_bind (isStable_typeName annotationType) fun typeIndex => ?_
      refine ensures_bind ensured.1 fun stored => ?_
      refine ensures_pure fun settled typeSettled fits => ?_
      rw [List.cons_append, List.cons_append, List.append_assoc, List.length_cons,
        List.length_append, List.length_append] at fits
      have encodes := ensured.2 stored settled (by omega)
      have few := encodes.length_le
      rw [List.cons_append, List.cons_append, List.append_assoc]
      rw [← ValueDraft.length_elementsOf elements] at fits ⊢
      exact .nested (isUnsigned_encode (Nat.lt_of_succ_lt (typeIndex_succ_lt shown typeSettled)))
        (shown.typeName_eq plain typeSettled) (isUnsigned_encode (by omega)) encodes

/-- The bytes of readable values in a row encode the values that are meant. -/
theorem ensures_encodesAll (shown : image.Shows tables) :
    (drafts : List ValueDraft) → ValueDraft.AreReadable drafts →
      Ensures tables (valuesBytes drafts) fun items =>
        items.length < Bytes.span 4 → EncodesAll image items (ValueDraft.valuesOf drafts)
  | [], _ => ensures_pure fun _ => .nil
  | first :: rest, ⟨firstReadable, restReadable⟩ => by
      have firstEnsured := ensures_encodes shown first firstReadable
      have restEnsured := ensures_encodesAll shown rest restReadable
      refine ensures_bind firstEnsured.1 fun stored => ?_
      refine ensures_bind restEnsured.1 fun others => ?_
      refine ensures_pure fun restSettled firstSettled fits => ?_
      rw [List.length_append] at fits
      exact .cons (firstEnsured.2 stored firstSettled (by omega))
        (restEnsured.2 others restSettled (by omega))

/-- The bytes of readable named values in a row encode the elements that are meant. -/
theorem ensures_encodesElements (shown : image.Shows tables) :
    (drafts : List (String × ValueDraft)) → ValueDraft.AreReadableElements drafts →
      Ensures tables (elementsBytes drafts) fun items =>
        items.length < Bytes.span 4 → EncodesElements image items (ValueDraft.elementsOf drafts)
  | [], _ => ensures_pure fun _ => .nil
  | (name, first) :: rest, ⟨plain, firstReadable, restReadable⟩ => by
      have firstEnsured := ensures_encodes shown first firstReadable
      have restEnsured := ensures_encodesElements shown rest restReadable
      refine ensures_bind (isStable_string name) fun index => ?_
      refine ensures_bind firstEnsured.1 fun stored => ?_
      refine ensures_bind restEnsured.1 fun others => ?_
      refine ensures_pure fun restSettled firstSettled nameSettled fits => ?_
      rw [List.length_append, List.length_append] at fits
      exact .cons (isUnsigned_encode (Nat.lt_of_succ_lt (shown.string_succ_lt nameSettled)))
        (shown.string_eq plain nameSettled) (firstEnsured.2 stored firstSettled (by omega))
        (restEnsured.2 others restSettled (by omega))

end

end Writing

end Dex

end DexSurface
