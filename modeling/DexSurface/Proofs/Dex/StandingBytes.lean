import Mathlib.Algebra.GroupWithZero.Nat
import Mathlib.Data.List.Forall2
import DexSurface.Dex.Image

namespace DexSurface

namespace Dex

/-!
# Reading back bytes that stand in an image

An item stands in an image where its bytes are found.  A decoder reads an item as a value if it
gives the value wherever the item stands, and moves behind it.  What a decoder reads is put together
from what its parts read.
-/

/-- The bytes of an item are those of an image from a position on. -/
def Stands (bytes : ByteArray) (position : Nat) (item : List UInt8) : Prop :=
  ∃ front rest, bytes.data.toList = front ++ (item ++ rest) ∧ front.length = position

variable {bytes : ByteArray} {position : Nat} {item first second : List UInt8}

/-- An item that stands ends inside the bytes. -/
theorem Stands.le_size (stands : Stands bytes position item) :
    position + item.length ≤ bytes.size := by
  obtain ⟨front, rest, sameBytes, rfl⟩ := stands
  have sameLength := congrArg List.length sameBytes
  rw [Array.length_toList, List.length_append, List.length_append] at sameLength
  change bytes.size = _ at sameLength
  omega

/-- Items stand side by side where their concatenation stands. -/
theorem stands_append_iff :
    Stands bytes position (first ++ second)
      ↔ Stands bytes position first ∧ Stands bytes (position + first.length) second := by
  constructor
  · rintro ⟨front, rest, sameBytes, rfl⟩
    rw [List.append_assoc] at sameBytes
    refine ⟨⟨front, second ++ rest, sameBytes, rfl⟩, front ++ first, rest, ?_, List.length_append⟩
    rw [sameBytes, List.append_assoc]
  · rintro ⟨⟨front, rest, sameBytes, rfl⟩, otherFront, otherRest, otherBytes, sameLength⟩
    rw [sameBytes, ← List.append_assoc] at otherBytes
    obtain ⟨-, sameRest⟩ := List.append_inj otherBytes (by rw [List.length_append, sameLength])
    refine ⟨front, otherRest, ?_, rfl⟩
    rw [sameBytes, sameRest, List.append_assoc]

/-- The first of two items stands where both do. -/
theorem Stands.left (stands : Stands bytes position (first ++ second)) :
    Stands bytes position first :=
  (stands_append_iff.mp stands).1

/-- The second of two items stands behind the first one. -/
theorem Stands.right (stands : Stands bytes position (first ++ second)) :
    Stands bytes (position + first.length) second :=
  (stands_append_iff.mp stands).2

/-- What follows a byte stands one position further. -/
theorem Stands.behind {byte : UInt8} (stands : Stands bytes position (byte :: item)) :
    Stands bytes (position + 1) item :=
  @Stands.right bytes position [byte] item stands

/-- What stands behind the front of an image stands in the image. -/
theorem stands_of_append (front : ByteArray) (item : List UInt8) :
    Stands (front ++ item.toByteArray) front.size item := by
  refine ⟨front.data.toList, [], ?_, Array.length_toList⟩
  rw [ByteArray.toList_data_append, List.toList_data_toByteArray, List.append_nil]

/-- The bytes of an item stand at their front. -/
theorem stands_toByteArray_append (item : List UInt8) (rest : ByteArray) :
    Stands (item.toByteArray ++ rest) 0 item := by
  refine ⟨[], rest.data.toList, ?_, rfl⟩
  rw [ByteArray.toList_data_append, List.toList_data_toByteArray, List.nil_append]

namespace Decoder

/-- A decoder gives the value wherever the item stands, and moves behind it. -/
def Reads (bytes : ByteArray) (decoder : Decoder α) (item : List UInt8) (value : α) : Prop :=
  ∀ position, Stands bytes position item →
    decoder bytes position = .ok (value, position + item.length)

/-! Reading step by step. -/

/-- A decoder that returns at once reads its value from nothing. -/
theorem reads_pure (value : α) : Reads bytes (pure value) [] value :=
  fun _ _ => rfl

/-- A result that succeeds is read from nothing. -/
theorem reads_lift {result : Except Error α} {value : α} (succeeded : result = .ok value) :
    Reads bytes (liftM result : Decoder α) [] value := by
  intro position stands
  rw [succeeded]
  rfl

/-- Behind what a first step reads, only the next step is left. -/
theorem Reads.bind_eq
    {decoder : Decoder α}
    {next : α → Decoder β}
    {value : α}
    (reads : Reads bytes decoder item value)
    (stands : Stands bytes position item) :
    (decoder >>= next) bytes position = next value bytes (position + item.length) := by
  change (decoder bytes position >>= fun given => next given.1 bytes given.2) = _
  rw [reads position stands]
  rfl

/-- Decoders in sequence read their items in sequence. -/
theorem Reads.bind
    {decoder : Decoder α}
    {next : α → Decoder β}
    {value : α}
    {result : β}
    (reads : Reads bytes decoder first value)
    (nextReads : Reads bytes (next value) second result) :
    Reads bytes (decoder >>= next) (first ++ second) result := by
  intro position stands
  rw [reads.bind_eq stands.left, nextReads _ stands.right, List.length_append, Nat.add_assoc]

/-- A step that reads no bytes. -/
theorem Reads.lift_bind
    {given : Except Error α}
    {next : α → Decoder β}
    {value : α}
    {result : β}
    (succeeded : given = .ok value)
    (nextReads : Reads bytes (next value) item result) :
    Reads bytes (liftM given >>= next) item result :=
  (reads_lift succeeded).bind nextReads

/-- A step after which only the value is changed. -/
theorem Reads.bind_pure
    {decoder : Decoder α}
    {value : α}
    (reads : Reads bytes decoder item value)
    (change : α → β) :
    Reads bytes (decoder >>= fun given => pure (change given)) item (change value) := by
  rw [← List.append_nil item]
  exact reads.bind (reads_pure _)

/-- A decoder whose value is changed reads the changed value. -/
theorem Reads.map
    {decoder : Decoder α}
    {value : α}
    (reads : Reads bytes decoder item value)
    (change : α → β) :
    Reads bytes (change <$> decoder) item (change value) := by
  rw [map_eq_pure_bind]
  exact reads.bind_pure change

/-- Repeating an action so many times and then some more is repeating it for the sum. -/
theorem times_add [Monad m] [LawfulMonad m] (front rest : Nat) (item : m α) :
    times (front + rest) item =
      times front item >>= fun first =>
        times rest item >>= fun second => pure (first ++ second) := by
  induction front with
  | zero => simp
  | succ front inductionHypothesis =>
      rw [Nat.succ_add, times_succ, times_succ, inductionHypothesis]
      simp

/-- Items in a row are read one after another. -/
theorem reads_times
    {decoder : Decoder α}
    {items : List (List UInt8)}
    {values : List α}
    (readAll : List.Forall₂ (Reads bytes decoder) items values) :
    Reads bytes (times values.length decoder) items.flatten values := by
  induction readAll with
  | nil => exact reads_pure []
  | cons reads rest inductionHypothesis =>
      rw [List.length_cons, times_succ, List.flatten_cons]
      exact reads.bind (inductionHypothesis.bind_pure _)

/-! Failing where a step fails. -/

/-- A sequence behind a result that succeeds goes on from the same position. -/
theorem lift_bind_eq
    {given : Except Error α}
    {next : α → Decoder β}
    {value : α}
    (succeeded : given = .ok value) :
    (liftM given >>= next : Decoder β) bytes position = next value bytes position := by
  rw [succeeded]
  rfl

/-- A sequence fails where its first part does. -/
theorem bind_eq_error
    {decoder : Decoder α}
    {next : α → Decoder β}
    {error : Error}
    (fails : decoder bytes position = .error error) :
    (decoder >>= next) bytes position = .error error := by
  change (decoder bytes position >>= fun given => next given.1 bytes given.2) = _
  rw [fails]
  rfl

/-- Items in a row cannot be read if one cannot, behind those that are read. -/
theorem times_eq_error
    {decoder : Decoder α}
    {values : List α}
    {count : Nat}
    {error : Error}
    (reads : Reads bytes (times values.length decoder) item values)
    (stands : Stands bytes position item)
    (follows : values.length < count)
    (fails : decoder bytes (position + item.length) = .error error) :
    times count decoder bytes position = .error error := by
  obtain ⟨fewer, rfl⟩ := Nat.exists_eq_add_of_lt follows
  rw [Nat.add_assoc, times_add, times_succ, reads.bind_eq stands]
  exact bind_eq_error (bind_eq_error fails)

/-! Bytes and numbers of fixed width. -/

/-- A byte is read as itself. -/
theorem reads_u8 (byte : UInt8) : Reads bytes u8 [byte] byte := by
  intro position stands
  have inRange : position < bytes.size := by
    have bound := stands.le_size
    rw [List.length_singleton] at bound
    omega
  have sameByte : bytes[position] = byte := by
    obtain ⟨front, rest, sameBytes, rfl⟩ := stands
    rw [ByteArray.getElem_eq_getElem_data, ← Array.getElem_toList]
    simp only [sameBytes]
    rw [List.getElem_append_right (Nat.le_refl _)]
    simp
  rw [u8, dif_pos inRange, sameByte]
  rfl

/-- Bytes are read one by one as themselves. -/
theorem reads_u8s (item : List UInt8) : Reads bytes (times item.length u8) item item := by
  induction item with
  | nil => exact reads_pure []
  | cons byte rest inductionHypothesis =>
      rw [List.length_cons, times_succ]
      change Reads bytes _ ([byte] ++ rest) _
      exact (reads_u8 byte).bind (inductionHypothesis.bind_pure _)

/-- A run of bytes is read as itself. -/
theorem reads_take (item : List UInt8) : Reads bytes (take item.length) item item := by
  intro position stands
  have enough : item.length ≤ bytes.size - position := by
    have bound := stands.le_size
    omega
  change (if item.length ≤ bytes.size - position then times item.length u8 else _)
    bytes position = _
  rw [if_pos enough]
  exact reads_u8s item position stands

/-- A number of fixed width is read back if it fits its width. -/
theorem reads_number
    {width value : Nat}
    (fits : value < Bytes.span width) :
    Reads bytes (number width) (Bytes.littleEndian width value) value := by
  have reads : Reads bytes (Bytes.ofLittleEndian <$> take _) _ _ :=
    (reads_take (Bytes.littleEndian width value)).map Bytes.ofLittleEndian
  rw [Bytes.length_littleEndian, Bytes.ofLittleEndian_littleEndian, Nat.mod_eq_of_lt fits] at reads
  exact reads

/-! Reading elsewhere. -/

/-- To read an item it may be assumed that the item fits the image. -/
theorem reads_of_length_le
    {decoder : Decoder α}
    {value : α}
    (reads : item.length ≤ bytes.size → Reads bytes decoder item value) :
    Reads bytes decoder item value := by
  intro position stands
  have bound := stands.le_size
  exact reads (by omega) position stands

/-- A decoder may use how many bytes are left, of which there are at least those of the item. -/
theorem reads_remaining
    {next : Nat → Decoder α}
    {value : α}
    (reads : ∀ limit, item.length ≤ limit → Reads bytes (next limit) item value) :
    Reads bytes (remaining >>= next) item value := by
  intro position stands
  have bound := stands.le_size
  exact reads (bytes.size - position) (by omega) position stands

/-- A decoder that is run where its item stands gives the value. -/
theorem runAt_eq_ok
    {decoder : Decoder α}
    {value : α}
    (reads : Reads bytes decoder item value)
    (stands : Stands bytes position item) :
    runAt decoder bytes position = .ok value := by
  have bound := stands.le_size
  rw [runAt, if_pos (by omega), reads position stands]
  rfl

/-- A decoder that reads at another position gives the value and returns to the first one. -/
theorem readAt_eq_ok
    {decoder : Decoder α}
    {value : α}
    {other : Nat}
    (reads : Reads bytes decoder item value)
    (stands : Stands bytes other item) :
    readAt other decoder bytes position = .ok ((value, other + item.length), position) := by
  rw [readAt, reads other stands]

end Decoder

/-! Images with a single string. -/

/-- Tables with one string and one type, which has that string as its name. -/
def tableBytes : List UInt8 :=
  [0x08, 0x00, 0x00, 0x00, 0x00, 0x00, 0x00, 0x00, 0x03, 0x4c, 0x61, 0x3b, 0x00]

/-- An image with one string and one type, and with an item behind its tables. -/
def Image.withItem (item : List UInt8) : Image where
  bytes := (tableBytes ++ item).toByteArray
  version := 35
  tables := { (default : Tables) with
    strings := { size := 1, offset := 0 }
    types := { size := 1, offset := 4 } }
  restrictions := none

end Dex

end DexSurface
