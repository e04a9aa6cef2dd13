import DexSurface.Dex.Layout
import DexSurface.Proofs.Dex.VariableLength

namespace DexSurface

namespace Dex

open Decoder (Reads reads_pure reads_number)

/-!
# What is placed stands in the image

Placing an item only adds bytes behind the data so far.  A layout yields a result with a property if
the result has it as soon as everything that was placed stands in the image.  Offsets at which items
are placed are not zero, since the data of an image stand behind its header.
-/

/-- A result has a property once everything that is placed stands in the image. -/
def Layout.Yields
    (bytes : ByteArray)
    (start : Nat)
    (layout : Layout α)
    (holds : α → Prop) : Prop :=
  ∀ data : ByteArray, ∃ more : List UInt8,
    (layout start data).2 = data ++ more.toByteArray
      ∧ (Stands bytes (start + data.size) more → holds (layout start data).1)

/-- An item stands at an offset that can be stored and does not mean an absent item. -/
structure IsPlaced (bytes : ByteArray) (offset : Nat) (item : Item) : Prop where
  stands : Stands bytes offset item
  notZero : offset ≠ 0
  fits : offset < Bytes.span 4

namespace Layout

variable {bytes : ByteArray} {start : Nat}

/-- Appending an item adds its length. -/
theorem size_append_toByteArray (data : ByteArray) (item : Item) :
    (data ++ item.toByteArray).size = data.size + item.length := by
  rw [ByteArray.size_append, List.size_toByteArray]

/-- Bytes appended as arrays are those appended as lists. -/
theorem append_toByteArray (first second : List UInt8) :
    first.toByteArray ++ second.toByteArray = (first ++ second).toByteArray := by
  simp

/-- A result that has a property has it once everything stands. -/
theorem yields_pure {value : α} {holds : α → Prop} (isHeld : holds value) :
    Yields bytes start (pure value) holds := by
  intro data
  refine ⟨[], ?_, fun _ => isHeld⟩
  change data = data ++ [].toByteArray
  simp

/-- What follows a step may use what the step yields. -/
theorem yields_bind
    {layout : Layout α}
    {next : α → Layout β}
    {first : α → Prop}
    {holds : β → Prop}
    (yields : Yields bytes start layout first)
    (nextYields : ∀ value,
      Yields bytes start (next value) fun result => first value → holds result) :
    Yields bytes start (layout >>= next) holds := by
  intro data
  obtain ⟨more, grown, firstHolds⟩ := yields data
  obtain ⟨others, grownFurther, nextHolds⟩ :=
    nextYields (layout start data).1 (layout start data).2
  refine ⟨more ++ others, ?_, fun stands => ?_⟩
  · change (next (layout start data).1 start (layout start data).2).2 = _
    rw [grownFurther, grown, ByteArray.append_assoc, append_toByteArray]
  · have standsBehind : Stands bytes (start + (layout start data).2.size) others := by
      rw [grown, size_append_toByteArray, ← Nat.add_assoc]
      exact stands.right
    exact nextHolds standsBehind (firstHolds stands.left)

/-- A property may be replaced by one that follows from it. -/
theorem Yields.imp
    {layout : Layout α}
    {first second : α → Prop}
    (yields : Yields bytes start layout first)
    (implies : ∀ value, first value → second value) :
    Yields bytes start layout second := by
  intro data
  obtain ⟨more, grown, holds⟩ := yields data
  exact ⟨more, grown, fun stands => implies _ (holds stands)⟩

/-- Placing elements in a row yields for each draft what placing its element yields. -/
theorem yields_mapM
    {item : β → Layout γ}
    {holds : α → γ → Prop}
    {drafts : List α}
    {elements : List β}
    (yields : List.Forall₂ (fun draft element => Yields bytes start (item element) (holds draft))
      drafts elements) :
    Yields bytes start (elements.mapM item) (List.Forall₂ holds drafts) := by
  induction yields with
  | nil => exact yields_pure .nil
  | cons firstYields restYields inductionHypothesis =>
      rw [List.mapM_cons]
      refine yields_bind firstYields fun value => ?_
      refine yields_bind inductionHypothesis fun values => ?_
      exact yields_pure fun restHolds firstHolds => .cons firstHolds restHolds

/-! Placing single items. -/

section Place

variable (positive : 0 < start) (fits : bytes.size < Bytes.span 4)

include positive fits

/-- An item stands where it is placed. -/
theorem yields_place (item : Item) :
    Yields bytes start (place item) fun offset => IsPlaced bytes offset item := by
  intro data
  refine ⟨item, rfl, fun stands => ?_⟩
  have bound := stands.le_size
  change IsPlaced bytes (start + data.size) item
  exact ⟨stands, by omega, by omega⟩

/-- An aligned item stands where it is placed. -/
theorem yields_placeAligned (item : Item) :
    Yields bytes start (placeAligned item) fun offset => IsPlaced bytes offset item := by
  have aligned : Yields bytes start align fun _ => True :=
    fun data => ⟨_, rfl, fun _ => trivial⟩
  refine yields_bind aligned fun _ => ?_
  exact (yields_place positive fits item).imp fun _ placed _ => placed

end Place

end Layout

/-! Reading counted lists. -/

section Lists

variable {bytes : ByteArray} {offset : Nat}

/-- Elements are read one after the other where their bytes stand in order. -/
theorem reads_times_flatMap
    {decoder : Decoder β}
    {write : α → List UInt8}
    {elements : List α}
    {values : List β}
    (reads : List.Forall₂ (fun element value => Reads bytes decoder (write element) value)
      elements values) :
    Reads bytes (times elements.length decoder) (elements.flatMap write) values := by
  rw [reads.length_eq, List.flatMap_def]
  exact Decoder.reads_times (List.forall₂_map_left_iff.mpr reads)

/-- A number of four bytes is read from its word. -/
theorem reads_word {number : Nat} (fits : number < Bytes.span 4) :
    Reads bytes Decoder.u32 (word number) number :=
  reads_number fits

/-- A number of two bytes is read from its half word. -/
theorem reads_halfWord {number : Nat} (fits : number < Bytes.span 2) :
    Reads bytes Decoder.u16 (halfWord number) number :=
  reads_number fits

/-- A word has four bytes. -/
@[simp]
theorem length_word (number : Nat) : (word number).length = 4 :=
  Bytes.length_littleEndian 4 number

/-- A half word has two bytes. -/
@[simp]
theorem length_halfWord (number : Nat) : (halfWord number).length = 2 :=
  Bytes.length_littleEndian 2 number

/-- Elements with bytes of their own are at most as many as these bytes. -/
theorem length_le_length_flatMap
    {write : α → List UInt8}
    (nonempty : ∀ element, 1 ≤ (write element).length)
    (elements : List α) :
    elements.length ≤ (elements.flatMap write).length := by
  induction elements with
  | nil => exact Nat.le_refl 0
  | cons first rest inductionHypothesis =>
      have firstNonempty := nonempty first
      rw [List.length_cons, List.flatMap_cons, List.length_append]
      omega

/-- Numbers in a counted list are read one after another, each with what it names. -/
theorem runAt_counted
    {decoder : Decoder β}
    {write : α → List UInt8}
    {elements : List α}
    {values : List β}
    (nonempty : ∀ element, 1 ≤ (write element).length)
    (fits : bytes.size < Bytes.span 4)
    (reads : List.Forall₂ (fun element value => Reads bytes decoder (write element) value)
      elements values)
    (stands : Stands bytes offset (word elements.length ++ elements.flatMap write)) :
    Decoder.runAt (do times (← Decoder.u32) decoder) bytes offset = .ok values := by
  have few := length_le_length_flatMap nonempty elements
  have bound := stands.le_size
  rw [List.length_append] at bound
  refine Decoder.runAt_eq_ok ?_ stands
  exact (reads_word (by omega)).bind (reads_times_flatMap reads)

end Lists

end Dex

end DexSurface
