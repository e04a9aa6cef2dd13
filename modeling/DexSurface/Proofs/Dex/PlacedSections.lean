import DexSurface.Proofs.Dex.Growth
import DexSurface.Proofs.Dex.PlacedClasses

namespace DexSurface

namespace Dex

open Decoder (Reads reads_pure)
open Layout (Yields yields_pure yields_bind yields_placeAligned)

/-!
# The restriction flags and the map are read back

The section of restriction flags has an offset for every class, zero for a class without flags.  The
map names the section, and an image without flags has no such map item.
-/

section Tables

variable {bytes : ByteArray} {position width : Nat} {write : α → List UInt8}

/-- In a table of entries of one width every entry stands at its index. -/
theorem stands_flatMap_getElem
    {elements : List α}
    {index : Nat}
    {element : α}
    (sameWidth : ∀ element ∈ elements, (write element).length = width)
    (found : elements[index]? = some element)
    (stands : Stands bytes position (elements.flatMap write)) :
    Stands bytes (position + index * width) (write element) := by
  induction elements generalizing position index with
  | nil => cases found
  | cons first rest inductionHypothesis =>
      rw [List.flatMap_cons] at stands
      cases index with
      | zero =>
          obtain rfl : first = element := Option.some.inj found
          rw [Nat.zero_mul, Nat.add_zero]
          exact stands.left
      | succ index =>
          have behind := inductionHypothesis
            (fun other member => sameWidth other (List.mem_cons_of_mem _ member)) found stands.right
          rw [sameWidth first List.mem_cons_self, Nat.add_assoc, Nat.add_comm width] at behind
          rw [Nat.succ_mul]
          exact behind

/-- Elements of one width have as many bytes as their number times the width. -/
theorem length_flatMap_of_same
    {elements : List α}
    (sameWidth : ∀ element ∈ elements, (write element).length = width) :
    (elements.flatMap write).length = elements.length * width := by
  induction elements with
  | nil => simp
  | cons first rest inductionHypothesis =>
      have restWidth := inductionHypothesis
        fun other member => sameWidth other (List.mem_cons_of_mem _ member)
      rw [List.flatMap_cons, List.length_append, restWidth, sameWidth first List.mem_cons_self,
        List.length_cons, Nat.succ_mul, Nat.add_comm]

/-- An item among items of one width stands at its position times the width. -/
theorem stands_flatten_getElem
    {items : List Item}
    {index : Nat}
    {item : Item}
    (sameWidth : ∀ item ∈ items, item.length = width)
    (found : items[index]? = some item)
    (stands : Stands bytes position items.flatten) :
    Stands bytes (position + index * width) item := by
  rw [List.flatten_eq_flatMap] at stands
  exact stands_flatMap_getElem sameWidth found stands

/-- Items of one width have as many bytes as their number times the width. -/
theorem length_flatten_of_same
    {items : List Item}
    (sameWidth : ∀ item ∈ items, item.length = width) :
    items.flatten.length = items.length * width := by
  have sameLength : (items.flatMap id).length = items.length * width :=
    length_flatMap_of_same sameWidth
  rw [List.flatten_eq_flatMap]
  exact sameLength

/-- An element of a list is related to the one at the same position of a related list. -/
theorem exists_getElem?_of_forall₂
    {related : α → β → Prop}
    {elements : List α}
    {others : List β}
    (relates : List.Forall₂ related elements others)
    {index : Nat}
    {element : α}
    (found : elements[index]? = some element) :
    ∃ other, others[index]? = some other ∧ related element other := by
  induction relates generalizing index with
  | nil => cases found
  | cons holds rest inductionHypothesis =>
      cases index with
      | zero =>
          obtain rfl := Option.some.inj found
          exact ⟨_, rfl, holds⟩
      | succ index => exact inductionHypothesis found

end Tables

section Restrictions

variable {image : Image} {tables : EntryTables} {start section_ : Nat}

open Assembly (restrictionItem restrictionOffsets restrictionSection)

/-- The offset of the flags of a class in their section, zero for a class without flags. -/
def IsFlagsOffset
    (bytes : ByteArray)
    (section_ : Nat)
    (flags? : Option (List UInt32))
    (offset : Nat) : Prop :=
  match flags? with
  | none => offset = 0
  | some flags => offset ≠ 0 ∧ Stands bytes (section_ + offset) (restrictionItem flags)

/-- Every class finds its flags at its offset in the section, or has the offset zero. -/
theorem forall₂_restrictionOffsets
    {bytes : ByteArray}
    {restrictions : List (Option (List UInt32))}
    {base : Nat}
    (positive : 0 < base)
    (stands : Stands bytes (section_ + base)
      ((restrictions.filterMap id).flatMap restrictionItem)) :
    List.Forall₂ (IsFlagsOffset bytes section_) restrictions
      (restrictionOffsets base restrictions) := by
  induction restrictions generalizing base with
  | nil => exact .nil
  | cons first rest inductionHypothesis =>
      cases first with
      | none => exact .cons rfl (inductionHypothesis positive stands)
      | some flags =>
          change Stands bytes (section_ + base)
            (restrictionItem flags ++ (rest.filterMap id).flatMap restrictionItem) at stands
          have behind := stands.right
          rw [Nat.add_assoc] at behind
          exact .cons ⟨Nat.ne_of_gt positive, stands.left⟩
            (inductionHypothesis (Nat.add_pos_left positive _) behind)

/-- Every class has one offset in the section of flags. -/
theorem length_restrictionOffsets
    (base : Nat)
    (restrictions : List (Option (List UInt32))) :
    (restrictionOffsets base restrictions).length = restrictions.length := by
  induction restrictions generalizing base with
  | nil => rfl
  | cons first rest inductionHypothesis =>
      cases first with
      | none => exact congrArg Nat.succ (inductionHypothesis base)
      | some flags => exact congrArg Nat.succ (inductionHypothesis _)

/-- The flags of the class at an index are found in the section. -/
theorem restrictionFlags_eq
    {restrictions : List (Option (List UInt32))}
    {index : Nat}
    {flags? : Option (List UInt32)}
    (imageFits : image.bytes.size < Bytes.span 4)
    (hasSection : image.restrictions = some section_)
    (stands : Stands image.bytes section_ (restrictionSection restrictions))
    (found : restrictions[index]? = some flags?) :
    ∃ place?,
      image.restrictionFlags index = .ok place?
        ∧ Option.Rel (fun place flags => Stands image.bytes place (restrictionItem flags))
          place? flags? := by
  have offsetsStand := stands.left.right
  have flagsStand := stands.right
  rw [length_word] at offsetsStand
  rw [List.length_append, length_word, length_flatMap_of_same fun offset _ => length_word offset,
    length_restrictionOffsets, Nat.mul_comm] at flagsStand
  have offsets := forall₂_restrictionOffsets (Nat.add_pos_left (by decide) _) flagsStand
  obtain ⟨offset, foundOffset, isOffset⟩ := exists_getElem?_of_forall₂ offsets found
  have wordStands :=
    stands_flatMap_getElem (fun offset _ => length_word offset) foundOffset offsetsStand
  have readOffset (fits : offset < Bytes.span 4) :
      image.readAt (section_ + 4 + index * 4) Decoder.u32 = .ok offset :=
    Decoder.runAt_eq_ok (reads_word fits) wordStands
  rw [Image.restrictionFlags, hasSection]
  dsimp only
  cases flags? with
  | none =>
      obtain rfl : offset = 0 := isOffset
      refine ⟨none, ?_, .none⟩
      rw [readOffset (by decide)]
      rfl
  | some flags =>
      obtain ⟨notZero, stands⟩ := isOffset
      have bound := stands.le_size
      refine ⟨some (section_ + offset), ?_, .some stands⟩
      rw [readOffset (by omega)]
      change (if offset = 0 then _ else _) = _
      rw [if_neg notZero, Image.readAt, Decoder.runAt, if_pos (by omega)]
      rfl

/-- The section of flags stands in the image, if some class has flags. -/
def HoldsRestrictions
    (bytes : ByteArray)
    (restrictions : List (Option (List UInt32)))
    (section? : Option Nat) : Prop :=
  match section? with
  | none => ∀ flags? ∈ restrictions, flags? = none
  | some section_ => IsPlaced bytes section_ (restrictionSection restrictions)

/-- The section of flags stands where it is placed. -/
theorem yields_placeRestrictions
    {bytes : ByteArray}
    (positive : 0 < start)
    (fits : bytes.size < Bytes.span 4)
    (restrictions : List (Option (List UInt32))) :
    Yields bytes start (Assembly.placeRestrictions restrictions)
      (HoldsRestrictions bytes restrictions) := by
  rw [Assembly.placeRestrictions]
  by_cases someFlags : restrictions.any Option.isSome = true
  · rw [if_pos someFlags, map_eq_pure_bind]
    refine yields_bind (yields_placeAligned positive fits _) fun offset => ?_
    exact yields_pure id
  · rw [if_neg someFlags]
    refine yields_pure fun flags? member => ?_
    cases flags? with
    | none => rfl
    | some flags =>
        exact (someFlags (List.any_eq_true.mpr ⟨some flags, member, rfl⟩)).elim

/-- The flags of a class are found in the section, if it has any. -/
theorem exists_restrictionFlags
    {restrictions : List (Option (List UInt32))}
    {index : Nat}
    {flags? : Option (List UInt32)}
    (imageFits : image.bytes.size < Bytes.span 4)
    (holds : HoldsRestrictions image.bytes restrictions image.restrictions)
    (found : restrictions[index]? = some flags?) :
    ∃ place?,
      image.restrictionFlags index = .ok place?
        ∧ Option.Rel (fun place flags => Stands image.bytes place (restrictionItem flags))
          place? flags? := by
  cases known : image.restrictions with
  | none =>
      rw [known] at holds
      obtain rfl := holds flags? (List.mem_of_getElem? found)
      refine ⟨none, ?_, .none⟩
      rw [Image.restrictionFlags, known]
  | some section_ =>
      rw [known] at holds
      exact restrictionFlags_eq imageFits known holds.stands found

end Restrictions

/-! The map. -/

section Map

variable {bytes : ByteArray} {item : List UInt8}

open Assembly (mapItem)

/-- A number is read as the part of it that fits four bytes. -/
theorem reads_word_mod (number : Nat) :
    Reads bytes Decoder.u32 (word number) (number % Bytes.span 4) := by
  have reads : Reads bytes (Bytes.ofLittleEndian <$> Decoder.take _) _ _ :=
    (Decoder.reads_take (word number)).map Bytes.ofLittleEndian
  rw [length_word, word, Bytes.ofLittleEndian_littleEndian] at reads
  exact reads

/-- The search for an item of the map passes over another kind. -/
theorem reads_findItem_other
    {kind other offset count : Nat}
    {result : Option Nat}
    (otherFits : other < Bytes.span 2)
    (different : other ≠ kind)
    (reads : Reads bytes (Image.findItem kind count) item result) :
    Reads bytes (Image.findItem kind (count + 1)) (mapItem other offset ++ item) result := by
  rw [mapItem, List.append_assoc, List.append_assoc, List.append_assoc, Image.findItem]
  refine (reads_halfWord otherFits).bind ?_
  refine (reads_halfWord (by decide)).bind ?_
  refine (reads_word (by decide)).bind ?_
  refine (reads_word_mod offset).bind ?_
  rw [if_neg different]
  exact reads

/-- The search for an item of the map ends at its kind. -/
theorem reads_findItem_found
    {kind offset count : Nat}
    (kindFits : kind < Bytes.span 2)
    (fits : offset < Bytes.span 4) :
    Reads bytes (Image.findItem kind (count + 1)) (mapItem kind offset) (some offset) := by
  rw [mapItem, List.append_assoc, List.append_assoc, Image.findItem,
    ← List.append_nil (word offset)]
  refine (reads_halfWord kindFits).bind ?_
  refine (reads_halfWord (by decide)).bind ?_
  refine (reads_word (by decide)).bind ?_
  refine (reads_word fits).bind ?_
  rw [if_pos rfl]
  exact reads_pure _

/-- The bytes of a map that stands at an offset. -/
def mapBytes (section? : Option Nat) (offset : Nat) : Item :=
  let items := mapItem Assembly.headerItem 0
    :: (section?.map (mapItem Image.restrictionsItem)).toList
      ++ [mapItem Assembly.mapListItem offset]
  word items.length ++ items.flatten

/-- The map stands where it is placed. -/
theorem yields_placeMap
    {start : Nat}
    (positive : 0 < start)
    (fits : bytes.size < Bytes.span 4)
    (section? : Option Nat) :
    Yields bytes start (Assembly.placeMap section?) fun place =>
      ∃ offset, IsPlaced bytes place (mapBytes section? offset) := by
  refine yields_bind (Layout.grows_align.yields bytes start) fun _ => ?_
  refine yields_bind (Layout.grows_offset.yields bytes start) fun offset => ?_
  exact (Layout.yields_place positive fits _).imp fun place placed _ _ => ⟨offset, placed⟩

/-- The map leads to the section of flags, if there is one. -/
theorem mapItem?_eq
    {place offset : Nat}
    {section? : Option Nat}
    (fits : ∀ section_ ∈ section?, section_ < Bytes.span 4)
    (placed : IsPlaced bytes place (mapBytes section? offset)) :
    Image.mapItem? bytes place Image.restrictionsItem = .ok section? := by
  rw [Image.mapItem?, if_neg placed.notZero]
  cases section? with
  | none =>
      have whole : Stands bytes place
          (word 2 ++ (mapItem Assembly.headerItem 0
            ++ (mapItem Assembly.mapListItem offset ++ []))) :=
        placed.stands
      refine Decoder.runAt_eq_ok ?_ whole
      refine (reads_word (by decide)).bind ?_
      refine reads_findItem_other (by decide) (by decide) ?_
      refine reads_findItem_other (by decide) (by decide) ?_
      exact reads_pure none
  | some section_ =>
      have whole : Stands bytes place
          (word 3 ++ (mapItem Assembly.headerItem 0
            ++ (mapItem Image.restrictionsItem section_
              ++ (mapItem Assembly.mapListItem offset ++ [])))) :=
        placed.stands
      rw [← List.append_assoc (mapItem _ 0), ← List.append_assoc] at whole
      refine Decoder.runAt_eq_ok ?_ whole.left
      refine (reads_word (by decide)).bind ?_
      refine reads_findItem_other (by decide) (by decide) ?_
      exact reads_findItem_found (by decide) (fits section_ rfl)

end Map

end Dex

end DexSurface
