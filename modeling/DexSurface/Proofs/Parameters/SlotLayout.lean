import Mathlib.Data.List.Nodup
import DexSurface.Proofs.Descriptor.FieldTypes
import DexSurface.Proofs.Parameters.NameRecovery

namespace DexSurface

/-!
# The slots of parameters

Parameters are placed from the front, behind the receiver, while their names are looked up at a
distance from the end of the registers.  Both counts describe one layout: the receiver and the
parameters fill the local slots without gaps, a slot and the distance of its parameter add up to
their number, and the method descriptor states the same size.
-/

namespace Stub

variable
  {method : MethodRecord}
  {parameters : List Parameter}
  {position : Nat}

/-- A parameter is placed behind the widths of those before it. -/
theorem getElem?_place (slot : Nat) (parameters : List Parameter) (position : Nat) :
    (place slot parameters)[position]? =
      parameters[position]?.map fun parameter =>
        ⟨slot + totalWidth (parameters.take position), parameter⟩ := by
  induction parameters generalizing slot position with
  | nil => rfl
  | cons first rest inductionHypothesis =>
      cases position with
      | zero => rfl
      | succ position =>
          rw [place, List.getElem?_cons_succ, inductionHypothesis, List.getElem?_cons_succ,
            List.take_succ_cons, totalWidth, totalWidth, total_cons, Nat.add_assoc]

/-- The widths in front of a position and from there on add up to the width of all parameters. -/
theorem totalWidth_take_add_drop (parameters : List Parameter) (position : Nat) :
    totalWidth (parameters.take position) + totalWidth (parameters.drop position) =
      totalWidth parameters := by
  rw [totalWidth, totalWidth, ← total_append, List.take_append_drop]
  rfl

/-- The slots of a parameter in order. -/
def PlacedParameter.slots (placed : PlacedParameter) : List Nat :=
  List.range' placed.slot placed.parameter.width

/-- Placed parameters take consecutive slots. -/
theorem flatMap_slots_place (slot : Nat) (parameters : List Parameter) :
    (place slot parameters).flatMap PlacedParameter.slots =
      List.range' slot (totalWidth parameters) := by
  induction parameters generalizing slot with
  | nil => rfl
  | cons first rest inductionHypothesis =>
      rw [place, List.flatMap_cons, inductionHypothesis, PlacedParameter.slots, totalWidth,
        totalWidth, total_cons]
      exact List.range'_append_1

/-! Recovered names change no width. -/

/-- A parameter that keeps its type keeps its width. -/
theorem width_eq_of_keepsDeclared
    {source recovered : Parameter}
    (keeps : KeepsDeclared source recovered) :
    recovered.width = source.width := by
  rw [Parameter.width, keeps.parameterType, Parameter.width]

/-- Parameters that keep their types keep their total width. -/
theorem totalWidth_eq_of_keepsDeclared
    {recovered : List Parameter}
    (kept : List.Forall₂ KeepsDeclared parameters recovered) :
    totalWidth recovered = totalWidth parameters := by
  induction kept with
  | nil => rfl
  | cons keeps _ inductionHypothesis =>
      rw [totalWidth, totalWidth] at inductionHypothesis
      rw [totalWidth, totalWidth, total_cons, total_cons, width_eq_of_keepsDeclared keeps,
        inductionHypothesis]

/-- The parameters of a method are placed behind its receiver, some of them with new names. -/
theorem exists_placedParameters_eq (method : MethodRecord) :
    ∃ recovered,
      List.Forall₂ KeepsDeclared method.parameters recovered
        ∧ placedParameters method = place (receiverWidth method) recovered := by
  rcases placedParameters_cases method with ⟨-, placed⟩ | ⟨body, -, -, placed⟩
  · exact ⟨_, forall₂_keepsDeclared_self _, placed⟩
  · exact ⟨_, keepsDeclared_recoverNames body _, placed⟩

/-! The layout of a method. -/

/-- The slots of the receiver, and those of each parameter. -/
def slotRanges (method : MethodRecord) : List (List Nat) :=
  List.range (receiverWidth method) :: (placedParameters method).map PlacedParameter.slots

/-- Where a parameter is placed from the front, and where recovery looks for it from the end. -/
structure IsLaidOut
    (method : MethodRecord)
    (position : Nat)
    (parameter : Parameter)
    (placed : PlacedParameter)
    (distance : Nat) : Prop where
  parameterType : placed.parameter.parameterType = parameter.parameterType
  slot :
    placed.slot = receiverWidth method + totalWidth (method.parameters.take position)
  slot_add_distance : placed.slot + distance = maxLocals method
  register :
    ∀ (body : MethodBody) (start : LocalStart),
      startsParameter body.registerCount parameter distance start = true
        ↔ start.name ≠ none
          ∧ start.register.toNat + maxLocals method = body.registerCount.toNat + placed.slot
          ∧ start.localType = some parameter.parameterType

/-- The counts of local slots of a method agree. -/
structure HasOneLayout (method : MethodRecord) : Prop where
  length_eq : (placedParameters method).length = method.parameters.length
  parameters :
    ∀ (position : Nat) parameter, method.parameters[position]? = some parameter →
      ∃ placed distance,
        (placedParameters method)[position]? = some placed
          ∧ (withDistance method.parameters)[position]? = some (parameter, distance)
          ∧ IsLaidOut method position parameter placed distance
  /-- The ranges follow each other without gaps, and they are all slots. -/
  filled : (slotRanges method).flatten = List.range (maxLocals method)
  disjoint : (slotRanges method).Pairwise List.Disjoint
  /-- The descriptor of a method states its size if its parameter types are well formed. -/
  descriptor :
    (∀ type ∈ method.parameterTypes, Descriptor.IsFieldType type) →
      ∃ size,
        Descriptor.argumentSize? method.descriptor = some size
          ∧ maxLocals method = receiverWidth method + size
  /-- Slots fit the sixteen bits in which they are written if their number does. -/
  fits :
    maxLocals method ≤ 65535 →
      (maxLocals method).toUInt16.toNat = maxLocals method
        ∧ ∀ placed ∈ placedParameters method, placed.slot.toUInt16.toNat = placed.slot

/-- A recovered parameter is placed where recovery looked for it. -/
theorem isLaidOut_of_keepsDeclared
    {recovered : List Parameter}
    {parameter named : Parameter}
    (kept : List.Forall₂ KeepsDeclared method.parameters recovered)
    (keeps : KeepsDeclared parameter named) :
    IsLaidOut method position parameter
      ⟨receiverWidth method + totalWidth (recovered.take position), named⟩
      (totalWidth (method.parameters.drop position)) := by
  have inFront :
      totalWidth (recovered.take position) = totalWidth (method.parameters.take position) :=
    totalWidth_eq_of_keepsDeclared (List.forall₂_take position kept)
  have allSlots := totalWidth_take_add_drop method.parameters position
  have count : maxLocals method = receiverWidth method + totalWidth method.parameters := rfl
  refine ⟨keeps.parameterType, by rw [inFront], ?_, fun body start => ?_⟩
  · dsimp only
    omega
  · have sameRegister :
        start.register.toNat + totalWidth (method.parameters.drop position)
            = body.registerCount.toNat
          ↔ start.register.toNat + maxLocals method =
              body.registerCount.toNat
                + (receiverWidth method + totalWidth (recovered.take position)) := by
      omega
    simp [startsParameter, Option.isSome_iff_ne_none, and_assoc, sameRegister]

/-- The slots of the receiver and the parameters are all the locals, in order. -/
theorem flatten_slotRanges (method : MethodRecord) :
    (slotRanges method).flatten = List.range (maxLocals method) := by
  obtain ⟨recovered, kept, placed⟩ := exists_placedParameters_eq method
  rw [slotRanges, List.flatten_cons, ← List.flatMap_def, placed, flatMap_slots_place,
    totalWidth_eq_of_keepsDeclared kept, maxLocals, List.range_eq_range', List.range_eq_range',
    ← List.range'_append_1, Nat.zero_add]

/-- A parameter has its slot below the number of all slots. -/
theorem slot_lt_maxLocals {placed : PlacedParameter} (member : placed ∈ placedParameters method) :
    placed.slot < maxLocals method := by
  have ownSlot : placed.slot ∈ placed.slots :=
    List.mem_range'_1.mpr ⟨Nat.le_refl _, Nat.lt_add_of_pos_right (width_pos placed.parameter)⟩
  have isSlot : placed.slot ∈ (slotRanges method).flatten :=
    List.mem_flatten.mpr
      ⟨placed.slots, List.mem_cons_of_mem _ (List.mem_map_of_mem member), ownSlot⟩
  rw [flatten_slotRanges] at isSlot
  exact List.mem_range.mp isSlot

/-- The descriptor of a method states the total width of its parameters. -/
theorem argumentSize?_descriptor
    (wellFormed : ∀ type ∈ method.parameterTypes, Descriptor.IsFieldType type) :
    Descriptor.argumentSize? method.descriptor = some (totalWidth method.parameters) := by
  rw [MethodRecord.descriptor, Descriptor.argumentSize?_ofMethod wellFormed,
    MethodRecord.parameterTypes, total, List.foldr_map]
  rfl

/--
The slots counted from the front, the distances counted from the end, the number of all slots and
the size in the method descriptor describe one layout.
-/
theorem hasOneLayout (method : MethodRecord) : HasOneLayout method := by
  obtain ⟨recovered, kept, placedEq⟩ := exists_placedParameters_eq method
  have filled := flatten_slotRanges method
  constructor
  case length_eq =>
    have sameLength := congrArg List.length (map_parameter_place (receiverWidth method) recovered)
    rw [placedEq, ← List.length_map PlacedParameter.parameter, sameLength]
    exact kept.length_eq.symm
  case parameters =>
    intro position parameter found
    obtain ⟨named, namedFound, keeps⟩ := (forall₂_iff_getElem?.mp kept).2 position parameter found
    refine ⟨_, _, ?_, ?_, isLaidOut_of_keepsDeclared kept keeps⟩
    · rw [placedEq, getElem?_place, namedFound, Option.map_some]
    · rw [getElem?_withDistance, found, Option.map_some]
  case filled => exact filled
  case disjoint =>
    have distinct : (slotRanges method).flatten.Nodup := filled ▸ List.nodup_range
    exact (List.nodup_flatten.mp distinct).2
  case descriptor => exact fun wellFormed => ⟨_, argumentSize?_descriptor wellFormed, rfl⟩
  case fits =>
    intro bounded
    simp only [Nat.toUInt16, UInt16.toNat_ofNat']
    refine ⟨by omega, fun placed member => ?_⟩
    have below := slot_lt_maxLocals member
    omega

end Stub

end DexSurface
