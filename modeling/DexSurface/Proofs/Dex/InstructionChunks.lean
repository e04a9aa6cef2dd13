import DexSurface.ClassRecord
import DexSurface.Dex.Instructions

namespace DexSurface

namespace Dex

namespace Instructions

/-!
# Well-formed code

Code is well formed if it can be cut into chunks: instructions of as many units as their opcodes
take, and payloads of the size that their headers state.  Scanning accepts well-formed code only,
and gives the opcodes of its instructions.  The first units of a chunk tell how long it is, so there
is one way to cut code, and neither operands nor payloads are mistaken for instructions.
-/

/-- The units of the instruction with an opcode; no operation is the unit zero. -/
inductive IsInstruction : UInt8 → List UInt16 → Prop where
  | ofOpcode
      {unit : UInt16}
      {operands : List UInt16}
      (whole : (unit :: operands).length = width (opcodeOf unit))
      (isZero : opcodeOf unit = 0 → unit = 0) :
      IsInstruction (opcodeOf unit) (unit :: operands)

/-- The units of a payload, as many as its header says. -/
inductive IsPayload : List UInt16 → Prop where
  /-- A number of targets, the first key and the targets, the last two in pairs of units. -/
  | ofConsecutiveKeys
      {size : UInt16}
      {stored : List UInt16}
      (whole : stored.length = 2 * (1 + size.toNat)) :
      IsPayload (packedSwitch :: size :: stored)
  /-- A number of targets, the keys and the targets, the last two in pairs of units. -/
  | ofListedKeys
      {size : UInt16}
      {stored : List UInt16}
      (whole : stored.length = 2 * (size.toNat + size.toNat)) :
      IsPayload (sparseSwitch :: size :: stored)
  /-- The bytes of an element, the number of elements, and their bytes, two in a unit. -/
  | ofElements
      {elementWidth low high : UInt16}
      {stored : List UInt16}
      (whole : stored.length =
        ((low.toNat + 0x10000 * high.toNat) * elementWidth.toNat + 1) / 2) :
      IsPayload (arrayData :: elementWidth :: low :: high :: stored)

/-- A piece of code. -/
inductive Chunk where
  | instruction (opcode : UInt8) (units : List UInt16)
  | payload (units : List UInt16)
  deriving Repr, DecidableEq

namespace Chunk

/-- The units of a chunk. -/
def units : Chunk → List UInt16
  | instruction _ units => units
  | payload units => units

/-- The opcode of an instruction. -/
def opcode? : Chunk → Option UInt8
  | instruction opcode _ => some opcode
  | payload _ => none

/-- The chunk has the units that it should have. -/
def IsWellFormed : Chunk → Prop
  | instruction opcode units => IsInstruction opcode units
  | payload units => IsPayload units

/-- A chunk is known by its units and its opcode. -/
theorem eq_of_units_eq
    {first second : Chunk}
    (sameUnits : first.units = second.units)
    (sameOpcode : first.opcode? = second.opcode?) :
    first = second := by
  cases first <;> cases second <;>
    simp_all [units, opcode?]

end Chunk

/-- Chunks into which units are cut. -/
structure IsCutInto (units : List UInt16) (chunks : List Chunk) : Prop where
  wellFormed : ∀ chunk ∈ chunks, chunk.IsWellFormed
  units_eq : chunks.flatMap Chunk.units = units

variable
  {address count : Nat}
  {unit : UInt16}
  {own units rest : List UInt16}
  {opcode? : Option UInt8}
  {opcodes : List UInt8}
  {chunk : Chunk}
  {chunks : List Chunk}

/-! The header of a payload tells how long it is. -/

/-- A payload starts with the opcode zero in a unit that is not zero. -/
theorem IsPayload.starts
    (isPayload : IsPayload own)
    (atFront : own ++ rest = unit :: units) :
    opcodeOf unit = 0 ∧ unit ≠ 0 := by
  cases isPayload <;> cases atFront <;> decide

/-- The width that is found for a payload is its length. -/
theorem IsPayload.payloadWidth_eq
    (isPayload : IsPayload own)
    (atFront : own ++ rest = unit :: units) :
    payloadWidth address unit units = .ok own.length := by
  cases isPayload with
  | ofConsecutiveKeys whole =>
      cases atFront
      simp [payloadWidth, whole]
      omega
  | ofListedKeys whole =>
      cases atFront
      simp [payloadWidth, packedSwitch, sparseSwitch, whole]
      omega
  | ofElements whole =>
      cases atFront
      simp [payloadWidth, packedSwitch, sparseSwitch, arrayData, whole]
      omega

/-- Units of which a payload header states no more than there are start with a payload. -/
theorem isPayload_take
    (stated : payloadWidth address unit units = .ok count)
    (inside : count ≤ (unit :: units).length) :
    IsPayload ((unit :: units).take count) := by
  rw [List.length_cons] at inside
  simp only [payloadWidth] at stated
  split at stated
  · next isPacked =>
      subst isPacked
      split at stated <;> cases stated
      next size stored =>
        rw [List.length_cons] at inside
        rw [show 4 + size.toNat * 2 = 2 * (1 + size.toNat) + 1 + 1 by omega]
        exact .ofConsecutiveKeys (by simp; omega)
  · split at stated
    · next isSparse =>
        subst isSparse
        split at stated <;> cases stated
        next size stored =>
          rw [List.length_cons] at inside
          rw [show 2 + size.toNat * 4 = 2 * (size.toNat + size.toNat) + 1 + 1 by omega]
          exact .ofListedKeys (by simp; omega)
    · split at stated
      · next isArray =>
          subst isArray
          split at stated <;> cases stated
          next elementWidth low high stored =>
            simp only [List.length_cons] at inside
            rw [Nat.add_comm 4]
            exact .ofElements (by simp; omega)
      · cases stated

/-! One step goes over one chunk. -/

/-- No instruction has the width zero. -/
theorem width_ne_zero (opcode : UInt8) : width opcode ≠ 0 := by
  simp only [width]
  repeat' split
  all_goals decide

/-- A well-formed chunk has units. -/
theorem Chunk.IsWellFormed.length_pos (wellFormed : chunk.IsWellFormed) :
    0 < chunk.units.length := by
  cases chunk with
  | instruction opcode units =>
      cases wellFormed
      simp [Chunk.units]
  | payload units =>
      cases wellFormed <;> simp [Chunk.units]

/-- A step over a well-formed chunk gives its opcode and its length, whatever follows it. -/
theorem Chunk.IsWellFormed.step_eq
    (wellFormed : chunk.IsWellFormed)
    (atFront : chunk.units ++ rest = unit :: units) :
    step address unit units = .ok (chunk.opcode?, chunk.units.length) := by
  cases chunk with
  | instruction opcode own =>
      cases wellFormed with
      | ofOpcode whole isZero =>
          cases atFront
          have noPayload : ¬ (opcodeOf unit = 0 ∧ unit ≠ 0) := by
            rintro ⟨zeroOpcode, notZero⟩
            exact notZero (isZero zeroOpcode)
          simp only [step, if_neg noPayload, Chunk.opcode?, Chunk.units, whole]
          rfl
  | payload own =>
      have isPayload : IsPayload own := wellFormed
      simp only [step, if_pos (isPayload.starts atFront), isPayload.payloadWidth_eq atFront]
      rfl

/-- A step that stays inside the code goes over a well-formed chunk. -/
theorem exists_chunk_of_step
    (stepped : step address unit units = .ok (opcode?, count))
    (inside : count ≤ (unit :: units).length) :
    ∃ chunk : Chunk,
      chunk.IsWellFormed
        ∧ chunk.units = (unit :: units).take count
        ∧ chunk.opcode? = opcode? := by
  simp only [step] at stepped
  split at stepped
  · cases stated : payloadWidth address unit units with
    | error error =>
        rw [stated] at stepped
        cases stepped
    | ok width =>
        rw [stated] at stepped
        cases stepped
        exact ⟨.payload _, isPayload_take stated inside, rfl, rfl⟩
  · next noPayload =>
      cases stepped
      have isZero : opcodeOf unit = 0 → unit = 0 := fun zeroOpcode =>
        Decidable.byContradiction fun notZero => noPayload ⟨zeroOpcode, notZero⟩
      refine ⟨.instruction (opcodeOf unit) _, ?_, rfl, rfl⟩
      obtain ⟨fewer, isWidth⟩ := Nat.exists_eq_succ_of_ne_zero (width_ne_zero (opcodeOf unit))
      rw [isWidth] at inside ⊢
      refine .ofOpcode ?_ isZero
      rw [isWidth, ← List.take_succ_cons, List.length_take_of_le inside]

/-- A step over an instruction goes forwards. -/
theorem ne_zero_of_step (stepped : step address unit units = .ok (opcode?, count)) :
    count ≠ 0 := by
  intro isZero
  subst isZero
  obtain ⟨chunk, wellFormed, noUnits, -⟩ := exists_chunk_of_step stepped (Nat.zero_le _)
  have isLong := wellFormed.length_pos
  simp [noUnits] at isLong

/-! Scanning goes over all chunks. -/

/-- Scanning goes on behind what a step goes over, unless the code ends before. -/
theorem scanFrom_cons
    (stepped : step address unit units = .ok (opcode?, count)) :
    scanFrom address (unit :: units) =
      if (unit :: units).length < count then
        .error (.codeOverrun (count - (unit :: units).length))
      else
        (opcode?.toList ++ ·) <$> scanFrom (address + count) ((unit :: units).drop count) := by
  obtain ⟨fewer, rfl⟩ := Nat.exists_eq_succ_of_ne_zero (ne_zero_of_step stepped)
  rw [scanFrom, stepped, List.length_cons]
  change (if (units.drop fewer).isEmpty = true ∧ units.length + 1 < fewer + 1 then
      throw (.codeOverrun (fewer + 1 - (units.length + 1)))
    else
      scanFrom (address + (fewer + 1)) (units.drop fewer) >>= fun opcodes =>
        pure (opcode?.toList ++ opcodes)) = _
  by_cases overrun : units.length + 1 < fewer + 1
  · have noneLeft : (units.drop fewer).isEmpty = true := by
      simp
      omega
    rw [if_pos ⟨noneLeft, overrun⟩, if_pos overrun]
    rfl
  · rw [if_neg fun both => overrun both.2, if_neg overrun, map_eq_pure_bind]
    rfl

/-- Units that start with a well-formed chunk have a first one. -/
theorem Chunk.IsWellFormed.exists_cons
    (wellFormed : chunk.IsWellFormed)
    (rest : List UInt16) :
    ∃ unit units, chunk.units ++ rest = unit :: units := by
  apply List.exists_cons_of_length_pos
  rw [List.length_append]
  exact Nat.add_pos_left wellFormed.length_pos _

/-- A well-formed chunk adds its opcode to those of the code behind it. -/
theorem scanFrom_append
    (wellFormed : chunk.IsWellFormed)
    (rest : List UInt16) :
    scanFrom address (chunk.units ++ rest) =
      (chunk.opcode?.toList ++ ·) <$> scanFrom (address + chunk.units.length) rest := by
  obtain ⟨unit, units, atFront⟩ := wellFormed.exists_cons rest
  have inside : ¬ (chunk.units ++ rest).length < chunk.units.length := by simp
  rw [atFront, scanFrom_cons (wellFormed.step_eq atFront), ← atFront, if_neg inside, List.drop_left]

/-- Scanning units that are cut into chunks finds the opcodes of their instructions. -/
theorem IsCutInto.scanFrom_eq (isCut : IsCutInto units chunks) :
    scanFrom address units = .ok (chunks.filterMap Chunk.opcode?) := by
  obtain ⟨wellFormed, rfl⟩ := isCut
  induction chunks generalizing address with
  | nil => simp [scanFrom]
  | cons first rest inductionHypothesis =>
      obtain ⟨isFirst, areRest⟩ := List.forall_mem_cons.mp wellFormed
      rw [List.flatMap_cons, scanFrom_append isFirst, inductionHypothesis areRest]
      cases first <;> rfl

/--
Units are cut into a first chunk and others exactly if it is well formed and the rest is cut into
the others.
-/
theorem isCutInto_cons_iff :
    IsCutInto units (chunk :: chunks)
      ↔ chunk.IsWellFormed ∧ ∃ rest, IsCutInto rest chunks ∧ chunk.units ++ rest = units := by
  constructor
  · rintro ⟨wellFormed, rfl⟩
    obtain ⟨isFirst, areRest⟩ := List.forall_mem_cons.mp wellFormed
    exact ⟨isFirst, _, ⟨areRest, rfl⟩, rfl⟩
  · rintro ⟨isFirst, rest, ⟨areRest, rfl⟩, rfl⟩
    exact ⟨List.forall_mem_cons.mpr ⟨isFirst, areRest⟩, rfl⟩

/-- Code that is scanned can be cut: each step goes over the chunk that the code starts with. -/
theorem exists_isCutInto
    (scanned : scanFrom address units = .ok opcodes) :
    ∃ chunks, IsCutInto units chunks := by
  induction address, units using scanFrom.induct generalizing opcodes with
  | case1 address => exact ⟨[], by simp, rfl⟩
  | case2 address unit units inductionHypothesis =>
      cases stepped : step address unit units with
      | error error =>
          rw [scanFrom, stepped] at scanned
          cases scanned
      | ok result =>
          obtain ⟨opcode?, count⟩ := result
          rw [scanFrom_cons stepped] at scanned
          split at scanned
          · cases scanned
          · next inside =>
              obtain ⟨chunk, wellFormed, atFront, -⟩ :=
                exists_chunk_of_step stepped (Nat.le_of_not_lt inside)
              obtain ⟨fewer, rfl⟩ := Nat.exists_eq_succ_of_ne_zero (ne_zero_of_step stepped)
              cases restScanned : scanFrom (address + fewer.succ) (units.drop fewer) with
              | error error =>
                  rw [List.drop_succ_cons, restScanned] at scanned
                  cases scanned
              | ok others =>
                  obtain ⟨chunks, isCut⟩ := inductionHypothesis fewer.succ restScanned
                  refine ⟨chunk :: chunks, isCutInto_cons_iff.mpr ⟨wellFormed, _, isCut, ?_⟩⟩
                  rw [atFront]
                  exact List.take_append_drop (fewer + 1) (unit :: units)

/-- Code is cut into chunks in one way only. -/
theorem IsCutInto.unique
    {others : List Chunk}
    (isCut : IsCutInto units chunks)
    (isOtherCut : IsCutInto units others) :
    chunks = others := by
  induction chunks generalizing units others with
  | nil =>
      cases others with
      | nil => rfl
      | cons other others =>
          obtain ⟨wellFormed, rest, -, isUnits⟩ := isCutInto_cons_iff.mp isOtherCut
          obtain ⟨unit, units, atFront⟩ := wellFormed.exists_cons rest
          have noUnits := isCut.units_eq
          simp [← isUnits, atFront] at noUnits
  | cons first chunks inductionHypothesis =>
      obtain ⟨isFirst, rest, isRestCut, rfl⟩ := isCutInto_cons_iff.mp isCut
      obtain ⟨unit, units, atFront⟩ := isFirst.exists_cons rest
      cases others with
      | nil =>
          have noUnits := isOtherCut.units_eq
          simp [atFront] at noUnits
      | cons other others =>
          obtain ⟨isOther, otherRest, isOtherRestCut, isUnits⟩ := isCutInto_cons_iff.mp isOtherCut
          have stepped : step 0 unit units = .ok (first.opcode?, first.units.length) :=
            isFirst.step_eq atFront
          rw [isOther.step_eq (isUnits.trans atFront)] at stepped
          obtain ⟨sameOpcode, sameLength⟩ := Prod.mk.inj (Except.ok.inj stepped)
          obtain ⟨sameUnits, sameRest⟩ := List.append_inj isUnits sameLength
          rw [Chunk.eq_of_units_eq sameUnits sameOpcode]
          rw [sameRest] at isOtherRestCut
          rw [inductionHypothesis isRestCut isOtherRestCut]

/-! What scanning code says about it. -/

/-- Scanning accepts well-formed code only, and finds its instructions. -/
structure IsScannedExactly (units : List UInt16) : Prop where
  /-- The opcodes are those of the instructions, in their order. -/
  accepts :
    ∀ opcodes : List UInt8,
      Instructions.opcodes units = .ok opcodes
        ↔ ∃ chunks, IsCutInto units chunks ∧ chunks.filterMap Chunk.opcode? = opcodes
  unique :
    ∀ chunks others, IsCutInto units chunks → IsCutInto units others → chunks = others
  rejects :
    (∃ error, Instructions.opcodes units = .error error) ↔ ¬ ∃ chunks, IsCutInto units chunks
  /-- A body of this code enters a monitor only by an instruction, and by every such one. -/
  monitors :
    ∀ (body : MethodBody) (chunks : List Chunk),
      Instructions.opcodes units = .ok body.opcodes →
      IsCutInto units chunks →
      (body.hasMonitorEnter = true
        ↔ ∃ own, Chunk.instruction monitorEnterOpcode own ∈ chunks)

/-- Scanning finds exactly the opcodes of the chunks that the units are cut into. -/
theorem opcodes_eq_ok_iff :
    Instructions.opcodes units = .ok opcodes
      ↔ ∃ chunks, IsCutInto units chunks ∧ chunks.filterMap Chunk.opcode? = opcodes := by
  constructor
  · intro scanned
    obtain ⟨chunks, isCut⟩ := exists_isCutInto scanned
    refine ⟨chunks, isCut, ?_⟩
    rw [Instructions.opcodes, isCut.scanFrom_eq] at scanned
    exact Except.ok.inj scanned
  · rintro ⟨chunks, isCut, rfl⟩
    exact isCut.scanFrom_eq

/-- The opcode of an instruction is found if there is such an instruction. -/
theorem mem_filterMap_opcode?_iff {opcode : UInt8} :
    opcode ∈ chunks.filterMap Chunk.opcode?
      ↔ ∃ own, Chunk.instruction opcode own ∈ chunks := by
  rw [List.mem_filterMap]
  constructor
  · rintro ⟨chunk, member, isOpcode⟩
    cases chunk with
    | instruction other own =>
        cases isOpcode
        exact ⟨own, member⟩
    | payload own => cases isOpcode
  · rintro ⟨own, member⟩
    exact ⟨_, member, rfl⟩

/-- Scanning tells well-formed code from any other, and instructions from all other units. -/
theorem isScannedExactly (units : List UInt16) : IsScannedExactly units := by
  constructor
  case accepts => exact fun opcodes => opcodes_eq_ok_iff
  case unique => exact fun chunks others isCut isOtherCut => isCut.unique isOtherCut
  case rejects =>
    cases scanned : Instructions.opcodes units with
    | error error =>
        have noCut : ¬ ∃ chunks, IsCutInto units chunks := by
          rintro ⟨chunks, isCut⟩
          rw [Instructions.opcodes, isCut.scanFrom_eq] at scanned
          cases scanned
        simpa using noCut
    | ok opcodes =>
        obtain ⟨chunks, isCut⟩ := exists_isCutInto scanned
        simpa using ⟨chunks, isCut⟩
  case monitors =>
    intro body chunks scanned isCut
    obtain ⟨others, isOtherCut, isOpcodes⟩ := opcodes_eq_ok_iff.mp scanned
    obtain rfl := isCut.unique isOtherCut
    rw [MethodBody.hasMonitorEnter, List.contains_iff_mem, ← isOpcodes, mem_filterMap_opcode?_iff]

/-- A jump table behind the code is stepped over, and the monitor is entered once. -/
example :
    Instructions.opcodes
        [0x001d, 0x002b, 0x0004, 0x0000, 0x000e, 0x0100, 0x0001, 0x0000, 0x0000, 0x001d, 0x0000]
      = .ok [0x1d, 0x2b, 0x0e] := by
  cbv

end Instructions

end Dex

end DexSurface
