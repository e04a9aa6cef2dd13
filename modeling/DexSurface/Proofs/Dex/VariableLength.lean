import DexSurface.Dex.Leb128
import DexSurface.Proofs.Dex.StandingBytes

namespace DexSurface

namespace Dex

/-!
# Spellings of variable-length numbers

A number can be spelled with more groups of seven bits than it needs, as zeros may stand in front
of its digits.  Every spelling of a number in at most five bytes is read as that number; the bytes
that are written for a number are one of its spellings.
-/

namespace Decoder

/-- A last group has its high bit clear and holds seven bits. -/
theorem leb_last_byte (number : Fin 128) :
    number.val.toUInt8 &&& 0x80 = 0 ∧ (number.val.toUInt8 &&& 0x7f).toNat = number := by
  revert number
  decide

/-- Any other group has its high bit set and holds seven bits. -/
theorem leb_other_byte (number : Fin 128) :
    (0x80 + number.val).toUInt8 &&& 0x80 ≠ 0
      ∧ ((0x80 + number.val).toUInt8 &&& 0x7f).toNat = number := by
  revert number
  decide

end Decoder

namespace Leb128

variable {bytes : ByteArray} {item : List UInt8} {number : Nat}

/-- Bytes that spell a number: all but the last have their high bit set, the low group is first. -/
inductive Spells : List UInt8 → Nat → Prop where
  | last (group : Fin 0x80) : Spells [group.val.toUInt8] group
  | more
      {rest : List UInt8}
      {number : Nat}
      (group : Fin 0x80)
      (spells : Spells rest number) :
      Spells ((0x80 + group.val).toUInt8 :: rest) (group + 0x80 * number)

/-- Bytes that stand for a number without sign. -/
structure IsUnsigned (item : List UInt8) (number : Nat) : Prop where
  spells : Spells item number
  few : item.length ≤ Decoder.maxLebBytes
  fits : number < Bytes.span 4

/-- Bytes that stand for a number with sign, in two's complement of as many groups as there are. -/
structure IsSigned (item : List UInt8) (number : Int) : Prop where
  spells : Spells item (number % (0x80 ^ item.length : Nat)).toNat
  few : item.length ≤ Decoder.maxLebBytes
  lowest : -(0x80 ^ item.length / 2 : Nat) ≤ number
  highest : number < (0x80 ^ item.length / 2 : Nat)

/-- Bytes that stand for an index that may be absent. -/
def IsOptional (item : List UInt8) : Option Nat → Prop
  | none => IsUnsigned item 0
  | some index => IsUnsigned item (index + 1)

/-- A number is spelled by at least one byte. -/
theorem Spells.length_pos (spells : Spells item number) : 1 ≤ item.length := by
  cases spells <;> simp

/-- A number takes at least one byte. -/
theorem IsUnsigned.length_pos (isNumber : IsUnsigned item number) : 1 ≤ item.length :=
  isNumber.spells.length_pos

/-- The bytes that are written for a number spell it. -/
theorem spells_encode (number : Nat) : Spells (encode number) number := by
  induction number using encode.induct with
  | case1 number small =>
      rw [encode_of_lt small]
      exact .last ⟨number, small⟩
  | case2 number large inductionHypothesis =>
      rw [encode, if_neg large]
      have spells := inductionHypothesis.more ⟨number % 0x80, Nat.mod_lt _ (by decide)⟩
      rwa [Nat.mod_add_div] at spells

/-- A number below a power of groups takes no more groups than that. -/
theorem length_encode_le (limit : Nat) {number : Nat} (fits : number < 0x80 ^ (limit + 1)) :
    (encode number).length ≤ limit + 1 := by
  induction limit generalizing number with
  | zero =>
      rw [encode_of_lt (by omega)]
      exact Nat.le_refl 1
  | succ limit inductionHypothesis =>
      by_cases small : number < 0x80
      · simp [encode_of_lt small]
      · have fewer : number / 0x80 < 0x80 ^ (limit + 1) := by
          rw [Nat.div_lt_iff_lt_mul (by decide)]
          rwa [Nat.pow_succ] at fits
        rw [encode, if_neg small, List.length_cons]
        exact Nat.succ_le_succ (inductionHypothesis fewer)

/-- The encoded bytes of a number of 32 bits stand for it. -/
theorem isUnsigned_encode (fits : number < Bytes.span 4) : IsUnsigned (encode number) number where
  spells := spells_encode number
  few := length_encode_le 4 (Nat.lt_trans fits (by decide))
  fits

/-- The groups of a spelling are those of the number. -/
theorem Spells.ofGroups_eq (spells : Spells item number) : Decoder.ofGroups item = number := by
  induction spells with
  | last group =>
      simp only [Decoder.ofGroups, (Decoder.leb_last_byte group).2, Nat.mul_zero, Nat.add_zero]
  | more group _ inductionHypothesis =>
      rw [Decoder.ofGroups, (Decoder.leb_other_byte group).2, inductionHypothesis]

/-- The bytes of a spelling are read if there are not too many. -/
theorem Spells.reads_lebBytes
    (spells : Spells item number)
    (start : Nat)
    {limit : Nat}
    (few : item.length ≤ limit) :
    Decoder.Reads bytes (Decoder.lebBytes start limit) item item := by
  induction spells generalizing limit with
  | last group =>
      obtain ⟨fewer, rfl⟩ := Nat.exists_eq_add_of_le' few
      refine (Decoder.reads_u8 group.val.toUInt8).bind ?_
      rw [if_pos (Decoder.leb_last_byte group).1]
      exact Decoder.reads_pure _
  | more group _ inductionHypothesis =>
      rw [List.length_cons] at few
      obtain ⟨fewer, rfl⟩ := Nat.exists_eq_add_of_le' (Nat.le_of_add_left_le few)
      refine (Decoder.reads_u8 (0x80 + group.val).toUInt8).bind ?_
      rw [if_neg (Decoder.leb_other_byte group).1]
      exact (inductionHypothesis (by omega)).bind_pure _

/-- A number is read from each of its spellings. -/
theorem IsUnsigned.reads (isNumber : IsUnsigned item number) :
    Decoder.Reads bytes Decoder.uleb128 item number := by
  intro position stands
  have reads := ((isNumber.spells.reads_lebBytes position isNumber.few).bind_pure
    fun groups => Decoder.ofGroups groups % Bytes.span 4) position stands
  rwa [isNumber.spells.ofGroups_eq, Nat.mod_eq_of_lt isNumber.fits] at reads

/-! Numbers with sign. -/

/-- The span of some groups is even. -/
theorem Spells.exists_half (spells : Spells item number) :
    ∃ half, 0x80 ^ item.length = 2 * half := by
  obtain ⟨fewer, sameLength⟩ := Nat.exists_eq_add_of_le' spells.length_pos
  refine ⟨0x40 * 0x80 ^ fewer, ?_⟩
  rw [sameLength, Nat.pow_succ]
  omega

/-- The sign bit of a group is set exactly from 0x40 on. -/
theorem sign_bit (group : Fin 0x80) :
    (group.val.toUInt8 &&& 0x40 != 0) = decide (0x40 ≤ group.val) := by
  revert group
  decide

/-- The sign bit says whether a number lies in the upper half of what its groups can hold. -/
theorem Spells.isNegative_iff (spells : Spells item number) :
    Decoder.isNegative item ↔ 0x80 ^ item.length ≤ 2 * number := by
  induction spells with
  | last group =>
      simp only [Decoder.isNegative, List.getLast?_singleton, sign_bit, decide_eq_true_eq,
        List.length_singleton]
      omega
  | @more rest number group spells inductionHypothesis =>
      obtain ⟨half, even⟩ := spells.exists_half
      have sameSign :
          Decoder.isNegative ((0x80 + group.val).toUInt8 :: rest) = Decoder.isNegative rest := by
        rw [Decoder.isNegative, Decoder.isNegative,
          List.getLast?_cons_of_ne_nil (List.ne_nil_of_length_pos spells.length_pos)]
      rw [sameSign, inductionHypothesis, List.length_cons, Nat.pow_succ, even]
      omega

/-- The span of groups is a power of 0x80. -/
theorem spanOfGroups_eq (item : List UInt8) : Decoder.spanOfGroups item = 0x80 ^ item.length := by
  induction item with
  | nil => rfl
  | cons byte rest inductionHypothesis =>
      rw [Decoder.spanOfGroups, inductionHypothesis, List.length_cons, Nat.pow_succ, Nat.mul_comm]

/-- The groups of a number with sign hold it up to as many numbers as they can hold. -/
theorem IsSigned.ofGroups_eq {amount : Int} (isNumber : IsSigned item amount) :
    (Decoder.isNegative item ∧ Decoder.ofGroups item = amount + Decoder.spanOfGroups item)
      ∨ (¬ Decoder.isNegative item ∧ Decoder.ofGroups item = amount) := by
  obtain ⟨spells, -, lowest, highest⟩ := isNumber
  obtain ⟨half, even⟩ := spells.exists_half
  rw [spells.isNegative_iff, spells.ofGroups_eq, spanOfGroups_eq]
  rw [even] at lowest highest ⊢
  by_cases negative : amount < 0
  · have stored : amount % (2 * half : Nat) = amount + (2 * half : Nat) := by
      rw [← Int.add_emod_right, Int.emod_eq_of_lt] <;> omega
    omega
  · have stored : amount % (2 * half : Nat) = amount := by
      rw [Int.emod_eq_of_lt] <;> omega
    omega

/--
A number with sign is read from each of its spellings.  Five groups hold more than 32 bits, of which
only those are kept.
-/
theorem IsSigned.reads {amount : Int} (isNumber : IsSigned item amount) :
    Decoder.Reads bytes Decoder.sleb128 item (Int32.ofInt amount) := by
  intro position stands
  have reads : Decoder.Reads bytes
      (Decoder.lebBytes position Decoder.maxLebBytes >>= fun groups =>
        if groups.length < Decoder.maxLebBytes ∧ Decoder.isNegative groups then
          pure (Int32.ofInt (Decoder.ofGroups groups - Decoder.spanOfGroups groups))
        else
          pure (Int32.ofInt (Decoder.ofGroups groups)))
      item (Int32.ofInt amount) := by
    rw [← List.append_nil item]
    refine (isNumber.spells.reads_lebBytes position isNumber.few).bind ?_
    rcases isNumber.ofGroups_eq with ⟨negative, sameGroups⟩ | ⟨positive, sameGroups⟩
    · split
      · rw [sameGroups, Int.add_sub_cancel]
        exact Decoder.reads_pure _
      · next isLong =>
          have five : item.length = 5 := by
            have few := isNumber.few
            simp only [negative, and_true, Decoder.maxLebBytes] at few isLong
            omega
          have dropped : Int32.ofInt (0x80 ^ 5 : Nat) = 0 := by
            decide
          rw [sameGroups, spanOfGroups_eq, five, Int32.ofInt_add, dropped, Int32.add_zero]
          exact Decoder.reads_pure _
    · rw [if_neg fun both => positive both.2, sameGroups]
      exact Decoder.reads_pure _
  exact reads position stands

/-! Indices that may be absent. -/

/-- Bytes that stand for an index that may be absent stand for a number. -/
theorem exists_isUnsigned {index? : Option Nat} (isIndex : IsOptional item index?) :
    ∃ number, IsUnsigned item number := by
  cases index? with
  | none => exact ⟨_, isIndex⟩
  | some index => exact ⟨_, isIndex⟩

/-- An index that may be absent is read from all bytes that stand for it. -/
theorem reads_optionalIndex
    {index? : Option Nat}
    (isIndex : IsOptional item index?) :
    Decoder.Reads bytes Decoder.optionalIndex item index? := by
  rw [← List.append_nil item]
  cases index? with
  | none => exact isIndex.reads.bind (Decoder.reads_pure none)
  | some index => exact isIndex.reads.bind (Decoder.reads_pure (some index))

end Leb128

/-- A number is read from the bytes that are written for it. -/
theorem Decoder.reads_uleb128
    {bytes : ByteArray}
    {number : Nat}
    (fits : number < Bytes.span 4) :
    Decoder.Reads bytes Decoder.uleb128 (Leb128.encode number) number :=
  (Leb128.isUnsigned_encode fits).reads

end Dex

end DexSurface
