import Mathlib.Tactic.Ring
import DexSurface.Proofs.Dex.BoundedReading
import DexSurface.Proofs.Dex.VariableLength

namespace DexSurface

namespace Dex

/-!
# Shortest groups of numbers

The bytes that are written for a number without sign, and the standard bytes of a number with sign,
are the fewest from which the number is read.  Reading tells what was spelled: what is read from
some bytes is spelled by them, and a number spelled by so many groups is at most as large as they
can hold.  Bytes that all say that another group follows spell no number.
-/

namespace Leb128

open Decoder (Reads reads_u8 bind_eq_error of_bind_eq_ok position_bind)

variable {bytes : ByteArray} {position after : Nat} {item : List UInt8} {number : Nat}

/--
The standard bytes of a number with sign: groups are written until what is left of the number only
repeats the highest bit of the group.
-/
def encodeSigned (number : Int) : List UInt8 :=
  let group := (number % 0x80).toNat
  let rest := number / 0x80
  if (rest = 0 ∧ group < 0x40) ∨ (rest = -1 ∧ 0x40 ≤ group) then
    [group.toUInt8]
  else
    (0x80 + group).toUInt8 :: encodeSigned rest
termination_by number.natAbs
decreasing_by omega

/-- One group holds a small number together with its sign. -/
theorem encodeSigned_of_small
    {number : Int}
    (lowest : -0x40 ≤ number)
    (highest : number < 0x40) :
    encodeSigned number = [(number % 0x80).toNat.toUInt8] := by
  rw [encodeSigned, if_pos (by omega)]

/-- A number that needs more than one group is encoded with its low group first. -/
theorem encodeSigned_of_large
    {number : Int}
    (large : number < -0x40 ∨ 0x40 ≤ number) :
    encodeSigned number
      = (0x80 + (number % 0x80).toNat).toUInt8 :: encodeSigned (number / 0x80) := by
  rw [encodeSigned, if_neg (by omega)]

/-- What a number is modulo one group more: its lowest group and the others above it. -/
theorem emod_group_mul (number : Int) (count : Nat) :
    number % (0x80 ^ (count + 1) : Nat)
      = number % 0x80 + 0x80 * (number / 0x80 % (0x80 ^ count : Nat)) := by
  have split : ((0x80 ^ (count + 1) : Nat) : Int) = 0x80 * (0x80 ^ count : Nat) := by
    rw [Nat.pow_succ, Nat.mul_comm, Int.natCast_mul]
    rfl
  rw [split, Int.emod_def, Int.emod_def, Int.emod_def, Int.ediv_ediv_of_nonneg (by decide)]
  ring

/-- The standard bytes spell a number in two's complement of as many groups as there are. -/
theorem spells_encodeSigned (number : Int) :
    Spells (encodeSigned number) (number % (0x80 ^ (encodeSigned number).length : Nat)).toNat := by
  induction number using encodeSigned.induct with
  | case1 number group rest ends =>
      rw [encodeSigned, if_pos ends]
      exact .last ⟨(number % 0x80).toNat, by omega⟩
  | case2 number group rest goesOn inductionHypothesis =>
      have nonnegative : 0 ≤ rest % (0x80 ^ (encodeSigned rest).length : Nat) :=
        Int.emod_nonneg rest (by simp)
      have sameGroups :
          (number % 0x80 + 0x80 * (rest % (0x80 ^ (encodeSigned rest).length : Nat))).toNat
            = group + 0x80 * (rest % (0x80 ^ (encodeSigned rest).length : Nat)).toNat := by
        omega
      rw [encodeSigned, if_neg goesOn, List.length_cons, emod_group_mul, sameGroups]
      exact inductionHypothesis.more ⟨group, by omega⟩

/-- A number lies in the range of the groups that encode it. -/
theorem bounds_encodeSigned (number : Int) :
    -(0x80 ^ (encodeSigned number).length / 2 : Nat) ≤ number
      ∧ number < (0x80 ^ (encodeSigned number).length / 2 : Nat) := by
  induction number using encodeSigned.induct with
  | case1 number group rest ends =>
      rw [encodeSigned, if_pos ends, List.length_singleton, Nat.pow_one]
      omega
  | case2 number group rest goesOn inductionHypothesis =>
      obtain ⟨half, even⟩ := (spells_encodeSigned rest).exists_half
      rw [encodeSigned, if_neg goesOn, List.length_cons, Nat.pow_succ]
      rw [even] at inductionHypothesis ⊢
      omega

/-- The standard bytes are no more than it takes to hold a number with its sign. -/
theorem length_encodeSigned_le
    (limit : Nat)
    {number : Int}
    (lowest : -(0x40 * 0x80 ^ limit : Nat) ≤ number)
    (highest : number < (0x40 * 0x80 ^ limit : Nat)) :
    (encodeSigned number).length ≤ limit + 1 := by
  induction limit generalizing number with
  | zero =>
      rw [encodeSigned_of_small (by omega) (by omega)]
      exact Nat.le_refl 1
  | succ limit inductionHypothesis =>
      by_cases small : -0x40 ≤ number ∧ number < 0x40
      · simp [encodeSigned_of_small small.1 small.2]
      · rw [Nat.pow_succ] at lowest highest
        rw [encodeSigned_of_large (by omega), List.length_cons]
        exact Nat.succ_le_succ (inductionHypothesis (by omega) (by omega))

/-- The standard bytes of a number of 32 bits stand for it. -/
theorem isSigned_encodeSigned (number : Int32) :
    IsSigned (encodeSigned number.toInt) number.toInt where
  spells := spells_encodeSigned number.toInt
  few := by
    have lowest := number.le_toInt
    have highest := number.toInt_lt
    exact length_encodeSigned_le 4 (by omega) (by omega)
  lowest := (bounds_encodeSigned number.toInt).1
  highest := (bounds_encodeSigned number.toInt).2

/-! Reading tells what was spelled. -/

/-- Groups spell a number below the power of their count. -/
theorem Spells.lt_pow (spells : Spells item number) : number < 0x80 ^ item.length := by
  induction spells with
  | last group => exact group.isLt
  | more group _ inductionHypothesis =>
      have bound := group.isLt
      rw [List.length_cons, Nat.pow_succ]
      omega

/-- Every byte is a last group or a group that another one follows. -/
theorem exists_group (byte : UInt8) :
    ∃ group : Fin 0x80, byte = group.val.toUInt8 ∨ byte = (0x80 + group.val).toUInt8 := by
  have bound := byte.toNat_lt
  by_cases small : byte.toNat < 0x80
  · exact ⟨⟨byte.toNat, small⟩, .inl UInt8.ofNat_toNat.symm⟩
  · refine ⟨⟨byte.toNat - 0x80, by omega⟩, .inr ?_⟩
    have sameByte : 0x80 + (byte.toNat - 0x80) = byte.toNat := by
      omega
    rw [sameByte, Nat.toUInt8, UInt8.ofNat_toNat]

/--
The bytes that are taken for a number spell one, and the position moves behind them.  One byte is
taken for each step of the limit.
-/
theorem exists_spells_of_lebBytes
    {start limit : Nat}
    (read : Decoder.lebBytes start limit bytes position = .ok (item, after)) :
    ∃ number, Spells item number ∧ item.length ≤ limit ∧ after = position + item.length := by
  induction limit generalizing position item with
  | zero => cases read
  | succ limit inductionHypothesis =>
      obtain ⟨byte, middle, first, rest⟩ := of_bind_eq_ok read
      have behind : middle = position + 1 := by
        rw [Decoder.u8] at first
        split at first
        · cases first
          rfl
        · cases first
      obtain ⟨group, rfl | rfl⟩ := exists_group byte
      · rw [if_pos (Decoder.leb_last_byte group).1] at rest
        cases rest
        exact ⟨group, .last group, by simp, behind⟩
      · rw [if_neg (Decoder.leb_other_byte group).1] at rest
        obtain ⟨others, finish, restRead, done⟩ := of_bind_eq_ok rest
        cases done
        obtain ⟨number, spells, few, rfl⟩ := inductionHypothesis restRead
        refine ⟨group + 0x80 * number, spells.more group, Nat.succ_le_succ few, ?_⟩
        rw [List.length_cons]
        omega

/-! Numbers with and without sign are the same groups, told in two ways. -/

/-- What is told from the groups that are next. -/
def grouped (told : List UInt8 → α) : Decoder α := do
  return told (← Decoder.lebBytes (← Decoder.position) Decoder.maxLebBytes)

/-- The number with sign of some groups; of fewer than 32 bits the highest is the sign. -/
def signedValue (groups : List UInt8) : Int :=
  if groups.length < Decoder.maxLebBytes ∧ Decoder.isNegative groups then
    (Decoder.ofGroups groups : Int) - Decoder.spanOfGroups groups
  else
    Decoder.ofGroups groups

/-- An unsigned number is told from its groups, cut at 32 bits. -/
theorem uleb128_eq :
    Decoder.uleb128 = grouped fun groups => Decoder.ofGroups groups % Bytes.span 4 :=
  rfl

/-- A signed number is told from its groups, cut at 32 bits. -/
theorem sleb128_eq : Decoder.sleb128 = grouped fun groups => Int32.ofInt (signedValue groups) := by
  rw [Decoder.sleb128, grouped]
  congr
  funext start
  congr
  funext groups
  rw [signedValue]
  split <;> rfl

/-- The index that a number stands for, which is one less; zero stands for none. -/
def storedIndex? : Nat → Option Nat
  | 0 => none
  | index + 1 => some index

/-- Different numbers stand for different indices. -/
theorem eq_of_storedIndex?_eq
    {first second : Nat}
    (same : storedIndex? first = storedIndex? second) :
    first = second := by
  cases first <;> cases second <;> cases same <;> rfl

/-- Bytes that stand for a number stand for the index that it stores. -/
theorem IsUnsigned.isOptional (isNumber : IsUnsigned item number) :
    IsOptional item (storedIndex? number) := by
  cases number <;> exact isNumber

/-- An index that may be absent is told from the number one above it. -/
theorem optionalIndex_eq :
    Decoder.optionalIndex =
      grouped fun groups => storedIndex? (Decoder.ofGroups groups % Bytes.span 4) := by
  rw [Decoder.optionalIndex, uleb128_eq, grouped, grouped]
  simp only [bind_assoc, pure_bind]
  congr
  funext start
  congr
  funext groups
  cases Decoder.ofGroups groups % Bytes.span 4 <;> rfl

variable {told : List UInt8 → α}

/-- What is told from groups is read wherever up to five groups stand. -/
theorem Spells.reads_grouped
    (spells : Spells item number)
    (few : item.length ≤ Decoder.maxLebBytes) :
    Reads bytes (grouped told) item (told item) := fun position stands =>
  (spells.reads_lebBytes position few).bind_pure told position stands

/-- What is read from groups is told from up to five groups that spell a number. -/
theorem exists_spells_of_grouped
    {value : α}
    (read : grouped told bytes position = .ok (value, after)) :
    ∃ item number,
      Spells item number
        ∧ item.length ≤ Decoder.maxLebBytes
        ∧ after = position + item.length
        ∧ value = told item := by
  rw [grouped, position_bind] at read
  obtain ⟨item, middle, taken, done⟩ := of_bind_eq_ok read
  obtain ⟨number, spells, few, behind⟩ := exists_spells_of_lebBytes taken
  cases done
  exact ⟨item, number, spells, few, behind, rfl⟩

/-- Groups that all say that another one follows are refused where they begin. -/
theorem lebBytes_of_continued
    {start : Nat}
    {run : List UInt8}
    (continued : ∀ byte ∈ run, byte &&& 0x80 ≠ 0)
    (stands : Stands bytes position run) :
    Decoder.lebBytes start run.length bytes position = .error (.invalidLeb128 start) := by
  induction run generalizing position with
  | nil => rfl
  | cons byte rest inductionHypothesis =>
      obtain ⟨goesOn, others⟩ := List.forall_mem_cons.mp continued
      have refused := inductionHypothesis others stands.behind
      rw [List.length_cons, Decoder.lebBytes,
        (reads_u8 byte).bind_eq (@Stands.left bytes position [byte] rest stands), if_neg goesOn]
      exact bind_eq_error refused

/-! Fewer groups do not hold the number. -/

/-- The standard bytes of an unsigned number are no more than any groups of it. -/
theorem Spells.length_encode_le (spells : Spells item number) :
    (encode (Decoder.ofGroups item % Bytes.span 4)).length ≤ item.length := by
  obtain ⟨fewer, sameLength⟩ := Nat.exists_eq_add_of_le' spells.length_pos
  have fits : Decoder.ofGroups item % Bytes.span 4 < 0x80 ^ (fewer + 1) := by
    rw [spells.ofGroups_eq, ← sameLength]
    exact Nat.lt_of_le_of_lt (Nat.mod_le _ _) spells.lt_pow
  rw [sameLength]
  exact Leb128.length_encode_le fewer fits

/-- Fewer than five groups hold a number with sign as far as their span goes. -/
theorem Spells.signedValue_bounds
    (spells : Spells item number)
    (few : item.length < Decoder.maxLebBytes) :
    -(0x80 ^ item.length / 2 : Nat) ≤ signedValue item
      ∧ signedValue item < (0x80 ^ item.length / 2 : Nat) := by
  have bound := spells.lt_pow
  have sign := spells.isNegative_iff
  obtain ⟨half, even⟩ := spells.exists_half
  rw [signedValue, spells.ofGroups_eq, spanOfGroups_eq]
  rw [even] at bound sign ⊢
  by_cases negative : Decoder.isNegative item
  · have large := sign.mp negative
    rw [if_pos ⟨few, negative⟩]
    omega
  · have small := mt sign.mpr negative
    rw [if_neg fun both => negative both.2]
    omega

/--
The standard bytes of a signed number are no more than any groups of it: no number of 32 bits takes
more than five groups, and fewer groups hold theirs with its sign.
-/
theorem Spells.length_encodeSigned_le
    (spells : Spells item number)
    (few : item.length ≤ Decoder.maxLebBytes) :
    (encodeSigned (Int32.ofInt (signedValue item)).toInt).length ≤ item.length := by
  by_cases whole : item.length = Decoder.maxLebBytes
  · rw [whole]
    exact (isSigned_encodeSigned _).few
  · obtain ⟨lowest, highest⟩ := spells.signedValue_bounds (by omega)
    obtain ⟨fewer, sameLength⟩ := Nat.exists_eq_add_of_le' spells.length_pos
    have half : 0x80 ^ item.length / 2 = 0x40 * 0x80 ^ fewer := by
      rw [sameLength, Nat.pow_succ]
      omega
    have narrow : 0x80 ^ fewer ≤ 0x80 ^ 3 :=
      Nat.pow_le_pow_right (by decide) (by rw [Decoder.maxLebBytes] at few whole; omega)
    rw [half] at lowest highest
    rw [Int32.toInt_ofInt_of_le (by omega) (by omega), sameLength]
    exact Leb128.length_encodeSigned_le fewer lowest highest

/-! What is written is read back, and nothing shorter is read as the same. -/

/-- A value is read from all bytes that stand for it, of which the written ones are the fewest. -/
structure ReadsShortest
    (decoder : Decoder α)
    (standsFor : List UInt8 → Prop)
    (written : List UInt8)
    (value : α) : Prop where
  standsFor_written : standsFor written
  reads : ∀ bytes item, standsFor item → Reads bytes decoder item value
  shortest :
    ∀ bytes position after,
      decoder bytes position = .ok (value, after) → position + written.length ≤ after

/-- A decoder refuses five bytes that all say that another group follows. -/
def RefusesLongRuns (decoder : Decoder α) : Prop :=
  ∀ bytes position run,
    run.length = 5 →
      (∀ byte ∈ run, byte &&& 0x80 ≠ 0) →
        Stands bytes position run →
          decoder bytes position = .error (.invalidLeb128 position)

/-- Bytes that are no more than any groups of a value are the fewest that are read as it. -/
theorem shortest_of_grouped
    {written : List UInt8}
    {value : α}
    (fewest : ∀ item number,
      Spells item number →
        item.length ≤ Decoder.maxLebBytes → value = told item → written.length ≤ item.length)
    (read : grouped told bytes position = .ok (value, after)) :
    position + written.length ≤ after := by
  obtain ⟨item, number, spells, few, rfl, sameValue⟩ := exists_spells_of_grouped read
  exact Nat.add_le_add_left (fewest item number spells few sameValue) position

/--
Unsigned numbers of 32 bits are read from all bytes that stand for them, the standard ones being the
fewest.
-/
theorem readsShortest_uleb128 (number : UInt32) :
    ReadsShortest Decoder.uleb128 (IsUnsigned · number.toNat) (encode number.toNat)
      number.toNat where
  standsFor_written := isUnsigned_encode number.toNat_lt
  reads _ _ isNumber := isNumber.reads
  shortest := by
    intro bytes position after read
    rw [uleb128_eq] at read
    refine shortest_of_grouped (fun item stored spells _ sameNumber => ?_) read
    rw [sameNumber]
    exact spells.length_encode_le

/--
Optional indices are read from all bytes that stand for them, the standard ones being the fewest.
-/
theorem readsShortest_optionalIndex (number : UInt32) :
    ReadsShortest Decoder.optionalIndex (IsUnsigned · number.toNat) (encode number.toNat)
      (storedIndex? number.toNat) where
  standsFor_written := isUnsigned_encode number.toNat_lt
  reads _ _ isNumber := reads_optionalIndex isNumber.isOptional
  shortest := by
    intro bytes position after read
    rw [optionalIndex_eq] at read
    refine shortest_of_grouped (fun item stored spells _ sameIndex => ?_) read
    rw [eq_of_storedIndex?_eq sameIndex]
    exact spells.length_encode_le

/--
Signed numbers of 32 bits are read from all bytes that stand for them, the standard ones being the
fewest.
-/
theorem readsShortest_sleb128 (number : Int32) :
    ReadsShortest Decoder.sleb128 (IsSigned · number.toInt) (encodeSigned number.toInt)
      number where
  standsFor_written := isSigned_encodeSigned number
  reads _ _ isNumber := by
    rw [← Int32.ofInt_toInt number]
    exact isNumber.reads
  shortest := by
    intro bytes position after read
    rw [sleb128_eq] at read
    refine shortest_of_grouped (fun item stored spells few sameNumber => ?_) read
    rw [sameNumber]
    exact spells.length_encodeSigned_le few

example : encodeSigned 0x40 = [0xc0, 0x00] := by
  cbv

/-- Whatever is told from groups, a run of five that do not end is refused. -/
theorem refusesLongRuns_grouped (told : List UInt8 → α) : RefusesLongRuns (grouped told) := by
  intro bytes position run five continued stands
  have refused := @lebBytes_of_continued bytes position position run continued stands
  rw [five] at refused
  rw [grouped, position_bind]
  exact bind_eq_error refused

end Leb128

end Dex

end DexSurface
