import Mathlib.Tactic.Ring
import DexSurface.Dex.Value
import DexSurface.Proofs.Dex.ShortestGroups

namespace DexSurface

/-!
# Numbers joined bit by bit

A word of 32 bits takes up groups of seven bits, each above those before it.  Of a fifth group only
four bits are kept.  The sign bit of the last group is repeated above it where the word has bits
left.  A word of 64 bits takes up bytes, and shifting it up and down again repeats the sign bit of
the highest.  What is read from groups and bytes is the number of the word that they are joined
into.
-/

namespace Bytes

/-- The span of some bytes is a power of two. -/
theorem span_eq_two_pow (width : Nat) : span width = 2 ^ (8 * width) := by
  induction width with
  | zero => rfl
  | succ width inductionHypothesis =>
      rw [span, inductionHypothesis, Nat.mul_succ, Nat.pow_add, Nat.mul_comm]

/-- Bytes spell a number below their span. -/
theorem ofLittleEndian_lt (stored : List UInt8) :
    ofLittleEndian stored < span stored.length := by
  induction stored with
  | nil => exact Nat.one_pos
  | cons byte rest inductionHypothesis =>
      have bound := byte.toNat_lt
      rw [ofLittleEndian, List.length_cons, span]
      omega

end Bytes

namespace Dex

namespace Leb128

open Decoder (Reads)

variable {item : List UInt8} {number : Nat}

/-- The word that groups are joined into from a bit on; what lies above its highest bit is lost. -/
def joinGroups (word : UInt32) (shift : Nat) : List UInt8 → UInt32
  | [] => word
  | byte :: rest =>
      joinGroups (word ||| (byte &&& 0x7f).toUInt32 <<< shift.toUInt32) (shift + 7) rest

/-- The word of groups whose last sign bit is repeated in the bits above them, if there are any. -/
def joinSigned (groups : List UInt8) : UInt32 :=
  let shift := 7 * groups.length
  let word := joinGroups 0 0 groups
  if shift < 32 ∧ Decoder.isNegative groups then
    word ||| 0xffffffff <<< shift.toUInt32
  else
    word

/-- A word has room for its low bits and for those above them. -/
theorem word_eq_mul {shift : Nat} (within : shift < 32) :
    2 ^ 32 = 2 ^ shift * 2 ^ (32 - shift) := by
  rw [← Nat.pow_add, Nat.add_sub_cancel' (Nat.le_of_lt within)]

/-- Bits that are put above those of a word are added to it. -/
theorem toNat_or_shiftLeft
    {word : UInt32}
    (above : UInt32)
    {shift : Nat}
    (within : shift < 32)
    (below : word.toNat < 2 ^ shift) :
    (word ||| above <<< shift.toUInt32).toNat
      = word.toNat + 2 ^ shift * (above.toNat % 2 ^ (32 - shift)) := by
  have sameShift : shift.toUInt32.toNat % 32 = shift := by
    rw [Nat.toUInt32, UInt32.toNat_ofNat']
    omega
  rw [UInt32.toNat_or, UInt32.toNat_shiftLeft, sameShift, Nat.shiftLeft_eq, Nat.mul_comm,
    word_eq_mul within, Nat.mul_mod_mul_left, Nat.or_comm, ← Nat.two_pow_add_eq_or_of_lt below,
    Nat.add_comm]

/-- The bits of a group that lie above a word do not count in it. -/
theorem add_group_mod (word low high group rest : Nat) :
    (word + low * (group % high) + low * 0x80 * rest) % (low * high)
      = (word + low * (group + 0x80 * rest)) % (low * high) := by
  calc (word + low * (group % high) + low * 0x80 * rest) % (low * high)
      = (word + low * (group % high) + low * 0x80 * rest + low * high * (group / high))
          % (low * high) := (Nat.add_mul_mod_self_left _ _ _).symm
    _ = (word + low * (high * (group / high) + group % high + 0x80 * rest)) % (low * high) := by
        ring_nf
    _ = (word + low * (group + 0x80 * rest)) % (low * high) := by
        rw [Nat.div_add_mod]

/--
Joined groups spell the sum of their digits, cut at 32 bits.  A group that reaches beyond the word
only makes it smaller.
-/
theorem toNat_joinGroups
    (groups : List UInt8)
    {word : UInt32}
    {shift : Nat}
    (few : shift + 7 * groups.length ≤ 35)
    (below : word.toNat < 2 ^ shift) :
    (joinGroups word shift groups).toNat
      = (word.toNat + 2 ^ shift * Decoder.ofGroups groups) % 2 ^ 32 := by
  induction groups generalizing word shift with
  | nil =>
      have bound := word.toNat_lt
      rw [joinGroups, Decoder.ofGroups, Nat.mul_zero, Nat.add_zero, Nat.mod_eq_of_lt bound]
  | cons byte rest inductionHypothesis =>
      rw [List.length_cons] at few
      have within : shift < 32 := by
        omega
      have joined := toNat_or_shiftLeft (byte &&& 0x7f).toUInt32 within below
      have wordBelow :
          (word ||| (byte &&& 0x7f).toUInt32 <<< shift.toUInt32).toNat < 2 ^ (shift + 7) := by
        have isGroup : (byte &&& 0x7f).toNat < 2 ^ 7 := by
          rw [UInt8.toNat_and]
          exact Nat.and_lt_two_pow byte.toNat (by decide)
        have kept : 2 ^ shift * ((byte &&& 0x7f).toNat % 2 ^ (32 - shift)) ≤ 2 ^ shift * 0x7f :=
          Nat.mul_le_mul_left _ (Nat.le_trans (Nat.mod_le _ _) (Nat.le_of_lt_succ isGroup))
        rw [joined, UInt8.toNat_toUInt32, Nat.pow_add]
        omega
      rw [joinGroups, inductionHypothesis (by omega) wordBelow, joined, UInt8.toNat_toUInt32,
        Decoder.ofGroups, word_eq_mul within, Nat.pow_add]
      exact add_group_mod _ _ _ _ _

/-- A number without sign is the word that its groups are joined into. -/
theorem ofGroups_eq_joinGroups (few : item.length ≤ Decoder.maxLebBytes) :
    Decoder.ofGroups item % Bytes.span 4 = (joinGroups 0 0 item).toNat := by
  rw [Decoder.maxLebBytes] at few
  rw [toNat_joinGroups item (by omega) (by decide), UInt32.toNat_zero, Nat.zero_add, Nat.pow_zero,
    Nat.one_mul]
  rfl

/-- A number and a word that agree in 32 bits are the same signed word. -/
theorem ofInt_eq_toInt32
    {value : Int}
    {word : UInt32}
    (same : value % 0x100000000 = word.toNat) :
    Int32.ofInt value = word.toInt32 := by
  rw [← Int32.toBitVec_inj]
  apply BitVec.eq_of_toNat_eq
  change (BitVec.ofInt 32 value).toNat = word.toNat
  rw [BitVec.toNat_ofInt]
  change (value % 0x100000000).toNat = _
  omega

/-- A sign that is repeated from a bit on adds all that lies above the bit. -/
theorem toNat_or_sign
    {word : UInt32}
    {shift : Nat}
    (within : shift < 32)
    (below : word.toNat < 2 ^ shift) :
    (word ||| 0xffffffff <<< shift.toUInt32).toNat = word.toNat + (2 ^ 32 - 2 ^ shift) := by
  have whole := (word_eq_mul within).symm
  have positive : 0 < 2 ^ (32 - shift) := Nat.two_pow_pos _
  have fewer : 2 ^ (32 - shift) ≤ 2 ^ 32 := Nat.pow_le_pow_right (by decide) (by omega)
  have ones : 0xffffffff = (2 ^ shift - 1) * 2 ^ (32 - shift) + (2 ^ (32 - shift) - 1) := by
    rw [Nat.sub_mul, whole, Nat.one_mul]
    omega
  have kept : 0xffffffff % 2 ^ (32 - shift) = 2 ^ (32 - shift) - 1 := by
    rw [ones, Nat.mul_add_mod_of_lt (Nat.sub_lt positive Nat.one_pos)]
  rw [toNat_or_shiftLeft 0xffffffff within below]
  change word.toNat + 2 ^ shift * (0xffffffff % 2 ^ (32 - shift)) = _
  rw [kept, Nat.mul_sub, whole, Nat.mul_one]

/-- A number with sign is the word that its groups are joined into with their sign. -/
theorem Spells.signedValue_eq_joinSigned
    (spells : Spells item number)
    (few : item.length ≤ Decoder.maxLebBytes) :
    Int32.ofInt (signedValue item) = (joinSigned item).toInt32 := by
  apply ofInt_eq_toInt32
  have joined := ofGroups_eq_joinGroups few
  rw [spells.ofGroups_eq] at joined
  change number % 0x100000000 = _ at joined
  rw [Decoder.maxLebBytes] at few
  rw [signedValue, joinSigned, spells.ofGroups_eq, spanOfGroups_eq, Decoder.maxLebBytes]
  by_cases isRepeated : 7 * item.length < 32 ∧ Decoder.isNegative item
  · rw [if_pos isRepeated, if_pos ⟨by omega, isRepeated.2⟩]
    have bound := spells.lt_pow
    have power : 0x80 ^ item.length = 2 ^ (7 * item.length) := (Nat.pow_mul 2 7 _).symm
    have narrow : 2 ^ (7 * item.length) ≤ 2 ^ 28 := Nat.pow_le_pow_right (by decide) (by omega)
    rw [power] at bound ⊢
    rw [toNat_or_sign isRepeated.1 (by omega), ← joined]
    omega
  · rw [if_neg isRepeated, if_neg fun both => isRepeated ⟨by omega, both.2⟩]
    omega

/-- Up to five groups are read as the words that they are joined into. -/
def JoinsGroups : Prop :=
  ∀ item number,
    Spells item number →
      item.length ≤ 5 →
        ∀ bytes,
          Reads bytes Decoder.uleb128 item (joinGroups 0 0 item).toNat
            ∧ Reads bytes Decoder.sleb128 item (joinSigned item).toInt32

/-- Up to five groups are read as the words that they are joined into. -/
theorem joinsGroups : JoinsGroups := by
  intro item number spells few bytes
  rw [uleb128_eq, sleb128_eq, ← ofGroups_eq_joinGroups few, ← spells.signedValue_eq_joinSigned few]
  exact ⟨spells.reads_grouped few, spells.reads_grouped few⟩

end Leb128

namespace Image

open Decoder (Reads reads_take)

/-- The word that bytes are joined into, low byte first. -/
def joinBytes : List UInt8 → UInt64
  | [] => 0
  | byte :: rest => joinBytes rest <<< 8 ||| byte.toUInt64

/--
The word of bytes shifted up until the sign bit of the highest is that of the word, and down again
by a shift that repeats it.
-/
def shiftSigned (stored : List UInt8) : Int64 :=
  let shift := 64 - 8 * stored.length
  (joinBytes stored <<< shift.toUInt64).toInt64 >>> shift.toInt64

/-- Joined bytes spell the number that they spell as digits. -/
theorem toNat_joinBytes {stored : List UInt8} (few : stored.length ≤ 8) :
    (joinBytes stored).toNat = Bytes.ofLittleEndian stored := by
  induction stored with
  | nil => rfl
  | cons byte rest inductionHypothesis =>
      rw [List.length_cons] at few
      have fits : Bytes.ofLittleEndian rest < 2 ^ 56 := by
        refine Nat.lt_of_lt_of_le (Bytes.ofLittleEndian_lt rest) ?_
        rw [Bytes.span_eq_two_pow]
        exact Nat.pow_le_pow_right (by decide) (by omega)
      have joined := Nat.two_pow_add_eq_or_of_lt byte.toNat_lt (Bytes.ofLittleEndian rest)
      rw [joinBytes, UInt64.toNat_or, UInt64.toNat_shiftLeft, inductionHypothesis (by omega),
        UInt8.toNat_toUInt64, Bytes.ofLittleEndian]
      change Bytes.ofLittleEndian rest <<< 8 % 2 ^ 64 ||| byte.toNat = _
      rw [Nat.shiftLeft_eq, Nat.mod_eq_of_lt (by omega), Nat.mul_comm, ← joined]
      omega

/-- A shift below 64 is taken as it is. -/
theorem shift_amount (shift : Fin 64) :
    shift.val.toUInt64.toNat % 64 = shift ∧ (shift.val.toInt64.toBitVec.smod 64).toNat = shift := by
  revert shift
  decide

/--
A word that is shifted up by less than it has room for, and down again, is extended from its highest
bit below that room.
-/
theorem toInt_shiftRight_shiftLeft
    {word : UInt64}
    {low high : Nat}
    (whole : low + high = 64)
    (positive : 1 ≤ low)
    (below : word.toNat < 2 ^ low) :
    ((word <<< high.toUInt64).toInt64 >>> high.toInt64).toInt
      = if 2 * word.toNat < 2 ^ low then (word.toNat : Int) else word.toNat - (2 ^ low : Nat) := by
  obtain ⟨sameUp, sameDown⟩ := shift_amount ⟨high, by omega⟩
  have product : 2 ^ low * 2 ^ high = 2 ^ 64 := by
    rw [← Nat.pow_add, whole]
  have roomPositive : 0 < 2 ^ high := Nat.two_pow_pos high
  have up : (word <<< high.toUInt64).toNat = word.toNat * 2 ^ high := by
    rw [UInt64.toNat_shiftLeft, sameUp, Nat.shiftLeft_eq, Nat.mod_eq_of_lt]
    rw [← product]
    exact Nat.mul_lt_mul_of_pos_right below roomPositive
  have down : ((word <<< high.toUInt64).toInt64 >>> high.toInt64).toInt
      = (word <<< high.toUInt64).toBitVec.toInt / (2 ^ high : Nat) := by
    change ((word <<< high.toUInt64).toInt64 >>> high.toInt64).toBitVec.toInt = _
    rw [Int64.toBitVec_shiftRight, BitVec.sshiftRight', sameDown, BitVec.toInt_sshiftRight,
      Int.shiftRight_eq_div_pow]
    rfl
  have sameSign : 2 * (word.toNat * 2 ^ high) < 2 ^ 64 ↔ 2 * word.toNat < 2 ^ low := by
    rw [← product, ← Nat.mul_assoc]
    exact Nat.mul_lt_mul_right roomPositive
  have room : ((2 ^ high : Nat) : Int) ≠ 0 := Int.natCast_ne_zero.mpr (Nat.ne_of_gt roomPositive)
  rw [down, BitVec.toInt_eq_toNat_cond]
  change (if 2 * (word <<< high.toUInt64).toNat < 2 ^ 64 then
      ((word <<< high.toUInt64).toNat : Int) else (word <<< high.toUInt64).toNat - _) / _ = _
  rw [up]
  by_cases small : 2 * word.toNat < 2 ^ low
  · rw [if_pos (sameSign.mpr small), if_pos small, Int.natCast_mul, Int.mul_ediv_cancel _ room]
  · rw [if_neg (mt sameSign.mp small), if_neg small, ← product, Int.natCast_mul, Int.natCast_mul,
      ← Int.sub_mul, Int.mul_ediv_cancel _ room]

/-- Shifting the word of bytes up and down again gives the number with sign that they hold. -/
theorem toInt_shiftSigned
    {stored : List UInt8}
    (positive : 1 ≤ stored.length)
    (few : stored.length ≤ 8) :
    (shiftSigned stored).toInt = signExtend stored.length (Bytes.ofLittleEndian stored) := by
  have bound := Bytes.ofLittleEndian_lt stored
  rw [Bytes.span_eq_two_pow, ← toNat_joinBytes few] at bound
  have room : 8 * stored.length + (64 - 8 * stored.length) = 64 := by
    omega
  rw [shiftSigned, toInt_shiftRight_shiftLeft room (by omega) bound, signExtend,
    Bytes.span_eq_two_pow, toNat_joinBytes few]
  obtain ⟨fewer, sameLength⟩ := Nat.exists_eq_add_of_le' positive
  have even : 2 ^ (8 * stored.length) = 2 * (2 ^ (8 * fewer) * 0x80) := by
    rw [sameLength, Nat.mul_succ, Nat.pow_add]
    omega
  rw [even]
  congr 1
  rw [Nat.mul_div_cancel_left _ (by decide)]
  exact propext (by omega)

/-- Whatever bytes are stored, they are read as the number with sign that they are extended to. -/
theorem reads_stored
    {bytes : ByteArray}
    (stored : List UInt8)
    {width : Nat}
    (offset : Nat)
    (few : stored.length ≤ width) :
    Reads bytes (signedPayload stored.length width offset) stored
      (signExtend stored.length (Bytes.ofLittleEndian stored)) := by
  rw [signedPayload, payload, if_pos few]
  exact ((reads_take stored).map Bytes.ofLittleEndian).map (signExtend stored.length)

/-- From one to eight bytes are read as the number of their word shifted up and down again. -/
def ShiftsPayloads : Prop :=
  ∀ stored,
    1 ≤ stored.length →
      stored.length ≤ 8 →
        (shiftSigned stored).toInt = signExtend stored.length (Bytes.ofLittleEndian stored)
          ∧ ∀ bytes width offset,
            stored.length ≤ width →
              Reads bytes (signedPayload stored.length width offset) stored
                (shiftSigned stored).toInt

/-- From one to eight bytes are read as their word shifted up and down again. -/
theorem shiftsPayloads : ShiftsPayloads := by
  intro stored positive few
  have shifted := toInt_shiftSigned positive few
  refine ⟨shifted, fun bytes width offset within => ?_⟩
  rw [shifted]
  exact reads_stored stored offset within

end Image

end Dex

end DexSurface
