import DexSurface.Proofs.Dex.EncodedText
import DexSurface.Proofs.Dex.VariableLength

namespace DexSurface

/-!
# Plain texts are read back

A text is plain if its characters lie in the basic plane and none of them is the null character.
The UTF-8 bytes of such a text are its modified UTF-8 bytes, so it is read back from either.
-/

/-- A character of the basic plane other than the null character. -/
def IsPlainChar (char : Char) : Prop :=
  0 < char.toNat ∧ char.toNat < 0x10000

/-- A text of plain characters. -/
def IsPlain (text : String) : Prop :=
  ∀ char ∈ text.toList, IsPlainChar char

instance (char : Char) : Decidable (IsPlainChar char) :=
  inferInstanceAs (Decidable (0 < char.toNat ∧ char.toNat < 0x10000))

instance (text : String) : Decidable (IsPlain text) :=
  List.decidableBAll IsPlainChar text.toList

/-- Listing bytes from an index on puts the rest behind what was listed before. -/
theorem toList_loop_eq (bytes : ByteArray) (index : Nat) (read : List UInt8) :
    ByteArray.toList.loop bytes index read = read.reverse ++ bytes.data.toList.drop index := by
  fun_induction ByteArray.toList.loop bytes index read with
  | case1 index read inRange inductionHypothesis =>
      have inList : index < bytes.data.toList.length := by
        rw [Array.length_toList]
        exact inRange
      have sameByte : bytes.get! index = bytes.data.toList[index] := by
        rw [Array.getElem_toList]
        exact getElem!_pos bytes.data index inRange
      rw [inductionHypothesis, List.drop_eq_getElem_cons inList, sameByte, List.reverse_cons,
        List.append_assoc, List.singleton_append]
  | case2 index read outOfRange =>
      have behind : bytes.data.toList.length ≤ index := by
        rw [Array.length_toList]
        exact Nat.le_of_not_lt outOfRange
      rw [List.drop_eq_nil_of_le behind, List.append_nil]

/-- The list of a byte array is that of its data. -/
theorem toList_eq_data_toList (bytes : ByteArray) : bytes.toList = bytes.data.toList := by
  rw [ByteArray.toList, toList_loop_eq, List.reverse_nil, List.nil_append, List.drop_zero]

/-- The bytes of a text are those of its characters in order. -/
theorem toUTF8_toList (text : String) :
    text.toUTF8.toList = text.toList.flatMap String.utf8EncodeChar := by
  rw [toList_eq_data_toList, String.toUTF8_eq_toByteArray, ← String.utf8Encode_toList,
    List.utf8Encode, List.toList_data_toByteArray]

/-- The UTF-8 bytes of a plain character are those of its only unit. -/
theorem utf8EncodeChar_eq_encodeUnit {char : Char} (plain : IsPlainChar char) :
    String.utf8EncodeChar char = ModifiedUtf8.encodeUnit char.toNat.toUInt16 := by
  obtain ⟨notNull, inPlane⟩ := plain
  change 0 < char.val.toNat at notNull
  change char.val.toNat < 0x10000 at inPlane
  have code : char.toNat.toUInt16.toNat = char.val.toNat := ModifiedUtf8.toNat_toUInt16 inPlane
  have continues (low : Nat) : UInt8.ofNat (low % 0x40 + 0x80) = (0x80 + low % 0x40).toUInt8 := by
    rw [Nat.add_comm]
  rw [String.utf8EncodeChar, ModifiedUtf8.encodeUnit]
  simp only [code]
  by_cases oneByte : char.val.toNat ≤ 0x7f
  case pos =>
    have single : 0 < char.val.toNat ∧ char.val.toNat < 0x80 := by omega
    rw [if_pos oneByte, if_pos single]
  have notSingle : ¬ (0 < char.val.toNat ∧ char.val.toNat < 0x80) := by omega
  rw [if_neg oneByte, if_neg notSingle]
  by_cases twoBytes : char.val.toNat ≤ 0x7ff
  case pos =>
    have small : char.val.toNat < 0x800 := by omega
    have leads : char.val.toNat / 0x40 % 0x20 + 0xc0 = 0xc0 + char.val.toNat / 0x40 := by omega
    rw [if_pos twoBytes, if_pos small, continues, leads]
  case neg =>
    have large : ¬ char.val.toNat < 0x800 := by omega
    have isBasic : char.val.toNat ≤ 0xffff := by omega
    have leads : char.val.toNat / 0x1000 % 0x10 + 0xe0 = 0xe0 + char.val.toNat / 0x1000 := by omega
    rw [if_neg twoBytes, if_pos isBasic, if_neg large, continues, continues, leads]

/-- The UTF-8 bytes of a plain text are its modified UTF-8 bytes. -/
theorem toUTF8_toList_eq_encode {text : String} (plain : IsPlain text) :
    text.toUTF8.toList = ModifiedUtf8.encode text := by
  rw [toUTF8_toList, ModifiedUtf8.encode, ModifiedUtf8.unitsOfChars, List.flatMap_assoc]
  refine List.flatMap_congr fun char member => ?_
  have oneUnit : ModifiedUtf8.unitsOfChar char = [char.toNat.toUInt16] :=
    if_pos (plain char member).2
  rw [oneUnit, List.flatMap_singleton, utf8EncodeChar_eq_encodeUnit (plain char member)]

namespace Dex

/-- A plain text that a zero byte ends is read back. -/
theorem Decoder.reads_mutf8 {bytes : ByteArray} {text : String} (plain : IsPlain text) :
    Reads bytes mutf8 (text.toUTF8.toList ++ [0]) text := by
  rw [toUTF8_toList_eq_encode plain]
  exact reads_mutf8_encode text

end Dex

end DexSurface
