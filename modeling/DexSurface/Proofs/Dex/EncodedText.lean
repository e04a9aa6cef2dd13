import DexSurface.Proofs.Dex.StandingBytes

namespace DexSurface

/-!
# Texts in modified UTF-8 are read back

The first byte of a unit says how many bytes belong to it, and none of these is zero.  So the bytes
of a text end at the next zero byte and are decoded as the units of the text.  Of the units of a
character only those of a supplementary one are surrogates, and these are a pair.
-/

namespace ModifiedUtf8

/-! Lead bytes and continuation bytes say how they are to be read. -/

/-- A byte below 0x80 stands for itself. -/
theorem single_byte (code : Fin 0x80) :
    code.val.toUInt8 &&& 0x80 = 0
      ∧ code.val.toUInt8.toUInt16.toNat = code
      ∧ (0 < code.val → code.val.toUInt8 ≠ 0) := by
  revert code
  decide

/-- The first byte of two is told by its upper bits and holds five bits of a unit. -/
theorem lead_of_two (high : Fin 0x20) :
    (0xc0 + high.val).toUInt8 &&& 0x80 ≠ 0
      ∧ (0xc0 + high.val).toUInt8 &&& 0xe0 = 0xc0
      ∧ ((0xc0 + high.val).toUInt8.toUInt16 &&& 0x1f).toNat = high := by
  revert high
  decide

/-- The first byte of three is told by its upper bits and holds four bits of a unit. -/
theorem lead_of_three (high : Fin 0x10) :
    (0xe0 + high.val).toUInt8 &&& 0x80 ≠ 0
      ∧ (0xe0 + high.val).toUInt8 &&& 0xe0 ≠ 0xc0
      ∧ (0xe0 + high.val).toUInt8 &&& 0xf0 = 0xe0
      ∧ ((0xe0 + high.val).toUInt8.toUInt16 &&& 0x0f).toNat = high := by
  revert high
  decide

/-- A byte behind the first one holds six bits of a unit and is not zero. -/
theorem continuation (low : Fin 0x40) :
    ((0x80 + low.val).toUInt8.toUInt16 &&& 0x3f).toNat = low ∧ (0x80 + low.val).toUInt8 ≠ 0 := by
  revert low
  decide

/-- The bits of two bytes are joined to the number that they spell. -/
theorem join_two {high low : UInt16} (highSmall : high.toNat < 32) (lowSmall : low.toNat < 64) :
    (high <<< 6 ||| low).toNat = 64 * high.toNat + low.toNat := by
  rw [UInt16.toNat_or, UInt16.toNat_shiftLeft]
  have bits : (6 : UInt16).toNat % 16 = 6 := rfl
  rw [bits, Nat.mod_eq_of_lt, ← Nat.shiftLeft_add_eq_or_of_lt lowSmall, Nat.shiftLeft_eq]
  · omega
  · rw [Nat.shiftLeft_eq]
    omega

/-- The bits of three bytes are joined to the number that they spell. -/
theorem join_three
    {high middle low : UInt16}
    (highSmall : high.toNat < 16)
    (middleSmall : middle.toNat < 64)
    (lowSmall : low.toNat < 64) :
    (high <<< 12 ||| middle <<< 6 ||| low).toNat =
      4096 * high.toNat + 64 * middle.toNat + low.toNat := by
  rw [UInt16.toNat_or, UInt16.toNat_or, UInt16.toNat_shiftLeft, UInt16.toNat_shiftLeft]
  have highBits : (12 : UInt16).toNat % 16 = 12 := rfl
  have middleBits : (6 : UInt16).toNat % 16 = 6 := rfl
  have middleFits : middle.toNat <<< 6 < 2 ^ 12 := by
    rw [Nat.shiftLeft_eq]
    omega
  have highFits : high.toNat <<< 12 < 2 ^ 16 := by
    rw [Nat.shiftLeft_eq]
    omega
  have joined :
      high.toNat <<< 12 ||| middle.toNat <<< 6 = (64 * high.toNat + middle.toNat) <<< 6 := by
    rw [← Nat.shiftLeft_add_eq_or_of_lt middleFits, Nat.shiftLeft_eq, Nat.shiftLeft_eq,
      Nat.shiftLeft_eq]
    omega
  rw [highBits, middleBits, Nat.mod_eq_of_lt highFits,
    Nat.mod_eq_of_lt (Nat.lt_trans middleFits (by decide)), joined,
    ← Nat.shiftLeft_add_eq_or_of_lt lowSmall, Nat.shiftLeft_eq]
  omega

/-! A unit is read from its bytes. -/

/-- A unit in one byte is decoded in front of the rest. -/
theorem decodeUnits?_one {unit : UInt16} (small : unit.toNat < 0x80) (rest : List UInt8) :
    decodeUnits? (unit.toNat.toUInt8 :: rest) = (decodeUnits? rest).map (unit :: ·) := by
  obtain ⟨isSingle, value, -⟩ := single_byte ⟨unit.toNat, small⟩
  have sameUnit : unit.toNat.toUInt8.toUInt16 = unit := UInt16.toNat_inj.mp value
  rw [decodeUnits?.eq_def]
  dsimp only
  rw [if_pos isSingle, sameUnit]

/-- A unit in two bytes is decoded in front of the rest. -/
theorem decodeUnits?_two {unit : UInt16} (small : unit.toNat < 0x800) (rest : List UInt8) :
    decodeUnits?
        ((0xc0 + unit.toNat / 0x40).toUInt8 :: (0x80 + unit.toNat % 0x40).toUInt8 :: rest) =
      (decodeUnits? rest).map (unit :: ·) := by
  obtain ⟨notSingle, isTwo, highValue⟩ := lead_of_two ⟨unit.toNat / 0x40, by omega⟩
  obtain ⟨lowValue, -⟩ := continuation ⟨unit.toNat % 0x40, by omega⟩
  dsimp only at notSingle isTwo highValue lowValue
  have joined := join_two (by rw [highValue]; omega) (by rw [lowValue]; omega)
  have sameUnit :
      ((0xc0 + unit.toNat / 0x40).toUInt8.toUInt16 &&& 0x1f) <<< 6
          ||| ((0x80 + unit.toNat % 0x40).toUInt8.toUInt16 &&& 0x3f) =
        unit := by
    apply UInt16.toNat_inj.mp
    rw [joined, highValue, lowValue]
    omega
  rw [decodeUnits?, if_neg notSingle, if_pos isTwo, sameUnit]

/-- A unit in three bytes is decoded in front of the rest. -/
theorem decodeUnits?_three (unit : UInt16) (rest : List UInt8) :
    decodeUnits?
        ((0xe0 + unit.toNat / 0x1000).toUInt8 :: (0x80 + unit.toNat / 0x40 % 0x40).toUInt8
          :: (0x80 + unit.toNat % 0x40).toUInt8 :: rest) =
      (decodeUnits? rest).map (unit :: ·) := by
  have bound := unit.toNat_lt
  obtain ⟨notSingle, notTwo, isThree, highValue⟩ := lead_of_three ⟨unit.toNat / 0x1000, by omega⟩
  obtain ⟨middleValue, -⟩ := continuation ⟨unit.toNat / 0x40 % 0x40, by omega⟩
  obtain ⟨lowValue, -⟩ := continuation ⟨unit.toNat % 0x40, by omega⟩
  dsimp only at notSingle notTwo isThree highValue middleValue lowValue
  have joined := join_three (by rw [highValue]; omega) (by rw [middleValue]; omega)
    (by rw [lowValue]; omega)
  have sameUnit :
      ((0xe0 + unit.toNat / 0x1000).toUInt8.toUInt16 &&& 0x0f) <<< 12
          ||| ((0x80 + unit.toNat / 0x40 % 0x40).toUInt8.toUInt16 &&& 0x3f) <<< 6
          ||| ((0x80 + unit.toNat % 0x40).toUInt8.toUInt16 &&& 0x3f) =
        unit := by
    apply UInt16.toNat_inj.mp
    rw [joined, highValue, middleValue, lowValue]
    omega
  rw [decodeUnits?, if_neg notSingle, if_neg notTwo, if_pos isThree]
  dsimp only
  rw [sameUnit]

/-- An encoded unit is decoded in front of the rest. -/
theorem decodeUnits?_encodeUnit_append (unit : UInt16) (rest : List UInt8) :
    decodeUnits? (encodeUnit unit ++ rest) = (decodeUnits? rest).map (unit :: ·) := by
  rw [encodeUnit]
  split
  · next oneByte => exact decodeUnits?_one oneByte.2 rest
  · split
    · next twoBytes => exact decodeUnits?_two twoBytes rest
    · exact decodeUnits?_three unit rest

/-- Encoded units are decoded to themselves. -/
theorem decodeUnits?_flatMap_encodeUnit (units : List UInt16) :
    decodeUnits? (units.flatMap encodeUnit) = some units := by
  induction units with
  | nil => rfl
  | cons unit rest inductionHypothesis =>
      rw [List.flatMap_cons, decodeUnits?_encodeUnit_append, inductionHypothesis, Option.map_some]

/-- No byte of a unit ends a string, not even one of the unit zero. -/
theorem ne_zero_of_mem_encodeUnit
    {unit : UInt16}
    {byte : UInt8}
    (member : byte ∈ encodeUnit unit) : byte ≠ 0 := by
  have bound := unit.toNat_lt
  have continues (low : Nat) : (0x80 + low % 0x40).toUInt8 ≠ 0 :=
    (continuation ⟨low % 0x40, by omega⟩).2
  rw [encodeUnit] at member
  split at member
  · next oneByte =>
      obtain rfl := List.mem_singleton.mp member
      exact (single_byte ⟨unit.toNat, oneByte.2⟩).2.2 oneByte.1
  · split at member
    · next twoBytes =>
        have leads := (lead_of_two ⟨unit.toNat / 0x40, by omega⟩).1
        rcases List.mem_pair.mp member with rfl | rfl
        · rintro isZero
          rw [isZero] at leads
          exact leads rfl
        · exact continues _
    · have leads := (lead_of_three ⟨unit.toNat / 0x1000, by omega⟩).1
      rw [List.mem_cons, List.mem_pair] at member
      rcases member with rfl | rfl | rfl
      · rintro isZero
        rw [isZero] at leads
        exact leads rfl
      · exact continues _
      · exact continues _

/-! Units are joined to characters. -/

/-- The high surrogates are the units from 0xd800 to 0xdbff. -/
theorem isHighSurrogate_eq (unit : UInt16) :
    isHighSurrogate unit = decide (0xd800 ≤ unit.toNat ∧ unit.toNat ≤ 0xdbff) := by
  simp [isHighSurrogate, UInt16.le_iff_toNat_le]

/-- The low surrogates are the units from 0xdc00 to 0xdfff. -/
theorem isLowSurrogate_eq (unit : UInt16) :
    isLowSurrogate unit = decide (0xdc00 ≤ unit.toNat ∧ unit.toNat ≤ 0xdfff) := by
  simp [isLowSurrogate, UInt16.le_iff_toNat_le]

/-- A code of two bytes is kept as a unit. -/
theorem toNat_toUInt16 {code : Nat} (small : code < 0x10000) : code.toUInt16.toNat = code := by
  rw [Nat.toUInt16, UInt16.toNat_ofNat']
  exact Nat.mod_eq_of_lt small

/-- A character of the basic plane is no surrogate. -/
theorem isSurrogate_of_basic {char : Char} (basic : char.toNat < 0x10000) :
    isHighSurrogate char.toNat.toUInt16 = false ∧ isLowSurrogate char.toNat.toUInt16 = false := by
  have valid : char.toNat < 0xd800 ∨ 0xdfff < char.toNat := by
    rcases char.valid with below | ⟨above, -⟩
    · exact Or.inl below
    · exact Or.inr above
  rw [isHighSurrogate_eq, isLowSurrogate_eq, toNat_toUInt16 basic, decide_eq_false_iff_not,
    decide_eq_false_iff_not]
  omega

/-- The unit of a character of the basic plane stands for it. -/
theorem charOfUnit_of_basic {char : Char} (basic : char.toNat < 0x10000) :
    charOfUnit char.toNat.toUInt16 = char := by
  obtain ⟨notHigh, notLow⟩ := isSurrogate_of_basic basic
  rw [charOfUnit, notHigh, notLow, toNat_toUInt16 basic]
  exact Char.ofNat_toNat char

/--
The units of a character are joined to it, whatever follows them: a single unit is no high surrogate
and is not joined with a low one that follows.
-/
theorem charsOfUnits_unitsOfChar_append (char : Char) (rest : List UInt16) :
    charsOfUnits (unitsOfChar char ++ rest) = char :: charsOfUnits rest := by
  by_cases basic : char.toNat < 0x10000
  case pos =>
    have oneUnit : unitsOfChar char = [char.toNat.toUInt16] := if_pos basic
    rw [oneUnit, List.singleton_append]
    cases rest with
    | nil => exact congrArg (fun only => [only]) (charOfUnit_of_basic basic)
    | cons unit others =>
        rw [charsOfUnits, (isSurrogate_of_basic basic).1, Bool.false_and,
          if_neg Bool.false_ne_true, charOfUnit_of_basic basic]
  case neg =>
    have bound : char.toNat < 0x110000 := by
      rcases char.valid with below | ⟨-, below⟩
      · exact Nat.lt_trans below (by decide)
      · exact below
    have twoUnits : unitsOfChar char =
        [(0xd800 + (char.toNat - 0x10000) / 0x400).toUInt16,
          (0xdc00 + (char.toNat - 0x10000) % 0x400).toUInt16] := if_neg basic
    have high :
        (0xd800 + (char.toNat - 0x10000) / 0x400).toUInt16.toNat =
          0xd800 + (char.toNat - 0x10000) / 0x400 :=
      toNat_toUInt16 (by omega)
    have low :
        (0xdc00 + (char.toNat - 0x10000) % 0x400).toUInt16.toNat =
          0xdc00 + (char.toNat - 0x10000) % 0x400 :=
      toNat_toUInt16 (by omega)
    have isHigh : isHighSurrogate (0xd800 + (char.toNat - 0x10000) / 0x400).toUInt16 = true := by
      rw [isHighSurrogate_eq, high, decide_eq_true_eq]
      omega
    have isLow : isLowSurrogate (0xdc00 + (char.toNat - 0x10000) % 0x400).toUInt16 = true := by
      rw [isLowSurrogate_eq, low, decide_eq_true_eq]
      omega
    have joined :
        0x10000 + (0xd800 + (char.toNat - 0x10000) / 0x400 - 0xd800) * 0x400
            + (0xdc00 + (char.toNat - 0x10000) % 0x400 - 0xdc00) =
          char.toNat := by
      omega
    rw [twoUnits, List.cons_append, List.singleton_append, charsOfUnits, isHigh, isLow,
      Bool.and_self, if_pos rfl, high, low, joined, Char.ofNat_toNat]

/-- The units of characters stand for these characters, surrogate pairs included. -/
theorem charsOfUnits_unitsOfChars (chars : List Char) :
    charsOfUnits (unitsOfChars chars) = chars := by
  induction chars with
  | nil => rfl
  | cons char rest inductionHypothesis =>
      rw [unitsOfChars, List.flatMap_cons, charsOfUnits_unitsOfChar_append]
      exact congrArg (char :: ·) inductionHypothesis

/-- The bytes of a text are decoded as the text. -/
theorem decode?_encode (text : String) : decode? (encode text) = some text := by
  rw [decode?, encode, decodeUnits?_flatMap_encodeUnit, Option.map_some,
    charsOfUnits_unitsOfChars, String.ofList_toList]

/-- No byte of an encoded text is zero. -/
theorem ne_zero_of_mem_encode {text : String} {byte : UInt8} (member : byte ∈ encode text) :
    byte ≠ 0 := by
  obtain ⟨unit, -, inUnit⟩ := List.mem_flatMap.mp member
  exact ne_zero_of_mem_encodeUnit inUnit

end ModifiedUtf8

namespace Dex

namespace Decoder

variable {bytes : ByteArray}

/-- The bytes before a zero byte are read up to it. -/
theorem reads_untilZero
    (start : Nat)
    {limit : Nat}
    {item : List UInt8}
    (noZero : ∀ byte ∈ item, byte ≠ 0)
    (enough : item.length < limit) :
    Reads bytes (untilZero start limit) (item ++ [0]) item := by
  induction item generalizing limit with
  | nil =>
      obtain ⟨fewer, rfl⟩ := Nat.exists_eq_succ_of_ne_zero (Nat.ne_of_gt enough)
      rw [untilZero, List.nil_append, ← List.append_nil [0]]
      refine (reads_u8 0).bind ?_
      rw [if_pos rfl]
      exact reads_pure []
  | cons byte rest inductionHypothesis =>
      rw [List.length_cons] at enough
      obtain ⟨fewer, rfl⟩ := Nat.exists_eq_succ_of_ne_zero (by omega : limit ≠ 0)
      rw [untilZero, List.cons_append]
      change Reads bytes _ ([byte] ++ (rest ++ [0])) _
      refine (reads_u8 byte).bind ?_
      rw [if_neg (noZero byte List.mem_cons_self)]
      refine (inductionHypothesis ?_ ?_).bind_pure _
      · exact fun other member => noZero other (List.mem_cons_of_mem _ member)
      · omega

/-- A text that a zero byte ends is read wherever it stands. -/
theorem reads_mutf8_encode (text : String) :
    Reads bytes mutf8 (ModifiedUtf8.encode text ++ [0]) text := by
  intro position stands
  have bound := stands.le_size
  rw [List.length_append, List.length_singleton] at bound
  have noZero : ∀ byte ∈ ModifiedUtf8.encode text, byte ≠ 0 :=
    fun byte => ModifiedUtf8.ne_zero_of_mem_encode
  change (untilZero position (bytes.size - position) bytes position >>= fun given => _) = _
  rw [reads_untilZero position noZero (by omega) position stands]
  simp only [bind, Except.bind, ModifiedUtf8.decode?_encode]
  rfl

/--
Whatever stands in front of the bytes of a text and behind the zero byte that ends them, the text is
read from its first byte on, and the next byte to read is the one behind the zero byte.
-/
theorem mutf8_encode (front rest : List UInt8) (text : String) :
    mutf8 (front ++ ModifiedUtf8.encode text ++ 0 :: rest).toByteArray front.length
      = .ok (text, front.length + (ModifiedUtf8.encode text).length + 1) := by
  have stands :
      Stands (front ++ ModifiedUtf8.encode text ++ 0 :: rest).toByteArray front.length
        (ModifiedUtf8.encode text ++ [0]) := by
    refine ⟨front, rest, ?_, rfl⟩
    rw [List.toList_data_toByteArray]
    simp
  rw [reads_mutf8_encode text front.length stands, List.length_append, List.length_singleton,
    Nat.add_assoc]

/-- Units of one, two and three bytes, the null character and a pair of surrogates. -/
example :
    ModifiedUtf8.encode "a\x00é😀"
      = [0x61, 0xc0, 0x80, 0xc3, 0xa9, 0xed, 0xa0, 0xbd, 0xed, 0xb8, 0x80] := by
  decide +kernel

end Decoder

end Dex

end DexSurface
