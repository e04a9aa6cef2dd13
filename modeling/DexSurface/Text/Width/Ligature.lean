import DexSurface.Text.Width.ZeroWidth

/-!
# Ligatures

Letters that are drawn as one.  A text is measured from its end, so a ligature is met from its last
letter: the letters read so far are its tail, and each character before them adds columns or takes
some back.
-/

namespace DexSurface

namespace Width

/--
The last characters of what may become a ligature.  A flag `joined` says that a zero width joiner
stands before the letter.
-/
inductive LigatureTail where
  /-- An Arabic alef, drawn into a lam before it. -/
  | alef
  /-- A Hebrew lamed, drawn into a joined alef. -/
  | lamed (joined : Bool)
  /-- A Buginese ya, drawn into a joined a with the vowel i. -/
  | ya (joined : Bool)
  /-- A joined Buginese ya after the vowel i. -/
  | vowelAndYa
  /-- A Tifinagh consonant, drawn into one before it. -/
  | consonant (joined : Bool)
  /-- A Tifinagh consonant after the consonant joiner. -/
  | attachedConsonant
  /-- A Lisu tone letter that is the second part of a tone. -/
  | tone
  /-- An Old Turkic i, drawn into a joined ec. -/
  | orkhonI (joined : Bool)
  /-- A Khmer letter, written below the line after a coeng. -/
  | subscript
  /-- A Kirat Rai vowel sign e, or an odd number of them. -/
  | vowelE
  /-- A Kirat Rai vowel sign ai, or an even number of signs e. -/
  | vowelAi
deriving DecidableEq, Repr

namespace LigatureTail

/-- The Arabic letters of the shape of alef. -/
def alefs : List (Nat × Nat) :=
  [(0x0622, 0x0623), (0x0625, 0x0625), (0x0627, 0x0627), (0x0671, 0x0673), (0x0675, 0x0675),
    (0x0773, 0x0774), (0x0870, 0x0882)]

/-- The Arabic letters of the shape of lam. -/
def lams : List (Nat × Nat) :=
  [(0x0644, 0x0644), (0x06b5, 0x06b8), (0x076a, 0x076a), (0x08a6, 0x08a6), (0x08c7, 0x08c7)]

/-- The Khmer letters with a form below the line. -/
def subscripts : List (Nat × Nat) :=
  [(0x1780, 0x1782), (0x1784, 0x1787), (0x1789, 0x178c), (0x178e, 0x1793), (0x1795, 0x1798),
    (0x179b, 0x179d), (0x17a0, 0x17a0), (0x17a2, 0x17a2), (0x17a7, 0x17a7), (0x17ab, 0x17ac),
    (0x17af, 0x17af)]

/-- The Tifinagh consonants. -/
def consonants : List (Nat × Nat) :=
  [(0x2d31, 0x2d65), (0x2d6f, 0x2d6f)]

/-- The Lisu tone letters that are the first part of a tone. -/
def firstTones : List (Nat × Nat) :=
  [(0xa4f8, 0xa4fb)]

/-- The Lisu tone letters that are the second part of a tone. -/
def secondTones : List (Nat × Nat) :=
  [(0xa4fc, 0xa4fd)]

/-- The zero width joiner. -/
def joiner : Nat := 0x200d

/-- The tail that a character by itself is. -/
def ofChar? (char : Char) : Option LigatureTail :=
  if isIn alefs char then some .alef
  else if char.toNat = 0x05dc then some (.lamed false)
  else if isIn subscripts char then some .subscript
  else if char.toNat = 0x1a10 then some (.ya false)
  else if isIn consonants char then some (.consonant false)
  else if isIn secondTones char then some .tone
  else if char.toNat = 0x10c03 then some (.orkhonI false)
  else if char.toNat = 0x16d67 then some .vowelE
  else if char.toNat = 0x16d68 then some .vowelAi
  else none

/-- The tail with a zero width joiner before it. -/
def join : LigatureTail → LigatureTail
  | lamed _ => lamed true
  | ya _ => ya true
  | consonant _ => consonant true
  | orkhonI _ => orkhonI true
  | tail => tail

/-- Ignorable marks and joiners may stand before the tail. -/
def passesMarks : LigatureTail → Bool
  | alef | vowelE | vowelAi => false
  | _ => true

/-- A variation selector may stand before the tail. -/
def passesSelectors : LigatureTail → Bool
  | vowelE | vowelAi => false
  | _ => true

/--
The columns that a letter before a tail adds, and the tail that remains; nothing if the letter does
not belong to the ligature.
-/
def letterBefore? (tail : LigatureTail) (char : Char) : Option (Int × Option LigatureTail) :=
  match tail with
  | alef =>
      if isIn lams char then some (0, none)
      else if isTransparent char then some (0, some alef)
      else none
  | lamed true => if char.toNat = 0x05d0 then some (0, none) else none
  | ya true => if char.toNat = 0x1a17 then some (0, some vowelAndYa) else none
  | vowelAndYa => if char.toNat = 0x1a15 then some (0, none) else none
  | consonant joined =>
      if char.toNat = 0x2d7f then some (1, some attachedConsonant)
      else if joined && isIn consonants char then some (0, none)
      else none
  | attachedConsonant => if isIn consonants char then some (-1, none) else none
  | tone => if isIn firstTones char then some (0, none) else none
  | orkhonI true => if char.toNat = 0x10c32 then some (0, none) else none
  | subscript => if char.toNat = 0x17d2 then some (-1, none) else none
  | vowelE =>
      if char.toNat = 0x16d63 || char.toNat = 0x16d69 then some (0, none)
      else if char.toNat = 0x16d67 then some (0, some vowelAi)
      else if char.toNat = 0x16d68 then some (1, some vowelE)
      else none
  | vowelAi => if char.toNat = 0x16d63 then some (0, none) else none
  | _ => none

/--
The columns that a character before a tail adds, and the tail that remains; nothing if the character
does not belong to the ligature.
-/
def before? (tail : LigatureTail) (char : Char) : Option (Int × Option LigatureTail) :=
  if tail.passesMarks && char.toNat = joiner then some (0, some tail.join)
  else if tail.passesMarks && isIgnorableMark char then some (0, some tail)
  else tail.letterBefore? char

end LigatureTail

end Width

end DexSurface
