import DexSurface.Text.Width.Pictograph

/-!
# Sequences of pictographs

Pictographs with skin tones, flags and pictographs joined by zero width joiners are drawn as one
picture.  Like a ligature, a sequence is met from its end.
-/

namespace DexSurface

namespace Width

/-- The flag letters read before a joined picture. -/
inductive FlagLetters where
  /-- The first one, which has no partner yet. -/
  | one
  /-- Pairs of them. -/
  | even
  /-- Pairs of them and one without a partner. -/
  | odd
deriving DecidableEq, Repr

/-- The last characters of what may become one picture. -/
inductive PictureTail where
  /-- A whole picture. -/
  | picture
  /-- A skin tone. -/
  | skinTone
  /-- One flag letter, or several. -/
  | flagLetters (several : Bool)
  /-- A joiner and a picture. -/
  | joined
  /-- A keycap, a joiner and a picture. -/
  | joinedKeycap
  /-- Flag letters, a joiner and a picture. -/
  | joinedFlag (letters : FlagLetters)
  /-- Tag letters, the end of tags, a joiner and a picture. -/
  | joinedTagLetters (count : Nat)
  /-- Tag digits, perhaps tag letters, the end of tags, a joiner and a picture. -/
  | joinedTagDigits (count : Nat)
deriving DecidableEq, Repr

namespace PictureTail

/-- The tail that a character by itself is. -/
def ofChar? (char : Char) : Option PictureTail :=
  if isFlagLetter char then some (.flagLetters false)
  else if isSkinTone char then some .skinTone
  else if isPictograph char then some .picture
  else none

/-- A joiner before the tail makes it the right part of a sequence. -/
def isJoinable : PictureTail → Bool
  | picture | skinTone | flagLetters true | joinedFlag .even | joinedFlag .odd => true
  | _ => false

/--
A picture before the tail belongs to the same picture, also one that is asked for by a variation
selector.
-/
def takesPicture : PictureTail → Bool
  | joined | joinedKeycap => true
  | _ => false

/-- The columns that flag letters take with one more of them, beyond those that they took. -/
def flagLetterBefore : FlagLetters → Int × PictureTail
  | .one | .odd => (-1, joinedFlag .even)
  | .even => (3, joinedFlag .odd)

/-- A character is a letter of a tag. -/
def isTagLetter (char : Char) : Bool :=
  isIn [(0xe0061, 0xe007a)] char

/-- A character is a digit of a tag. -/
def isTagDigit (char : Char) : Bool :=
  isIn [(0xe0030, 0xe0039)] char

/-- The black flag, which tags turn into the flag of a region. -/
def blackFlag : Nat := 0x1f3f4

/--
The tail that a character before the tags of a joined flag leaves: a region has three to six
letters, or up to four letters and three digits.
-/
def tagBefore? (char : Char) : PictureTail → Option PictureTail
  | joinedTagLetters count =>
      if isTagLetter char && count < 6 then some (joinedTagLetters (count + 1))
      else if isTagDigit char && count < 5 then some (joinedTagDigits 1)
      else if char.toNat = blackFlag && 3 ≤ count then some picture
      else none
  | joinedTagDigits count =>
      if isTagDigit char && count < 3 then some (joinedTagDigits (count + 1))
      else if char.toNat = blackFlag && count = 3 then some picture
      else none
  | _ => none

/-- The columns that a character before a joined picture adds, and the tail that it leaves. -/
def beforeJoined? (char : Char) : Option (Int × PictureTail) :=
  if char.toNat = 0x20e3 then some (0, joinedKeycap)
  else if isFlagLetter char then some (1, joinedFlag .one)
  else if isSkinTone char then some (0, skinTone)
  else if char.toNat = 0xe007f then some (0, joinedTagLetters 0)
  else if isPictograph char then some (0, picture)
  else none

/--
The columns that a character before a tail adds, and the tail that it leaves; nothing if the
character does not belong to the picture.
-/
def before? (tail : PictureTail) (char : Char) : Option (Int × PictureTail) :=
  if tail.isJoinable && char.toNat = 0x200d then some (0, joined)
  else match tail with
    | skinTone => if isSkinned char then some (0, picture) else none
    | flagLetters _ => if isFlagLetter char then some (1, flagLetters true) else none
    | joinedFlag letters => if isFlagLetter char then some (flagLetterBefore letters) else none
    | joined => beforeJoined? char
    | _ => (tail.tagBefore? char).map fun left => (0, left)

end PictureTail

end Width

end DexSurface
