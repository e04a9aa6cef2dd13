import DexSurface.Text.Width.Ligature
import DexSurface.Text.Width.PictureSequence
import DexSurface.Text.Width.Wide

/-!
# Display width

The number of columns that a text takes on a terminal.  A character takes none, one or two columns,
a Khmer sign three; ligatures and pictures of several characters take fewer columns than their
characters.  A text is measured from its end.
-/

namespace DexSurface

namespace Width

/--
What the text after a character begins with, as far as the columns of the character depend on it.
-/
inductive Following where
  /-- Nothing that matters. -/
  | plain
  /-- What may become a ligature. -/
  | ligature (tail : LigatureTail)
  /-- What may become a picture. -/
  | picture (tail : PictureTail)
deriving DecidableEq, Repr

/-- A request for a form of the character before it. -/
inductive Selector where
  /-- The request for a picture, U+FE0F. -/
  | picture
  /-- The request for text, U+FE0E. -/
  | text
  /-- The request for a wide quotation mark, U+FE01. -/
  | wideQuotation
deriving DecidableEq, Repr

/-- The selector that a character is. -/
def Selector.ofChar? (char : Char) : Option Selector :=
  if char.toNat = 0xfe0f then some .picture
  else if char.toNat = 0xfe0e then some .text
  else if char.toNat = 0xfe01 then some .wideQuotation
  else none

/-- A text that has been measured as far as some character. -/
structure Measured where
  /-- The columns so far. -/
  columns : Int
  /-- How the text begins. -/
  following : Following
  /-- The selector that the text begins with. -/
  selector : Option Selector
deriving DecidableEq, Repr

namespace Measured

/-- The empty text. -/
def empty : Measured := ⟨0, .plain, none⟩

/-- More columns, and another beginning without a selector. -/
def add (measured : Measured) (columns : Int) (following : Following) : Measured :=
  ⟨measured.columns + columns, following, none⟩

/-- The columns of a character that forms nothing with the text after it. -/
def columnsAlone (char : Char) : Int :=
  if char.toNat = 0x17d8 then 3
  else if isZeroWidth char then 0
  else if isWide char || isPictograph char || isSkinTone char then 2
  else 1

/-- What a character begins by itself. -/
def followingAlone (char : Char) : Following :=
  match LigatureTail.ofChar? char with
  | some tail => .ligature tail
  | none =>
      match PictureTail.ofChar? char with
      | some tail => .picture tail
      | none => .plain

/-- A character that forms nothing with the text after it. -/
def addAlone (measured : Measured) (char : Char) : Measured :=
  measured.add (columnsAlone char) (followingAlone char)

/-- What remains of the beginning of a text when a selector stands before it. -/
def followingBehind (measured : Measured) (selector : Selector) : Following :=
  match measured.following with
  | .ligature tail => if tail.passesSelectors then measured.following else .plain
  | .picture tail =>
      if selector = .picture && tail.takesPicture then measured.following else .plain
  | .plain => .plain

/-- A selector before the text. -/
def addSelector (measured : Measured) (selector : Selector) : Measured :=
  ⟨measured.columns, measured.followingBehind selector, some selector⟩

/-- A character that is part of a ligature or a picture, or of neither. -/
def addPart (measured : Measured) (char : Char) : Measured :=
  match measured.following with
  | .plain => measured.addAlone char
  | .ligature tail =>
      match tail.before? char with
      | some (columns, some left) => measured.add columns (.ligature left)
      | some (columns, none) => measured.add columns .plain
      | none => measured.addAlone char
  | .picture tail =>
      match tail.before? char with
      | some (columns, left) => measured.add columns (.picture left)
      | none => measured.addAlone char

/-- The quotation marks with a wide form. -/
def quotationMarks : List (Nat × Nat) :=
  [(0x2018, 0x2019), (0x201c, 0x201d)]

/-- A selector applies to a character. -/
def applies (selector : Selector) (char : Char) : Bool :=
  match selector with
  | .picture => startsPicture char
  | .text => startsNarrowText char
  | .wideQuotation => isIn quotationMarks char

/-- A character in the form that a selector asks for. -/
def addSelected (measured : Measured) (selector : Selector) : Measured :=
  match selector with
  | .picture =>
      match measured.following with
      | .picture _ => measured.add 0 (.picture .picture)
      | _ => measured.add 2 (.picture .picture)
  | .text => measured.add 1 .plain
  | .wideQuotation => measured.add 2 .plain

/--
The text without a selector at its beginning that does not apply; a request for a picture that is
not granted breaks a sequence of pictures.
-/
def dropSelector (measured : Measured) : Measured :=
  match measured.selector, measured.following with
  | some .picture, .picture _ => ⟨measured.columns, .plain, none⟩
  | _, following => ⟨measured.columns, following, none⟩

/-- A character without a selector after it. -/
def addUnselected (measured : Measured) (char : Char) : Measured :=
  if char.toNat ≤ 0xa0 then measured.add 1 .plain
  else match Selector.ofChar? char with
    | some selector => measured.addSelector selector
    | none => measured.addPart char

/-- A character before a text. -/
def addChar (char : Char) (measured : Measured) : Measured :=
  match measured.selector with
  | some selector =>
      if applies selector char then measured.addSelected selector
      else measured.dropSelector.addUnselected char
  | none => measured.addUnselected char

end Measured

/-- The columns of a text. -/
def ofText (text : String) : Nat :=
  (text.toList.foldr Measured.addChar Measured.empty).columns.toNat

end Width

end DexSurface
