/-!
# Access flags

The low sixteen bits mean the same in dex images and class files.  Above them a dex image marks
constructors and methods declared `synchronized`, while a class tree marks records and deprecated
elements, which the class file states as attributes.
-/

namespace DexSurface

/-- A word of access flags. -/
abbrev AccessFlags := UInt32

namespace AccessFlags

/-- The element can be used from everywhere. -/
def publicBit : AccessFlags := 0x0001

/-- The element can be used from subclasses. -/
def protectedBit : AccessFlags := 0x0004

/-- The member belongs to the class and not to its instances. -/
def staticBit : AccessFlags := 0x0008

/-- The element cannot be changed or extended. -/
def finalBit : AccessFlags := 0x0010

/-- On a class: superclass methods are called in the modern way. -/
def superBit : AccessFlags := 0x0020

/-- On a method: the call holds the monitor. -/
def synchronizedBit : AccessFlags := 0x0020

/-- On a method: a bridge made by the compiler. -/
def bridgeBit : AccessFlags := 0x0040

/-- The class is an interface. -/
def interfaceBit : AccessFlags := 0x0200

/-- The element has no implementation of its own. -/
def abstractBit : AccessFlags := 0x0400

/-- The element does not occur in source text. -/
def syntheticBit : AccessFlags := 0x1000

/-- The class is an annotation type. -/
def annotationBit : AccessFlags := 0x2000

/-- In a dex image: the method was declared `synchronized`. -/
def declaredSynchronizedBit : AccessFlags := 0x20000

/-- In a class tree: the class is a record. -/
def recordBit : AccessFlags := 0x10000

/-- In a class tree: the element carries a `Deprecated` attribute. -/
def deprecatedBit : AccessFlags := 0x20000

/-- The bits that a class file stores. -/
def storedMask : AccessFlags := 0xffff

/-- Some bit of `bits` is set. -/
def has (flags bits : AccessFlags) : Bool :=
  flags &&& bits != 0

/-- An element is inaccessible when it is synthetic or neither public nor protected. -/
def isInaccessible (flags : AccessFlags) : Bool :=
  flags.has syntheticBit || !flags.has (publicBit ||| protectedBit)

/-- An accessible element is public or protected and not synthetic. -/
def isAccessible (flags : AccessFlags) : Bool :=
  !flags.isInaccessible

/-- The element does not occur in source text. -/
def isSynthetic (flags : AccessFlags) : Bool :=
  flags.has syntheticBit

end AccessFlags

end DexSurface
