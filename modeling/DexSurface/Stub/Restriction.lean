import DexSurface.ClassFile.Tree
import DexSurface.HiddenApi

/-!
# The restriction annotation

A restricted member carries an invisible annotation that lists its categories.  The annotation type
is part of the output.
-/

namespace DexSurface

namespace Stub

/-- The type of the restriction annotation. -/
def restrictionType : TypeDescriptor := "Landroid/annotation/HiddenApiRestriction;"

/-- The name of the element that lists the categories. -/
def restrictionElement : String := "value"

/-- The annotation that lists the categories of a member. -/
def restrictionMark (categories : HiddenApi.Categories) : ClassFile.AnnotationTree where
  descriptor := restrictionType
  values := [(restrictionElement, .array (categories.names.map .string))]

/-- The major version of class files without records. -/
def baseVersion : UInt16 := 52

/-- The declaration of the restriction annotation type. -/
def restrictionTree : ClassFile.ClassTree :=
  { ClassFile.ClassTree.bare baseVersion
      (AccessFlags.annotationBit ||| AccessFlags.abstractBit ||| AccessFlags.interfaceBit)
      (Descriptor.internalName restrictionType) with
    superclass := some "java/lang/Object"
    interfaces := ["java/lang/annotation/Annotation"]
    methods := [
      ClassFile.MethodTree.bare (AccessFlags.publicBit ||| AccessFlags.abstractBit)
        restrictionElement "()[Ljava/lang/String;"
    ] }

end Stub

end DexSurface
