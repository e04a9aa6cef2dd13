import DexSurface.Configuration
import DexSurface.Reference.Closure
import DexSurface.Run
import DexSurface.Stub.Body
import DexSurface.Stub.ElementValue
import DexSurface.Stub.Skeleton

/-!
# Stubs of accessible classes

The stub of an accessible class keeps its accessible members.  Platform metadata becomes class-file
attributes, other annotations are kept, restricted members are annotated, and methods get stub
bodies.  Parts are read in a fixed order, which decides which of several errors is reported.
-/

namespace DexSurface

namespace Stub

open ClassFile (ClassTree FieldTree MethodTree InnerClass AnnotationSet)

/-- What a stub depends on besides its own class. -/
structure Surroundings where
  classes : ClassMap
  referenced : ReferencedSet
  configuration : Configuration

/-- The class annotations that become attributes or are left out. -/
def reservedOnClasses : List TypeDescriptor :=
  [Platform.enclosingClass, Platform.enclosingMethod, Platform.innerClass,
    Platform.memberClasses, Platform.permittedSubclasses, Platform.record,
    Platform.signature, Platform.throws, Platform.annotationDefault]

/-- The field annotations that become attributes. -/
def reservedOnFields : List TypeDescriptor :=
  [Platform.signature]

/-- The method annotations that become attributes or are left out. -/
def reservedOnMethods : List TypeDescriptor :=
  [Platform.signature, Platform.throws, Platform.methodParameters]

/-- The parameter annotations that become attributes. -/
def reservedOnParameters : List TypeDescriptor :=
  [Platform.signature]

namespace Surroundings

/-- An entry about a nested class is kept if the class is accessible or emitted as a skeleton. -/
def keepsInnerClass
    (surroundings : Surroundings)
    (typeName : TypeDescriptor)
    (marker : InnerClassMarker) : Bool :=
  marker.flags.isAccessible || surroundings.referenced.contains typeName

/-- A member with these categories is annotated as restricted. -/
def showsRestriction (surroundings : Surroundings) (categories : HiddenApi.Categories) : Bool :=
  surroundings.configuration.hiddenApiAnnotations && categories.isRestricted

/-- Annotations with the restriction of a member behind them. -/
def addRestriction
    (surroundings : Surroundings)
    (categories : HiddenApi.Categories)
    (annotations : AnnotationSet) : AnnotationSet :=
  if surroundings.showsRestriction categories then
    annotations.add (restrictionMark categories) false
  else
    annotations

/-- Note that a restricted member was annotated. -/
def noteRestriction (surroundings : Surroundings) (categories : HiddenApi.Categories) : Run Unit :=
  if surroundings.showsRestriction categories then Run.noteRestriction else pure ()

end Surroundings

/-- The method that a metadata annotation names as the enclosing one. -/
def enclosingMethod (note : Annotation) : Except RecordError ClassFile.EnclosingMethod := do
  let method ← (← note.singleValue).asMethod
  return {
    owner := Descriptor.internalName method.definingClass
    name := some method.name
    descriptor := some method.descriptor
  }

/-- The entry that a nested class has about itself. -/
def ownInnerClass?
    (surroundings : Surroundings)
    (record : ClassRecord)
    (note : Annotation) : Except RecordError (Option InnerClass) := do
  match ← InnerClassMarker.carriedBy note with
  | none => return none
  | some marker =>
      if surroundings.keepsInnerClass record.typeName marker then
        return some {
          name := record.internalName
          outerName := Descriptor.outermostName? record.internalName
          innerName := some marker.name
          flags := marker.flags
        }
      else
        return none

/-- The entry that a class has about a member class; a member that is not in the map is reported. -/
def memberInnerClass?
    (surroundings : Surroundings)
    (record : ClassRecord)
    (memberType : TypeDescriptor) : Run (Option InnerClass) := do
  match surroundings.classes[memberType]? with
  | none =>
      Run.report (.memberClassMissing (Descriptor.internalName memberType))
      return none
  | some member =>
      match ← Run.lift (RunError.ofRecord member.innerClassMarker?) with
      | none => return none
      | some marker =>
          if surroundings.keepsInnerClass memberType marker then
            return some {
              name := member.internalName
              outerName := some record.internalName
              innerName := some marker.name
              flags := marker.flags
            }
          else
            return none

/-- The entries about the member classes that a metadata annotation lists. -/
def memberInnerClasses
    (surroundings : Surroundings)
    (record : ClassRecord)
    (note : Annotation) : Run (List InnerClass) := do
  let members ← Run.lift (RunError.ofRecord (do (← note.singleValue).asArray))
  members.filterMapM fun member => do
    memberInnerClass? surroundings record (← Run.lift (RunError.ofRecord member.asType))

/-- The permitted subclasses that a metadata annotation lists. -/
def permittedSubclasses (note : Annotation) : Except RecordError (List InternalName) := do
  let subclasses ← (← note.singleValue).asArray
  subclasses.mapM fun subclass => return Descriptor.internalName (← subclass.asType)

/-- A class with one more annotation taken into account. -/
def addAnnotationToClass
    (surroundings : Surroundings)
    (record : ClassRecord)
    (tree : ClassTree)
    (note : Annotation) : Run ClassTree := do
  let annotationType := note.annotationType
  if annotationType = Platform.enclosingMethod then
    let method ← Run.lift (RunError.ofRecord (enclosingMethod note))
    return { tree with enclosingMethod := some method }
  else if annotationType = Platform.innerClass then
    let own ← Run.lift (RunError.ofRecord (ownInnerClass? surroundings record note))
    return { tree with innerClasses := tree.innerClasses ++ own.toList }
  else if annotationType = Platform.memberClasses then
    let members ← memberInnerClasses surroundings record note
    return { tree with innerClasses := tree.innerClasses ++ members }
  else if annotationType = Platform.permittedSubclasses then
    let subclasses ← Run.lift (RunError.ofRecord (permittedSubclasses note))
    return { tree with permittedSubclasses := subclasses }
  else if annotationType = Platform.record then
    Run.report (.recordLeft record.typeName)
    return tree
  else if reservedOnClasses.contains annotationType then
    return tree
  else
    let kept ← Run.lift (annotationTree note)
    return { tree with
      annotations := tree.annotations.add kept note.visibility.isRuntimeVisible }

/-- A final field keeps its constant unless its class is one of the resource classes. -/
def keepsConstant (configuration : Configuration) (field : FieldRecord) : Bool :=
  field.flags.has AccessFlags.finalBit
    && !configuration.resourceIdNamespace.toList.isPrefixOf field.definingClass.toList

/-- The constant of an emitted field. -/
def emittedConstant? (configuration : Configuration) (field : FieldRecord) :
    Except RunError (Option ClassFile.FieldConstant) :=
  if keepsConstant configuration field then
    match field.initialValue with
    | some value => fieldConstant? value
    | none => .ok none
  else
    .ok none

/-- The emitted form of an accessible field. -/
def fieldTree (surroundings : Surroundings) (field : FieldRecord) : Except RunError FieldTree := do
  let signature ← RunError.ofRecord field.annotations.genericSignature?
  let value ← emittedConstant? surroundings.configuration field
  let annotations ← annotationSet reservedOnFields field.annotations
  return {
    flags := memberFlags field.flags field.annotations
    name := field.name
    descriptor := field.fieldType
    signature
    value
    annotations := surroundings.addRestriction field.hiddenApi annotations
  }

/-- Emit an accessible field. -/
def emitField (surroundings : Surroundings) (field : FieldRecord) : Run FieldTree := do
  let tree ← Run.lift (fieldTree surroundings field)
  surroundings.noteRestriction field.hiddenApi
  return tree

/--
An instance method that every class inherits from the root class; the root class itself declares
its methods.
-/
def isInheritedFromRoot (method : MethodRecord) : Bool :=
  !method.isStatic
    && method.definingClass != Descriptor.object
    && [("clone", [], Descriptor.object),
        ("equals", [Descriptor.object], "Z"),
        ("finalize", [], "V"),
        ("hashCode", [], "I"),
        ("toString", [], Descriptor.string)].contains
          (method.name, method.parameterTypes, method.returnType)

/-- A method is emitted if it is accessible, declared in source and not inherited anyway. -/
def isEmitted (method : MethodRecord) : Bool :=
  method.flags.isAccessible
    && !method.flags.has AccessFlags.bridgeBit
    && method.name != initializerName
    && !isInheritedFromRoot method

/--
The flags of an emitted method; if it was declared `synchronized` and has a body, that bit states
whether the body enters a monitor.
-/
def methodFlags (method : MethodRecord) : AccessFlags :=
  let flags := memberFlags method.flags method.annotations
  if method.flags.has AccessFlags.declaredSynchronizedBit then
    match method.body with
    | none => flags
    | some body =>
        if body.hasMonitorEnter then
          flags ||| AccessFlags.synchronizedBit
        else
          flags &&& ~~~AccessFlags.synchronizedBit
  else
    flags

/-- Default values by the name of the annotation method. -/
abbrev AnnotationDefaults := List (String × EncodedValue)

/-- The default values of an annotation type; other classes have none. -/
def annotationDefaults (record : ClassRecord) : Except RecordError AnnotationDefaults :=
  if record.isAnnotationType then
    match record.annotations.find? Platform.annotationDefault with
    | none => .ok []
    | some note => do return (← (← note.singleValue).asNested).2
  else
    .ok []

/-- The emitted form of the default value of an annotation method. -/
def emittedDefault? (defaults : AnnotationDefaults) (method : MethodRecord) :
    Except RunError (Option ClassFile.ElementValue) :=
  match defaults.find? fun element => element.1 = method.name with
  | none => .ok none
  | some element => some <$> elementValue element.2

/-- The emitted form of a method up to its own annotations. -/
def methodHead
    (surroundings : Surroundings)
    (defaults : AnnotationDefaults)
    (method : MethodRecord) : Except RunError MethodTree := do
  let signature ← RunError.ofRecord method.annotations.genericSignature?
  let exceptions ← RunError.ofRecord method.annotations.thrownExceptions
  let annotationDefault ← emittedDefault? defaults method
  let annotations ← annotationSet reservedOnMethods method.annotations
  return { MethodTree.bare (methodFlags method) method.name method.descriptor with
    signature
    exceptions
    annotationDefault
    annotations := surroundings.addRestriction method.hiddenApi annotations }

/-- A method with the annotations of the parameter at a position. -/
def addParameterAnnotations
    (count position : Nat)
    (parameter : Parameter)
    (tree : MethodTree) : Except RunError MethodTree :=
  (parameter.annotations.filter fun note =>
      !reservedOnParameters.contains note.annotationType).foldlM
    (fun tree note => do
      return tree.annotateParameter position count (← annotationTree note)
        note.visibility.isRuntimeVisible)
    tree

/-- A method with the annotations of the parameters from a position on. -/
def addAllParameterAnnotations
    (count position : Nat) :
    List PlacedParameter → MethodTree → Except RunError MethodTree
  | [], tree => .ok tree
  | placed :: rest, tree => do
      addAllParameterAnnotations count (position + 1) rest
        (← addParameterAnnotations count position placed.parameter tree)

/-- The names of the parameters before the first nameless one. -/
def leadingNames : List PlacedParameter → List ClassFile.NamedParameter
  | [] => []
  | placed :: rest =>
      match placed.parameter.name with
      | some name => { name, flags := 0 } :: leadingNames rest
      | none => []

/-- The emitted form of a method with its parameters and, if it had one, a body. -/
def methodTail
    (record : ClassRecord)
    (method : MethodRecord)
    (tree : MethodTree) : Except RunError MethodTree := do
  let parameters := placedParameters method
  let tree ← addAllParameterAnnotations parameters.length 0 parameters tree
  if method.body.isSome then
    return { tree with
      parameters := leadingNames parameters
      body := some (methodBody record method parameters) }
  else
    return tree

/-- Emit a method. -/
def emitMethod
    (surroundings : Surroundings)
    (record : ClassRecord)
    (defaults : AnnotationDefaults)
    (method : MethodRecord) : Run MethodTree := do
  let head ← Run.lift (methodHead surroundings defaults method)
  surroundings.noteRestriction method.hiddenApi
  Run.lift (methodTail record method head)

/-- The static initialiser of a stub. -/
def initializer : MethodTree :=
  { MethodTree.bare AccessFlags.staticBit initializerName "()V" with body := some initializerBody }

/-- The methods that the configuration adds to every stub. -/
def addedMethods (configuration : Configuration) : List MethodTree :=
  if configuration.stubInitializer then [initializer] else []

/-- The stub of a class that is part of the surface. -/
def emitClass (surroundings : Surroundings) (record : ClassRecord) : Run ClassTree := do
  let head ← Run.lift (RunError.ofRecord (classHead record))
  let tree ← record.annotations.foldlM (addAnnotationToClass surroundings record)
    { head with sourceFile := record.sourceFile }
  let fields ← record.accessibleFields.mapM (emitField surroundings)
  let defaults ← Run.lift (RunError.ofRecord (annotationDefaults record))
  let methods ← (record.methods.filter isEmitted).mapM (emitMethod surroundings record defaults)
  return { tree with
    fields
    methods := methods ++ addedMethods surroundings.configuration }

/-- The stub of a class, unless the class is not part of the surface. -/
def emitClass? (surroundings : Surroundings) (record : ClassRecord) : Run (Option ClassTree) := do
  if record.flags.isInaccessible then
    return none
  else if ← Run.lift (RunError.ofRecord (isHiddenNested record)) then
    return none
  else
    some <$> emitClass surroundings record

end Stub

end DexSurface
