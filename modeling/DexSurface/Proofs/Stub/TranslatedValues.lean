import Mathlib.Data.List.Forall2
import DexSurface.Proofs.GivenValues
import DexSurface.Stub.ElementValue

namespace DexSurface

/-!
# Translated values

A value of an annotation has a class-file form exactly if it holds no null.  The form has the shape
of the value, so it shows all of the value except what references to members are made of: an enum
constant, a field and a method of one class and one name have the same form.
-/

namespace EncodedValue

/-- A value is null, or a value that it holds does. -/
inductive HoldsNull : EncodedValue → Prop where
  | null : HoldsNull .null
  | element
      {annotationType : TypeDescriptor}
      {elements : List (String × EncodedValue)}
      {element : String × EncodedValue} :
      element ∈ elements →
      HoldsNull element.2 →
      HoldsNull (.nested annotationType elements)
  | member {values : List EncodedValue} {value : EncodedValue} :
      value ∈ values →
      HoldsNull value →
      HoldsNull (.array values)

/-- A nested annotation holds a null exactly if one of its elements does. -/
theorem holdsNull_nested_iff
    {annotationType : TypeDescriptor}
    {elements : List (String × EncodedValue)} :
    (nested annotationType elements).HoldsNull ↔ ∃ element ∈ elements, element.2.HoldsNull := by
  constructor
  · intro holds
    cases holds with
    | element member holds => exact ⟨_, member, holds⟩
  · rintro ⟨element, member, holds⟩
    exact .element member holds

/-- An array holds a null exactly if one of its values does. -/
theorem holdsNull_array_iff {values : List EncodedValue} :
    (array values).HoldsNull ↔ ∃ value ∈ values, value.HoldsNull := by
  constructor
  · intro holds
    cases holds with
    | member member holds => exact ⟨_, member, holds⟩
  · rintro ⟨value, member, holds⟩
    exact .member member holds

/-- A reference to a member without its type. -/
def memberOf (definingClass : TypeDescriptor) (name : String) : EncodedValue :=
  .enum { definingClass, name, fieldType := "" }

mutual

/-- A value in which references to members are reduced to their classes and names. -/
def reduced : EncodedValue → EncodedValue
  | .enum reference => memberOf reference.definingClass reference.name
  | .field reference => memberOf reference.definingClass reference.name
  | .method reference => memberOf reference.definingClass reference.name
  | .nested annotationType elements => .nested annotationType (reducedElements elements)
  | .array values => .array (reducedValues values)
  | value => value

/-- Values in which references to members are reduced. -/
def reducedValues : List EncodedValue → List EncodedValue
  | [] => []
  | value :: rest => reduced value :: reducedValues rest

/-- Named values in which references to members are reduced. -/
def reducedElements : List (String × EncodedValue) → List (String × EncodedValue)
  | [] => []
  | (name, value) :: rest => (name, reduced value) :: reducedElements rest

end

end EncodedValue

namespace ClassFile

namespace ElementValue

mutual

/-- The reduced value that has a form. -/
def source : ElementValue → EncodedValue
  | .boolean value => .boolean value
  | .byte value => .byte value
  | .short value => .short value
  | .char unit => .char unit
  | .int value => .int value
  | .long value => .long value
  | .float bits => .float bits
  | .double bits => .double bits
  | .string text => .string text
  | .classLiteral descriptor => .type descriptor
  | .enum descriptor name => .memberOf descriptor name
  | .nested descriptor forms => .nested descriptor (sourceElements forms)
  | .array forms => .array (sourceValues forms)

/-- The reduced values that have forms. -/
def sourceValues : List ElementValue → List EncodedValue
  | [] => []
  | form :: rest => source form :: sourceValues rest

/-- The reduced named values that have named forms. -/
def sourceElements : List (String × ElementValue) → List (String × EncodedValue)
  | [] => []
  | (name, form) :: rest => (name, source form) :: sourceElements rest

end

end ElementValue

end ClassFile

namespace Stub

open ClassFile (ElementValue)

/--
A class-file value has the shape of a value and the same leaves; a reference to a member is an enum
value of its class and its name.
-/
inductive HasForm : EncodedValue → ElementValue → Prop where
  | boolean (value : Bool) : HasForm (.boolean value) (.boolean value)
  | byte (value : Int8) : HasForm (.byte value) (.byte value)
  | short (value : Int16) : HasForm (.short value) (.short value)
  | char (unit : UInt16) : HasForm (.char unit) (.char unit)
  | int (value : Int32) : HasForm (.int value) (.int value)
  | long (value : Int64) : HasForm (.long value) (.long value)
  | float (bits : UInt32) : HasForm (.float bits) (.float bits)
  | double (bits : UInt64) : HasForm (.double bits) (.double bits)
  | string (text : String) : HasForm (.string text) (.string text)
  | type (descriptor : TypeDescriptor) : HasForm (.type descriptor) (.classLiteral descriptor)
  | enum (reference : FieldRef) :
      HasForm (.enum reference) (.enum reference.definingClass reference.name)
  | field (reference : FieldRef) :
      HasForm (.field reference) (.enum reference.definingClass reference.name)
  | method (reference : MethodRef) :
      HasForm (.method reference) (.enum reference.definingClass reference.name)
  /-- The elements keep their names and their order. -/
  | nested
      {annotationType : TypeDescriptor}
      {elements : List (String × EncodedValue)}
      {forms : List (String × ElementValue)} :
      forms.map Prod.fst = elements.map Prod.fst →
      List.Forall₂ HasForm (elements.map Prod.snd) (forms.map Prod.snd) →
      HasForm (.nested annotationType elements) (.nested annotationType forms)
  | array {values : List EncodedValue} {forms : List ElementValue} :
      List.Forall₂ HasForm values forms →
      HasForm (.array values) (.array forms)

/-- Named class-file values have the names and the forms of named values. -/
def HaveForms (elements : List (String × EncodedValue)) (forms : List (String × ElementValue)) :
    Prop :=
  forms.map Prod.fst = elements.map Prod.fst
    ∧ List.Forall₂ HasForm (elements.map Prod.snd) (forms.map Prod.snd)

/-- Named values have forms exactly if the first one has a form and the others have theirs. -/
theorem haveForms_cons_iff
    {element : String × EncodedValue}
    {elements : List (String × EncodedValue)}
    {forms : List (String × ElementValue)} :
    HaveForms (element :: elements) forms
      ↔ ∃ form rest,
          HasForm element.2 form ∧ HaveForms elements rest ∧ forms = (element.1, form) :: rest := by
  constructor
  · rintro ⟨names, areForms⟩
    obtain _ | ⟨⟨name, form⟩, rest⟩ := forms
    · cases names
    · obtain ⟨sameName, sameNames⟩ := List.cons.inj names
      obtain ⟨isForm, restForms⟩ := List.forall₂_cons.mp areForms
      obtain rfl : name = element.1 := sameName
      exact ⟨form, rest, isForm, ⟨sameNames, restForms⟩, rfl⟩
  · rintro ⟨form, rest, isForm, ⟨sameNames, restForms⟩, rfl⟩
    exact ⟨congrArg (element.1 :: ·) sameNames, .cons isForm restForms⟩

/-! Failures. -/

/-- A computation fails under a condition, always with one error, and gives a value otherwise. -/
structure FailsExactly {ε α : Type} (run : Except ε α) (error : ε) (condition : Prop) : Prop where
  fails : condition → run = .error error
  gives : ¬ condition → ∃ value, run = .ok value

section Failures

variable
  {ε α β : Type}
  {run : Except ε α}
  {next : α → Except ε β}
  {error : ε}
  {condition other : Prop}

/-- A computation that gives a value fails under no condition. -/
theorem failsExactly_ok (value : α) (error : ε) : FailsExactly (.ok value) error False where
  fails := False.elim
  gives := fun _ => ⟨value, rfl⟩

/-- A computation that is an error fails in any case. -/
theorem failsExactly_error (error : ε) : FailsExactly (.error error : Except ε α) error True where
  fails := fun _ => rfl
  gives := fun never => absurd trivial never

/-- The condition of a failure may be replaced by an equivalent one. -/
theorem FailsExactly.of_iff
    (exact : FailsExactly run error condition)
    (same : other ↔ condition) : FailsExactly run error other where
  fails := fun holds => exact.fails (same.mp holds)
  gives := fun holdsNot => exact.gives fun holds => holdsNot (same.mpr holds)

/-- A sequence fails in its first part or, if that gives a value, in what follows. -/
theorem FailsExactly.bind
    (first : FailsExactly run error condition)
    (second : ∀ value, run = .ok value → FailsExactly (next value) error other) :
    FailsExactly (run >>= next) error (condition ∨ other) := by
  by_cases holds : condition
  · rw [first.fails holds]
    exact ⟨fun _ => rfl, fun neither => absurd (Or.inl holds) neither⟩
  · obtain ⟨value, given⟩ := first.gives holds
    have rest := (second value given).of_iff (or_iff_right holds)
    rw [given]
    exact ⟨rest.fails, rest.gives⟩

/-- Changing the value of a computation keeps the condition of its failure. -/
theorem FailsExactly.map (exact : FailsExactly run error condition) (change : α → β) :
    FailsExactly (do return change (← run)) error condition :=
  (exact.bind fun _ _ => failsExactly_ok _ error).of_iff (by rw [or_false])

/-- A computation that fails exactly under a condition gives a value exactly without it. -/
theorem FailsExactly.exists_ok_iff (exact : FailsExactly run error condition) :
    (∃ value, run = .ok value) ↔ ¬ condition := by
  refine ⟨?_, exact.gives⟩
  rintro ⟨value, given⟩ holds
  rw [exact.fails holds] at given
  cases given

end Failures

/-- The error for a null in an annotation. -/
def nullRefusal : RunError :=
  .unsupportedValue .null .annotationElement

mutual

/-- A value has no form exactly if it holds a null. -/
theorem failsExactly_elementValue :
    ∀ value : EncodedValue, FailsExactly (elementValue value) nullRefusal value.HoldsNull
  | .null => by
      rw [elementValue]
      exact (failsExactly_error nullRefusal).of_iff (iff_true_intro .null)
  | .nested annotationType elements => by
      rw [elementValue, EncodedValue.holdsNull_nested_iff]
      exact (failsExactly_namedValues elements).map _
  | .array values => by
      rw [elementValue, EncodedValue.holdsNull_array_iff]
      exact (failsExactly_elementValues values).map _
  | .boolean _ | .byte _ | .short _ | .char _ | .int _ | .long _ | .float _ | .double _
  | .string _ | .type _ | .enum _ | .field _ | .method _ => by
      rw [elementValue]
      refine (failsExactly_ok _ nullRefusal).of_iff (iff_false_intro fun holds => ?_)
      cases holds

/-- Translating values fails exactly if one of them holds a null. -/
theorem failsExactly_elementValues :
    ∀ values : List EncodedValue,
      FailsExactly (elementValues values) nullRefusal (∃ value ∈ values, value.HoldsNull)
  | [] => by
      rw [elementValues]
      exact (failsExactly_ok [] nullRefusal).of_iff (by simp)
  | value :: rest => by
      rw [elementValues, List.exists_mem_cons_iff]
      refine (failsExactly_elementValue value).bind fun form translated => ?_
      exact (failsExactly_elementValues rest).map _

/-- Translating named values fails exactly if one of them holds a null. -/
theorem failsExactly_namedValues :
    ∀ elements : List (String × EncodedValue),
      FailsExactly (namedValues elements) nullRefusal (∃ element ∈ elements, element.2.HoldsNull)
  | [] => by
      rw [namedValues]
      exact (failsExactly_ok [] nullRefusal).of_iff (by simp)
  | (name, value) :: rest => by
      rw [namedValues, List.exists_mem_cons_iff]
      refine (failsExactly_elementValue value).bind fun form translated => ?_
      exact (failsExactly_namedValues rest).map _

end

/-! Forms. -/

mutual

/-- A value is translated to its form. -/
theorem elementValue_eq_ok_iff :
    ∀ {value : EncodedValue} {form : ElementValue},
      elementValue value = .ok form ↔ HasForm value form
  | .null, form => by
      rw [elementValue]
      constructor
      · intro given
        cases given
      · intro isForm
        cases isForm
  | .nested annotationType elements, form => by
      rw [elementValue]
      constructor
      · intro given
        obtain ⟨forms, formsGiven, same⟩ := isGiving_except.of_bind given
        obtain rfl := Except.ok.inj same
        obtain ⟨names, areForms⟩ := namedValues_eq_ok_iff.mp formsGiven
        exact .nested names areForms
      · intro isForm
        cases isForm with
        | nested names areForms =>
            rw [namedValues_eq_ok_iff.mpr ⟨names, areForms⟩]
            rfl
  | .array values, form => by
      rw [elementValue]
      constructor
      · intro given
        obtain ⟨forms, formsGiven, same⟩ := isGiving_except.of_bind given
        obtain rfl := Except.ok.inj same
        exact .array (elementValues_eq_ok_iff.mp formsGiven)
      · intro isForm
        cases isForm with
        | array areForms =>
            rw [elementValues_eq_ok_iff.mpr areForms]
            rfl
  | .boolean _, _ | .byte _, _ | .short _, _ | .char _, _ | .int _, _ | .long _, _
  | .float _, _ | .double _, _ | .string _, _ | .type _, _ | .enum _, _ | .field _, _
  | .method _, _ => by
      rw [elementValue]
      constructor
      · intro given
        obtain rfl := Except.ok.inj given
        constructor
      · intro isForm
        cases isForm
        rfl

/-- Values are translated to exactly the forms that they have. -/
theorem elementValues_eq_ok_iff :
    ∀ {values : List EncodedValue} {forms : List ElementValue},
      elementValues values = .ok forms ↔ List.Forall₂ HasForm values forms
  | [], forms => by
      rw [elementValues, List.forall₂_nil_left_iff, Except.ok.injEq, eq_comm]
  | value :: rest, forms => by
      rw [elementValues, List.forall₂_cons_left_iff]
      constructor
      · intro given
        obtain ⟨form, formGiven, restGiven⟩ := isGiving_except.of_bind given
        obtain ⟨others, othersGiven, same⟩ := isGiving_except.of_bind restGiven
        obtain rfl := Except.ok.inj same
        exact ⟨form, others, elementValue_eq_ok_iff.mp formGiven,
          elementValues_eq_ok_iff.mp othersGiven, rfl⟩
      · rintro ⟨form, others, isForm, areForms, rfl⟩
        rw [elementValue_eq_ok_iff.mpr isForm, elementValues_eq_ok_iff.mpr areForms]
        rfl

/-- Named values are translated to exactly the named forms that they have. -/
theorem namedValues_eq_ok_iff :
    ∀ {elements : List (String × EncodedValue)} {forms : List (String × ElementValue)},
      namedValues elements = .ok forms ↔ HaveForms elements forms
  | [], forms => by
      rw [namedValues, Except.ok.injEq, eq_comm]
      constructor
      · rintro rfl
        exact ⟨rfl, .nil⟩
      · rintro ⟨names, -⟩
        exact List.map_eq_nil_iff.mp names
  | (name, value) :: rest, forms => by
      rw [namedValues, haveForms_cons_iff]
      constructor
      · intro given
        obtain ⟨form, formGiven, restGiven⟩ := isGiving_except.of_bind given
        obtain ⟨others, othersGiven, same⟩ := isGiving_except.of_bind restGiven
        obtain rfl := Except.ok.inj same
        exact ⟨form, others, elementValue_eq_ok_iff.mp formGiven,
          namedValues_eq_ok_iff.mp othersGiven, rfl⟩
      · rintro ⟨form, others, isForm, areForms, rfl⟩
        rw [elementValue_eq_ok_iff.mpr isForm, namedValues_eq_ok_iff.mpr areForms]
        rfl

end

/-! Reduced values. -/

mutual

/-- A value is translated as its reduced value is. -/
theorem elementValue_reduced :
    ∀ value : EncodedValue, elementValue value.reduced = elementValue value
  | .nested annotationType elements => by
      rw [EncodedValue.reduced, elementValue, elementValue, namedValues_reducedElements]
  | .array values => by
      rw [EncodedValue.reduced, elementValue, elementValue, elementValues_reducedValues]
  | .boolean _ | .byte _ | .short _ | .char _ | .int _ | .long _ | .float _ | .double _
  | .string _ | .type _ | .null | .enum _ | .field _ | .method _ => rfl

/-- Reducing references to members does not change how values are translated. -/
theorem elementValues_reducedValues :
    ∀ values : List EncodedValue,
      elementValues (EncodedValue.reducedValues values) = elementValues values
  | [] => rfl
  | value :: rest => by
      rw [EncodedValue.reducedValues, elementValues, elementValues, elementValue_reduced,
        elementValues_reducedValues]

/-- Reducing references to members does not change how named values are translated. -/
theorem namedValues_reducedElements :
    ∀ elements : List (String × EncodedValue),
      namedValues (EncodedValue.reducedElements elements) = namedValues elements
  | [] => rfl
  | (name, value) :: rest => by
      rw [EncodedValue.reducedElements, namedValues, namedValues, elementValue_reduced,
        namedValues_reducedElements]

end

mutual

/-- A form shows the reduced value of every value that has it. -/
theorem source_eq_reduced :
    ∀ {value : EncodedValue} {form : ElementValue},
      elementValue value = .ok form → form.source = value.reduced
  | .nested annotationType elements, form, given => by
      rw [elementValue] at given
      obtain ⟨forms, formsGiven, same⟩ := isGiving_except.of_bind given
      obtain rfl := Except.ok.inj same
      rw [ElementValue.source, EncodedValue.reduced, sourceElements_eq_reducedElements formsGiven]
  | .array values, form, given => by
      rw [elementValue] at given
      obtain ⟨forms, formsGiven, same⟩ := isGiving_except.of_bind given
      obtain rfl := Except.ok.inj same
      rw [ElementValue.source, EncodedValue.reduced, sourceValues_eq_reducedValues formsGiven]
  | .null, _, given => by
      rw [elementValue] at given
      cases given
  | .boolean _, _, given | .byte _, _, given | .short _, _, given | .char _, _, given
  | .int _, _, given | .long _, _, given | .float _, _, given | .double _, _, given
  | .string _, _, given | .type _, _, given | .enum _, _, given | .field _, _, given
  | .method _, _, given => by
      rw [elementValue] at given
      obtain rfl := Except.ok.inj given
      rfl

/-- The forms of values determine the values up to the reduction of references. -/
theorem sourceValues_eq_reducedValues :
    ∀ {values : List EncodedValue} {forms : List ElementValue},
      elementValues values = .ok forms →
      ElementValue.sourceValues forms = EncodedValue.reducedValues values
  | [], forms, given => by
      rw [elementValues] at given
      obtain rfl := Except.ok.inj given
      rfl
  | value :: rest, forms, given => by
      rw [elementValues] at given
      obtain ⟨form, formGiven, restGiven⟩ := isGiving_except.of_bind given
      obtain ⟨others, othersGiven, same⟩ := isGiving_except.of_bind restGiven
      obtain rfl := Except.ok.inj same
      rw [ElementValue.sourceValues, EncodedValue.reducedValues, source_eq_reduced formGiven,
        sourceValues_eq_reducedValues othersGiven]

/-- The forms of named values determine the values up to the reduction of references. -/
theorem sourceElements_eq_reducedElements :
    ∀ {elements : List (String × EncodedValue)} {forms : List (String × ElementValue)},
      namedValues elements = .ok forms →
      ElementValue.sourceElements forms = EncodedValue.reducedElements elements
  | [], forms, given => by
      rw [namedValues] at given
      obtain rfl := Except.ok.inj given
      rfl
  | (name, value) :: rest, forms, given => by
      rw [namedValues] at given
      obtain ⟨form, formGiven, restGiven⟩ := isGiving_except.of_bind given
      obtain ⟨others, othersGiven, same⟩ := isGiving_except.of_bind restGiven
      obtain rfl := Except.ok.inj same
      rw [ElementValue.sourceElements, EncodedValue.reducedElements, source_eq_reduced formGiven,
        sourceElements_eq_reducedElements othersGiven]

end

/--
A value without a null has the form of another value exactly if both are reduced to the same value.
-/
theorem elementValue_eq_iff
    {first second : EncodedValue}
    (plain : ¬ first.HoldsNull) :
    elementValue first = elementValue second ↔ first.reduced = second.reduced := by
  constructor
  · intro same
    obtain ⟨form, given⟩ := (failsExactly_elementValue first).gives plain
    rw [← source_eq_reduced given, source_eq_reduced (same ▸ given)]
  · intro same
    rw [← elementValue_reduced first, same, elementValue_reduced]

/--
What a translation of values does: it fails exactly on values with a null, it keeps the shape and
the leaves of the others, and it tells them apart unless they differ only in what references to
members say beside a class and a name.
-/
structure TranslatesByShape (translate : EncodedValue → Except RunError ElementValue) : Prop where
  gives : ∀ value, (∃ form, translate value = .ok form) ↔ ¬ value.HoldsNull
  fails :
    ∀ value,
      value.HoldsNull → translate value = .error (.unsupportedValue .null .annotationElement)
  shape : ∀ value form, translate value = .ok form ↔ HasForm value form
  merges :
    ∀ first second,
      (∃ form, translate first = .ok form ∧ translate second = .ok form)
        ↔ ¬ first.HoldsNull ∧ ¬ second.HoldsNull ∧ first.reduced = second.reduced

/--
Translation fails exactly on values with a null, and two other values have the same form exactly if
they become equal when each reference to a member is reduced to its class and its name.
-/
theorem translatesByShape_elementValue : TranslatesByShape elementValue where
  gives := fun value => (failsExactly_elementValue value).exists_ok_iff
  fails := fun value => (failsExactly_elementValue value).fails
  shape := fun _ _ => elementValue_eq_ok_iff
  merges := by
    intro first second
    rw [← (failsExactly_elementValue first).exists_ok_iff,
      ← (failsExactly_elementValue second).exists_ok_iff]
    constructor
    · rintro ⟨form, firstGiven, secondGiven⟩
      refine ⟨⟨form, firstGiven⟩, ⟨form, secondGiven⟩, ?_⟩
      rw [← source_eq_reduced firstGiven, source_eq_reduced secondGiven]
    · rintro ⟨⟨form, firstGiven⟩, -, same⟩
      have plain := (failsExactly_elementValue first).exists_ok_iff.mp ⟨form, firstGiven⟩
      exact ⟨form, firstGiven, (elementValue_eq_iff plain).mpr same ▸ firstGiven⟩

/--
An array of an enum constant and a field of one class and one name is translated to two equal
values.
-/
example :
    elementValue (.array [
        .enum ⟨"Lpkg/Tone;", "DARK", "Lpkg/Tone;"⟩,
        .field ⟨"Lpkg/Tone;", "DARK", "I"⟩]) =
      .ok (.array [.enum "Lpkg/Tone;" "DARK", .enum "Lpkg/Tone;" "DARK"]) :=
  rfl

end Stub

end DexSurface
