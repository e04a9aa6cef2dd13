import DexSurface.EncodedValue
import DexSurface.Proofs.Descriptor.FieldTypes

namespace DexSurface

namespace Descriptor

/-!
# Texts that validation accepts

Validation drops the array dimensions of a text and looks at the first and the last letter of what
is left and at its length.  Every field type passes.  So does a text between an `L` and a final `;`
in which a `;` has ended the class name before, such as the descriptors of two classes in a row.
-/

/-- A text for a class or for arrays of it, with a `;` that ends the name before the text ends. -/
inductive EndsEarly : List Char → Prop where
  | object {name : List Char} (isEnded : ';' ∈ name) : EndsEarly ('L' :: (name ++ [';']))
  | array {text : List Char} (element : EndsEarly text) : EndsEarly ('[' :: text)

/-- Validation accepts the field types and the texts that end early, and refuses any other text. -/
structure IsCheckedByEnds (descriptor : TypeDescriptor) : Prop where
  accepted_iff :
    validate descriptor = .ok () ↔ IsFieldType descriptor ∨ EndsEarly descriptor.toList
  refused_iff :
    validate descriptor = .error (.malformedDescriptor descriptor)
      ↔ ¬ IsFieldType descriptor ∧ ¬ EndsEarly descriptor.toList
  /-- Acceptance means a field type exactly for the texts that do not end early. -/
  exact_iff :
    (validate descriptor = .ok () ↔ IsFieldType descriptor) ↔ ¬ EndsEarly descriptor.toList

variable {letter : Char} {text : List Char}

/-! Both kinds of texts, by their first letter. -/

/-- An array text ends early exactly if the text of its elements does. -/
theorem endsEarly_array_iff : EndsEarly ('[' :: text) ↔ EndsEarly text :=
  ⟨fun | .array element => element, .array⟩

/-- A class text ends early exactly if its name has a semicolon before the final one. -/
theorem endsEarly_object_iff :
    EndsEarly ('L' :: text) ↔ ∃ name, ';' ∈ name ∧ text = name ++ [';'] := by
  constructor
  · rintro ⟨isEnded⟩
    exact ⟨_, isEnded, rfl⟩
  · rintro ⟨name, isEnded, rfl⟩
    exact .object isEnded

/-- An array text spells a field type exactly if the text of its elements does. -/
theorem exists_letters_array_iff :
    (∃ type : FieldType, type.letters = '[' :: text)
      ↔ ∃ element : FieldType, element.letters = text := by
  constructor
  · rintro ⟨type, spelled⟩
    cases type with
    | primitive type => cases type <;> cases spelled
    | object name isName => cases spelled
    | array element => exact ⟨element, (List.cons.inj spelled).2⟩
  · rintro ⟨element, rfl⟩
    exact ⟨.array element, rfl⟩

/-- A class text spells a field type exactly if it has a name without semicolon and a final one. -/
theorem exists_letters_object_iff :
    (∃ type : FieldType, type.letters = 'L' :: text)
      ↔ ∃ name, name ≠ [] ∧ ';' ∉ name ∧ text = name ++ [';'] := by
  constructor
  · rintro ⟨type, spelled⟩
    cases type with
    | primitive type => cases type <;> cases spelled
    | object name isName => exact ⟨name, isName.1, isName.2, (List.cons.inj spelled).2.symm⟩
    | array element => cases spelled
  · rintro ⟨name, notEmpty, noEnd, rfl⟩
    exact ⟨.object name ⟨notEmpty, noEnd⟩, rfl⟩

/-- The primitive letters are those of the primitive types. -/
theorem contains_primitiveLetters_iff :
    primitiveLetters.contains letter = true ↔ ∃ type : PrimitiveType, type.letter = letter := by
  constructor
  · intro isLetter
    have given : (PrimitiveType.ofLetter? letter).isSome = true := by
      simp only [primitiveLetters, List.contains_cons, List.contains_nil, Bool.or_false,
        Bool.or_eq_true, beq_iff_eq] at isLetter
      rcases isLetter with rfl | rfl | rfl | rfl | rfl | rfl | rfl | rfl <;> rfl
    obtain ⟨type, isType⟩ := Option.isSome_iff_exists.mp given
    exact ⟨type, PrimitiveType.letter_of_ofLetter? isType⟩
  · rintro ⟨type, rfl⟩
    cases type <;> rfl

/-- Apart from classes and arrays only the letter of a primitive type is a field type. -/
theorem exists_letters_primitive_iff (notObject : letter ≠ 'L') (notArray : letter ≠ '[') :
    (∃ type : FieldType, type.letters = letter :: text)
      ↔ primitiveLetters.contains letter = true ∧ text = [] := by
  rw [contains_primitiveLetters_iff]
  constructor
  · rintro ⟨type, spelled⟩
    cases type with
    | primitive type => exact ⟨⟨type, (List.cons.inj spelled).1⟩, (List.cons.inj spelled).2.symm⟩
    | object name isName => exact absurd (List.cons.inj spelled).1.symm notObject
    | array element => exact absurd (List.cons.inj spelled).1.symm notArray
  · rintro ⟨⟨type, rfl⟩, rfl⟩
    exact ⟨.primitive type, rfl⟩

/-! What validation looks at. -/

/-- An array text is accepted exactly if the text of its elements is. -/
theorem isValid_array : isValid (String.ofList ('[' :: text)) = isValid (String.ofList text) := by
  simp [isValid, elementType]

/-- A class text is accepted exactly if it has some text and a final semicolon. -/
theorem isValid_object_iff :
    isValid (String.ofList ('L' :: text)) = true ↔ ∃ name, name ≠ [] ∧ text = name ++ [';'] := by
  have looksAt :
      isValid (String.ofList ('L' :: text)) = (1 < text.length && text.getLast? = some ';') := by
    simp [isValid, elementType]
  rw [looksAt, Bool.and_eq_true, decide_eq_true_eq, decide_eq_true_eq, List.getLast?_eq_some_iff]
  constructor
  · rintro ⟨long, name, rfl⟩
    rw [List.length_append, List.length_singleton] at long
    exact ⟨name, List.ne_nil_of_length_pos (by omega), rfl⟩
  · rintro ⟨name, notEmpty, rfl⟩
    have named := List.length_pos_iff.mpr notEmpty
    rw [List.length_append, List.length_singleton]
    exact ⟨by omega, name, rfl⟩

/-- Any other text is accepted exactly if it is a primitive letter and nothing else. -/
theorem isValid_primitive_iff (notObject : letter ≠ 'L') (notArray : letter ≠ '[') :
    isValid (String.ofList (letter :: text)) = true
      ↔ primitiveLetters.contains letter = true ∧ text = [] := by
  cases text <;> simp [isValid, elementType, notObject, notArray]

/-- Validation accepts the field types and the texts that end early. -/
theorem isValid_iff (text : List Char) :
    isValid (String.ofList text) = true
      ↔ (∃ type : FieldType, type.letters = text) ∨ EndsEarly text := by
  induction text with
  | nil =>
      refine iff_of_false Bool.false_ne_true ?_
      rintro (⟨type, spelled⟩ | endsEarly)
      · cases type <;> cases spelled
      · cases endsEarly
  | cons letter rest inductionHypothesis =>
      by_cases isArray : letter = '['
      case pos =>
        subst isArray
        rw [isValid_array, inductionHypothesis, exists_letters_array_iff, endsEarly_array_iff]
      by_cases isObject : letter = 'L'
      case pos =>
        subst isObject
        rw [isValid_object_iff, exists_letters_object_iff, endsEarly_object_iff]
        constructor
        · rintro ⟨name, notEmpty, same⟩
          by_cases isEnded : ';' ∈ name
          · exact Or.inr ⟨name, isEnded, same⟩
          · exact Or.inl ⟨name, notEmpty, isEnded, same⟩
        · rintro (⟨name, notEmpty, -, same⟩ | ⟨name, isEnded, same⟩)
          · exact ⟨name, notEmpty, same⟩
          · exact ⟨name, List.ne_nil_of_mem isEnded, same⟩
      case neg =>
        have neverEarly : ¬ EndsEarly (letter :: rest) := by
          intro endsEarly
          cases endsEarly with
          | object => exact isObject rfl
          | array => exact isArray rfl
        rw [isValid_primitive_iff isObject isArray, exists_letters_primitive_iff isObject isArray,
          or_iff_left neverEarly]

/-- A field type ends where its text ends. -/
theorem not_endsEarly_letters (type : FieldType) : ¬ EndsEarly type.letters := by
  induction type with
  | primitive type => cases type <;> rintro ⟨⟩
  | object name isName =>
      rw [FieldType.letters, endsEarly_object_iff]
      rintro ⟨other, isEnded, same⟩
      exact isName.2 (List.append_cancel_right same ▸ isEnded)
  | array element inductionHypothesis =>
      rwa [FieldType.letters, endsEarly_array_iff]

/-- A descriptor is well formed exactly if its characters are the letters of a field type. -/
theorem isFieldType_iff {descriptor : TypeDescriptor} :
    IsFieldType descriptor ↔ ∃ type : FieldType, type.letters = descriptor.toList := by
  refine exists_congr fun type => ?_
  rw [FieldType.descriptor, ← String.toList_inj, String.toList_ofList]

/-- Validation succeeds exactly on the accepted texts. -/
theorem validate_eq_ok_iff {descriptor : TypeDescriptor} :
    validate descriptor = .ok () ↔ isValid descriptor = true := by
  rw [validate]
  split <;> simp_all

/-- Whatever the text, validation looks only at where its last type starts and where it ends. -/
theorem isCheckedByEnds (descriptor : TypeDescriptor) : IsCheckedByEnds descriptor := by
  have accepted_iff :
      validate descriptor = .ok () ↔ IsFieldType descriptor ∨ EndsEarly descriptor.toList := by
    rw [validate_eq_ok_iff, isFieldType_iff, ← isValid_iff, String.ofList_toList]
  have refused_iff :
      validate descriptor = .error (.malformedDescriptor descriptor)
        ↔ ¬ validate descriptor = .ok () := by
    rw [validate]
    split <;> simp
  have apart : IsFieldType descriptor → ¬ EndsEarly descriptor.toList := by
    rw [isFieldType_iff]
    rintro ⟨type, spelled⟩
    exact spelled ▸ not_endsEarly_letters type
  constructor
  case accepted_iff => exact accepted_iff
  case refused_iff => rw [refused_iff, accepted_iff, not_or]
  case exact_iff =>
    rw [accepted_iff]
    constructor
    · intro exact endsEarly
      exact apart (exact.mp (Or.inr endsEarly)) endsEarly
    · intro inTime
      rw [or_iff_left inTime]

/-- The descriptors of two classes in a row are accepted, but they are no field type. -/
theorem not_isFieldType_twoClasses :
    ¬ (validate "La;Lb;" = .ok () ↔ IsFieldType "La;Lb;") := by
  have accepted : validate "La;Lb;" = .ok () := rfl
  have endsEarly : EndsEarly "La;Lb;".toList :=
    @EndsEarly.object ['a', ';', 'L', 'b'] (by decide)
  rw [isFieldType_iff]
  intro exact
  obtain ⟨type, spelled⟩ := exact.mp accepted
  exact not_endsEarly_letters type (spelled ▸ endsEarly)

end Descriptor

end DexSurface
