import DexSurface.Proofs.ClassFile.LoweringFailures
import DexSurface.Proofs.Output.SortedAnnotations
import DexSurface.Proofs.Parameters.SlotLayout

namespace DexSurface

/-!
# Tables of parameter annotations

Annotations are added to parameters in any order and on either side, and each row of a table holds
what was added for its parameter.  A stub adds the annotations of one parameter after the other, so
a table that is not empty has a row for every parameter.
-/

namespace ClassFile

/-- An annotation that is added to a parameter, which is one of so many. -/
structure ParameterAddition where
  index : Nat
  count : Nat
  note : AnnotationTree
  visible : Bool

/-- The rows that a table has at least when the annotation stands in it. -/
def ParameterAddition.rows (addition : ParameterAddition) : Nat :=
  max addition.count (addition.index + 1)

/-- What is added on a side. -/
def additionsOn (visible : Bool) (additions : List ParameterAddition) : List ParameterAddition :=
  additions.filter fun addition => addition.visible = visible

/-- Append annotations to the rows of parameters, each on its side. -/
def MethodTree.annotateParameters
    (method : MethodTree)
    (additions : List ParameterAddition) : MethodTree :=
  additions.foldl
    (fun method addition =>
      method.annotateParameter addition.index addition.count addition.note addition.visible)
    method

/--
A table has as many rows as its additions need, and each row has what was added for it; a row that
is missing is empty.
-/
structure ParameterTable.Holds
    (table : ParameterTable)
    (additions : List ParameterAddition) : Prop where
  length : table.length = ((additions.map ParameterAddition.rows).max?).getD 0
  rows :
    ∀ index,
      (table[index]?).getD [] =
        (additions.filter fun addition => addition.index = index).map ParameterAddition.note

end ClassFile

namespace Stub

open ClassFile
  (AnnotationSet ClassTree MethodTree ParameterAddition ParameterTable additionsOn)

/--
The parameter annotations of a method are sorted, and a table with an annotation has a row for each
parameter.
-/
def SortsParameters (parameters : List Parameter) (node : MethodTree) : Prop :=
  ∃ sets,
    List.Forall₂
        (fun (parameter : Parameter) set =>
          SortsAnnotations .ofParameter parameter.annotations [] set)
        parameters sets
      ∧ node.visibleParameters = ParameterTable.stored (sets.map AnnotationSet.visible)
      ∧ node.invisibleParameters = ParameterTable.stored (sets.map AnnotationSet.invisible)

/--
Parameter tables are aligned with parameters, whatever is added, in every stub, and until they are
refused for their size.
-/
structure AlignsParameterTables : Prop where
  added :
    ∀ flags name descriptor additions visible,
      (((MethodTree.bare flags name descriptor).annotateParameters additions).parameterTable
          visible).Holds
        (additionsOn visible additions)
  emitted :
    ∀ surroundings record tree,
      CanGive (emitClass? surroundings record) (some tree) →
      ∃ declared,
        List.Forall₂
            (fun (method : MethodRecord) (node : MethodTree) =>
              SortsParameters method.parameters node)
            (record.methods.filter fun method => IsSelected method) declared
          ∧ tree.methods =
              declared
                ++ if surroundings.configuration.stubInitializer then [throwingInitializer] else []
  initializer : SortsParameters [] throwingInitializer
  lowered : ∀ tree : ClassTree, tree.RefusesOversized

end Stub

namespace ClassFile

/-! Additions. -/

namespace ParameterTable

variable {table : ParameterTable} {additions : List ParameterAddition}

/-- An added annotation makes a table as long as its parameter and its count require. -/
theorem length_add (table : ParameterTable) (index count : Nat) (note : AnnotationTree) :
    (table.add index count note).length = max table.length (max count (index + 1)) := by
  rw [add, List.length_modify, List.length_append, List.length_replicate]
  omega

/-- The row of an added annotation gets it behind its other ones, and no other row changes. -/
theorem getD_add (table : ParameterTable) (index count row : Nat) (note : AnnotationTree) :
    ((table.add index count note)[row]?).getD [] =
      (table[row]?).getD [] ++ if index = row then [note] else [] := by
  have grown (more : Nat) :
      ((table ++ List.replicate more [])[row]?).getD [] = (table[row]?).getD [] := by
    rw [List.getElem?_append]
    split
    · rfl
    · next behind =>
        rw [List.getElem?_eq_none (Nat.le_of_not_lt behind), List.getElem?_replicate]
        split <;> rfl
  rw [add, List.getElem?_modify, ← grown (max count (index + 1) - table.length)]
  by_cases isRow : index = row
  case neg => simp [isRow]
  case pos =>
    have inRange :
        row < (table ++ List.replicate (max count (index + 1) - table.length) []).length := by
      rw [List.length_append, List.length_replicate]
      omega
    rw [List.getElem?_eq_getElem inRange]
    simp [isRow]

/-- The greatest of some numbers and one more is the greater of both. -/
theorem getD_max?_append_singleton (numbers : List Nat) (number : Nat) :
    ((numbers ++ [number]).max?).getD 0 = max ((numbers.max?).getD 0) number := by
  cases numbers with
  | nil => exact (Nat.zero_max number).symm
  | cons first rest =>
      rw [List.cons_append, List.max?_cons', List.max?_cons', List.foldl_append]
      rfl

/-- An empty table holds what nothing adds. -/
theorem holds_nil : Holds [] [] :=
  ⟨rfl, fun _ => rfl⟩

/-- A table holds one more annotation after it was added. -/
theorem Holds.add (holds : table.Holds additions) (addition : ParameterAddition) :
    (table.add addition.index addition.count addition.note).Holds (additions ++ [addition]) := by
  constructor
  case length =>
    rw [length_add, holds.length, List.map_append, List.map_singleton,
      getD_max?_append_singleton, ParameterAddition.rows]
  case rows =>
    intro index
    rw [getD_add, holds.rows, List.filter_append, List.map_append]
    by_cases isRow : addition.index = index <;> simp [isRow]

end ParameterTable

namespace MethodTree

variable {method : MethodTree} {before : List ParameterAddition} {visible : Bool}

/-- An annotation is added to the table of its side, and the other table stays as it is. -/
theorem parameterTable_annotateParameter
    (method : MethodTree)
    (addition : ParameterAddition)
    (visible : Bool) :
    (method.annotateParameter addition.index addition.count addition.note
        addition.visible).parameterTable visible =
      if addition.visible = visible then
        (method.parameterTable visible).add addition.index addition.count addition.note
      else
        method.parameterTable visible := by
  rw [annotateParameter]
  cases addition.visible <;> cases visible <;> rfl

/-- Annotating a parameter adds to the table of the side on which it is done. -/
theorem holds_annotateParameter
    (holds : (method.parameterTable visible).Holds (additionsOn visible before))
    (addition : ParameterAddition) :
    ((method.annotateParameter addition.index addition.count addition.note
        addition.visible).parameterTable visible).Holds
      (additionsOn visible (before ++ [addition])) := by
  rw [parameterTable_annotateParameter, additionsOn, List.filter_append]
  by_cases onSide : addition.visible = visible
  · rw [if_pos onSide, List.filter_singleton, decide_eq_true onSide]
    exact holds.add addition
  · rw [if_neg onSide, List.filter_singleton, decide_eq_false onSide, cond_false, List.append_nil]
    exact holds

/-- After any additions each table holds those of its side. -/
theorem holds_annotateParameters
    (holds : (method.parameterTable visible).Holds (additionsOn visible before))
    (additions : List ParameterAddition) :
    ((method.annotateParameters additions).parameterTable visible).Holds
      (additionsOn visible (before ++ additions)) := by
  induction additions generalizing method before with
  | nil =>
      rw [List.append_nil]
      exact holds
  | cons first rest inductionHypothesis =>
      rw [annotateParameters, List.foldl_cons, ← List.singleton_append, ← List.append_assoc]
      exact inductionHypothesis (holds_annotateParameter holds first)

/-- Annotations in sequence are added one after the other. -/
theorem annotateParameters_append (first second : List ParameterAddition) :
    (method.annotateParameters first).annotateParameters second =
      method.annotateParameters (first ++ second) := by
  rw [annotateParameters, annotateParameters, annotateParameters, List.foldl_append]

end MethodTree

/-! Additions to one parameter after the other. -/

/-- Groups of additions belong to consecutive parameters from a position on. -/
def StandFrom : Nat → List (List ParameterAddition) → Prop
  | _, [] => True
  | position, group :: rest =>
      (∀ addition ∈ group, addition.index = position) ∧ StandFrom (position + 1) rest

/-- What is added on a side of one parameter. -/
def notesOn (visible : Bool) (group : List ParameterAddition) : List AnnotationTree :=
  (additionsOn visible group).map ParameterAddition.note

variable {position : Nat} {groups : List (List ParameterAddition)} {visible : Bool}

/-- Additions in groups for consecutive parameters are for these parameters. -/
theorem StandFrom.index_bounds
    (stand : StandFrom position groups)
    {addition : ParameterAddition}
    (member : addition ∈ groups.flatten) :
    position ≤ addition.index ∧ addition.index < position + groups.length := by
  induction groups generalizing position with
  | nil => cases member
  | cons group rest inductionHypothesis =>
      obtain ⟨here, behind⟩ := stand
      rw [List.length_cons]
      rcases List.mem_append.mp member with inGroup | inRest
      · have isHere := here addition inGroup
        omega
      · have bounds := inductionHypothesis behind inRest
        omega

/-- The additions for a parameter are those of its group. -/
theorem StandFrom.filter_flatten (stand : StandFrom position groups) (offset : Nat) :
    (groups.flatten.filter fun addition => addition.index = position + offset) =
      (groups[offset]?).getD [] := by
  induction groups generalizing position offset with
  | nil => rfl
  | cons group rest inductionHypothesis =>
      obtain ⟨here, behind⟩ := stand
      rw [List.flatten_cons, List.filter_append]
      cases offset with
      | zero =>
          have kept : (group.filter fun addition => addition.index = position + 0) = group :=
            List.filter_eq_self.mpr fun addition inGroup => decide_eq_true (here addition inGroup)
          have dropped :
              (rest.flatten.filter fun addition => addition.index = position + 0) = [] := by
            refine List.filter_eq_nil_iff.mpr fun addition inRest isHere => ?_
            have bounds := behind.index_bounds inRest
            have isHere := of_decide_eq_true isHere
            omega
          rw [kept, dropped, List.append_nil, List.getElem?_cons_zero, Option.getD_some]
      | succ offset =>
          have dropped :
              (group.filter fun addition => addition.index = position + (offset + 1)) = [] := by
            refine List.filter_eq_nil_iff.mpr fun addition inGroup isBehind => ?_
            have isHere := here addition inGroup
            have isBehind := of_decide_eq_true isBehind
            omega
          rw [dropped, List.nil_append, List.getElem?_cons_succ, ← inductionHypothesis behind,
            Nat.add_right_comm, Nat.add_assoc]

/--
If as many additions are announced as there are groups, a table with an addition has a row for each
group.
-/
theorem ParameterTable.Holds.eq_stored
    {table : ParameterTable}
    (holds : table.Holds (additionsOn visible groups.flatten))
    (stand : StandFrom 0 groups)
    (counted : ∀ addition ∈ groups.flatten, addition.count = groups.length) :
    table = ParameterTable.stored (groups.map (notesOn visible)) := by
  have rows (index : Nat) :
      (table[index]?).getD [] = (((groups.map (notesOn visible))[index]?).getD []) := by
    have ofGroup := stand.filter_flatten index
    rw [Nat.zero_add] at ofGroup
    rw [holds.rows, additionsOn, List.filter_filter, List.getElem?_map]
    simp only [Bool.and_comm]
    rw [← List.filter_filter, ofGroup]
    cases groups[index]? <;> rfl
  by_cases isEmpty : additionsOn visible groups.flatten = []
  case pos =>
    have bare : (groups.map (notesOn visible)).all List.isEmpty = true := by
      refine List.all_eq_true.mpr fun row inRows => ?_
      obtain ⟨group, inGroups, rfl⟩ := List.mem_map.mp inRows
      rw [List.isEmpty_iff, notesOn, List.map_eq_nil_iff, additionsOn, List.filter_eq_nil_iff]
      exact fun addition inGroup =>
        List.filter_eq_nil_iff.mp isEmpty addition (List.mem_flatten.mpr ⟨group, inGroups, inGroup⟩)
    rw [stored, if_pos bare, ← List.length_eq_zero_iff, holds.length, isEmpty]
    rfl
  case neg =>
    obtain ⟨addition, isAdded⟩ := List.exists_mem_of_ne_nil _ isEmpty
    obtain ⟨inGroups, onSide⟩ := List.mem_filter.mp isAdded
    have annotated : ¬ (groups.map (notesOn visible)).all List.isEmpty = true := by
      intro bare
      obtain ⟨group, isGroup, inGroup⟩ := List.mem_flatten.mp inGroups
      have isBare := List.all_eq_true.mp bare _ (List.mem_map_of_mem isGroup)
      rw [List.isEmpty_iff, notesOn, List.map_eq_nil_iff, additionsOn,
        List.filter_eq_nil_iff] at isBare
      exact isBare addition inGroup onSide
    have sameRows :
        (additionsOn visible groups.flatten).map ParameterAddition.rows =
          List.replicate (additionsOn visible groups.flatten).length groups.length := by
      rw [← List.map_const']
      refine List.map_congr_left fun other otherAdded => ?_
      have inFlatten := (List.mem_filter.mp otherAdded).1
      have bounds := stand.index_bounds inFlatten
      rw [ParameterAddition.rows, counted other inFlatten]
      omega
    have length : table.length = (groups.map (notesOn visible)).length := by
      rw [holds.length, sameRows, List.max?_replicate, if_neg, Option.getD_some, List.length_map]
      exact fun noLength => isEmpty (List.length_eq_zero_iff.mp noLength)
    rw [stored, if_neg annotated]
    refine List.ext_getElem length fun index inTable inRows => ?_
    have sameRow := rows index
    rw [List.getElem?_eq_getElem inTable, List.getElem?_eq_getElem inRows] at sameRow
    exact sameRow

end ClassFile

namespace Stub

open ClassFile (AnnotationSet MethodTree ParameterAddition ParameterTable StandFrom notesOn)

/-! Stubs. -/

/-- The addition of a translated annotation to the parameter at a position. -/
structure IsAddition
    (count position : Nat)
    (note : Annotation)
    (addition : ParameterAddition) : Prop where
  index : addition.index = position
  count : addition.count = count
  visible : addition.visible = note.visibility.isRuntimeVisible
  isTranslation : IsTranslation note addition.note

variable
  {surroundings : Surroundings}
  {record : ClassRecord}
  {count position : Nat}
  {tree node : MethodTree}

/-- Adding the annotations of one parameter is a sequence of additions for it. -/
theorem exists_additions_of_foldlM
    {notes : Annotations}
    (given :
      notes.foldlM
          (fun tree note => do
            return tree.annotateParameter position count (← annotationTree note)
              note.visibility.isRuntimeVisible)
          tree
        = .ok node) :
    ∃ additions,
      List.Forall₂ (IsAddition count position) notes additions
        ∧ node = tree.annotateParameters additions := by
  induction notes generalizing tree with
  | nil =>
      obtain rfl := Except.ok.inj given
      exact ⟨[], .nil, rfl⟩
  | cons note rest inductionHypothesis =>
      rw [List.foldlM_cons] at given
      obtain ⟨middle, noteGiven, restGiven⟩ := isGiving_except.of_bind given
      obtain ⟨translated, isTranslated, made⟩ := isGiving_except.of_bind noteGiven
      obtain rfl := Except.ok.inj made
      obtain ⟨additions, areAdditions, rfl⟩ := inductionHypothesis restGiven
      exact ⟨⟨position, count, translated, note.visibility.isRuntimeVisible⟩ :: additions,
        .cons ⟨rfl, rfl, rfl, annotationTree_eq_ok_iff.mp isTranslated⟩ areAdditions, rfl⟩

/-- Added annotations keep the order of the source on either side. -/
theorem sortsAnnotations_of_isAddition
    {source : Annotations}
    {additions : List ParameterAddition}
    (areAdditions :
      List.Forall₂ (IsAddition count position) (Level.ofParameter.kept source) additions) :
    SortsAnnotations .ofParameter source [] ⟨notesOn true additions, notesOn false additions⟩ := by
  have translated
      (isOnSide : Annotation → Bool)
      (visible : Bool)
      (same : ∀ note : Annotation,
        isOnSide note = (note.visibility.isRuntimeVisible == visible)) :
      List.Forall₂ IsTranslation ((Level.ofParameter.kept source).filter isOnSide)
        (notesOn visible additions) := by
    refine List.forall₂_map_right_iff.mpr (List.Forall₂.imp ?_ (List.rel_filter ?_ areAdditions))
    · exact fun note addition isAddition => isAddition.isTranslation
    · intro note addition isAddition
      change isOnSide note = true ↔ decide (addition.visible = visible) = true
      rw [same, ← isAddition.visible, beq_iff_eq, decide_eq_true_iff]
  constructor
  case visible => exact translated _ true (by rintro ⟨_ | _ | _, _, _⟩ <;> rfl)
  case invisible =>
    exact ⟨_, translated _ false (by rintro ⟨_ | _ | _, _, _⟩ <;> rfl), (List.append_nil _).symm⟩

/--
Adding the annotations of all parameters is a sequence of additions for one parameter after the
other.
-/
theorem exists_groups_of_addAllParameterAnnotations
    {parameters : List PlacedParameter}
    (given : addAllParameterAnnotations count position parameters tree = .ok node) :
    ∃ groups,
      StandFrom position groups
        ∧ (∀ addition ∈ groups.flatten, addition.count = count)
        ∧ List.Forall₂
            (fun (placed : PlacedParameter) group =>
              SortsAnnotations .ofParameter placed.parameter.annotations []
                ⟨notesOn true group, notesOn false group⟩)
            parameters groups
        ∧ node = tree.annotateParameters groups.flatten := by
  induction parameters generalizing position tree with
  | nil =>
      obtain rfl := Except.ok.inj given
      exact ⟨[], trivial, by simp, .nil, rfl⟩
  | cons placed rest inductionHypothesis =>
      obtain ⟨middle, firstGiven, restGiven⟩ := isGiving_except.of_bind given
      obtain ⟨groups, stand, counted, sorts, rfl⟩ := inductionHypothesis restGiven
      rw [addParameterAnnotations] at firstGiven
      obtain ⟨group, areAdditions, rfl⟩ := exists_additions_of_foldlM firstGiven
      have areKept :
          List.Forall₂ (IsAddition count position)
            (Level.ofParameter.kept placed.parameter.annotations) group := by
        rw [Level.kept_eq_filter]
        exact areAdditions
      have ofGroup : ∀ addition ∈ group, addition.index = position ∧ addition.count = count := by
        intro addition inGroup
        obtain ⟨note, isAddition⟩ := exists_of_mem_of_forall₂ areAdditions.flip inGroup
        exact ⟨isAddition.index, isAddition.count⟩
      refine ⟨group :: groups, ⟨fun addition inGroup => (ofGroup addition inGroup).1, stand⟩,
        ?_, .cons (sortsAnnotations_of_isAddition areKept) sorts,
        MethodTree.annotateParameters_append _ _⟩
      intro addition member
      rcases List.mem_append.mp member with inGroup | inRest
      · exact (ofGroup addition inGroup).2
      · exact counted addition inRest

/-- Placed parameters have the annotations of the declared ones. -/
theorem map_annotations_placedParameters (method : MethodRecord) :
    (placedParameters method).map (fun placed => placed.parameter.annotations) =
      method.parameters.map Parameter.annotations := by
  obtain ⟨recovered, kept, placed⟩ := exists_placedParameters_eq method
  have same :
      recovered.map Parameter.annotations = method.parameters.map Parameter.annotations := by
    rw [← List.forall₂_eq_eq_eq, List.forall₂_map_left_iff, List.forall₂_map_right_iff]
    exact kept.flip.imp fun _ _ keeps => keeps.annotations
  rw [← same, placed, ← map_parameter_place (receiverWidth method) recovered, List.map_map,
    map_parameter_place]
  rfl

/-- The head of a method has no parameter annotations. -/
theorem parameterTable_of_methodHead
    {defaults : AnnotationDefaults}
    {method : MethodRecord}
    (given : methodHead surroundings defaults method = .ok tree)
    (visible : Bool) : tree.parameterTable visible = [] := by
  obtain ⟨_, _, rest⟩ := isGiving_except.of_bind given
  obtain ⟨_, _, rest⟩ := isGiving_except.of_bind rest
  obtain ⟨_, _, rest⟩ := isGiving_except.of_bind rest
  obtain ⟨_, _, made⟩ := isGiving_except.of_bind rest
  obtain rfl := Except.ok.inj made
  cases visible <;> rfl

/-- Only the parameters of a method fill its tables. -/
theorem parameterTable_of_methodTail
    {method : MethodRecord}
    (given : methodTail record method tree = .ok node) :
    ∃ annotated,
      addAllParameterAnnotations (placedParameters method).length 0 (placedParameters method) tree
          = .ok annotated
        ∧ ∀ visible, node.parameterTable visible = annotated.parameterTable visible := by
  obtain ⟨annotated, annotatedGiven, rest⟩ := isGiving_except.of_bind given
  refine ⟨annotated, annotatedGiven, ?_⟩
  split at rest <;> (obtain rfl := Except.ok.inj rest; exact fun _ => rfl)

/-- An emitted method has the annotations of its parameters sorted in aligned tables. -/
theorem sortsParameters_of_emitMethod
    {defaults : AnnotationDefaults}
    {method : MethodRecord}
    (given : CanGive (emitMethod surroundings record defaults method) node) :
    SortsParameters method.parameters node := by
  obtain ⟨head, headGiven, rest⟩ := isGiving_state.of_bind given
  obtain ⟨_, _, tailGiven⟩ := isGiving_state.of_bind rest
  obtain ⟨annotated, annotatedGiven, sameTables⟩ :=
    parameterTable_of_methodTail (canGive_lift tailGiven)
  obtain ⟨groups, stand, counted, sorts, rfl⟩ :=
    exists_groups_of_addAllParameterAnnotations annotatedGiven
  have table (visible : Bool) :
      node.parameterTable visible = ParameterTable.stored (groups.map (notesOn visible)) := by
    have starts :
        (head.parameterTable visible).Holds (ClassFile.additionsOn visible []) := by
      rw [parameterTable_of_methodHead (canGive_lift headGiven)]
      exact ParameterTable.holds_nil
    have holds := MethodTree.holds_annotateParameters starts groups.flatten
    rw [sameTables]
    refine holds.eq_stored stand fun addition member => ?_
    rw [counted addition member, sorts.length_eq]
  refine ⟨groups.map fun group => ⟨notesOn true group, notesOn false group⟩, ?_, ?_, ?_⟩
  · have areSorted :
        List.Forall₂ (fun source set => SortsAnnotations .ofParameter source [] set)
          ((placedParameters method).map fun placed => placed.parameter.annotations)
          (groups.map fun group => ⟨notesOn true group, notesOn false group⟩) := by
      rw [List.forall₂_map_left_iff, List.forall₂_map_right_iff]
      exact sorts
    rw [map_annotations_placedParameters, List.forall₂_map_left_iff] at areSorted
    exact areSorted
  · rw [List.map_map]
    exact table true
  · rw [List.map_map]
    exact table false

/-- Parameter tables are aligned with parameters whatever is added. -/
theorem alignsParameterTables : AlignsParameterTables where
  added flags name descriptor additions visible := by
    have starts :
        ((MethodTree.bare flags name descriptor).parameterTable visible).Holds
          (ClassFile.additionsOn visible []) := by
      cases visible <;> exact ParameterTable.holds_nil
    exact MethodTree.holds_annotateParameters starts additions
  emitted surroundings record tree given := by
    obtain ⟨_, _, _, methods, _, _, _, _, methodsGiven, made⟩ := exists_parts_of_emitClass? given
    rw [filter_isEmitted_eq] at methodsGiven
    exact ⟨methods,
      (isGiving_state.forall₂_of_mapM methodsGiven).imp fun _ _ => sortsParameters_of_emitMethod,
      congrArg ClassFile.ClassTree.methods made⟩
  initializer := ⟨[], .nil, rfl, rfl⟩
  lowered := ClassFile.ClassTree.refusesOversized

end Stub

end DexSurface
