import Mathlib.Logic.Relation
import DexSurface.Proofs.Reference.LeastClosure

namespace DexSurface

/-!
# Every class is expanded once

The walk that finds the referenced classes, one task at a time.  To expand a class is to visit what
it mentions outside of its members; a visit of an inaccessible class that is not found yet marks the
class as found and has it expanded.  A step either does an expansion or leaves fewer steps to the
next one, so every walk ends.

The invariant is a balance: the classes that wait for their expansion and those that had it are
together the accessible classes and the found ones.
-/

namespace EncodedValue

mutual

/-- The steps that a search of a value takes: one for every value in it and every type it names. -/
def searchSteps : EncodedValue → Nat
  | .nested _ elements => 2 + searchStepsOfElements elements
  | .array values => 1 + searchStepsOfValues values
  | value => 1 + value.mentions.length

/-- The steps that a search of values takes. -/
def searchStepsOfValues : List EncodedValue → Nat
  | [] => 0
  | value :: rest => searchSteps value + searchStepsOfValues rest

/-- The steps that a search of the values of named elements takes. -/
def searchStepsOfElements : List (String × EncodedValue) → Nat
  | [] => 0
  | (_, value) :: rest => searchSteps value + searchStepsOfElements rest

end

end EncodedValue

/-- What a walk through mentioned types has to do. -/
inductive WalkTask where
  /-- Visit what a class mentions outside of its members. -/
  | expand (record : ClassRecord)
  /-- Look whether a type names an inaccessible class. -/
  | visit (typeName : TypeDescriptor)
  /-- Visit the types that a value names. -/
  | search (value : EncodedValue)

namespace WalkTask

/-- The tasks that an annotation makes. -/
def ofNote (note : Annotation) : List WalkTask :=
  if note.isOpaqueMarker then
    []
  else
    .visit note.annotationType :: note.elements.map fun element => .search element.2

/-- The tasks that annotations make. -/
def ofNotes (annotations : Annotations) : List WalkTask :=
  annotations.flatMap ofNote

/-- The tasks that a value makes. -/
def ofValue : EncodedValue → List WalkTask
  | .nested annotationType elements =>
      .visit annotationType :: elements.map fun element => .search element.2
  | .array values => values.map .search
  | .type descriptor => [.visit descriptor]
  | .enum reference => [.visit reference.definingClass, .visit reference.fieldType]
  | .field reference => [.visit reference.definingClass, .visit reference.fieldType]
  | .method reference =>
      .visit reference.definingClass :: .visit reference.returnType
        :: reference.parameterTypes.map .visit
  | _ => []

/-- The tasks of an expansion: the superclass, the annotations, the interfaces. -/
def ofHierarchy (record : ClassRecord) : List WalkTask :=
  record.superclass.toList.map .visit ++ ofNotes record.annotations
    ++ record.interfaces.map .visit

/-- The tasks that an accessible field makes. -/
def ofField (field : FieldRecord) : List WalkTask :=
  .visit field.fieldType :: ofNotes field.annotations

/-- The tasks that a parameter makes. -/
def ofParameter (parameter : Parameter) : List WalkTask :=
  .visit parameter.parameterType :: ofNotes parameter.annotations

/-- The tasks that an accessible method makes. -/
def ofMethod (method : MethodRecord) : List WalkTask :=
  .visit method.returnType :: (method.parameters.flatMap ofParameter ++ ofNotes method.annotations)

/-- The tasks that an accessible class makes: its expansion, then its accessible members. -/
def ofSurface (record : ClassRecord) : List WalkTask :=
  .expand record
    :: (record.accessibleFields.flatMap ofField ++ record.accessibleMethods.flatMap ofMethod)

/-- The class that a task expands. -/
def expansion? : WalkTask → Option ClassRecord
  | .expand record => some record
  | _ => none

/-- The types that a task leads to before any class is found. -/
def mentions : WalkTask → List TypeDescriptor
  | .expand record => record.hierarchyMentions
  | .visit typeName => [typeName]
  | .search value => value.mentions

/-- The steps to the next expansion, if no class is found on the way. -/
def size : WalkTask → Nat
  | .expand _ => 0
  | .visit _ => 1
  | .search value => value.searchSteps

end WalkTask

/-- A walk on its way: what it has to do, what it found, and what it expanded so far. -/
structure Walk where
  tasks : List WalkTask
  found : ReferencedSet
  expanded : List ClassRecord

namespace Walk

/-- At the start of a walk all accessible classes have to be expanded. -/
def start (classes : ClassMap) : Walk where
  tasks := classes.accessibleClasses.flatMap WalkTask.ofSurface
  found := ∅
  expanded := []

/-- What the first task does. -/
inductive Steps (classes : ClassMap) : Walk → Walk → Prop where
  | expand
      {record : ClassRecord}
      {rest : List WalkTask}
      {found : ReferencedSet}
      {expanded : List ClassRecord} :
      Steps classes
        { tasks := .expand record :: rest, found, expanded }
        { tasks := WalkTask.ofHierarchy record ++ rest, found, expanded := expanded ++ [record] }
  | search
      {value : EncodedValue}
      {rest : List WalkTask}
      {found : ReferencedSet}
      {expanded : List ClassRecord} :
      Steps classes
        { tasks := .search value :: rest, found, expanded }
        { tasks := WalkTask.ofValue value ++ rest, found, expanded }
  | passUnresolved
      {typeName : TypeDescriptor}
      {rest : List WalkTask}
      {found : ReferencedSet}
      {expanded : List ClassRecord}
      (unresolved : classes.inaccessible? typeName = none) :
      Steps classes
        { tasks := .visit typeName :: rest, found, expanded }
        { tasks := rest, found, expanded }
  | passFound
      {typeName : TypeDescriptor}
      {record : ClassRecord}
      {rest : List WalkTask}
      {found : ReferencedSet}
      {expanded : List ClassRecord}
      (resolved : classes.inaccessible? typeName = some record)
      (present : found.contains record.typeName = true) :
      Steps classes
        { tasks := .visit typeName :: rest, found, expanded }
        { tasks := rest, found, expanded }
  | find
      {typeName : TypeDescriptor}
      {record : ClassRecord}
      {rest : List WalkTask}
      {found : ReferencedSet}
      {expanded : List ClassRecord}
      (resolved : classes.inaccessible? typeName = some record)
      (fresh : found.contains record.typeName = false) :
      Steps classes
        { tasks := .visit typeName :: rest, found, expanded }
        { tasks := .expand record :: rest
          found := found.insert record.typeName record
          expanded }

/-- A walk goes on to another one by any number of steps. -/
def LeadsTo (classes : ClassMap) : Walk → Walk → Prop :=
  Relation.ReflTransGen (Steps classes)

/-- The walk has nothing left to do, found the referenced classes, and expanded what it should. -/
structure IsComplete (classes : ClassMap) (walk : Walk) : Prop where
  tasks : walk.tasks = []
  found : walk.found.toList = classes.referenced.toList
  expanded : walk.expanded.Perm (classes.accessibleClasses ++ ClassMap.records classes.referenced)

end Walk

/-! Tasks lead to the mentioned types. -/

namespace WalkTask

/-- The tasks of visiting types lead to these types. -/
theorem mentions_map_visit (types : List TypeDescriptor) :
    (types.map visit).flatMap mentions = types := by
  induction types with
  | nil => rfl
  | cons first rest inductionHypothesis =>
      rw [List.map_cons, List.flatMap_cons, inductionHypothesis]
      rfl

/-- The tasks of searching named values lead to the types that the values name. -/
theorem mentions_elements (elements : List (String × EncodedValue)) :
    (elements.map fun element => search element.2).flatMap mentions =
      EncodedValue.mentionsOfElements elements := by
  induction elements with
  | nil => rfl
  | cons first rest inductionHypothesis =>
      rw [List.map_cons, List.flatMap_cons, inductionHypothesis]
      rfl

/-- The tasks of searching values lead to the types that the values name. -/
theorem mentions_values (values : List EncodedValue) :
    (values.map search).flatMap mentions = EncodedValue.mentionsOfValues values := by
  induction values with
  | nil => rfl
  | cons first rest inductionHypothesis =>
      rw [List.map_cons, List.flatMap_cons, inductionHypothesis]
      rfl

/-- The tasks that annotations make lead to the types that the annotations mention. -/
theorem mentions_ofNotes (annotations : Annotations) :
    (ofNotes annotations).flatMap mentions = annotations.mentions := by
  rw [ofNotes, List.flatMap_assoc, Annotations.mentions]
  congr 1
  funext note
  rw [ofNote, Annotation.mentions]
  split
  · rfl
  · rw [List.flatMap_cons, mentions_elements]
    rfl

/-- The tasks that a value makes lead to the types that the value names. -/
theorem mentions_ofValue (value : EncodedValue) :
    (ofValue value).flatMap mentions = value.mentions := by
  cases value with
  | nested annotationType elements =>
      rw [ofValue, List.flatMap_cons, mentions_elements]
      rfl
  | array values => exact mentions_values values
  | method reference =>
      rw [ofValue, List.flatMap_cons, List.flatMap_cons, mentions_map_visit]
      rfl
  | _ => rfl

/-- The tasks of an expansion lead to the types that the hierarchy of the class mentions. -/
theorem mentions_ofHierarchy (record : ClassRecord) :
    (ofHierarchy record).flatMap mentions = record.hierarchyMentions := by
  rw [ofHierarchy, List.flatMap_append, List.flatMap_append, mentions_map_visit, mentions_ofNotes,
    mentions_map_visit]
  rfl

/-- The tasks that a field makes lead to the types that the field mentions. -/
theorem mentions_ofField (field : FieldRecord) :
    (ofField field).flatMap mentions = field.mentions := by
  rw [ofField, List.flatMap_cons, mentions_ofNotes]
  rfl

/-- The tasks that a parameter makes lead to the types that the parameter mentions. -/
theorem mentions_ofParameter (parameter : Parameter) :
    (ofParameter parameter).flatMap mentions = parameter.mentions := by
  rw [ofParameter, List.flatMap_cons, mentions_ofNotes]
  rfl

/-- The tasks that a method makes lead to the types that the method mentions. -/
theorem mentions_ofMethod (method : MethodRecord) :
    (ofMethod method).flatMap mentions = method.mentions := by
  rw [ofMethod, List.flatMap_cons, List.flatMap_append, mentions_ofNotes, List.flatMap_assoc]
  simp only [mentions_ofParameter]
  rfl

/-- The tasks that an accessible class makes lead to the types that its surface mentions. -/
theorem mentions_ofSurface (record : ClassRecord) :
    (ofSurface record).flatMap mentions = record.surfaceMentions := by
  rw [ofSurface, List.flatMap_cons, List.flatMap_append, List.flatMap_assoc, List.flatMap_assoc]
  simp only [mentions_ofField, mentions_ofMethod]
  rw [← List.append_assoc]
  rfl

/-! Nothing but finding a class makes an expansion. -/

/-- The classes that tasks expand. -/
def expansions (tasks : List WalkTask) : List ClassRecord :=
  tasks.filterMap expansion?

/-- No tasks expand no class. -/
@[simp]
theorem expansions_nil : expansions [] = [] :=
  rfl

/-- Tasks in sequence expand the classes of both parts. -/
@[simp]
theorem expansions_append (first second : List WalkTask) :
    expansions (first ++ second) = expansions first ++ expansions second :=
  List.filterMap_append

/-- The task of expanding a class expands it first. -/
@[simp]
theorem expansions_expand (record : ClassRecord) (rest : List WalkTask) :
    expansions (.expand record :: rest) = record :: expansions rest :=
  rfl

/-- The task of visiting a type expands no class by itself. -/
@[simp]
theorem expansions_visit (typeName : TypeDescriptor) (rest : List WalkTask) :
    expansions (.visit typeName :: rest) = expansions rest :=
  rfl

/-- The task of searching a value expands no class by itself. -/
@[simp]
theorem expansions_search (value : EncodedValue) (rest : List WalkTask) :
    expansions (.search value :: rest) = expansions rest :=
  rfl

/-- Visiting types expands no class by itself. -/
@[simp]
theorem expansions_map_visit (types : List TypeDescriptor) :
    expansions (types.map visit) = [] := by
  simp [expansions, expansion?]

/-- Searching the values of elements expands no class by itself. -/
@[simp]
theorem expansions_map_search (values : α → EncodedValue) (elements : List α) :
    expansions (elements.map fun element => search (values element)) = [] := by
  simp [expansions, expansion?]

/-- Searching values expands no class by itself. -/
@[simp]
theorem expansions_values (values : List EncodedValue) : expansions (values.map search) = [] :=
  expansions_map_search id values

/-- Groups of tasks that expand no class expand none together. -/
theorem expansions_flatMap_eq_nil
    {tasksOf : α → List WalkTask}
    (light : ∀ element, expansions (tasksOf element) = [])
    (elements : List α) :
    expansions (elements.flatMap tasksOf) = [] := by
  induction elements with
  | nil => rfl
  | cons first rest inductionHypothesis =>
      rw [List.flatMap_cons, expansions_append, light, inductionHypothesis]
      rfl

/-- The tasks that annotations make expand no class by themselves. -/
@[simp]
theorem expansions_ofNotes (annotations : Annotations) : expansions (ofNotes annotations) = [] := by
  refine expansions_flatMap_eq_nil (fun note => ?_) annotations
  rw [ofNote]
  split <;> simp

/-- The tasks that a value makes expand no class by themselves. -/
@[simp]
theorem expansions_ofValue (value : EncodedValue) : expansions (ofValue value) = [] := by
  cases value <;> simp [ofValue]

/-- The tasks of an expansion expand no further class by themselves. -/
@[simp]
theorem expansions_ofHierarchy (record : ClassRecord) : expansions (ofHierarchy record) = [] := by
  simp [ofHierarchy]

/-- The tasks that a field makes expand no class by themselves. -/
@[simp]
theorem expansions_ofField (field : FieldRecord) : expansions (ofField field) = [] := by
  simp [ofField]

/-- The tasks that a method makes expand no class by themselves. -/
@[simp]
theorem expansions_ofMethod (method : MethodRecord) : expansions (ofMethod method) = [] := by
  have ofParameters : expansions (method.parameters.flatMap ofParameter) = [] :=
    expansions_flatMap_eq_nil (fun parameter => by simp [ofParameter]) _
  simp [ofMethod, ofParameters]

/-- The tasks that an accessible class makes expand that class alone. -/
@[simp]
theorem expansions_ofSurface (record : ClassRecord) : expansions (ofSurface record) = [record] := by
  have ofFields : expansions (record.accessibleFields.flatMap ofField) = [] :=
    expansions_flatMap_eq_nil expansions_ofField _
  have ofMethods : expansions (record.accessibleMethods.flatMap ofMethod) = [] :=
    expansions_flatMap_eq_nil expansions_ofMethod _
  simp [ofSurface, ofFields, ofMethods]

/-! A search hands its steps on to the tasks that it makes. -/

/-- The sizes of the searches of named values add up to their search steps. -/
theorem total_size_elements (elements : List (String × EncodedValue)) :
    total size (elements.map fun element => search element.2) =
      EncodedValue.searchStepsOfElements elements := by
  induction elements with
  | nil => rfl
  | cons first rest inductionHypothesis =>
      rw [List.map_cons, total_cons, inductionHypothesis]
      rfl

/-- The sizes of the searches of values add up to their search steps. -/
theorem total_size_values (values : List EncodedValue) :
    total size (values.map search) = EncodedValue.searchStepsOfValues values := by
  induction values with
  | nil => rfl
  | cons first rest inductionHypothesis =>
      rw [List.map_cons, total_cons, inductionHypothesis]
      rfl

/-- Visiting types takes one step for each. -/
theorem total_size_visits (types : List TypeDescriptor) :
    total size (types.map visit) = types.length := by
  induction types with
  | nil => rfl
  | cons first rest inductionHypothesis =>
      rw [List.map_cons, total_cons, inductionHypothesis, size, List.length_cons, Nat.add_comm]

/-- Searching a value takes one step more than the tasks that it makes. -/
theorem size_search (value : EncodedValue) :
    size (search value) = 1 + total size (ofValue value) := by
  cases value with
  | nested annotationType elements =>
      rw [size, ofValue, total_cons, total_size_elements, size, ← Nat.add_assoc]
      rfl
  | array values =>
      rw [size, ofValue, total_size_values]
      rfl
  | method reference =>
      rw [size, ofValue, total_cons, total_cons, total_size_visits, size, size]
      change 1 + (reference.parameterTypes.length + 1 + 1) = _
      omega
  | _ => rfl

end WalkTask

namespace Walk

open ClassMap

variable {classes : ClassMap} {walk next : Walk}

/-! Every walk ends. -/

/-- The number of classes that are not found yet. -/
def unfound (classes : ClassMap) (found : ReferencedSet) : Nat :=
  total (fun _ => 1) (classes.records.filter fun record => !found.contains record.typeName)

/-- The expansions that can still be done. -/
def waiting (classes : ClassMap) (walk : Walk) : Nat :=
  (WalkTask.expansions walk.tasks).length + unfound classes walk.found

/-- The steps to the next expansion, if no class is found on the way. -/
def load (walk : Walk) : Nat :=
  total WalkTask.size walk.tasks

/-- Marking a class of the map that was not found leaves one class less to be found. -/
theorem unfound_insert
    {found : ReferencedSet}
    {record : ClassRecord}
    (inMap : record ∈ classes.records)
    (fresh : found.contains record.typeName = false) :
    1 + unfound classes (found.insert record.typeName record) ≤ unfound classes found := by
  refine @add_total_filter_le _ (fun _ => 1) _ _ record _ (fun other => ?_) inMap ?_ ?_
  · simp [Std.TreeMap.contains_insert]
  · simp
  · simp [fresh]

/-- A step does an expansion or leaves fewer steps to the next one. -/
theorem Steps.decreases (step : Steps classes walk next) :
    Prod.Lex (· < ·) (· < ·) (next.waiting classes, next.load)
      (walk.waiting classes, walk.load) := by
  cases step with
  | expand => exact .left _ _ (by simp [waiting])
  | search =>
      refine Prod.lex_def.mpr (.inr ⟨by simp [waiting], ?_⟩)
      simp only [load, total_append, total_cons, WalkTask.size_search]
      omega
  | passUnresolved | passFound =>
      refine Prod.lex_def.mpr (.inr ⟨by simp [waiting], ?_⟩)
      simp [load, WalkTask.size]
  | @find typeName record rest found expanded resolved fresh =>
      have inMap := mem_records_of_getElem? (Option.filter_eq_some_iff.mp resolved).1
      have fewer := unfound_insert inMap fresh
      have lighter : total WalkTask.size (.expand record :: rest)
          < total WalkTask.size (.visit typeName :: rest) := by
        simp [WalkTask.size]
      have noMore : (WalkTask.expansions (.expand record :: rest)).length
          + unfound classes (found.insert record.typeName record)
            ≤ (WalkTask.expansions (.visit typeName :: rest)).length + unfound classes found := by
        simp
        omega
      exact Prod.lex_def.mpr ((Nat.lt_or_eq_of_le noMore).imp_right fun same => ⟨same, lighter⟩)

/-- No walk goes on forever. -/
theorem wellFounded_steps (classes : ClassMap) :
    WellFounded fun later earlier => Steps classes earlier later := by
  have pairs : WellFounded (Prod.Lex (· < ·) (· < · : Nat → Nat → Prop)) :=
    (Prod.lex Nat.lt_wfRel Nat.lt_wfRel).wf
  exact Subrelation.wf Steps.decreases
    (InvImage.wf (fun walk : Walk => (walk.waiting classes, walk.load)) pairs)

/-- A walk with a task goes on. -/
theorem exists_steps (notDone : walk.tasks ≠ []) : ∃ next, Steps classes walk next := by
  obtain ⟨tasks, found, expanded⟩ := walk
  cases tasks with
  | nil => exact absurd rfl notDone
  | cons first rest =>
      cases first with
      | expand record => exact ⟨_, .expand⟩
      | search value => exact ⟨_, .search⟩
      | visit typeName =>
          cases resolved : classes.inaccessible? typeName with
          | none => exact ⟨_, .passUnresolved resolved⟩
          | some record =>
              cases present : found.contains record.typeName with
              | true => exact ⟨_, .passFound resolved present⟩
              | false => exact ⟨_, .find resolved present⟩

/-! Expansions and found classes are in balance. -/

/-- A class that is found for the first time is one class more. -/
theorem perm_records_insert
    {found : ReferencedSet}
    {record : ClassRecord}
    (fresh : found.contains record.typeName = false) :
    (ClassMap.records (found.insert record.typeName record)).Perm
      (record :: ClassMap.records found) := by
  have inserted := @Std.TreeMap.toList_insert_perm _ _ _ found _ _ _ record.typeName record
  have allKept : found.toList.filter (fun entry => ¬record.typeName == entry.1) = found.toList := by
    refine List.filter_eq_self.mpr fun entry member => ?_
    have isStored := Std.TreeMap.mem_toList_iff_getElem?_eq_some.mp member
    have differs : record.typeName ≠ entry.1 := by
      intro same
      rw [same, Std.TreeMap.contains_eq_isSome_getElem?, isStored] at fresh
      cases fresh
    simpa using differs
  rw [allKept] at inserted
  exact inserted.map Prod.snd

/-- The invariant of a walk. -/
structure IsBalanced (classes : ClassMap) (walk : Walk) : Prop where
  part : walk.found.IsPartOf classes
  follows : classes.follow (walk.tasks.flatMap WalkTask.mentions) walk.found = classes.reached
  balance :
    (WalkTask.expansions walk.tasks ++ walk.expanded).Perm
      (classes.accessibleClasses ++ ClassMap.records walk.found)

/-- The invariant holds at the start of a walk. -/
theorem isBalanced_start : (start classes).IsBalanced classes where
  part := ReferencedSet.isPartOf_empty
  follows := by
    rw [start, List.flatMap_assoc]
    simp only [WalkTask.mentions_ofSurface]
    rfl
  balance := by
    have expansions (records : List ClassRecord) :
        WalkTask.expansions (records.flatMap WalkTask.ofSurface) = records := by
      induction records with
      | nil => rfl
      | cons first rest inductionHypothesis => simp [inductionHypothesis]
    have noneFound : ClassMap.records (∅ : ReferencedSet) = [] := rfl
    simp [start, expansions, noneFound]

/-- A step of a walk preserves its invariant. -/
theorem Steps.isBalanced
    (keyed : classes.IsKeyedByName)
    (step : Steps classes walk next)
    (balanced : walk.IsBalanced classes) :
    next.IsBalanced classes := by
  obtain ⟨part, follows, balance⟩ := balanced
  cases step with
  | @expand record rest found expanded =>
      refine ⟨part, ?_, ?_⟩
      · rw [List.flatMap_append, WalkTask.mentions_ofHierarchy]
        exact follows
      · rw [WalkTask.expansions_expand] at balance
        rw [WalkTask.expansions_append, WalkTask.expansions_ofHierarchy, List.nil_append,
          ← List.append_assoc]
        exact (List.perm_append_singleton record _).trans balance
  | search =>
      refine ⟨part, ?_, ?_⟩
      · rw [List.flatMap_append, WalkTask.mentions_ofValue]
        exact follows
      · rw [WalkTask.expansions_append, WalkTask.expansions_ofValue]
        exact balance
  | passUnresolved unresolved =>
      refine ⟨part, ?_, balance⟩
      rw [← follow_cons_of_unresolved unresolved]
      exact follows
  | passFound resolved present =>
      refine ⟨part, ?_, balance⟩
      rw [← follow_cons_of_contains resolved present]
      exact follows
  | @find typeName record rest found expanded resolved fresh =>
      refine ⟨part.insert keyed (inaccessible?_eq_some_iff.mp resolved), ?_, ?_⟩
      · rw [List.flatMap_cons, WalkTask.mentions,
          ← follow_cons_of_fresh resolved (Bool.eq_false_iff.mp fresh)]
        exact follows
      · refine List.Perm.trans ?_ (List.Perm.append_left _ (perm_records_insert fresh).symm)
        exact (balance.cons record).trans List.perm_middle.symm

/-- The invariant holds wherever a walk gets from its start. -/
theorem LeadsTo.isBalanced
    (keyed : classes.IsKeyedByName)
    (leads : LeadsTo classes (start classes) walk) :
    walk.IsBalanced classes := by
  induction leads with
  | refl => exact isBalanced_start
  | tail _ step inductionHypothesis => exact step.isBalanced keyed inductionHypothesis

/-! No class is expanded twice. -/

/-- Accessible classes and found ones have different names. -/
theorem nodup_typeNames
    (keyed : classes.IsKeyedByName)
    {found : ReferencedSet}
    (part : found.IsPartOf classes) :
    ((classes.accessibleClasses ++ ClassMap.records found).map ClassRecord.typeName).Nodup := by
  have foundKeyed : IsKeyedByName found := fun typeName record stored =>
    keyed typeName record (part typeName record stored).1
  rw [List.map_append]
  refine List.nodup_append.mpr ⟨?_, ?_, ?_⟩
  · have names : (classes.records.map ClassRecord.typeName).Nodup := by
      rw [typeNames_eq_keys keyed]
      exact Std.TreeMap.nodup_keys
    exact names.sublist (List.filter_sublist.map _)
  · rw [typeNames_eq_keys foundKeyed]
    exact Std.TreeMap.nodup_keys
  · rintro _ inAccessible _ inFound sameName
    obtain ⟨user, userMember, rfl⟩ := List.mem_map.mp inAccessible
    obtain ⟨other, otherMember, rfl⟩ := List.mem_map.mp inFound
    obtain ⟨inMap, accessible⟩ := List.mem_filter.mp userMember
    obtain ⟨stored, inaccessible⟩ := part _ _ (getElem?_typeName foundKeyed otherMember)
    rw [← sameName, getElem?_typeName keyed inMap] at stored
    rw [AccessFlags.isAccessible, Option.some.inj stored, inaccessible] at accessible
    cases accessible

/-- A walk expands no class twice. -/
theorem IsBalanced.nodup_expanded
    (keyed : classes.IsKeyedByName)
    (balanced : walk.IsBalanced classes) :
    (walk.expanded.map ClassRecord.typeName).Nodup := by
  have names := (balanced.balance.map ClassRecord.typeName).nodup_iff.mpr
    (nodup_typeNames keyed balanced.part)
  exact names.sublist ((List.sublist_append_right _ _).map _)

/-- A walk without tasks has found and expanded all that it should. -/
theorem IsBalanced.isComplete
    (keyed : classes.IsKeyedByName)
    (balanced : walk.IsBalanced classes)
    (done : walk.tasks = []) :
    walk.IsComplete classes := by
  obtain ⟨-, follows, balance⟩ := balanced
  rw [done, List.flatMap_nil, follow_nil] at follows
  have sameFound : walk.found.toList = classes.referenced.toList := by
    rw [follows, (referenced_equiv_reached keyed).toList_eq]
  rw [done, WalkTask.expansions_nil, List.nil_append, ClassMap.records, sameFound] at balance
  exact ⟨done, sameFound, balance⟩

/-- From every point a walk comes to its end. -/
theorem exists_isComplete
    (keyed : classes.IsKeyedByName)
    (leads : LeadsTo classes (start classes) walk) :
    ∃ final, LeadsTo classes (start classes) final ∧ final.IsComplete classes := by
  induction walk using (wellFounded_steps classes).induction with
  | h walk inductionHypothesis =>
      by_cases done : walk.tasks = []
      · exact ⟨walk, leads, (leads.isBalanced keyed).isComplete keyed done⟩
      · obtain ⟨next, step⟩ := exists_steps done
        exact inductionHypothesis next step (leads.tail step)

/--
No walk goes on forever, and a walk that cannot go on has found the referenced classes and expanded
each accessible and each referenced class; no class is ever expanded twice.
-/
theorem expandsOnce (keyed : classes.IsKeyedByName) :
    (WellFounded fun later earlier => Steps classes earlier later)
      ∧ (∃ final, LeadsTo classes (start classes) final ∧ final.IsComplete classes)
      ∧ ∀ walk, LeadsTo classes (start classes) walk →
          (walk.expanded.map ClassRecord.typeName).Nodup
            ∧ ((∃ next, Steps classes walk next) ∨ walk.IsComplete classes) := by
  refine ⟨wellFounded_steps classes, exists_isComplete keyed .refl, fun walk leads => ?_⟩
  have balanced := leads.isBalanced keyed
  refine ⟨balanced.nodup_expanded keyed, ?_⟩
  by_cases done : walk.tasks = []
  · exact .inr (balanced.isComplete keyed done)
  · exact .inl (exists_steps done)

/-- On a cycle of two inaccessible classes, the second mention of one of them is passed over. -/
theorem expandsOnce_cyclicClasses :
    cyclicClasses.IsKeyedByName
      ∧ ∃ final, LeadsTo cyclicClasses (start cyclicClasses) final
        ∧ final.expanded = [widget, base, api]
        ∧ final.IsComplete cyclicClasses := by
  have keyed : cyclicClasses.IsKeyedByName := isKeyedByName_insertAll isKeyedByName_empty _
  have baseResolved : cyclicClasses.inaccessible? "Lpkg/Base;" = some base :=
    inaccessible?_eq_some_iff.mpr ⟨rfl, rfl⟩
  have apiResolved : cyclicClasses.inaccessible? "[Lpkg/Api;" = some api :=
    inaccessible?_eq_some_iff.mpr ⟨rfl, rfl⟩
  have leads : LeadsTo cyclicClasses (start cyclicClasses) {
      tasks := []
      found := ((∅ : ReferencedSet).insert base.typeName base).insert api.typeName api
      expanded := [widget, base, api]
    } := by
    refine .head .expand ?_
    refine .head (.find baseResolved rfl) ?_
    refine .head .expand ?_
    refine .head (.find apiResolved rfl) ?_
    refine .head .expand ?_
    exact .single (.passFound baseResolved rfl)
  refine ⟨keyed, _, leads, rfl, ?_⟩
  rcases ((expandsOnce keyed).2.2 _ leads).2 with ⟨next, step⟩ | complete
  · cases step
  · exact complete

end Walk

end DexSurface
