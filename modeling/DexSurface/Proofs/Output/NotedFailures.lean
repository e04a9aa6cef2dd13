import DexSurface.Proofs.Output.RestrictionUse

namespace DexSurface

/-!
# Restrictions that failing emissions note

A restriction is noted while a member is emitted, and a class can still fail after that.  The note
outlives the failure.  A run of emissions therefore leaves it set if some returned node shows a
restriction, and also if a class has failed behind a member that would have shown one.
-/

namespace Run

/-- However it ends, a run leaves a restriction noted if one was before or in one further case. -/
def LeavesNote (run : Run α) (noted : Prop) : Prop :=
  ∃ outcome, ∀ before, ∃ after,
    run before = conclude outcome after
      ∧ (after.usesRestrictions = true ↔ before.usesRestrictions = true ∨ noted)

variable {run : Run α} {noted : Prop}

/-- The further case of a note may be replaced by an equivalent one. -/
theorem LeavesNote.congr
    {other : Prop}
    (leaves : LeavesNote run noted)
    (same : noted ↔ other) :
    LeavesNote run other := by
  rwa [← propext same]

/-- A run that returns at once notes nothing. -/
theorem leavesNote_pure (value : α) : LeavesNote (pure value) False :=
  ⟨.ok value, fun before => ⟨before, rfl, by rw [or_false]⟩⟩

/-- A lifted result notes nothing. -/
theorem leavesNote_lift (result : Except RunError α) : LeavesNote (lift result) False := by
  refine ⟨result, fun before => ⟨before, ?_, by rw [or_false]⟩⟩
  cases result <;> rfl

/-- Reporting an event notes nothing. -/
theorem leavesNote_report (event : Event) : LeavesNote (report event) False :=
  ⟨.ok (), fun before =>
    ⟨{ before with events := before.events.push event }, rfl, by rw [or_false]⟩⟩

/-- Noting a restriction notes one in any case. -/
theorem leavesNote_noteRestriction : LeavesNote noteRestriction True :=
  ⟨.ok (), fun before =>
    ⟨{ before with usesRestrictions := true }, rfl, iff_of_true rfl (Or.inr trivial)⟩⟩

/--
A sequence leaves what its first part leaves, and what its second part does if it is reached.  If it
is not, the first note stays in the journal; if it is, the value that is handed on is the only one,
as the outcome does not depend on the journal.
-/
theorem LeavesNote.bind
    {next : α → Run β}
    {nextNoted : α → Prop}
    (leaves : LeavesNote run noted)
    (nextLeaves : ∀ value, LeavesNote (next value) (nextNoted value)) :
    LeavesNote (run >>= next) (noted ∨ ∃ value, CanGive run value ∧ nextNoted value) := by
  obtain ⟨outcome, ends⟩ := leaves
  cases outcome with
  | error error =>
      have givesNone (value : α) : ¬ CanGive run value := by
        rintro ⟨before, after, given⟩
        obtain ⟨_, failed, -⟩ := ends before
        rw [failed] at given
        cases given
      refine ⟨.error error, fun before => ?_⟩
      obtain ⟨after, failed, noteLeft⟩ := ends before
      refine ⟨after, bind_of_error failed, noteLeft.trans (or_congr_right ?_)⟩
      constructor
      · exact Or.inl
      · rintro (noted | ⟨value, given, -⟩)
        · exact noted
        · exact absurd given (givesNone value)
  | ok value =>
      have gives_iff (other : α) : CanGive run other ↔ other = value := by
        constructor
        · rintro ⟨before, after, given⟩
          obtain ⟨_, succeeded, -⟩ := ends before
          rw [succeeded] at given
          cases given
          rfl
        · rintro rfl
          obtain ⟨after, succeeded, -⟩ := ends .empty
          exact ⟨.empty, after, succeeded⟩
      obtain ⟨nextOutcome, nextEnds⟩ := nextLeaves value
      refine ⟨nextOutcome, fun before => ?_⟩
      obtain ⟨middle, succeeded, noteLeft⟩ := ends before
      obtain ⟨after, ended, nextNoteLeft⟩ := nextEnds middle
      refine ⟨after, (bind_of_ok succeeded).trans ended, ?_⟩
      simp only [gives_iff, exists_eq_left]
      rw [nextNoteLeft, noteLeft, or_assoc]

/-! Mostly only one part of a sequence can note something. -/

/-- When only the first of two runs notes a restriction, both together do so in its case. -/
theorem LeavesNote.bind_of_first
    {next : α → Run β}
    (leaves : LeavesNote run noted)
    (nextLeaves : ∀ value, LeavesNote (next value) False) :
    LeavesNote (run >>= next) noted :=
  (leaves.bind nextLeaves).congr (by simp only [and_false, exists_false, or_false])

/--
When only the second of two runs notes a restriction, both together do so if the first one gives a
value from which the second one does.
-/
theorem LeavesNote.bind_of_second
    {next : α → Run β}
    {nextNoted : α → Prop}
    (leaves : LeavesNote run False)
    (nextLeaves : ∀ value, LeavesNote (next value) (nextNoted value)) :
    LeavesNote (run >>= next) (∃ value, CanGive run value ∧ nextNoted value) :=
  (leaves.bind nextLeaves).congr (by rw [false_or])

/-- Whatever is reported, the note is left as it was. -/
theorem isCompositional_leavesNote (allowed : Event → Prop) :
    IsCompositional allowed fun run => LeavesNote run False where
  of_pure := leavesNote_pure
  of_lift := leavesNote_lift
  of_report := fun {event} _ => leavesNote_report event
  bind := LeavesNote.bind_of_first

/-- Steps in order reach one with a property: all steps before it give a value. -/
inductive Reaches (step : α → Run β) (property : α → Prop) : List α → Prop where
  | first {item : α} {rest : List α} : property item → Reaches step property (item :: rest)
  | behind {item : α} {rest : List α} {value : β} :
      CanGive (step item) value → Reaches step property rest → Reaches step property (item :: rest)

/-- A step with a property is reached as the first one or behind a value of the first one. -/
theorem reaches_cons_iff
    {step : α → Run β}
    {property : α → Prop}
    {item : α}
    {rest : List α} :
    Reaches step property (item :: rest)
      ↔ property item ∨ ∃ value, CanGive (step item) value ∧ Reaches step property rest := by
  constructor
  · intro reaches
    cases reaches with
    | first holds => exact Or.inl holds
    | behind given reachesRest => exact Or.inr ⟨_, given, reachesRest⟩
  · rintro (holds | ⟨value, given, reachesRest⟩)
    · exact .first holds
    · exact .behind given reachesRest

/-- A list of steps leaves a note exactly if it reaches a step that does. -/
theorem leavesNote_mapM
    {step : α → Run β}
    {stepNoted : α → Prop}
    (stepLeaves : ∀ item, LeavesNote (step item) (stepNoted item))
    (items : List α) :
    LeavesNote (items.mapM step) (Reaches step stepNoted items) := by
  induction items with
  | nil => exact (leavesNote_pure []).congr ⟨False.elim, fun reaches => nomatch reaches⟩
  | cons first rest inductionHypothesis =>
      rw [List.mapM_cons]
      refine ((stepLeaves first).bind fun value => ?_).congr reaches_cons_iff.symm
      exact inductionHypothesis.bind_of_first fun values => leavesNote_pure (value :: values)

end Run

namespace Stub

open ClassFile (AnnotationSet FieldTree MethodTree ClassTree)
open HiddenApi (Categories)

/-! What is noted during the emission of one class. -/

/-- The node of a field has been made, with an annotation for its restriction. -/
structure AnnotatesField (surroundings : Surroundings) (field : FieldRecord) : Prop where
  made : ∃ node, fieldTree surroundings field = .ok node
  shows : surroundings.showsRestriction field.hiddenApi = true

/-- The node of a method has been made up to its own annotations, with one for its restriction. -/
structure AnnotatesMethod
    (surroundings : Surroundings)
    (defaults : AnnotationDefaults)
    (method : MethodRecord) : Prop where
  made : ∃ node, methodHead surroundings defaults method = .ok node
  shows : surroundings.showsRestriction method.hiddenApi = true

/-- The annotations of a class are taken into account, so that its members are reached. -/
def ReachesMembers (surroundings : Surroundings) (record : ClassRecord) : Prop :=
  ∃ head tree,
    classHead record = .ok head
      ∧ CanGive
          (record.annotations.foldlM (addAnnotationToClass surroundings record)
            { head with sourceFile := record.sourceFile })
          tree

/-- Some member that shows its restriction is reached, all members before it having been emitted. -/
inductive AnnotatesMember (surroundings : Surroundings) (record : ClassRecord) : Prop where
  | field :
      Run.Reaches (emitField surroundings) (AnnotatesField surroundings) record.accessibleFields →
      AnnotatesMember surroundings record
  | method {fields : List FieldTree} {defaults : AnnotationDefaults} :
      CanGive (record.accessibleFields.mapM (emitField surroundings)) fields →
      annotationDefaults record = .ok defaults →
      Run.Reaches (emitMethod surroundings record defaults) (AnnotatesMethod surroundings defaults)
        (record.methods.filter isEmitted) →
      AnnotatesMember surroundings record

/-- The emission of a class annotates a restricted member, however it goes on. -/
structure AnnotatesSome (surroundings : Surroundings) (record : ClassRecord) : Prop where
  accessible : record.flags.isAccessible = true
  shown : isHiddenNested record = .ok false
  reaches : ReachesMembers surroundings record
  member : AnnotatesMember surroundings record

variable {surroundings : Surroundings} {record : ClassRecord}

/-- A lifted result gives exactly its own value. -/
theorem canGive_lift_iff {result : Except RunError α} {value : α} :
    CanGive (Run.lift result) value ↔ result = .ok value :=
  ⟨canGive_lift, fun given => ⟨.empty, .empty, Run.lift_eq_ok_iff.mpr ⟨given, rfl⟩⟩⟩

/-- A lifted result of reading a record gives exactly its own value. -/
theorem canGive_ofRecord_iff {result : Except RecordError α} {value : α} :
    CanGive (Run.lift (RunError.ofRecord result)) value ↔ result = .ok value :=
  canGive_lift_iff.trans RunError.ofRecord_eq_ok_iff

/-- Categories are noted exactly if their restriction is to be shown. -/
theorem leavesNote_noteRestriction (categories : Categories) :
    (surroundings.noteRestriction categories).LeavesNote
      (surroundings.showsRestriction categories = true) := by
  rw [Surroundings.noteRestriction]
  split
  · next shows => exact Run.leavesNote_noteRestriction.congr (iff_of_true trivial shows)
  · next hidden => exact (Run.leavesNote_pure ()).congr (iff_of_false id hidden)

/--
A member whose node is made before its restriction is noted leaves a note exactly if the node is
made and the restriction is to be shown, however the emission goes on behind the note.
-/
theorem leavesNote_noted
    {finish : α → Run β}
    (made : Except RunError α)
    (categories : Categories)
    (finishLeaves : ∀ node, (finish node).LeavesNote False) :
    Run.LeavesNote
      (do
        let node ← Run.lift made
        surroundings.noteRestriction categories
        finish node)
      ((∃ node, made = .ok node) ∧ surroundings.showsRestriction categories = true) := by
  have notes (node : α) :
      Run.LeavesNote
        (do
          surroundings.noteRestriction categories
          finish node)
        (surroundings.showsRestriction categories = true) := by
    refine (leavesNote_noteRestriction categories).bind_of_first fun _ => ?_
    exact finishLeaves node
  refine ((Run.leavesNote_lift made).bind_of_second notes).congr ?_
  simp only [canGive_lift_iff]
  constructor
  · rintro ⟨node, isMade, shows⟩
    exact ⟨⟨node, isMade⟩, shows⟩
  · rintro ⟨⟨node, isMade⟩, shows⟩
    exact ⟨node, isMade, shows⟩

/-- Emitting a field notes a restriction exactly if it annotates the field. -/
theorem leavesNote_emitField (field : FieldRecord) :
    (emitField surroundings field).LeavesNote (AnnotatesField surroundings field) := by
  refine (leavesNote_noted _ field.hiddenApi Run.leavesNote_pure).congr ?_
  constructor
  · rintro ⟨made, shows⟩
    exact ⟨made, shows⟩
  · rintro ⟨made, shows⟩
    exact ⟨made, shows⟩

/--
Emitting a method notes a restriction exactly if it annotates the method, even if it fails later.
-/
theorem leavesNote_emitMethod (defaults : AnnotationDefaults) (method : MethodRecord) :
    (emitMethod surroundings record defaults method).LeavesNote
      (AnnotatesMethod surroundings defaults method) := by
  have tailLeaves (head : MethodTree) :
      (Run.lift (methodTail record method head)).LeavesNote False :=
    Run.leavesNote_lift _
  refine (leavesNote_noted _ method.hiddenApi tailLeaves).congr ?_
  constructor
  · rintro ⟨made, shows⟩
    exact ⟨made, shows⟩
  · rintro ⟨made, shows⟩
    exact ⟨made, shows⟩

/--
Emitting the members of a class notes a restriction exactly if it annotates one, a field or, behind
all fields, a method.
-/
theorem leavesNote_emitMembers (give : List FieldTree → List MethodTree → ClassTree) :
    Run.LeavesNote
      (do
        let fields ← record.accessibleFields.mapM (emitField surroundings)
        let defaults ← Run.lift (RunError.ofRecord (annotationDefaults record))
        let methods ←
          (record.methods.filter isEmitted).mapM (emitMethod surroundings record defaults)
        return give fields methods)
      (AnnotatesMember surroundings record) := by
  have behindFields (fields : List FieldTree) :
      Run.LeavesNote
        (do
          let defaults ← Run.lift (RunError.ofRecord (annotationDefaults record))
          let methods ←
            (record.methods.filter isEmitted).mapM (emitMethod surroundings record defaults)
          return give fields methods)
        (∃ defaults,
          CanGive (Run.lift (RunError.ofRecord (annotationDefaults record))) defaults
            ∧ Run.Reaches (emitMethod surroundings record defaults)
                (AnnotatesMethod surroundings defaults) (record.methods.filter isEmitted)) := by
    refine (Run.leavesNote_lift _).bind_of_second fun defaults => ?_
    refine (Run.leavesNote_mapM (leavesNote_emitMethod defaults) _).bind_of_first fun methods => ?_
    exact Run.leavesNote_pure (give fields methods)
  refine ((Run.leavesNote_mapM leavesNote_emitField _).bind behindFields).congr ?_
  simp only [canGive_ofRecord_iff]
  constructor
  · rintro (reached | ⟨fields, emitted, defaults, read, reached⟩)
    · exact .field reached
    · exact .method emitted read reached
  · intro member
    cases member with
    | field reached => exact Or.inl reached
    | method emitted read reached => exact Or.inr ⟨_, emitted, _, read, reached⟩

/-- Emitting a class notes a restriction exactly if it reaches and annotates a member. -/
theorem leavesNote_emitClass :
    (emitClass surroundings record).LeavesNote
      (ReachesMembers surroundings record ∧ AnnotatesMember surroundings record) := by
  have compositional := Run.isCompositional_leavesNote Event.IsQuiet
  have annotated (head : ClassTree) :
      Run.LeavesNote
        (record.annotations.foldlM (addAnnotationToClass surroundings record) head) False :=
    compositional.foldlM (holds_addAnnotationToClass compositional) record.annotations head
  have leaves :
      (emitClass surroundings record).LeavesNote
        (∃ head,
          CanGive (Run.lift (RunError.ofRecord (classHead record))) head
            ∧ ∃ tree,
                CanGive
                  (record.annotations.foldlM (addAnnotationToClass surroundings record)
                    { head with sourceFile := record.sourceFile })
                  tree
                ∧ AnnotatesMember surroundings record) := by
    refine (Run.leavesNote_lift _).bind_of_second fun head => ?_
    refine (annotated { head with sourceFile := record.sourceFile }).bind_of_second fun tree => ?_
    exact leavesNote_emitMembers fun fields methods =>
      { tree with fields, methods := methods ++ addedMethods surroundings.configuration }
  refine leaves.congr ?_
  simp only [canGive_ofRecord_iff]
  constructor
  · rintro ⟨head, headGiven, tree, treeGiven, member⟩
    exact ⟨⟨head, tree, headGiven, treeGiven⟩, member⟩
  · rintro ⟨⟨head, tree, headGiven, treeGiven⟩, member⟩
    exact ⟨head, headGiven, tree, treeGiven, member⟩

/-- However it ends, emitting the stub of a class leaves a note if it annotates some member. -/
theorem leavesNote_emitClass? (record : ClassRecord) :
    (emitClass? surroundings record).LeavesNote (AnnotatesSome surroundings record) := by
  rw [emitClass?]
  split
  · next inaccessible =>
      refine (Run.leavesNote_pure none).congr ⟨False.elim, fun annotates => ?_⟩
      have accessible := annotates.accessible
      rw [AccessFlags.isAccessible, inaccessible] at accessible
      cases accessible
  · next accessible =>
      have isAccessible : record.flags.isAccessible = true := by
        rw [AccessFlags.isAccessible, Bool.eq_false_iff.mpr accessible, Bool.not_false]
      have emittedLeaves (hidden : Bool) :
          Run.LeavesNote
            (if hidden = true then pure none else some <$> emitClass surroundings record)
            (hidden = false
              ∧ ReachesMembers surroundings record ∧ AnnotatesMember surroundings record) := by
        cases hidden with
        | true => exact (Run.leavesNote_pure none).congr (by simp)
        | false =>
            rw [if_neg Bool.false_ne_true, map_eq_pure_bind]
            refine (leavesNote_emitClass.bind_of_first fun tree => ?_).congr (by simp)
            exact Run.leavesNote_pure (some tree)
      refine ((Run.leavesNote_lift _).bind_of_second emittedLeaves).congr ?_
      simp only [canGive_ofRecord_iff]
      constructor
      · rintro ⟨hidden, shown, rfl, reaches, member⟩
        exact ⟨isAccessible, shown, reaches, member⟩
      · rintro ⟨-, shown, reaches, member⟩
        exact ⟨false, shown, rfl, reaches, member⟩

/-! Restriction annotations on the members of returned nodes. -/

/-- An annotation for the restriction of a member stands behind its translated annotations. -/
def IsMarked
    (reserved : List TypeDescriptor)
    (source : Annotations)
    (categories : Categories)
    (annotations : AnnotationSet) : Prop :=
  ∃ own,
    annotationSet reserved source = .ok own
      ∧ annotations = own.add (restrictionMark categories) false

/-- Some member of a stub has got an annotation for its restriction. -/
def HasMark (record : ClassRecord) (tree : ClassTree) : Prop :=
  (∃ pair ∈ record.accessibleFields.zip tree.fields,
      IsMarked reservedOnFields pair.1.annotations pair.1.hiddenApi pair.2.annotations)
    ∨ ∃ pair ∈ (record.methods.filter isEmitted).zip tree.methods,
        IsMarked reservedOnMethods pair.1.annotations pair.1.hiddenApi pair.2.annotations

/-- The set of a member is marked exactly if its restriction is to be shown. -/
theorem isMarked_addRestriction_iff
    {reserved : List TypeDescriptor}
    {source : Annotations}
    {categories : Categories}
    {own : AnnotationSet}
    (translated : annotationSet reserved source = .ok own) :
    IsMarked reserved source categories (surroundings.addRestriction categories own)
      ↔ surroundings.showsRestriction categories = true := by
  rw [Surroundings.addRestriction]
  constructor
  · rintro ⟨other, translatedOther, same⟩
    obtain rfl := Except.ok.inj (translated.symm.trans translatedOther)
    by_contra hidden
    rw [if_neg hidden] at same
    have longer := congrArg (fun set => set.invisible.length) same
    simp [AnnotationSet.add] at longer
  · intro shows
    rw [if_pos shows]
    exact ⟨own, translated, rfl⟩

/-- Among members and their nodes, some node is marked exactly if some member is to be. -/
theorem exists_marked_iff
    {gives marked : α → β → Prop}
    {shows : α → Bool}
    {items : List α}
    {nodes : List β}
    (others : List β)
    (given : List.Forall₂ gives items nodes)
    (marked_iff : ∀ item node, gives item node → (marked item node ↔ shows item = true)) :
    (∃ pair ∈ items.zip (nodes ++ others), marked pair.1 pair.2) ↔ items.any shows = true := by
  induction given with
  | nil => simp
  | cons firstGiven restGiven inductionHypothesis =>
      rw [List.cons_append, List.zip_cons_cons, List.exists_mem_cons_iff, List.any_cons,
        Bool.or_eq_true, inductionHypothesis, marked_iff _ _ firstGiven]

/-- An emitted field is marked exactly if its restriction is to be shown. -/
theorem isMarked_iff_of_emitField
    {field : FieldRecord}
    {node : FieldTree}
    (given : CanGive (emitField surroundings field) node) :
    IsMarked reservedOnFields field.annotations field.hiddenApi node.annotations
      ↔ surroundings.showsRestriction field.hiddenApi = true := by
  obtain ⟨_, _, own, -, translated, rfl⟩ := exists_parts_of_emitField given
  exact isMarked_addRestriction_iff translated

/-- An emitted method is marked exactly if its restriction is to be shown. -/
theorem isMarked_iff_of_emitMethod
    {defaults : AnnotationDefaults}
    {method : MethodRecord}
    {node : MethodTree}
    (given : CanGive (emitMethod surroundings record defaults method) node) :
    IsMarked reservedOnMethods method.annotations method.hiddenApi node.annotations
      ↔ surroundings.showsRestriction method.hiddenApi = true := by
  obtain ⟨_, _, _, own, -, translated, same⟩ := exists_parts_of_emitMethod given
  have annotations : node.annotations = surroundings.addRestriction method.hiddenApi own :=
    congrArg MethodTree.annotations same
  rw [annotations]
  exact isMarked_addRestriction_iff translated

/-- A stub has a mark exactly if some of its members shows its restriction. -/
theorem hasMark_iff
    {tree : ClassTree}
    (given : CanGive (emitClass? surroundings record) (some tree)) :
    HasMark record tree ↔ surroundings.showsSome record = true := by
  obtain ⟨_, _, defaults, methods, -, -, fieldsGiven, -, methodsGiven, same⟩ :=
    exists_parts_of_emitClass? given
  have fields_iff :=
    exists_marked_iff [] (isGiving_state.forall₂_of_mapM fieldsGiven) fun _ _ =>
      isMarked_iff_of_emitField
  have methods_iff :=
    exists_marked_iff (addedMethods surroundings.configuration)
      (isGiving_state.forall₂_of_mapM methodsGiven) fun _ _ => isMarked_iff_of_emitMethod
  have methodsSame : tree.methods = methods ++ addedMethods surroundings.configuration :=
    congrArg ClassTree.methods same
  rw [List.append_nil] at fields_iff
  rw [← methodsSame] at methods_iff
  rw [Surroundings.showsSome, Bool.or_eq_true]
  exact or_congr fields_iff methods_iff

/-! What runs of emissions leave behind, also behind failures. -/

/-- Emit the stub of a class, if it has one; the journal is kept when that fails. -/
def attempt (surroundings : Surroundings) (record : ClassRecord) (journal : Journal) :
    Except RunError (Option ClassTree) × Journal :=
  match emitClass? surroundings record journal with
  | .ok tree? after => (.ok tree?, after)
  | .error error after => (.error error, after)

/-- Emit the stubs of classes in order, whichever of them fail. -/
def attemptAll (surroundings : Surroundings) :
    List ClassRecord → Journal → List (Except RunError (Option ClassTree)) × Journal
  | [], journal => ([], journal)
  | record :: rest, journal =>
      let first := attempt surroundings record journal
      let others := attemptAll surroundings rest first.2
      (first.1 :: others.1, others.2)

/--
What an emission with some result notes: a mark of the returned node, or, if no node is returned for
an error, a member that was annotated before the error.
-/
def NotesOne (surroundings : Surroundings) (record : ClassRecord) :
    Except RunError (Option ClassTree) → Prop
  | .ok (some tree) => HasMark record tree
  | .ok none => False
  | .error _ => AnnotatesSome surroundings record

/-- After an attempt the note stands if it stood before or the attempt has noted a restriction. -/
theorem attempt_spec (surroundings : Surroundings) (record : ClassRecord) (before : Journal) :
    (attempt surroundings record before).2.usesRestrictions = true
      ↔ before.usesRestrictions = true
        ∨ NotesOne surroundings record (attempt surroundings record before).1 := by
  have leaves : (emitClass? surroundings record).LeavesNote (AnnotatesSome surroundings record) :=
    leavesNote_emitClass? record
  obtain ⟨outcome, ends⟩ := leaves
  obtain ⟨after, ended, noteLeft⟩ := ends before
  rw [attempt, ended]
  cases outcome with
  | error error => exact noteLeft
  | ok tree? =>
      cases tree? with
      | none =>
          refine noteLeft.trans (or_congr_right ⟨fun annotates => ?_, False.elim⟩)
          rcases emitClass?_eq_none ended with inaccessible | hidden
          · cases annotates.accessible.symm.trans inaccessible
          · cases annotates.shown.symm.trans hidden
      | some tree =>
          obtain ⟨accessible, shown, -⟩ := emitClass?_eq_some ended
          have noted := Extraction.notes_emitClass? record _ _ _ ended
          rw [accessible, Extraction.isHidden, shown, Bool.not_false, Bool.true_and, Bool.true_and]
            at noted
          change after.usesRestrictions = true
            ↔ before.usesRestrictions = true ∨ HasMark record tree
          rw [hasMark_iff ⟨_, _, ended⟩, noted, Bool.or_eq_true]

/-- The note after a run is set by what some emission of the run notes. -/
theorem attemptAll_spec
    (surroundings : Surroundings)
    (records : List ClassRecord)
    (before : Journal) :
    (attemptAll surroundings records before).2.usesRestrictions = true
      ↔ before.usesRestrictions = true
        ∨ ∃ pair ∈ records.zip (attemptAll surroundings records before).1,
            NotesOne surroundings pair.1 pair.2 := by
  induction records generalizing before with
  | nil => simp [attemptAll]
  | cons record rest inductionHypothesis =>
      rw [attemptAll, List.zip_cons_cons, List.exists_mem_cons_iff, inductionHypothesis,
        attempt_spec, or_assoc]

/-- A node that a run has returned has a mark. -/
def ReturnsMark
    (surroundings : Surroundings)
    (records : List ClassRecord)
    (before : Journal) : Prop :=
  ∃ record tree,
    (record, .ok (some tree)) ∈ records.zip (attemptAll surroundings records before).1
      ∧ HasMark record tree

/-- A class has failed in a run behind a member that was annotated for its restriction. -/
def FailsBehindMark
    (surroundings : Surroundings)
    (records : List ClassRecord)
    (before : Journal) : Prop :=
  ∃ record error,
    (record, .error error) ∈ records.zip (attemptAll surroundings records before).1
      ∧ AnnotatesSome surroundings record

/-- What the note says after a run of emissions on one journal. -/
structure NotesAttempts
    (surroundings : Surroundings)
    (records : List ClassRecord)
    (before : Journal) : Prop where
  /-- Each class adds the marks of its node, or those that it has made before it failed. -/
  step :
    ∀ record journal,
      (attempt surroundings record journal).2.usesRestrictions = true
        ↔ journal.usesRestrictions = true
          ∨ NotesOne surroundings record (attempt surroundings record journal).1
  /-- The note is set by returned marks, and by those of classes that have failed. -/
  isSet_iff :
    (attemptAll surroundings records before).2.usesRestrictions = true
      ↔ before.usesRestrictions = true
        ∨ ReturnsMark surroundings records before
        ∨ FailsBehindMark surroundings records before
  /-- The note is right about the returned nodes unless only classes that have failed had marks. -/
  exact_iff :
    ((attemptAll surroundings records before).2.usesRestrictions = true
        ↔ before.usesRestrictions = true ∨ ReturnsMark surroundings records before)
      ↔ (FailsBehindMark surroundings records before →
          before.usesRestrictions = true ∨ ReturnsMark surroundings records before)

/--
The note outlives failures.  After a run it is set exactly if it was before, some returned node has
a mark, or some class has failed behind a member that was annotated.
-/
theorem notesAttempts
    (surroundings : Surroundings)
    (records : List ClassRecord)
    (before : Journal) :
    NotesAttempts surroundings records before := by
  have isSet_iff :
      (attemptAll surroundings records before).2.usesRestrictions = true
        ↔ before.usesRestrictions = true
          ∨ ReturnsMark surroundings records before
          ∨ FailsBehindMark surroundings records before := by
    refine (attemptAll_spec surroundings records before).trans (or_congr_right ?_)
    constructor
    · rintro ⟨⟨record, result⟩, member, notes⟩
      cases result with
      | error error => exact Or.inr ⟨record, error, member, notes⟩
      | ok tree? =>
          cases tree? with
          | none => exact notes.elim
          | some tree => exact Or.inl ⟨record, tree, member, notes⟩
    · rintro (⟨record, tree, member, hasMark⟩ | ⟨record, error, member, annotates⟩)
      · exact ⟨_, member, hasMark⟩
      · exact ⟨_, member, annotates⟩
  refine ⟨attempt_spec surroundings, isSet_iff, ?_⟩
  rw [isSet_iff, ← or_assoc]
  constructor
  · intro same fails
    exact same.mp (Or.inr fails)
  · intro right
    exact ⟨fun either => either.elim id right, Or.inl⟩

/-- A gauge with a restricted field, and behind it one whose annotation cannot be translated. -/
def gauge : ClassRecord :=
  { (default : ClassRecord) with
    typeName := "Lpkg/Gauge;"
    flags := AccessFlags.publicBit
    superclass := some Descriptor.object
    fields := [
      { (default : FieldRecord) with
        definingClass := "Lpkg/Gauge;"
        name := "count"
        fieldType := "I"
        flags := AccessFlags.publicBit
        hiddenApi := .ofList [.blacklist] },
      { (default : FieldRecord) with
        definingClass := "Lpkg/Gauge;"
        name := "limit"
        fieldType := "I"
        flags := AccessFlags.publicBit
        annotations := [⟨.runtime, "Lpkg/Note;", [("value", .null)]⟩] }] }

/-- The gauge returns no node and leaves the note set. -/
theorem not_note_iff_returnsMark_gauge :
    ¬ ((attemptAll ⟨∅, ∅, .standard⟩ [gauge] .empty).2.usesRestrictions = true
        ↔ ReturnsMark ⟨∅, ∅, .standard⟩ [gauge] .empty) := by
  have failed :
      attemptAll ⟨∅, ∅, .standard⟩ [gauge] .empty =
        ([.error (.unsupportedValue .null .annotationElement)],
          { Journal.empty with usesRestrictions := true }) :=
    rfl
  rw [ReturnsMark, failed]
  intro same
  obtain ⟨record, tree, member, -⟩ := same.mp rfl
  cases List.mem_singleton.mp member

end Stub

end DexSurface
