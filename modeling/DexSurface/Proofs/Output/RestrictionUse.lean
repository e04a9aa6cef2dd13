import DexSurface.Proofs.Output.MemberAnnotations
import DexSurface.Proofs.Output.RestrictionEntry

namespace DexSurface

/-!
# Use of the restriction annotation

A run that succeeds has noted a restriction if some step of it has.  Emission notes one for each
emitted member that shows its restriction and at no other place, so the annotation type is emitted
exactly if it is used.
-/

namespace Run

/-- A run that succeeds notes a restriction in one case, and otherwise leaves the note as it is. -/
def Notes (run : Run α) (noted : Bool) : Prop :=
  ∀ before value after,
    run before = .ok value after → after.usesRestrictions = (before.usesRestrictions || noted)

/-- A run that returns at once leaves the note as it is. -/
theorem notes_pure (value : α) : Notes (pure value) false := by
  intro before result after succeeded
  rw [← (pure_eq_ok_iff.mp succeeded).2, Bool.or_false]

/-- A lifted result leaves the note as it is. -/
theorem notes_lift (result : Except RunError α) : Notes (lift result) false := by
  intro before value after succeeded
  rw [← (lift_eq_ok_iff.mp succeeded).2, Bool.or_false]

/-- Reporting an event leaves the note as it is. -/
theorem notes_report (event : Event) : Notes (report event) false := by
  rintro before _ _ ⟨⟩
  rw [Bool.or_false]

/-- Noting a restriction notes one. -/
theorem notes_noteRestriction : Notes noteRestriction true := by
  rintro before _ _ ⟨⟩
  rw [Bool.or_true]

/-- A sequence notes what its parts note; the second one starts from a value of the first. -/
theorem Notes.bind
    {run : Run α}
    {next : α → Run β}
    {noted nextNoted : Bool}
    (notes : Notes run noted)
    (nextNotes : ∀ value, CanGive run value → Notes (next value) nextNoted) :
    Notes (run >>= next) (noted || nextNoted) := by
  intro before result after succeeded
  obtain ⟨value, middle, ran, nextRan⟩ := bind_eq_ok_iff.mp succeeded
  rw [nextNotes value ⟨before, middle, ran⟩ _ _ _ nextRan, notes _ _ _ ran, Bool.or_assoc]

/-! Mostly only one part of a sequence can note something. -/

/-- When only the first of two runs can note a restriction, both together do as it does. -/
theorem Notes.bind_of_first
    {run : Run α}
    {next : α → Run β}
    {noted : Bool}
    (notes : Notes run noted)
    (nextNotes : ∀ value, Notes (next value) false) :
    Notes (run >>= next) noted := by
  simpa using notes.bind fun value _ => nextNotes value

/-- When only the second of two runs can note a restriction, both together do as it does. -/
theorem Notes.bind_of_second
    {run : Run α}
    {next : α → Run β}
    {noted : Bool}
    (notes : Notes run false)
    (nextNotes : ∀ value, Notes (next value) noted) :
    Notes (run >>= next) noted := by
  simpa using notes.bind fun value _ => nextNotes value

/-- Steps over a list note a restriction exactly if one of the steps does. -/
theorem notes_foldlM
    {step : σ → α → Run σ}
    {noted : α → Bool}
    (stepNotes : ∀ state item, Notes (step state item) (noted item))
    (items : List α)
    (state : σ) :
    Notes (items.foldlM step state) (items.any noted) := by
  induction items generalizing state with
  | nil => exact notes_pure state
  | cons first rest inductionHypothesis =>
      rw [List.foldlM_cons, List.any_cons]
      exact (stepNotes state first).bind fun value _ => inductionHypothesis value

/-- Converting a list notes a restriction exactly if converting one of its items does. -/
theorem notes_mapM
    {convert : α → Run β}
    {noted : α → Bool}
    (itemNotes : ∀ item, Notes (convert item) (noted item))
    (items : List α) :
    Notes (items.mapM convert) (items.any noted) := by
  induction items with
  | nil => exact notes_pure []
  | cons first rest inductionHypothesis =>
      rw [List.mapM_cons, List.any_cons]
      refine (itemNotes first).bind fun value _ => ?_
      exact inductionHypothesis.bind_of_first fun values => notes_pure (value :: values)

/-- Whatever is reported, nothing is noted by it. -/
theorem isCompositional_notes (allowed : Event → Prop) :
    IsCompositional allowed fun run => Notes run false where
  of_pure := notes_pure
  of_lift := notes_lift
  of_report := fun {event} _ => notes_report event
  bind := Notes.bind_of_first

/-- Reporting events leaves the note as it is. -/
theorem notes_reportAll (events : List Event) : Notes (reportAll events) false := by
  rw [reportAll, List.forM_eq_forM]
  induction events with
  | nil => exact notes_pure ()
  | cons first rest inductionHypothesis =>
      rw [List.forM_cons]
      exact (notes_report first).bind_of_second fun _ => inductionHypothesis

end Run

namespace Stub

open HiddenApi (Categories)

variable {surroundings : Surroundings} {record : ClassRecord}

/-- The stub of a class has a member that shows its restriction. -/
def Surroundings.showsSome (surroundings : Surroundings) (record : ClassRecord) : Bool :=
  (record.accessibleFields.any fun field => surroundings.showsRestriction field.hiddenApi)
    || (record.methods.filter isEmitted).any fun method =>
        surroundings.showsRestriction method.hiddenApi

/--
A class shows a restriction exactly if restrictions are shown and one of its emitted members has
one.
-/
theorem Surroundings.showsSome_iff :
    surroundings.showsSome record = true
      ↔ surroundings.configuration.hiddenApiAnnotations = true
        ∧ ((∃ field ∈ record.accessibleFields, field.hiddenApi.Restrict)
          ∨ ∃ method ∈ record.methods, isEmitted method = true ∧ method.hiddenApi.Restrict) := by
  simp only [showsSome, showsRestriction, Bool.or_eq_true, List.any_eq_true, Bool.and_eq_true,
    List.mem_filter, Categories.isRestricted_iff]
  grind

/-! What a class notes while its stub is emitted. -/

/-- Categories are noted exactly if their restriction is shown. -/
theorem notes_noteRestriction (categories : Categories) :
    (surroundings.noteRestriction categories).Notes (surroundings.showsRestriction categories) := by
  rw [Surroundings.noteRestriction]
  split
  · next shows =>
      rw [shows]
      exact Run.notes_noteRestriction
  · next hidden =>
      rw [Bool.eq_false_iff.mpr hidden]
      exact Run.notes_pure ()

/-- Emitting a field notes a restriction exactly if it shows one. -/
theorem notes_emitField (field : FieldRecord) :
    (emitField surroundings field).Notes (surroundings.showsRestriction field.hiddenApi) := by
  rw [emitField]
  refine (Run.notes_lift _).bind_of_second fun tree => ?_
  exact (notes_noteRestriction field.hiddenApi).bind_of_first fun _ => Run.notes_pure tree

/-- Emitting a method notes a restriction exactly if it shows one. -/
theorem notes_emitMethod (defaults : AnnotationDefaults) (method : MethodRecord) :
    (emitMethod surroundings record defaults method).Notes
      (surroundings.showsRestriction method.hiddenApi) := by
  rw [emitMethod]
  refine (Run.notes_lift _).bind_of_second fun head => ?_
  exact (notes_noteRestriction method.hiddenApi).bind_of_first fun _ => Run.notes_lift _

/-- Emitting a class notes a restriction exactly if one of its members shows one. -/
theorem notes_emitClass :
    (emitClass surroundings record).Notes (surroundings.showsSome record) := by
  rw [emitClass]
  refine (Run.notes_lift _).bind_of_second fun head => ?_
  have compositional := Run.isCompositional_notes Event.IsQuiet
  have annotated :
      Run.Notes
        (record.annotations.foldlM (addAnnotationToClass surroundings record)
          { head with sourceFile := record.sourceFile })
        false :=
    compositional.foldlM (holds_addAnnotationToClass compositional) record.annotations _
  refine annotated.bind_of_second fun tree => ?_
  refine (Run.notes_mapM notes_emitField _).bind fun fields _ => ?_
  refine (Run.notes_lift _).bind_of_second fun defaults => ?_
  refine (Run.notes_mapM (notes_emitMethod defaults) _).bind_of_first fun methods => ?_
  exact Run.notes_pure _

end Stub

namespace Extraction

open ClassFile (ClassTree)

variable
  {configuration : Configuration}
  {classes : ClassMap}
  {surroundings : Stub.Surroundings}
  {before after : Journal}
  {tiers result : OutputTiers}

/-- Only a class with a stub notes its restrictions. -/
theorem notes_emitClass? (record : ClassRecord) :
    (Stub.emitClass? surroundings record).Notes
      ((record.flags.isAccessible && !isHidden record) && surroundings.showsSome record) := by
  rw [Stub.emitClass?]
  split
  · next inaccessible =>
      rw [AccessFlags.isAccessible, inaccessible]
      exact Run.notes_pure none
  · next accessible =>
      rw [AccessFlags.isAccessible, Bool.eq_false_iff.mpr accessible, Bool.not_false, Bool.true_and]
      rw [← Bool.false_or (_ && _)]
      refine (Run.notes_lift _).bind fun hidden hiddenGiven => ?_
      rw [isHidden, Stub.canGive_ofRecord hiddenGiven]
      cases hidden with
      | true => exact Run.notes_pure none
      | false =>
          rw [if_neg Bool.false_ne_true, map_eq_pure_bind]
          exact Stub.notes_emitClass.bind_of_first fun tree => Run.notes_pure (some tree)

/-- Entering a class in a tier leaves the note as it is. -/
theorem notes_enter? (tier : Tier) (tiers : OutputTiers) (tree? : Option ClassTree) :
    (enter? tier tiers tree?).Notes false := by
  cases tree? with
  | none => exact Run.notes_pure tiers
  | some tree =>
      rw [enter?, enter]
      refine (Run.notes_lift _).bind_of_second fun bytes => ?_
      exact (Run.notes_reportAll _).bind_of_second fun _ => Run.notes_pure _

/-- Entering a class file notes nothing beyond what the emission of its tree has noted. -/
theorem notes_enterStub (tiers : OutputTiers) (record : ClassRecord) :
    (enterStub surroundings tiers record).Notes
      ((record.flags.isAccessible && !isHidden record) && surroundings.showsSome record) := by
  rw [enterStub]
  exact (notes_emitClass? record).bind_of_first (notes_enter? .stub tiers)

/-- Entering a skeleton leaves the note as it is. -/
theorem notes_enterSkeleton (tiers : OutputTiers) (record : ClassRecord) :
    (enterSkeleton tiers record).Notes false := by
  rw [enterSkeleton]
  exact (Run.notes_lift _).bind_of_second (notes_enter? .skeleton tiers)

/-- The annotation type is emitted exactly if a restriction has been noted. -/
theorem isSome_restriction_of_enterRestriction
    (unset : tiers.restriction = none)
    (entered : enterRestriction tiers before = .ok result after) :
    result.restriction.isSome = before.usesRestrictions := by
  rw [enterRestriction] at entered
  obtain ⟨journal, middle, given, rest⟩ := Run.bind_eq_ok_iff.mp entered
  cases given
  split at rest
  · next uses =>
      obtain ⟨bytes, -, rfl, -⟩ := enter_eq_ok rest
      rw [uses]
      rfl
  · next unused =>
      obtain ⟨rfl, -⟩ := Run.pure_eq_ok_iff.mp rest
      rw [unset, Bool.eq_false_iff.mpr unused]
      rfl

/-- The annotation type is emitted exactly if some stub shows a restriction. -/
theorem isSome_restriction_of_transform
    (succeeded : transform configuration classes before = .ok tiers after) :
    tiers.restriction.isSome =
      (stubClasses classes).any
        (Stub.Surroundings.showsSome
          { classes, referenced := classes.referenced, configuration }) := by
  obtain ⟨start, stubTiers, middle, skeletonStart, bothTiers, last, forgotten, -, stubsEntered,
    startReported, skeletonsEntered, restrictionEntered⟩ := exists_passes_of_transform succeeded
  have unset : bothTiers.restriction = none := restriction_passes stubsEntered skeletonsEntered
  have skeletonsNote : last.usesRestrictions = (skeletonStart.usesRestrictions || false) :=
    (Run.isCompositional_notes Event.IsQuiet).foldlM notes_enterSkeleton _ _ _ _ _
      skeletonsEntered
  have reportNotes : skeletonStart.usesRestrictions = (middle.usesRestrictions || false) :=
    Run.notes_report _ _ _ _ startReported
  have stubsNote := Run.notes_foldlM notes_enterStub _ _ _ _ _ stubsEntered
  rw [isSome_restriction_of_enterRestriction unset restrictionEntered, skeletonsNote, reportNotes,
    stubsNote, forgotten]
  simp only [Bool.or_false, Bool.false_or, stubClasses, List.any_filter]

/-! Where restrictions are shown. -/

/-- A content is the file of the stub of a class, with its nodes. -/
def IsStubOf
    (configuration : Configuration)
    (classes : ClassMap)
    (record : ClassRecord)
    (content : ByteArray) : Prop :=
  ∃ tree bytes,
    (Stub.emitClass? { classes, referenced := classes.referenced, configuration } record).Gives
        (some tree)
      ∧ tree.write = .ok bytes
      ∧ content = bytes.toByteArray
      ∧ Stub.HasNodesOf configuration record tree

/-- The restrictions that tiers show, and the annotation type that shows them. -/
structure ShowsRestrictions
    (configuration : Configuration)
    (classes : ClassMap)
    (tiers : OutputTiers) : Prop where
  /-- The annotation type is part of the tiers exactly if some stub has a restricted member. -/
  isUsed :
    tiers.restriction.isSome = true
      ↔ configuration.hiddenApiAnnotations = true
        ∧ ∃ record ∈ stubClasses classes,
            (∃ field ∈ record.accessibleFields, field.hiddenApi.Restrict)
              ∨ ∃ method ∈ record.methods,
                  Stub.isEmitted method = true ∧ method.hiddenApi.Restrict
  /-- Each class with a stub has nodes that show the restrictions of their members. -/
  stubs :
    ∀ record ∈ stubClasses classes, ∃ content, IsStubOf configuration classes record content
  /-- No stub has other nodes. -/
  stubFiles :
    ∀ (name : String) (content : ByteArray),
      tiers.stubs[name]? = some content →
        ∃ record ∈ stubClasses classes, IsStubOf configuration classes record content
  /-- No skeleton has nodes at all. -/
  skeletonFiles :
    ∀ (name : String) (content : ByteArray),
      tiers.skeletons[name]? = some content →
        ∃ tree : ClassTree, ∃ bytes,
          tree.write = .ok bytes
            ∧ content = bytes.toByteArray
            ∧ tree.fields = []
            ∧ tree.methods = []

/-- A stub or a skeleton that stands in tiers is one of the files that have entered. -/
theorem exists_mem_of_stubs_writeAll
    {files : List TierWrite}
    {name : String}
    {content : ByteArray}
    (stands : (OutputTiers.empty.writeAll files).stubs[name]? = some content) :
    ∃ file ∈ files, file.tier = .stub ∧ file.content = content := by
  rw [OutputTiers.getElem?_stubs_writeAll] at stands
  cases isLast : OutputTiers.last? (fun file => file.isClass && file.name = name) files with
  | none =>
      rw [isLast] at stands
      cases stands
  | some file =>
      rw [isLast, Option.elim_some] at stands
      split at stands
      · next isStub =>
          exact ⟨file, (OutputTiers.mem_of_last? isLast).1, isStub, Option.some.inj stands⟩
      · cases stands

/-- What stands among the skeletons is the content of a skeleton that entered. -/
theorem exists_mem_of_skeletons_writeAll
    {files : List TierWrite}
    {name : String}
    {content : ByteArray}
    (stands : (OutputTiers.empty.writeAll files).skeletons[name]? = some content) :
    ∃ file ∈ files, file.tier = .skeleton ∧ file.content = content := by
  rw [OutputTiers.getElem?_skeletons_writeAll] at stands
  obtain ⟨file, isLast, same⟩ := Option.map_eq_some_iff.mp stands
  obtain ⟨member, isKind⟩ := OutputTiers.mem_of_last? isLast
  rw [Bool.and_eq_true, decide_eq_true_eq] at isKind
  exact ⟨file, member, isKind.1, same⟩

/-- A skeleton has neither fields nor methods. -/
theorem members_of_skeleton?
    {record : ClassRecord}
    {tree : ClassTree}
    (given : Stub.skeleton? record = .ok (some tree)) :
    tree.fields = [] ∧ tree.methods = [] := by
  obtain ⟨hidden, -, rest⟩ := isGiving_except.of_bind given
  split at rest
  · cases rest
  · obtain ⟨head, headGiven, same⟩ := isGiving_except.of_bind rest
    obtain rfl := Option.some.inj (Except.ok.inj same)
    obtain ⟨signature, -, made⟩ := isGiving_except.of_bind headGiven
    obtain rfl := Except.ok.inj made
    exact ⟨rfl, rfl⟩

/-- A file that a pass adds for a class is the file of its stub. -/
theorem isStubOf_of_adds
    {record : ClassRecord}
    {file : TierWrite}
    (inMap : record ∈ classes.records)
    (adds :
      Adds .stub
        (Stub.emitClass? { classes, referenced := classes.referenced, configuration }) record
        (some file)) :
    record ∈ stubClasses classes ∧ IsStubOf configuration classes record file.content := by
  obtain ⟨-, -, tree, bytes, gives, written, same⟩ := adds
  exact ⟨List.mem_filter.mpr ⟨inMap, keeps_of_gives_stub record tree gives⟩,
    tree, bytes, gives, written, same, Stub.hasNodesOf_of_emitClass? ⟨_, gives .empty⟩⟩

/--
The annotation type is emitted exactly if restrictions are on and an emitted member of some stub is
restricted, whatever the run has noted before.  Each such member, and no other, has an annotation
behind its own invisible ones that lists its categories.
-/
theorem showsRestrictions_of_transform
    (succeeded : transform configuration classes before = .ok tiers after) :
    ShowsRestrictions configuration classes tiers := by
  obtain ⟨stubFiles, skeletonFiles, addStubs, addSkeletons, sameStubs, sameSkeletons, -⟩ :=
    transform_eq_ok succeeded
  constructor
  case isUsed =>
    rw [isSome_restriction_of_transform succeeded, List.any_eq_true]
    simp only [Stub.Surroundings.showsSome_iff]
    constructor
    · rintro ⟨record, member, isOn, restricted⟩
      exact ⟨isOn, record, member, restricted⟩
    · rintro ⟨isOn, record, member, restricted⟩
      exact ⟨record, member, isOn, restricted⟩
  case stubs =>
    intro record member
    obtain ⟨inMap, keeps⟩ := List.mem_filter.mp member
    obtain ⟨file?, -, adds⟩ := exists_mem_of_adds addStubs inMap
    cases file? with
    | none =>
        rw [keeps_of_gives_no_stub record adds] at keeps
        cases keeps
    | some file => exact ⟨file.content, (isStubOf_of_adds inMap adds).2⟩
  case stubFiles =>
    intro name content stands
    rw [sameStubs] at stands
    obtain ⟨file, member, isStub, rfl⟩ := exists_mem_of_stubs_writeAll stands
    rcases List.mem_append.mp member with inStubs | inSkeletons
    · obtain ⟨record, inMap, adds⟩ := exists_adds_of_mem addStubs inStubs
      exact ⟨record, isStubOf_of_adds inMap adds⟩
    · cases isStub.symm.trans (tier_of_mem addSkeletons inSkeletons)
  case skeletonFiles =>
    intro name content stands
    rw [sameSkeletons] at stands
    obtain ⟨file, member, isSkeleton, rfl⟩ := exists_mem_of_skeletons_writeAll stands
    rcases List.mem_append.mp member with inStubs | inSkeletons
    · cases isSkeleton.symm.trans (tier_of_mem addStubs inStubs)
    · obtain ⟨record, -, -, -, tree, bytes, gives, written, same⟩ :=
        exists_adds_of_mem addSkeletons inSkeletons
      exact ⟨tree, bytes, written, same, members_of_skeleton? (skeleton?_of_gives gives)⟩

/-- The platform with the restricted member has the annotation type and the member's node. -/
theorem showsRestrictions_restrictedPlatform :
    ∃ tiers after,
      transform unsplicedStubs restrictedPlatform .empty = .ok tiers after
        ∧ ShowsRestrictions unsplicedStubs restrictedPlatform tiers
        ∧ tiers.restriction.isSome = true := by
  obtain ⟨stub, restriction, after, succeeded⟩ := transform_restrictedPlatform
  exact ⟨_, after, succeeded, showsRestrictions_of_transform succeeded, rfl⟩

end Extraction

end DexSurface
