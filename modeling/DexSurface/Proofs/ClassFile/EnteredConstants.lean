import DexSurface.Proofs.ClassFile.PoolConsistency

namespace DexSurface

namespace ClassFile

/-!
# What entering constants gives

A computation that enters constants keeps the pool consistent and moves nothing, whether it succeeds
or fails.  If it succeeds, its value means something in the pool that it leaves and in every later
one.  Such computations are put together without looking at the pool again.
-/

namespace Interning

open ConstantPool (IsPartOf)

/-- The pool stays consistent and keeps its slots, and a value means something from then on. -/
def Outcome
    (before : ConstantPool)
    (means : ConstantPool → α → Prop) : EStateM.Result Error ConstantPool α → Prop
  | .ok value after =>
      after.IsConsistent
        ∧ before.IsPartOf after
        ∧ ∀ later : ConstantPool, later.IsConsistent → after.IsPartOf later → means later value
  | .error _ after => after.IsConsistent ∧ before.IsPartOf after

/-- Whatever consistent pool the computation starts from, its value means something. -/
def Enters (run : Interning α) (means : ConstantPool → α → Prop) : Prop :=
  ∀ before : ConstantPool, before.IsConsistent → Outcome before means (run before)

variable
  {before middle after : ConstantPool}
  {run : Interning α}
  {next : α → Interning β}
  {means : ConstantPool → α → Prop}
  {nextMeans : ConstantPool → β → Prop}

/-- A sequence has an outcome if what follows has one in the pool that the first part leaves. -/
theorem Outcome.bind
    (first : Outcome before means (run before))
    (second :
      ∀ value middle,
        middle.IsConsistent →
        before.IsPartOf middle →
        (∀ later : ConstantPool, later.IsConsistent → middle.IsPartOf later → means later value) →
        Outcome middle nextMeans (next value middle)) :
    Outcome before nextMeans ((run >>= next) before) := by
  change Outcome before nextMeans (EStateM.bind run next before)
  rw [EStateM.bind]
  cases ran : run before with
  | error error after =>
      rw [ran] at first
      exact first
  | ok value middle =>
      rw [ran] at first
      obtain ⟨consistent, isPart, meant⟩ := first
      have rest := second value middle consistent isPart meant
      change Outcome before nextMeans (next value middle)
      cases nextRan : next value middle with
      | error error after =>
          rw [nextRan] at rest
          exact ⟨rest.1, isPart.trans rest.2⟩
      | ok result after =>
          rw [nextRan] at rest
          exact ⟨rest.1, isPart.trans rest.2.1, rest.2.2⟩

/-- A value that means something in every consistent pool is entered without a change. -/
theorem enters_pure
    {value : α}
    (meant : ∀ pool : ConstantPool, pool.IsConsistent → means pool value) :
    Enters (pure value) means :=
  fun before consistent =>
    ⟨consistent, .refl before, fun later laterConsistent _ => meant later laterConsistent⟩

/-- A computation that fails at once enters nothing. -/
theorem enters_throw (error : Error) : Enters (throw error) means :=
  fun before consistent => ⟨consistent, .refl before⟩

/-- What the first value means is known when the second is interpreted. -/
theorem Enters.bind
    (enters : Enters run means)
    (nextEnters : ∀ value, Enters (next value) fun pool result =>
      means pool value → nextMeans pool result) :
    Enters (run >>= next) nextMeans := by
  intro before consistent
  refine (enters before consistent).bind ?_
  intro value middle middleConsistent _ meant
  have rest := nextEnters value middle middleConsistent
  cases nextRan : next value middle with
  | error error after =>
      rw [nextRan] at rest
      exact rest
  | ok result after =>
      rw [nextRan] at rest
      obtain ⟨afterConsistent, isPart, resultMeant⟩ := rest
      refine ⟨afterConsistent, isPart, fun later laterConsistent isLater => ?_⟩
      exact resultMeant later laterConsistent isLater
        (meant later laterConsistent (isPart.trans isLater))

/-- What a value means may be weakened. -/
theorem Enters.imp
    {weaker : ConstantPool → α → Prop}
    (enters : Enters run means)
    (implied :
      ∀ (pool : ConstantPool) value, pool.IsConsistent → means pool value → weaker pool value) :
    Enters run weaker := by
  intro before consistent
  have outcome := enters before consistent
  cases ran : run before with
  | error error after =>
      rw [ran] at outcome
      exact outcome
  | ok value after =>
      rw [ran] at outcome
      obtain ⟨afterConsistent, isPart, meant⟩ := outcome
      refine ⟨afterConsistent, isPart, fun later laterConsistent isLater => ?_⟩
      exact implied later value laterConsistent (meant later laterConsistent isLater)

/-! The requests. -/

/-- A constant with known parts gets an index at which it stands from then on. -/
theorem outcome_constant
    (consistent : before.IsConsistent)
    {constant : Constant}
    {request : Request}
    (spelled : before.spell? constant = some request) :
    Outcome before (fun pool index => pool.request? index = some request)
      (Interning.constant constant before) := by
  rw [Interning.constant]
  split
  · next index known =>
      refine ⟨consistent, .refl before, fun later _ isLater => ?_⟩
      apply ConstantPool.request?_of_isPart isLater
      exact Option.bind_eq_some_iff.mpr ⟨constant, consistent.indexed.mp known, spelled⟩
  · next absent =>
      dsimp only
      split
      · next room =>
          refine ⟨consistent.push room absent spelled, before.isPartOf_push constant, ?_⟩
          intro later _ isLater
          apply ConstantPool.request?_of_isPart isLater
          have stands :
              (before.push constant).get? before.nextIndex.toUInt16 = some constant :=
            (ConstantPool.get?_push_eq_some_iff room).mpr (Or.inr ⟨rfl, rfl⟩)
          exact Option.bind_eq_some_iff.mpr ⟨constant, stands,
            ConstantPool.spell?_of_isPart (before.isPartOf_push constant) spelled⟩
      · exact ⟨consistent, .refl before⟩

end Interning

/-- Enter the requested constant after its parts. -/
def Request.enter : Request → Interning Index
  | .utf8 text => Interning.utf8 text
  | .integer value => Interning.integer value
  | .float bits => Interning.float bits
  | .long value => Interning.long value
  | .double bits => Interning.double bits
  | .classRef name => Interning.classRef name
  | .string text => Interning.string text
  | .nameAndType name descriptor => Interning.nameAndType name descriptor
  | .methodRef owner name descriptor => Interning.methodRef owner name descriptor

namespace ConstantPool

variable {pool : ConstantPool} {index : Index}

/-! What stands at an index in terms of requests. -/

/-- An index stands for the request of a text exactly if the pool has that text there. -/
@[simp]
theorem request?_eq_utf8_iff {text : String} :
    pool.request? index = some (.utf8 text) ↔ pool.utf8? index = some text := by
  rw [request?, Option.bind_eq_bind, Option.bind_eq_some_iff, utf8?_eq_some_iff]
  simp [spell?_eq_some_iff, Spells]

/-- An index stands for the request of a class exactly if the pool has that class there. -/
@[simp]
theorem request?_eq_classRef_iff {name : InternalName} :
    pool.request? index = some (.classRef name) ↔ pool.className? index = some name := by
  rw [request?, Option.bind_eq_bind, Option.bind_eq_some_iff, className?_eq_some_iff]
  simp only [spell?_eq_some_iff, Spells]
  grind

/-- An index stands for the request of a name with a type exactly if the pool has both there. -/
@[simp]
theorem request?_eq_nameAndType_iff {name descriptor : String} :
    pool.request? index = some (.nameAndType name descriptor)
      ↔ pool.nameAndType? index = some (name, descriptor) := by
  rw [request?, Option.bind_eq_bind, Option.bind_eq_some_iff, nameAndType?_eq_some_iff]
  simp only [spell?_eq_some_iff, Spells]
  grind

end ConstantPool

namespace Request

open Interning (Outcome Enters outcome_constant)

/-- The index given for a text stands for it. -/
theorem enters_utf8 (text : String) :
    Enters (Interning.utf8 text) fun pool index => pool.request? index = some (.utf8 text) :=
  fun _ consistent => outcome_constant consistent rfl

/-- The index given for a class stands for it. -/
theorem enters_classRef (name : InternalName) :
    Enters (Interning.classRef name) fun pool index =>
      pool.request? index = some (.classRef name) := by
  intro before consistent
  refine (enters_utf8 name before consistent).bind ?_
  intro part middle middleConsistent _ meant
  have named := ConstantPool.request?_eq_utf8_iff.mp (meant middle middleConsistent (.refl middle))
  exact outcome_constant middleConsistent
    (ConstantPool.spell?_eq_some_iff.mpr ⟨part, rfl, named⟩)

/-- The index given for a string stands for it. -/
theorem enters_string (text : String) :
    Enters (Interning.string text) fun pool index =>
      pool.request? index = some (.string text) := by
  intro before consistent
  refine (enters_utf8 text before consistent).bind ?_
  intro part middle middleConsistent _ meant
  have found := ConstantPool.request?_eq_utf8_iff.mp (meant middle middleConsistent (.refl middle))
  exact outcome_constant middleConsistent
    (ConstantPool.spell?_eq_some_iff.mpr ⟨part, rfl, found⟩)

/-- The index given for a name with a type stands for them. -/
theorem enters_nameAndType (name descriptor : String) :
    Enters (Interning.nameAndType name descriptor) fun pool index =>
      pool.request? index = some (.nameAndType name descriptor) := by
  intro before consistent
  refine (enters_utf8 name before consistent).bind ?_
  intro namePart middle middleConsistent _ nameMeant
  refine (enters_utf8 descriptor middle middleConsistent).bind ?_
  intro descriptorPart last lastConsistent isPart descriptorMeant
  have named := ConstantPool.request?_eq_utf8_iff.mp (nameMeant last lastConsistent isPart)
  have described :=
    ConstantPool.request?_eq_utf8_iff.mp (descriptorMeant last lastConsistent (.refl last))
  exact outcome_constant lastConsistent
    (ConstantPool.spell?_eq_some_iff.mpr ⟨namePart, descriptorPart, rfl, named, described⟩)

/-- The index given for a method stands for it. -/
theorem enters_methodRef (owner : InternalName) (name descriptor : String) :
    Enters (Interning.methodRef owner name descriptor) fun pool index =>
      pool.request? index = some (.methodRef owner name descriptor) := by
  intro before consistent
  refine (enters_classRef owner before consistent).bind ?_
  intro ownerPart middle middleConsistent _ ownerMeant
  refine (enters_nameAndType name descriptor middle middleConsistent).bind ?_
  intro memberPart last lastConsistent isPart memberMeant
  have owned := ConstantPool.request?_eq_classRef_iff.mp (ownerMeant last lastConsistent isPart)
  have described :=
    ConstantPool.request?_eq_nameAndType_iff.mp (memberMeant last lastConsistent (.refl last))
  exact outcome_constant lastConsistent
    (ConstantPool.spell?_eq_some_iff.mpr ⟨ownerPart, memberPart, rfl, owned, described⟩)

/-- A requested constant gets an index at which it stands from then on, parts included. -/
theorem enters (request : Request) :
    Enters request.enter fun pool index => pool.request? index = some request := by
  cases request with
  | utf8 text => exact enters_utf8 text
  | integer | float | long | double =>
      exact fun _ consistent => outcome_constant consistent rfl
  | classRef name => exact enters_classRef name
  | string text => exact enters_string text
  | nameAndType name descriptor => exact enters_nameAndType name descriptor
  | methodRef owner name descriptor => exact enters_methodRef owner name descriptor

end Request

end ClassFile

end DexSurface
