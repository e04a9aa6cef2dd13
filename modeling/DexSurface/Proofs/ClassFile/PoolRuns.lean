import Mathlib.Data.List.Forall2
import DexSurface.Proofs.ClassFile.EnteredConstants
import DexSurface.Proofs.GivenValues

namespace DexSurface

namespace ClassFile

/-!
# Runs of requests

A pool is asked for constants one after the other, and a request that fails leaves the pool, with
the parts entered so far, to the next one.  The step invariant is that the pool stays consistent,
keeps its slots and answers the request; a run then answers all its requests in its last pool.
-/

/-- Ask a pool for a constant; the pool is kept when the request fails. -/
def Request.ask (request : Request) (pool : ConstantPool) :
    Except Error Index × ConstantPool :=
  match request.enter pool with
  | .ok index after => (.ok index, after)
  | .error error after => (.error error, after)

/-- Ask a pool for constants in order. -/
def Request.askAll : List Request → ConstantPool → List (Except Error Index) × ConstantPool
  | [], pool => ([], pool)
  | request :: rest, pool =>
      let first := request.ask pool
      let others := askAll rest first.2
      (first.1 :: others.1, others.2)

namespace Interning

/-- A computation that fails only because no index is left. -/
def RunsOutOnly (run : Interning α) : Prop :=
  ∀ (before after : ConstantPool) (error : Error),
    run before = .error error after →
      error = .outOfRange ∧ ConstantPool.maxIndex < after.nextIndex

variable {run : Interning α} {next : α → Interning β}

/-- Entering a single constant fails only because no index is left. -/
theorem runsOutOnly_constant (constant : Constant) : RunsOutOnly (Interning.constant constant) := by
  intro before after error failed
  rw [Interning.constant] at failed
  split at failed
  · cases failed
  · dsimp only at failed
    split at failed
    · cases failed
    · next noRoom =>
        cases failed
        exact ⟨rfl, Nat.lt_of_not_le noRoom⟩

/-- Two computations in sequence fail only because no index is left, if each of them does. -/
theorem RunsOutOnly.bind
    (first : RunsOutOnly run)
    (second : ∀ value, RunsOutOnly (next value)) :
    RunsOutOnly (run >>= next) := by
  intro before after error failed
  change EStateM.bind run next before = _ at failed
  rw [EStateM.bind] at failed
  cases ran : run before with
  | error firstError middle =>
      rw [ran] at failed
      cases failed
      exact first _ _ _ ran
  | ok value middle =>
      rw [ran] at failed
      exact second value _ _ _ failed

/-- A constant of a consistent pool is not entered again. -/
theorem constant_of_get?
    {pool : ConstantPool}
    (consistent : pool.IsConsistent)
    {constant : Constant}
    {index : Index}
    (stands : pool.get? index = some constant) :
    Interning.constant constant pool = .ok index pool := by
  rw [Interning.constant, consistent.indexed.mpr stands]

end Interning

namespace Request

open Interning (RunsOutOnly runsOutOnly_constant constant_of_get?)

/-- Entering a requested constant with its parts fails only because no index is left. -/
theorem runsOutOnly_enter (request : Request) : RunsOutOnly request.enter := by
  have utf8 (text : String) : RunsOutOnly (Interning.utf8 text) := runsOutOnly_constant _
  have classRef (name : InternalName) : RunsOutOnly (Interning.classRef name) :=
    (utf8 name).bind fun nameIndex => runsOutOnly_constant (.classRef nameIndex)
  have nameAndType (name descriptor : String) :
      RunsOutOnly (Interning.nameAndType name descriptor) := by
    refine (utf8 name).bind fun nameIndex => ?_
    refine (utf8 descriptor).bind fun typeIndex => ?_
    exact runsOutOnly_constant _
  cases request with
  | utf8 | integer | float | long | double => exact runsOutOnly_constant _
  | classRef name => exact classRef name
  | string text => exact (utf8 text).bind fun _ => runsOutOnly_constant _
  | nameAndType name descriptor => exact nameAndType name descriptor
  | methodRef owner name descriptor =>
      refine (classRef owner).bind fun ownerIndex => ?_
      refine (nameAndType name descriptor).bind fun memberIndex => ?_
      exact runsOutOnly_constant _

/-! A request for what a consistent pool has gives its index and changes nothing. -/

section Repeated

variable {pool : ConstantPool} {index : Index}

/-- Asking again for a text that stands in the pool gives its index and keeps the pool. -/
theorem utf8_of_utf8?
    (consistent : pool.IsConsistent)
    {text : String}
    (stands : pool.utf8? index = some text) :
    Interning.utf8 text pool = .ok index pool :=
  constant_of_get? consistent (ConstantPool.utf8?_eq_some_iff.mp stands)

/-- Asking again for a class that stands in the pool gives its index and keeps the pool. -/
theorem classRef_of_className?
    (consistent : pool.IsConsistent)
    {name : InternalName}
    (stands : pool.className? index = some name) :
    Interning.classRef name pool = .ok index pool := by
  obtain ⟨part, found, named⟩ := ConstantPool.className?_eq_some_iff.mp stands
  rw [Interning.classRef, bind_of_ok (utf8_of_utf8? consistent named)]
  exact constant_of_get? consistent found

/-- Asking again for a name with a type gives its index and keeps the pool. -/
theorem nameAndType_of_nameAndType?
    (consistent : pool.IsConsistent)
    {name descriptor : String}
    (stands : pool.nameAndType? index = some (name, descriptor)) :
    Interning.nameAndType name descriptor pool = .ok index pool := by
  obtain ⟨namePart, descriptorPart, found, named, described⟩ :=
    ConstantPool.nameAndType?_eq_some_iff.mp stands
  rw [Interning.nameAndType, bind_of_ok (utf8_of_utf8? consistent named),
    bind_of_ok (utf8_of_utf8? consistent described)]
  exact constant_of_get? consistent found

/-- Asking again for any constant that stands in the pool gives its index and keeps the pool. -/
theorem enter_of_request?
    (consistent : pool.IsConsistent)
    {request : Request}
    (stands : pool.request? index = some request) :
    request.enter pool = .ok index pool := by
  obtain ⟨constant, found, spelled⟩ := Option.bind_eq_some_iff.mp stands
  rw [ConstantPool.spell?_eq_some_iff] at spelled
  cases request with
  | utf8 | integer | float | long | double =>
      subst spelled
      exact constant_of_get? consistent found
  | classRef name =>
      exact classRef_of_className? consistent (ConstantPool.request?_eq_classRef_iff.mp stands)
  | string text =>
      obtain ⟨part, rfl, textFound⟩ := spelled
      rw [enter, Interning.string, bind_of_ok (utf8_of_utf8? consistent textFound)]
      exact constant_of_get? consistent found
  | nameAndType name descriptor =>
      exact nameAndType_of_nameAndType? consistent
        (ConstantPool.request?_eq_nameAndType_iff.mp stands)
  | methodRef owner name descriptor =>
      obtain ⟨ownerPart, memberPart, rfl, owned, described⟩ := spelled
      rw [enter, Interning.methodRef, bind_of_ok (classRef_of_className? consistent owned),
        bind_of_ok (nameAndType_of_nameAndType? consistent described)]
      exact constant_of_get? consistent found

end Repeated

/-- An index stands for the requested constant, and a failure means that no index is left. -/
def IsAnswered (pool : ConstantPool) (request : Request) : Except Error Index → Prop
  | .ok index => pool.request? index = some request
  | .error error => error = .outOfRange ∧ ConstantPool.maxIndex < pool.nextIndex

/-- An answer stays right in every later pool. -/
theorem IsAnswered.of_isPart
    {earlier later : ConstantPool}
    {request : Request}
    {answer : Except Error Index}
    (isPart : earlier.IsPartOf later)
    (answered : IsAnswered earlier request answer) :
    IsAnswered later request answer := by
  cases answer with
  | ok index => exact ConstantPool.request?_of_isPart isPart answered
  | error error => exact ⟨answered.1, Nat.lt_of_lt_of_le answered.2 isPart.nextIndex_le⟩

/-- One request keeps the pool consistent, moves nothing and is answered. -/
theorem ask_spec
    {pool : ConstantPool}
    (consistent : pool.IsConsistent)
    (request : Request) :
    (request.ask pool).2.IsConsistent
      ∧ pool.IsPartOf (request.ask pool).2
      ∧ IsAnswered (request.ask pool).2 request (request.ask pool).1 := by
  have outcome := request.enters pool consistent
  rw [ask]
  cases ran : request.enter pool with
  | ok index after =>
      rw [ran] at outcome
      obtain ⟨afterConsistent, isPart, meant⟩ := outcome
      exact ⟨afterConsistent, isPart, meant after afterConsistent (.refl after)⟩
  | error error after =>
      rw [ran] at outcome
      exact ⟨outcome.1, outcome.2, runsOutOnly_enter request _ _ _ ran⟩

/-- A run keeps the pool consistent, moves nothing and answers all its requests. -/
theorem askAll_spec
    (requests : List Request)
    {pool : ConstantPool}
    (consistent : pool.IsConsistent) :
    (askAll requests pool).2.IsConsistent
      ∧ pool.IsPartOf (askAll requests pool).2
      ∧ List.Forall₂ (IsAnswered (askAll requests pool).2) requests
          (askAll requests pool).1 := by
  induction requests generalizing pool with
  | nil => exact ⟨consistent, .refl pool, .nil⟩
  | cons request rest inductionHypothesis =>
      obtain ⟨nextConsistent, firstIsPart, answered⟩ := ask_spec consistent request
      obtain ⟨lastConsistent, restIsPart, restAnswered⟩ := inductionHypothesis nextConsistent
      exact ⟨lastConsistent, firstIsPart.trans restIsPart,
        .cons (answered.of_isPart restIsPart) restAnswered⟩

/-- What stands in the pool before a run is answered with its index throughout the run. -/
theorem getElem?_askAll_of_request?
    (requests : List Request)
    {pool : ConstantPool}
    (consistent : pool.IsConsistent)
    {request : Request}
    {index : Index}
    (stands : pool.request? index = some request)
    {position : Nat}
    (asked : requests[position]? = some request) :
    (askAll requests pool).1[position]? = some (.ok index) := by
  induction requests generalizing pool position with
  | nil => cases asked
  | cons first rest inductionHypothesis =>
      cases position with
      | zero =>
          obtain rfl : first = request := Option.some.inj asked
          rw [askAll, List.getElem?_cons_zero, ask, enter_of_request? consistent stands]
      | succ position =>
          obtain ⟨nextConsistent, isPart, -⟩ := ask_spec consistent first
          exact inductionHypothesis nextConsistent
            (ConstantPool.request?_of_isPart isPart stands) asked

/--
A request that has succeeded succeeds ever after, with the same index: the constant stands in the
pool of the remaining run and is found there again.
-/
theorem getElem?_askAll_of_le
    (requests : List Request)
    {pool : ConstantPool}
    (consistent : pool.IsConsistent)
    {request : Request}
    {index : Index}
    {earlier later : Nat}
    (inOrder : earlier ≤ later)
    (askedEarlier : requests[earlier]? = some request)
    (askedLater : requests[later]? = some request)
    (answered : (askAll requests pool).1[earlier]? = some (.ok index)) :
    (askAll requests pool).1[later]? = some (.ok index) := by
  induction requests generalizing pool earlier later with
  | nil => cases askedEarlier
  | cons first rest inductionHypothesis =>
      obtain ⟨nextConsistent, -, firstAnswered⟩ := ask_spec consistent first
      cases earlier with
      | zero =>
          obtain rfl : first = request := Option.some.inj askedEarlier
          have given : (first.ask pool).1 = .ok index := Option.some.inj answered
          rw [given] at firstAnswered
          cases later with
          | zero => exact answered
          | succ later =>
              exact getElem?_askAll_of_request? rest nextConsistent firstAnswered askedLater
      | succ earlier =>
          cases later with
          | zero => cases inOrder
          | succ later =>
              exact inductionHypothesis nextConsistent (Nat.le_of_succ_le_succ inOrder)
                askedEarlier askedLater answered

/-- How the requests of a run, their answers and the pool that the run leaves fit together. -/
structure IsFaithful
    (requests : List Request)
    (answers : List (Except Error Index))
    (pool : ConstantPool) : Prop where
  answered : List.Forall₂ (IsAnswered pool) requests answers
  /-- Equal requests have equal indices, and different requests have different ones. -/
  sameIndex_iff :
    ∀ {first second : Nat} {firstRequest secondRequest : Request} {firstIndex secondIndex : Index},
      requests[first]? = some firstRequest →
      requests[second]? = some secondRequest →
      answers[first]? = some (.ok firstIndex) →
      answers[second]? = some (.ok secondIndex) →
      (firstIndex = secondIndex ↔ firstRequest = secondRequest)
  /-- A request that has succeeded succeeds ever after. -/
  lasting :
    ∀ {earlier later : Nat} {request : Request} {index : Index},
      earlier ≤ later →
      requests[earlier]? = some request →
      requests[later]? = some request →
      answers[earlier]? = some (.ok index) →
      answers[later]? = some (.ok index)
  /-- No two entries are equal. -/
  distinct :
    ∀ {first second : Index} {constant : Constant},
      pool.get? first = some constant → pool.get? second = some constant → first = second
  /-- Every entry refers to smaller indices. -/
  partsBefore :
    ∀ {index : Index} {constant : Constant},
      pool.get? index = some constant → ∀ part ∈ constant.parts, part < index
  /-- The next index after a constant is higher by its width, which is two for a long or double. -/
  spaced :
    ∀ {place : Nat} {constant : Constant},
      pool.slots[place]? = some (some constant) →
        (∀ behind, place < behind → behind < place + constant.width →
            pool.slots[behind]? = some none)
          ∧ (pool.nextIndex = place + constant.width
            ∨ ∃ next, pool.slots[place + constant.width]? = some (some next))

end Request

end ClassFile

end DexSurface
