import Mathlib.Data.List.Forall2

namespace DexSurface

/-!
# The values that computations give

Partial, failing and stateful computations give values in different ways, but all of them give a
value through a sequence only through a value of its first part.  From this alone follows what the
results of a list of computations, or of a fold, can be.
-/

/-- How computations of a kind give values: a pure one its own, a sequence one step by step. -/
structure IsGiving
    (monad : Type → Type)
    [Monad monad]
    (gives : {α : Type} → monad α → α → Prop) : Prop where
  of_pure : ∀ {α : Type} {value result : α}, gives (pure value : monad α) result → value = result
  of_bind :
    ∀ {α β : Type} {first : monad α} {next : α → monad β} {result : β},
      gives (first >>= next) result → ∃ value, gives first value ∧ gives (next value) result

section Lists

variable
  {monad : Type → Type}
  [Monad monad]
  {gives : {α : Type} → monad α → α → Prop}
  {α β : Type}

/-- Every result of a list of computations is given by one of them. -/
theorem IsGiving.exists_mem_of_mapM
    [LawfulMonad monad]
    (giving : IsGiving monad gives)
    {convert : α → monad β}
    {items : List α}
    {results : List β}
    (given : gives (items.mapM convert) results) :
    ∀ result ∈ results, ∃ item ∈ items, gives (convert item) result := by
  induction items generalizing results with
  | nil =>
      obtain rfl := giving.of_pure given
      simp
  | cons first rest inductionHypothesis =>
      rw [List.mapM_cons] at given
      obtain ⟨value, firstGiven, restGiven⟩ := giving.of_bind given
      obtain ⟨values, valuesGiven, same⟩ := giving.of_bind restGiven
      obtain rfl := giving.of_pure same
      intro result member
      rcases List.mem_cons.mp member with isFirst | inRest
      · subst isFirst
        exact ⟨first, List.mem_cons_self, firstGiven⟩
      · obtain ⟨item, inItems, itemGiven⟩ := inductionHypothesis valuesGiven result inRest
        exact ⟨item, List.mem_cons_of_mem first inItems, itemGiven⟩

/-- The results of a list of computations are given by them one by one. -/
theorem IsGiving.forall₂_of_mapM
    [LawfulMonad monad]
    (giving : IsGiving monad gives)
    {convert : α → monad β}
    {items : List α}
    {results : List β}
    (given : gives (items.mapM convert) results) :
    List.Forall₂ (fun item result => gives (convert item) result) items results := by
  induction items generalizing results with
  | nil =>
      obtain rfl := giving.of_pure given
      exact .nil
  | cons first rest inductionHypothesis =>
      rw [List.mapM_cons] at given
      obtain ⟨value, firstGiven, restGiven⟩ := giving.of_bind given
      obtain ⟨values, valuesGiven, same⟩ := giving.of_bind restGiven
      obtain rfl := giving.of_pure same
      exact .cons firstGiven (inductionHypothesis valuesGiven)

/-- Every item of related lists is related to some item. -/
theorem exists_of_mem_of_forall₂
    {related : α → β → Prop}
    {elements : List α}
    {others : List β}
    (relates : List.Forall₂ related elements others)
    {element : α}
    (member : element ∈ elements) :
    ∃ other, related element other := by
  induction relates with
  | nil => cases member
  | cons holds rest inductionHypothesis =>
      rcases List.mem_cons.mp member with rfl | inRest
      · exact ⟨_, holds⟩
      · exact inductionHypothesis inRest

/-- Lists that are related to one list are related through its items. -/
theorem forall₂_comp
    {γ : Type}
    {first : α → β → Prop}
    {second : β → γ → Prop}
    {elements : List α}
    {middles : List β}
    {others : List γ}
    (left : List.Forall₂ first elements middles)
    (right : List.Forall₂ second middles others) :
    List.Forall₂ (fun element other => ∃ middle, first element middle ∧ second middle other)
      elements others := by
  induction left generalizing others with
  | nil =>
      cases right
      exact .nil
  | cons holds _ inductionHypothesis =>
      cases right with
      | cons nextHolds rest => exact .cons ⟨_, holds, nextHolds⟩ (inductionHypothesis rest)

/--
If some items decide whether they give a result, it is among the results exactly if one of the items
does.
-/
theorem IsGiving.mem_filterMapM_iff
    [LawfulMonad monad]
    (giving : IsGiving monad gives)
    {convert : α → monad (Option β)}
    {items : List α}
    {results : List β}
    {result : β}
    {decides : α → Prop}
    (given : gives (items.filterMapM convert) results)
    (decided : ∀ item ∈ items, ∀ option,
      gives (convert item) option → (option = some result ↔ decides item)) :
    result ∈ results ↔ ∃ item ∈ items, decides item := by
  induction items generalizing results with
  | nil =>
      obtain rfl := giving.of_pure given
      simp
  | cons first rest inductionHypothesis =>
      rw [List.filterMapM_cons] at given
      obtain ⟨option, firstGiven, restGiven⟩ := giving.of_bind given
      have firstDecided := decided first List.mem_cons_self option firstGiven
      have restDecided := fun item inRest => decided item (List.mem_cons_of_mem first inRest)
      rw [List.exists_mem_cons_iff, ← firstDecided]
      cases option with
      | none => simpa using inductionHypothesis restGiven restDecided
      | some value =>
          obtain ⟨values, valuesGiven, same⟩ := giving.of_bind restGiven
          obtain rfl := giving.of_pure same
          rw [List.mem_cons, inductionHypothesis valuesGiven restDecided, Option.some.injEq,
            eq_comm]

/-- A fold gives a result only if each of its steps does. -/
theorem IsGiving.exists_of_mem_foldlM
    (giving : IsGiving monad gives)
    {step : β → α → monad β}
    {items : List α}
    {start result : β}
    (given : gives (items.foldlM step start) result)
    {item : α}
    (member : item ∈ items) :
    ∃ before after, gives (step before item) after := by
  induction items generalizing start with
  | nil => cases member
  | cons first rest inductionHypothesis =>
      rw [List.foldlM_cons] at given
      obtain ⟨middle, firstGiven, restGiven⟩ := giving.of_bind given
      rcases List.mem_cons.mp member with rfl | inRest
      · exact ⟨start, middle, firstGiven⟩
      · exact inductionHypothesis restGiven inRest

/-- What every step of a fold keeps holds of its result. -/
theorem IsGiving.foldlM_induction
    (giving : IsGiving monad gives)
    {motive : β → Prop}
    {step : β → α → monad β}
    {items : List α}
    {start result : β}
    (given : gives (items.foldlM step start) result)
    (starts : motive start)
    (steps : ∀ before after, ∀ item ∈ items,
      motive before → gives (step before item) after → motive after) :
    motive result := by
  induction items generalizing start with
  | nil =>
      obtain rfl := giving.of_pure given
      exact starts
  | cons first rest inductionHypothesis =>
      rw [List.foldlM_cons] at given
      obtain ⟨middle, firstGiven, restGiven⟩ := giving.of_bind given
      have stepsRest :
          ∀ before after, ∀ item ∈ rest,
            motive before → gives (step before item) after → motive after :=
        fun before after item inRest =>
          steps before after item (List.mem_cons_of_mem first inRest)
      exact inductionHypothesis restGiven
        (steps start middle first List.mem_cons_self starts firstGiven) stepsRest

end Lists

/-! The kinds of computations. -/

/-- An optional value gives itself. -/
theorem isGiving_option : IsGiving Option fun run value => run = some value where
  of_pure := Option.some.inj
  of_bind := Option.bind_eq_some_iff.mp

/-- A list of optional values is there as a whole if each of them is. -/
theorem mapM_eq_some_iff_forall₂
    {α β : Type}
    {convert : α → Option β}
    {items : List α}
    {results : List β} :
    items.mapM convert = some results
      ↔ List.Forall₂ (fun item result => convert item = some result) items results := by
  constructor
  · exact isGiving_option.forall₂_of_mapM
  · intro all
    induction all with
    | nil => rfl
    | cons firstGiven _ inductionHypothesis =>
        rw [List.mapM_cons, firstGiven, inductionHypothesis]
        rfl

/-- A result gives its value. -/
theorem isGiving_except {ε : Type} : IsGiving (Except ε) fun run value => run = .ok value where
  of_pure := Except.ok.inj
  of_bind := by
    intro α β first next result given
    cases first with
    | error error => cases given
    | ok value => exact ⟨value, rfl, given⟩

/-- A value that a computation can give in some state. -/
def CanGive {ε σ α : Type} (run : EStateM ε σ α) (value : α) : Prop :=
  ∃ before after, run before = .ok value after

/-- A computation on a state gives what it can end with. -/
theorem isGiving_state {ε σ : Type} : IsGiving (EStateM ε σ) CanGive where
  of_pure := by
    rintro α value result ⟨before, after, given⟩
    cases given
    rfl
  of_bind := by
    rintro α β first next result ⟨before, after, given⟩
    change EStateM.bind first next before = _ at given
    rw [EStateM.bind] at given
    cases firstGiven : first before with
    | error error middle =>
        rw [firstGiven] at given
        cases given
    | ok value middle =>
        rw [firstGiven] at given
        exact ⟨value, ⟨before, middle, firstGiven⟩, ⟨middle, after, given⟩⟩

/-- A computation ends with an error in every state. -/
def Fails {ε σ α : Type} (run : EStateM ε σ α) : Prop :=
  ∀ before, ∃ error after, run before = .error error after

/-- What can give no value fails. -/
theorem fails_of_forall_not_canGive
    {ε σ α : Type}
    {run : EStateM ε σ α}
    (givesNone : ∀ value, ¬ CanGive run value) : Fails run := by
  intro before
  cases ran : run before with
  | ok value after => exact absurd ⟨before, after, ran⟩ (givesNone value)
  | error error after => exact ⟨error, after, rfl⟩

/-! A sequence with a state goes on from its first part, or ends with the error of it. -/

section Sequences

variable
  {ε σ α β : Type}
  {run : EStateM ε σ α}
  {next : α → EStateM ε σ β}
  {before middle : σ}

/-- A sequence goes on with the value and the state of its first part. -/
theorem bind_of_ok {value : α} (ran : run before = .ok value middle) :
    (run >>= next) before = next value middle := by
  change EStateM.bind run next before = _
  rw [EStateM.bind, ran]

/-- A sequence ends with the error of its first part. -/
theorem bind_of_error {error : ε} (failed : run before = .error error middle) :
    (run >>= next) before = .error error middle := by
  change EStateM.bind run next before = _
  rw [EStateM.bind, failed]

/-- A sequence gives a value through a value and a state of its first part. -/
theorem bind_eq_ok_iff {result : β} {after : σ} :
    (run >>= next) before = .ok result after
      ↔ ∃ value middle, run before = .ok value middle ∧ next value middle = .ok result after := by
  cases ran : run before with
  | error error middle =>
      rw [bind_of_error ran]
      simp
  | ok value middle =>
      rw [bind_of_ok ran]
      simp

/-- A sequence that ends with an error does so in its first part or behind it. -/
theorem bind_eq_error_iff {error : ε} {after : σ} :
    (run >>= next) before = .error error after
      ↔ run before = .error error after
        ∨ ∃ value middle,
            run before = .ok value middle ∧ next value middle = .error error after := by
  cases ran : run before with
  | error firstError middle =>
      rw [bind_of_error ran]
      simp
  | ok value middle =>
      rw [bind_of_ok ran]
      simp

/-- A list of computations that ends with an error does so at the first one that fails. -/
theorem mapM_eq_error_iff
    {convert : α → EStateM ε σ β}
    {items : List α}
    {error : ε}
    {after : σ} :
    items.mapM convert before = .error error after
      ↔ ∃ earlier item later values middle,
          items = earlier ++ item :: later
            ∧ earlier.mapM convert before = .ok values middle
            ∧ convert item middle = .error error after := by
  induction items generalizing before with
  | nil =>
      constructor
      · intro failed
        cases failed
      · rintro ⟨earlier, item, later, _, _, split, -⟩
        cases earlier <;> cases split
  | cons first rest inductionHypothesis =>
      rw [List.mapM_cons, bind_eq_error_iff]
      constructor
      · rintro (failed | ⟨value, middle, ran, restFailed⟩)
        · exact ⟨[], first, rest, [], before, rfl, rfl, failed⟩
        · rcases bind_eq_error_iff.mp restFailed with itemFailed | ⟨_, _, _, failed⟩
          · obtain ⟨earlier, item, later, values, last, rfl, earlierRan, failed⟩ :=
              inductionHypothesis.mp itemFailed
            refine ⟨first :: earlier, item, later, value :: values, last, rfl, ?_, failed⟩
            rw [List.mapM_cons]
            exact bind_eq_ok_iff.mpr ⟨_, _, ran, bind_eq_ok_iff.mpr ⟨_, _, earlierRan, rfl⟩⟩
          · cases failed
      · rintro ⟨earlier, item, later, values, last, split, earlierRan, failed⟩
        cases earlier with
        | nil =>
            obtain ⟨rfl, rfl⟩ := List.cons.inj split
            cases earlierRan
            exact Or.inl failed
        | cons other others =>
            obtain ⟨rfl, rfl⟩ := List.cons.inj split
            rw [List.mapM_cons] at earlierRan
            obtain ⟨value, middle, ran, rest⟩ := bind_eq_ok_iff.mp earlierRan
            obtain ⟨_, _, othersRan, same⟩ := bind_eq_ok_iff.mp rest
            cases same
            exact Or.inr ⟨value, middle, ran, bind_eq_error_iff.mpr (Or.inl
              (inductionHypothesis.mpr ⟨others, item, later, _, _, rfl, othersRan, failed⟩))⟩

end Sequences

end DexSurface
