import DexSurface.Proofs.GivenValues
import DexSurface.Run

namespace DexSurface

/-!
# Runs that do not look at their journal

Most steps of an extraction only add to the journal.  Such a run is steady: it ends in the same way
whatever the journal was before, and it reports only events of a known kind.  Steadiness is kept by
everything that runs are put together from.
-/

namespace Run

/-- The result of a run with its journal. -/
def conclude (outcome : Except RunError α) (after : Journal) :
    EStateM.Result RunError Journal α :=
  match outcome with
  | .ok value => .ok value after
  | .error error => .error error after

/-- The events of a journal are those of an earlier one and further ones that are allowed. -/
def Extends (allowed : Event → Prop) (before after : Journal) : Prop :=
  ∃ reported,
    after.events.toList = before.events.toList ++ reported
      ∧ ∀ event ∈ reported, allowed event

/-- Whatever the journal is, the run ends in one way and reports allowed events only. -/
def IsSteady (allowed : Event → Prop) (run : Run α) : Prop :=
  ∃ outcome, ∀ before, ∃ after,
    run before = conclude outcome after ∧ Extends allowed before after

/-- Whatever the journal is, the run ends with a value. -/
def Gives (run : Run α) (value : α) : Prop :=
  ∀ before, ∃ after, run before = .ok value after

variable {allowed : Event → Prop} {before middle after : Journal}

/-- A journal extends itself. -/
theorem Extends.refl (journal : Journal) : Extends allowed journal journal :=
  ⟨[], by simp, by simp⟩

/-- An extension of an extension is an extension. -/
theorem Extends.trans
    (first : Extends allowed before middle)
    (second : Extends allowed middle after) :
    Extends allowed before after := by
  obtain ⟨reported, firstEvents, firstAllowed⟩ := first
  obtain ⟨further, secondEvents, secondAllowed⟩ := second
  refine ⟨reported ++ further, ?_, ?_⟩
  · rw [secondEvents, firstEvents, List.append_assoc]
  · intro event member
    rcases List.mem_append.mp member with inFirst | inSecond
    · exact firstAllowed event inFirst
    · exact secondAllowed event inSecond

/-- What extends a journal by allowed events does so when more are allowed. -/
theorem Extends.mono
    {wider : Event → Prop}
    (extended : Extends allowed before after)
    (widens : ∀ event, allowed event → wider event) :
    Extends wider before after := by
  obtain ⟨reported, sameEvents, areAllowed⟩ := extended
  exact ⟨reported, sameEvents, fun event member => widens event (areAllowed event member)⟩

/-- A sequence of runs succeeds through an intermediate value and journal. -/
theorem bind_eq_ok_iff
    {run : Run α}
    {next : α → Run β}
    {result : β} :
    (run >>= next) before = .ok result after ↔
      ∃ value middle, run before = .ok value middle ∧ next value middle = .ok result after :=
  DexSurface.bind_eq_ok_iff

/-- A run that returns at once gives its value and keeps the journal. -/
theorem pure_eq_ok_iff {value result : α} :
    (pure value : Run α) before = .ok result after ↔ value = result ∧ before = after := by
  change EStateM.Result.ok value before = .ok result after ↔ _
  rw [EStateM.Result.ok.injEq]

/-- A lifted result succeeds when the result does, with the journal as it was. -/
theorem lift_eq_ok_iff {result : Except RunError α} {value : α} :
    lift result before = .ok value after ↔ result = .ok value ∧ before = after := by
  cases result with
  | ok given =>
      change EStateM.Result.ok given before = .ok value after ↔ _
      rw [EStateM.Result.ok.injEq, Except.ok.injEq]
  | error error =>
      constructor
      · intro succeeded
        cases succeeded
      · rintro ⟨isOk, -⟩
        cases isOk

/-- Reporting an event succeeds and extends the journal by the event. -/
theorem extends_report (event : Event) (isAllowed : allowed event) (before : Journal) :
    ∃ after, report event before = .ok () after ∧ Extends allowed before after :=
  ⟨{ before with events := before.events.push event }, rfl, [event], by simp, by simpa⟩

/-- Reporting an allowed event extends the journal. -/
theorem extends_of_report
    {event : Event}
    (reported : report event before = .ok () after)
    (isAllowed : allowed event) :
    Extends allowed before after := by
  obtain ⟨reached, isReached, extended⟩ := extends_report event isAllowed before
  rw [isReached] at reported
  cases reported
  exact extended

/-- A run that returns at once is steady. -/
theorem isSteady_pure (value : α) : IsSteady allowed (pure value) :=
  ⟨.ok value, fun before => ⟨before, rfl, .refl before⟩⟩

/-- A lifted result is steady. -/
theorem isSteady_lift (result : Except RunError α) : IsSteady allowed (lift result) := by
  refine ⟨result, fun before => ⟨before, ?_, .refl before⟩⟩
  cases result <;> rfl

/-- Reporting an allowed event is steady. -/
theorem isSteady_report {event : Event} (isAllowed : allowed event) :
    IsSteady allowed (report event) :=
  ⟨.ok (), extends_report event isAllowed⟩

/-- Noting a restriction is steady. -/
theorem isSteady_noteRestriction : IsSteady allowed noteRestriction :=
  ⟨.ok (), fun before =>
    ⟨{ before with usesRestrictions := true }, rfl, [], (List.append_nil _).symm, by simp⟩⟩

/-- Steady runs in sequence are steady. -/
theorem IsSteady.bind
    {run : Run α}
    {next : α → Run β}
    (steady : IsSteady allowed run)
    (nextSteady : ∀ value, IsSteady allowed (next value)) :
    IsSteady allowed (run >>= next) := by
  obtain ⟨outcome, ends⟩ := steady
  cases outcome with
  | error error =>
      refine ⟨.error error, fun before => ?_⟩
      obtain ⟨after, failed, extended⟩ := ends before
      exact ⟨after, bind_of_error failed, extended⟩
  | ok value =>
      obtain ⟨nextOutcome, nextEnds⟩ := nextSteady value
      refine ⟨nextOutcome, fun before => ?_⟩
      obtain ⟨middle, succeeded, firstExtended⟩ := ends before
      obtain ⟨after, ended, secondExtended⟩ := nextEnds middle
      exact ⟨after, (bind_of_ok succeeded).trans ended, firstExtended.trans secondExtended⟩

/-- A steady run stays steady when its value is changed. -/
theorem IsSteady.map
    {run : Run α}
    (steady : IsSteady allowed run)
    (change : α → β) :
    IsSteady allowed (change <$> run) := by
  rw [map_eq_pure_bind]
  exact steady.bind fun value => isSteady_pure (change value)

/-! What runs have that only report, and sequences of such runs with them. -/

/-- Runs that only report what is allowed have a property, and sequences keep it. -/
structure IsCompositional
    (allowed : Event → Prop)
    (holds : {α : Type} → Run α → Prop) : Prop where
  of_pure : ∀ {α : Type} (value : α), holds (pure value : Run α)
  of_lift : ∀ {α : Type} (result : Except RunError α), holds (lift result)
  of_report : ∀ {event : Event}, allowed event → holds (report event)
  bind :
    ∀ {α β : Type} {run : Run α} {next : α → Run β},
      holds run → (∀ value, holds (next value)) → holds (run >>= next)

section Compositional

variable
  {holds : {α : Type} → Run α → Prop}
  {σ α β : Type}

/-- Steps over a list have a property that sequences keep, if each step has it. -/
theorem IsCompositional.foldlM
    (compositional : IsCompositional allowed holds)
    {step : σ → α → Run σ}
    (stepHolds : ∀ state element, holds (step state element))
    (elements : List α)
    (state : σ) :
    holds (elements.foldlM step state) := by
  induction elements generalizing state with
  | nil => exact compositional.of_pure state
  | cons first rest inductionHypothesis =>
      rw [List.foldlM_cons]
      exact compositional.bind (stepHolds state first) inductionHypothesis

/-- Converting a list has a property that sequences keep, if converting each item has it. -/
theorem IsCompositional.mapM
    (compositional : IsCompositional allowed holds)
    {item : α → Run β}
    (itemHolds : ∀ element, holds (item element))
    (elements : List α) :
    holds (elements.mapM item) := by
  induction elements with
  | nil => exact compositional.of_pure []
  | cons first rest inductionHypothesis =>
      rw [List.mapM_cons]
      refine compositional.bind (itemHolds first) fun value => ?_
      refine compositional.bind inductionHypothesis fun values => ?_
      exact compositional.of_pure (value :: values)

/--
Converting some items of a list has a property that sequences keep, if converting each item has it.
-/
theorem IsCompositional.filterMapM
    (compositional : IsCompositional allowed holds)
    {item : α → Run (Option β)}
    (itemHolds : ∀ element, holds (item element))
    (elements : List α) :
    holds (elements.filterMapM item) := by
  induction elements with
  | nil => exact compositional.of_pure []
  | cons first rest inductionHypothesis =>
      rw [List.filterMapM_cons]
      refine compositional.bind (itemHolds first) fun value? => ?_
      cases value? with
      | none => exact inductionHypothesis
      | some value =>
          refine compositional.bind inductionHypothesis fun values => ?_
          exact compositional.of_pure (value :: values)

end Compositional

/-- Steadiness is such a property. -/
theorem isCompositional_isSteady : IsCompositional allowed (IsSteady allowed) where
  of_pure := isSteady_pure
  of_lift := isSteady_lift
  of_report := isSteady_report
  bind := IsSteady.bind

/-- If a steady run succeeds once, it always gives that value and reports what is allowed. -/
theorem IsSteady.gives
    {run : Run α}
    {value : α}
    (steady : IsSteady allowed run)
    (succeeded : run before = .ok value after) :
    Gives run value ∧ Extends allowed before after := by
  obtain ⟨outcome, ends⟩ := steady
  obtain ⟨reached, ended, extended⟩ := ends before
  rw [succeeded] at ended
  cases outcome with
  | error error => cases ended
  | ok given =>
      rw [conclude, EStateM.Result.ok.injEq] at ended
      obtain ⟨sameValue, sameJournal⟩ := ended
      subst sameValue
      subst sameJournal
      refine ⟨fun other => ?_, extended⟩
      obtain ⟨otherAfter, otherEnded, -⟩ := ends other
      exact ⟨otherAfter, otherEnded⟩

end Run

end DexSurface
