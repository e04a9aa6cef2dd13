import Mathlib.Data.List.Forall2
import DexSurface.Proofs.GivenValues
import DexSurface.Stub.Parameters

namespace DexSurface

/-!
# The names that parameters recover

The nameless parameters of a method take their names from the local starts at one code address.
They all do, at the earliest address that has a local start for each of them, or none does, if there
is no such address.  A local start stands in one register, so it matches one parameter at most.
-/

/-- Erasing duplicates keeps the order of the elements that are left. -/
theorem pairwise_eraseDups
    [BEq α] [LawfulBEq α]
    {related : α → α → Prop}
    {elements : List α}
    (ordered : elements.Pairwise related) :
    elements.eraseDups.Pairwise related := by
  match elements with
  | [] => exact .nil
  | first :: rest =>
      rw [List.pairwise_cons] at ordered
      rw [List.eraseDups_cons, List.pairwise_cons]
      constructor
      · intro other member
        exact ordered.1 other (List.mem_of_mem_filter (List.mem_eraseDups.mp member))
      · exact pairwise_eraseDups (ordered.2.filter _)
termination_by elements.length
decreasing_by exact Nat.lt_succ_of_le (List.length_filter_le _ _)

/-- Converting a list succeeds if converting each item does. -/
theorem exists_mapM_eq_some
    {convert : α → Option β}
    {items : List α}
    (all : ∀ item ∈ items, ∃ result, convert item = some result) :
    ∃ results, items.mapM convert = some results := by
  induction items with
  | nil => exact ⟨[], rfl⟩
  | cons first rest inductionHypothesis =>
      obtain ⟨value, firstGiven⟩ := all first List.mem_cons_self
      obtain ⟨values, restGiven⟩ :=
        inductionHypothesis fun item member => all item (List.mem_cons_of_mem _ member)
      refine ⟨value :: values, ?_⟩
      rw [List.mapM_cons, firstGiven, restGiven]
      rfl

/-- Lists correspond element by element if they are as long and agree at every position. -/
theorem forall₂_iff_getElem? {related : α → β → Prop} {left : List α} {right : List β} :
    List.Forall₂ related left right
      ↔ left.length = right.length
        ∧ ∀ (position : Nat) first, left[position]? = some first →
            ∃ second, right[position]? = some second ∧ related first second := by
  induction left generalizing right with
  | nil =>
      rw [List.forall₂_nil_left_iff]
      simp [eq_comm]
  | cons first rest inductionHypothesis =>
      cases right with
      | nil => simp
      | cons other others =>
          rw [List.forall₂_cons, inductionHypothesis, List.length_cons, List.length_cons,
            Nat.add_right_cancel_iff]
          constructor
          · rintro ⟨isFirst, sameLength, agree⟩
            refine ⟨sameLength, fun position element found => ?_⟩
            cases position with
            | zero =>
                obtain rfl := Option.some.inj found
                exact ⟨other, rfl, isFirst⟩
            | succ position => exact agree position element found
          · rintro ⟨sameLength, agree⟩
            refine ⟨?_, sameLength, fun position => agree (position + 1)⟩
            obtain ⟨_, ⟨⟩, isFirst⟩ := agree 0 first rfl
            exact isFirst

namespace Stub

variable
  {body : MethodBody}
  {parameters named : List Parameter}
  {address : UInt32}
  {position : Nat}
  {start : LocalStart}

/-- The parameter at a position has no declared name. -/
def IsNameless (parameters : List Parameter) (position : Nat) : Prop :=
  ∃ parameter, parameters[position]? = some parameter ∧ parameter.name = none

/--
A local start matches a nameless parameter: it has a name, it has exactly the type of the parameter,
and its register is as far from the end of the registers as the parameter and those behind it are
wide.
-/
structure Matches
    (body : MethodBody)
    (parameters : List Parameter)
    (position : Nat)
    (start : LocalStart) : Prop where
  isNamed : start.name ≠ none
  parameterType :
    ∃ parameter,
      parameters[position]? = some parameter
        ∧ parameter.name = none
        ∧ start.localType = some parameter.parameterType
  register :
    start.register.toNat + totalWidth (parameters.drop position) = body.registerCount.toNat

/-- Every nameless parameter has a matching local start at an address. -/
def NamesAllAt (body : MethodBody) (parameters : List Parameter) (address : UInt32) : Prop :=
  ∀ position, IsNameless parameters position →
    ∃ start ∈ body.locals, start.address = address ∧ Matches body parameters position start

/-- The smallest address at which every nameless parameter has a matching local start. -/
structure IsEarliest
    (body : MethodBody)
    (parameters : List Parameter)
    (address : UInt32) : Prop where
  namesAll : NamesAllAt body parameters address
  least : ∀ other, NamesAllAt body parameters other → address ≤ other

/-- The first local start at an address, in stream order, that matches a nameless parameter. -/
structure IsFirstMatch
    (body : MethodBody)
    (parameters : List Parameter)
    (address : UInt32)
    (position : Nat)
    (start : LocalStart) : Prop where
  atAddress : start.address = address
  isMatch : Matches body parameters position start
  first :
    ∃ earlier later,
      body.locals = earlier ++ start :: later
        ∧ ∀ other ∈ earlier, other.address = address → ¬ Matches body parameters position other

/--
The parameters as the local starts at an address name them: each nameless one gets the name and the
signature of its first match, and the others stay as they are.
-/
structure IsNamedAt
    (body : MethodBody)
    (parameters : List Parameter)
    (address : UInt32)
    (named : List Parameter) : Prop where
  length_eq : named.length = parameters.length
  declared :
    ∀ (position : Nat) parameter, parameters[position]? = some parameter → parameter.name ≠ none →
      named[position]? = some parameter
  recovered :
    ∀ (position : Nat) parameter, parameters[position]? = some parameter → parameter.name = none →
      ∃ start, IsFirstMatch body parameters address position start
        ∧ named[position]? =
            some { parameter with name := start.name, signature := start.signature }

/-! Distances and addresses. -/

/-- The distance of a parameter is the width of it and all behind it. -/
theorem getElem?_withDistance (parameters : List Parameter) (position : Nat) :
    (withDistance parameters)[position]? =
      parameters[position]?.map fun parameter =>
        (parameter, totalWidth (parameters.drop position)) := by
  induction parameters generalizing position with
  | nil => rfl
  | cons first rest inductionHypothesis =>
      cases position with
      | zero => rfl
      | succ position => exact inductionHypothesis position

/-- Each parameter gets one distance. -/
theorem length_withDistance (parameters : List Parameter) :
    (withDistance parameters).length = parameters.length := by
  induction parameters with
  | nil => rfl
  | cons first rest inductionHypothesis => exact congrArg (· + 1) inductionHypothesis

/-- The start addresses are those of the local starts. -/
theorem mem_startAddresses {locals : List LocalStart} :
    address ∈ startAddresses locals ↔ ∃ start ∈ locals, start.address = address := by
  rw [startAddresses, List.mem_eraseDups, List.mem_mergeSort, List.mem_map]

/-- The start addresses are in ascending order. -/
theorem pairwise_startAddresses (locals : List LocalStart) :
    (startAddresses locals).Pairwise (· ≤ ·) := by
  have sorted :
      ((locals.map LocalStart.address).mergeSort fun first second => first ≤ second).Pairwise
        fun first second => decide (first ≤ second) = true := by
    apply List.pairwise_mergeSort
    · intro first second third
      simpa using UInt32.le_trans
    · intro first second
      simpa using UInt32.le_total first second
  exact pairwise_eraseDups (sorted.imp of_decide_eq_true)

/-! The local starts at one address. -/

/-- The parameters as the local starts at an address name them, if they name all. -/
def namesAt? (body : MethodBody) (parameters : List Parameter) (address : UInt32) :
    Option (List Parameter) :=
  (withDistance parameters).mapM
    (nameFrom? body.registerCount (body.locals.filter fun start => start.address = address))

/-- Names are recovered from the first start address at which all nameless parameters match. -/
theorem recoverNames_eq_getD (body : MethodBody) (parameters : List Parameter) :
    recoverNames body parameters =
      ((startAddresses body.locals).findSome? (namesAt? body parameters)).getD parameters :=
  rfl

/-- The check of a local start against a nameless parameter and its distance is a match. -/
theorem startsParameter_iff_matches
    {parameter : Parameter}
    (found : parameters[position]? = some parameter)
    (nameless : parameter.name = none) :
    startsParameter body.registerCount parameter (totalWidth (parameters.drop position)) start
        = true
      ↔ Matches body parameters position start := by
  have isMatch :
      startsParameter body.registerCount parameter (totalWidth (parameters.drop position)) start
          = true
        ↔ start.name ≠ none
          ∧ start.register.toNat + totalWidth (parameters.drop position)
              = body.registerCount.toNat
          ∧ start.localType = some parameter.parameterType := by
    simp [startsParameter, Option.isSome_iff_ne_none, and_assoc]
  rw [isMatch]
  constructor
  · rintro ⟨isNamed, register, sameType⟩
    exact ⟨isNamed, ⟨parameter, found, nameless, sameType⟩, register⟩
  · rintro ⟨isNamed, ⟨other, otherFound, -, sameType⟩, register⟩
    obtain rfl := Option.some.inj (found.symm.trans otherFound)
    exact ⟨isNamed, register, sameType⟩

/-- The local start that names a nameless parameter is its first match. -/
theorem find?_startsParameter_iff
    {parameter : Parameter}
    (found : parameters[position]? = some parameter)
    (nameless : parameter.name = none) :
    (body.locals.filter fun start => start.address = address).find?
        (startsParameter body.registerCount parameter (totalWidth (parameters.drop position)))
        = some start
      ↔ IsFirstMatch body parameters address position start := by
  have isMatch (other : LocalStart) :
      startsParameter body.registerCount parameter (totalWidth (parameters.drop position)) other
          = true
        ↔ Matches body parameters position other :=
    startsParameter_iff_matches found nameless
  rw [List.find?_filter, List.find?_eq_some_iff_append]
  constructor
  · rintro ⟨isFound, earlier, later, split, noEarlier⟩
    simp only [decide_eq_true_eq, isMatch] at isFound
    refine ⟨isFound.1, isFound.2, earlier, later, split, fun other member atAddress isOther => ?_⟩
    simpa [atAddress, (isMatch other).mpr isOther] using noEarlier other member
  · rintro ⟨atAddress, isFound, earlier, later, split, noEarlier⟩
    refine ⟨by simpa [atAddress] using (isMatch start).mpr isFound, earlier, later, split, ?_⟩
    intro other member
    by_cases sameAddress : other.address = address
    · have noMatch := mt (isMatch other).mp (noEarlier other member sameAddress)
      simpa [sameAddress] using noMatch
    · simp [sameAddress]

/-- The local starts at an address name all parameters as it is specified. -/
theorem namesAt?_eq_some_iff :
    namesAt? body parameters address = some named
      ↔ IsNamedAt body parameters address named := by
  rw [namesAt?, mapM_eq_some_iff_forall₂, forall₂_iff_getElem?, length_withDistance]
  constructor
  · rintro ⟨sameLength, agree⟩
    have entry {position : Nat} {parameter : Parameter}
        (found : parameters[position]? = some parameter) :=
      agree position (parameter, totalWidth (parameters.drop position))
        (by rw [getElem?_withDistance, found, Option.map_some])
    refine ⟨sameLength.symm, fun position parameter found isDeclared => ?_,
      fun position parameter found nameless => ?_⟩
    · obtain ⟨result, resultFound, given⟩ := entry found
      rw [nameFrom?, if_pos (Option.isSome_iff_ne_none.mpr isDeclared)] at given
      rw [resultFound, given]
    · obtain ⟨result, resultFound, given⟩ := entry found
      rw [nameFrom?, if_neg (by simp [nameless]), Option.map_eq_some_iff] at given
      obtain ⟨start, isStart, rfl⟩ := given
      exact ⟨start, (find?_startsParameter_iff found nameless).mp isStart, resultFound⟩
  · rintro ⟨sameLength, declared, recovered⟩
    refine ⟨sameLength.symm, fun position entry isEntry => ?_⟩
    rw [getElem?_withDistance, Option.map_eq_some_iff] at isEntry
    obtain ⟨parameter, found, rfl⟩ := isEntry
    by_cases nameless : parameter.name = none
    · obtain ⟨start, isFirst, resultFound⟩ := recovered position parameter found nameless
      refine ⟨_, resultFound, ?_⟩
      rw [nameFrom?, if_neg (by simp [nameless]), Option.map_eq_some_iff]
      exact ⟨start, (find?_startsParameter_iff found nameless).mpr isFirst, rfl⟩
    · refine ⟨parameter, declared position parameter found nameless, ?_⟩
      rw [nameFrom?, if_pos (Option.isSome_iff_ne_none.mpr nameless)]

/-- The local starts at an address name all parameters if each nameless one has a match there. -/
theorem exists_namesAt?_iff :
    (∃ named, namesAt? body parameters address = some named)
      ↔ NamesAllAt body parameters address := by
  constructor
  · rintro ⟨named, given⟩ position ⟨parameter, found, nameless⟩
    obtain ⟨start, isFirst, -⟩ :=
      (namesAt?_eq_some_iff.mp given).recovered position parameter found nameless
    obtain ⟨earlier, later, split, -⟩ := isFirst.first
    exact ⟨start, by simp [split], isFirst.atAddress, isFirst.isMatch⟩
  · intro namesAll
    apply exists_mapM_eq_some
    intro entry member
    obtain ⟨position, isEntry⟩ := List.getElem?_of_mem member
    rw [getElem?_withDistance, Option.map_eq_some_iff] at isEntry
    obtain ⟨parameter, found, rfl⟩ := isEntry
    by_cases nameless : parameter.name = none
    · obtain ⟨start, inLocals, atAddress, isMatch⟩ :=
        namesAll position ⟨parameter, found, nameless⟩
      have atStart : start ∈ body.locals.filter fun start => start.address = address :=
        List.mem_filter.mpr ⟨inLocals, decide_eq_true atAddress⟩
      have isFound := List.find?_isSome.mpr
        ⟨start, atStart, (startsParameter_iff_matches found nameless).mpr isMatch⟩
      rw [nameFrom?, if_neg (by simp [nameless])]
      exact Option.isSome_iff_exists.mp (by rw [Option.isSome_map]; exact isFound)
    · exact ⟨parameter, by rw [nameFrom?, if_pos (Option.isSome_iff_ne_none.mpr nameless)]⟩

/-! The earliest address. -/

/-- Naming at any address changes nothing where every name is declared. -/
theorem eq_of_isNamedAt
    (declared : ∀ position, ¬ IsNameless parameters position)
    (isNamed : IsNamedAt body parameters address named) :
    named = parameters := by
  apply List.ext_getElem?
  intro position
  cases found : parameters[position]? with
  | none =>
      rw [List.getElem?_eq_none_iff, isNamed.length_eq, ← List.getElem?_eq_none_iff]
      exact found
  | some parameter =>
      exact isNamed.declared position parameter found fun nameless =>
        declared position ⟨parameter, found, nameless⟩

/--
Nameless parameters are named at the earliest address that names them all.  If there is none, they
stay as they are.  An address that names them is one of a local start, since there is a parameter to
be matched.
-/
theorem recoverNames_isNamedAt
    (body : MethodBody)
    (nameless : ∃ position, IsNameless parameters position) :
    (∃ address,
        IsEarliest body parameters address
          ∧ IsNamedAt body parameters address (recoverNames body parameters))
      ∨ (∀ address, ¬ NamesAllAt body parameters address)
        ∧ recoverNames body parameters = parameters := by
  have isStart (address : UInt32) (namesAll : NamesAllAt body parameters address) :
      address ∈ startAddresses body.locals := by
    obtain ⟨position, isNameless⟩ := nameless
    obtain ⟨start, inLocals, atAddress, -⟩ := namesAll position isNameless
    exact mem_startAddresses.mpr ⟨start, inLocals, atAddress⟩
  rw [recoverNames_eq_getD]
  cases recovered : (startAddresses body.locals).findSome? (namesAt? body parameters) with
  | none =>
      refine Or.inr ⟨fun address namesAll => ?_, rfl⟩
      obtain ⟨named, given⟩ := exists_namesAt?_iff.mpr namesAll
      rw [List.findSome?_eq_none_iff.mp recovered address (isStart address namesAll)] at given
      cases given
  | some named =>
      obtain ⟨earlier, address, later, split, given, noneEarlier⟩ :=
        List.findSome?_eq_some_iff.mp recovered
      refine Or.inl ⟨address, ⟨exists_namesAt?_iff.mp ⟨named, given⟩, ?_⟩,
        namesAt?_eq_some_iff.mp given⟩
      intro other namesAll
      have ordered := pairwise_startAddresses body.locals
      have isOther := isStart other namesAll
      rw [split] at ordered isOther
      rcases List.mem_append.mp isOther with isEarlier | notEarlier
      · obtain ⟨otherNamed, otherGiven⟩ := exists_namesAt?_iff.mpr namesAll
        rw [noneEarlier other isEarlier] at otherGiven
        cases otherGiven
      · rcases List.mem_cons.mp notEarlier with rfl | isLater
        · exact UInt32.le_refl other
        · have behind := (List.pairwise_append.mp ordered).2.1
          exact (List.pairwise_cons.mp behind).1 other isLater

/-- Where every parameter has a declared name, nothing is recovered. -/
theorem recoverNames_eq_self
    (body : MethodBody)
    (declared : ∀ position, ¬ IsNameless parameters position) :
    recoverNames body parameters = parameters := by
  rw [recoverNames_eq_getD]
  cases recovered : (startAddresses body.locals).findSome? (namesAt? body parameters) with
  | none => rfl
  | some named =>
      obtain ⟨address, -, given⟩ := List.exists_of_findSome?_eq_some recovered
      exact eq_of_isNamedAt declared (namesAt?_eq_some_iff.mp given)

/-! What recovery leaves alone. -/

/-- A parameter keeps its type and its annotations, and all that it declares if it has a name. -/
structure KeepsDeclared (source recovered : Parameter) : Prop where
  parameterType : recovered.parameterType = source.parameterType
  annotations : recovered.annotations = source.annotations
  declared : source.name ≠ none → recovered = source

/-- A parameter keeps what it declares when nothing is done to it. -/
theorem KeepsDeclared.refl (parameter : Parameter) : KeepsDeclared parameter parameter :=
  ⟨rfl, rfl, fun _ => rfl⟩

/-- Parameters keep what they declare when nothing is done to them. -/
theorem forall₂_keepsDeclared_self (parameters : List Parameter) :
    List.Forall₂ KeepsDeclared parameters parameters :=
  List.forall₂_same.mpr fun parameter _ => .refl parameter

/-- Naming parameters from local starts keeps what they declare. -/
theorem IsNamedAt.keepsDeclared (isNamed : IsNamedAt body parameters address named) :
    List.Forall₂ KeepsDeclared parameters named := by
  rw [forall₂_iff_getElem?]
  refine ⟨isNamed.length_eq.symm, fun position parameter found => ?_⟩
  by_cases nameless : parameter.name = none
  · obtain ⟨start, -, recovered⟩ := isNamed.recovered position parameter found nameless
    exact ⟨_, recovered, rfl, rfl, fun declared => absurd nameless declared⟩
  · exact ⟨parameter, isNamed.declared position parameter found nameless, .refl parameter⟩

/-- Whatever names are recovered, declared parameters, types and annotations stay. -/
theorem keepsDeclared_recoverNames (body : MethodBody) (parameters : List Parameter) :
    List.Forall₂ KeepsDeclared parameters (recoverNames body parameters) := by
  rw [recoverNames_eq_getD]
  cases recovered : (startAddresses body.locals).findSome? (namesAt? body parameters) with
  | none => exact forall₂_keepsDeclared_self parameters
  | some named =>
      obtain ⟨address, -, given⟩ := List.exists_of_findSome?_eq_some recovered
      exact (namesAt?_eq_some_iff.mp given).keepsDeclared

/-- No nameless parameter is left at an address that names them all. -/
theorem IsNamedAt.not_isNameless (isNamed : IsNamedAt body parameters address named) :
    ∀ position, ¬ IsNameless named position := by
  rintro position ⟨result, resultFound, nameless⟩
  have inRange : position < parameters.length := by
    rw [← isNamed.length_eq]
    exact (List.getElem?_eq_some_iff.mp resultFound).1
  have found : parameters[position]? = some parameters[position] :=
    List.getElem?_eq_getElem inRange
  by_cases wasNameless : parameters[position].name = none
  · obtain ⟨start, isFirst, recovered⟩ :=
      isNamed.recovered position _ found wasNameless
    obtain rfl := Option.some.inj (resultFound.symm.trans recovered)
    exact isFirst.isMatch.isNamed nameless
  · have declared := isNamed.declared position _ found wasNameless
    obtain rfl := Option.some.inj (resultFound.symm.trans declared)
    exact wasNameless nameless

/-- A parameter is at least one slot wide. -/
theorem width_pos (parameter : Parameter) : 0 < parameter.width := by
  rw [Parameter.width, Descriptor.slotWidth]
  split <;> decide

/-- Parameters further in front are wider together with those behind them. -/
theorem totalWidth_drop_lt
    {first second : Nat}
    (before : first < second)
    (inRange : first < parameters.length) :
    totalWidth (parameters.drop second) < totalWidth (parameters.drop first) := by
  have split : parameters.drop first =
      parameters[first] :: (parameters.drop (first + 1)).take (second - (first + 1))
        ++ parameters.drop second := by
    rw [List.cons_append, List.drop_eq_getElem_cons inRange]
    congr 1
    have behind : parameters.drop second =
        (parameters.drop (first + 1)).drop (second - (first + 1)) := by
      rw [List.drop_drop]
      congr 1
      omega
    rw [behind, List.take_append_drop]
  have positive := width_pos parameters[first]
  rw [split, totalWidth, totalWidth, total_append, total_cons]
  omega

/-- A local start matches one parameter at most, since it stands in one register. -/
theorem Matches.position_unique
    {first second : Nat}
    (isFirst : Matches body parameters first start)
    (isSecond : Matches body parameters second start) :
    first = second := by
  obtain ⟨_, firstFound, -⟩ := isFirst.parameterType
  obtain ⟨_, secondFound, -⟩ := isSecond.parameterType
  have sameRegister := isFirst.register.trans isSecond.register.symm
  rcases Nat.lt_trichotomy first second with before | same | behind
  · have wider := totalWidth_drop_lt before (List.getElem?_eq_some_iff.mp firstFound).1
    omega
  · exact same
  · have wider := totalWidth_drop_lt behind (List.getElem?_eq_some_iff.mp secondFound).1
    omega

/-! The parameters of a method. -/

/-- The parameters of a method with the names that they recover. -/
def emittedParameters (method : MethodRecord) : List Parameter :=
  (placedParameters method).map PlacedParameter.parameter

/-- Placing parameters neither drops nor changes any. -/
theorem map_parameter_place (slot : Nat) (parameters : List Parameter) :
    (place slot parameters).map PlacedParameter.parameter = parameters := by
  induction parameters generalizing slot with
  | nil => rfl
  | cons first rest inductionHypothesis =>
      rw [place, List.map_cons, inductionHypothesis]

/-- Parameters that keep their types keep their slots. -/
theorem forall₂_place
    (kept : List.Forall₂ KeepsDeclared parameters named)
    (slot : Nat) :
    List.Forall₂
      (fun source recovered : PlacedParameter =>
        recovered.slot = source.slot ∧ KeepsDeclared source.parameter recovered.parameter)
      (place slot parameters) (place slot named) := by
  induction kept generalizing slot with
  | nil => exact .nil
  | @cons source recovered _ _ keeps _ inductionHypothesis =>
      have sameWidth : recovered.width = source.width := by
        rw [Parameter.width, keeps.parameterType, Parameter.width]
      rw [place, place, sameWidth]
      exact .cons ⟨rfl, keeps⟩ (inductionHypothesis _)

/-- What becomes of the names of the parameters of a method. -/
structure RecoversNames (method : MethodRecord) : Prop where
  /-- Without an implementation or without a nameless parameter nothing is recovered. -/
  kept :
    method.isAbstract = true
        ∨ method.body = none
        ∨ (∀ position, ¬ IsNameless method.parameters position) →
      emittedParameters method = method.parameters
  /-- The earliest address that names all nameless parameters names them, if there is one. -/
  recovered :
    ∀ body, method.body = some body → method.isAbstract = false →
      (∃ position, IsNameless method.parameters position) →
      (∃ address,
          IsEarliest body method.parameters address
            ∧ IsNamedAt body method.parameters address (emittedParameters method))
        ∨ (∀ address, ¬ NamesAllAt body method.parameters address)
          ∧ emittedParameters method = method.parameters
  /-- Slots, types, annotations and declared parameters are those of the source. -/
  untouched :
    List.Forall₂
      (fun source recovered : PlacedParameter =>
        recovered.slot = source.slot ∧ KeepsDeclared source.parameter recovered.parameter)
      (place (receiverWidth method) method.parameters) (placedParameters method)
  /-- All nameless parameters get a name, or none does. -/
  allOrNone :
    (∀ position, IsNameless method.parameters position →
        ¬ IsNameless (emittedParameters method) position)
      ∨ ∀ position, IsNameless method.parameters position →
          IsNameless (emittedParameters method) position
  /-- No local start names two parameters. -/
  apart :
    ∀ body first second start,
      Matches body method.parameters first start →
      Matches body method.parameters second start →
      first = second

variable {method : MethodRecord}

/-- Either nothing is recovered, or the parameters are those that the body names. -/
theorem placedParameters_cases (method : MethodRecord) :
    ((method.isAbstract = true ∨ method.body = none)
        ∧ placedParameters method = place (receiverWidth method) method.parameters)
      ∨ ∃ body,
          method.body = some body
            ∧ method.isAbstract = false
            ∧ placedParameters method =
                place (receiverWidth method) (recoverNames body method.parameters) := by
  rw [placedParameters]
  cases hasBody : method.body with
  | none => exact Or.inl ⟨Or.inr rfl, rfl⟩
  | some body =>
      cases isAbstract : method.isAbstract with
      | true => exact Or.inl ⟨Or.inl rfl, rfl⟩
      | false => exact Or.inr ⟨body, rfl, rfl, rfl⟩

/-- A method whose parameters are placed as they stand recovers no name. -/
theorem recoversNames_of_eq
    (same : placedParameters method = place (receiverWidth method) method.parameters)
    (noneComplete :
      ∀ body, method.body = some body → method.isAbstract = false →
        (∃ position, IsNameless method.parameters position) →
        ∀ address, ¬ NamesAllAt body method.parameters address) :
    RecoversNames method := by
  have sameParameters : emittedParameters method = method.parameters := by
    rw [emittedParameters, same, map_parameter_place]
  constructor
  case kept => exact fun _ => sameParameters
  case recovered =>
    intro body hasBody notAbstract nameless
    exact Or.inr ⟨noneComplete body hasBody notAbstract nameless, sameParameters⟩
  case untouched =>
    rw [same]
    exact forall₂_place (forall₂_keepsDeclared_self _) _
  case allOrNone =>
    rw [sameParameters]
    exact Or.inr fun _ nameless => nameless
  case apart => exact fun _ _ _ _ => Matches.position_unique

/-- A method whose body names all nameless parameters at some address recovers their names. -/
theorem recoversNames_of_isNamedAt
    {body : MethodBody}
    (hasBody : method.body = some body)
    (isConcrete : method.isAbstract = false)
    (nameless : ∃ position, IsNameless method.parameters position)
    (placed :
      placedParameters method =
        place (receiverWidth method) (recoverNames body method.parameters))
    (isEarliest : IsEarliest body method.parameters address)
    (isNamed : IsNamedAt body method.parameters address (recoverNames body method.parameters)) :
    RecoversNames method := by
  have emitted : emittedParameters method = recoverNames body method.parameters := by
    rw [emittedParameters, placed, map_parameter_place]
  constructor
  case kept =>
    rintro (isAbstract | noBody | declared)
    · rw [isConcrete] at isAbstract
      cases isAbstract
    · rw [hasBody] at noBody
      cases noBody
    · obtain ⟨position, isNameless⟩ := nameless
      exact absurd isNameless (declared position)
  case recovered =>
    intro other hasOther _ _
    obtain rfl := Option.some.inj (hasBody.symm.trans hasOther)
    exact Or.inl ⟨address, isEarliest, emitted ▸ isNamed⟩
  case untouched =>
    rw [placed]
    exact forall₂_place isNamed.keepsDeclared _
  case allOrNone =>
    rw [emitted]
    exact Or.inl fun position _ => isNamed.not_isNameless position
  case apart => exact fun _ _ _ _ => Matches.position_unique

/--
The nameless parameters of a method are named together by the earliest group of local starts that
names them all, and everything else about the parameters stays as it is.
-/
theorem recoversNames (method : MethodRecord) : RecoversNames method := by
  rcases placedParameters_cases method with ⟨nothing, same⟩ | ⟨body, hasBody, isConcrete, placed⟩
  · refine recoversNames_of_eq same fun body hasBody isConcrete _ => ?_
    rcases nothing with isAbstract | noBody
    · rw [isAbstract] at isConcrete
      cases isConcrete
    · rw [noBody] at hasBody
      cases hasBody
  by_cases nameless : ∃ position, IsNameless method.parameters position
  · rcases recoverNames_isNamedAt body nameless with ⟨address, isEarliest, isNamed⟩ | ⟨none, same⟩
    · exact recoversNames_of_isNamedAt hasBody isConcrete nameless placed isEarliest isNamed
    · rw [same] at placed
      refine recoversNames_of_eq placed fun other hasOther _ _ => ?_
      obtain rfl := Option.some.inj (hasBody.symm.trans hasOther)
      exact none
  · rw [recoverNames_eq_self body (not_exists.mp nameless)] at placed
    exact recoversNames_of_eq placed fun _ _ _ isNameless => absurd isNameless nameless

end Stub

end DexSurface
