import Mathlib.Data.List.TakeWhile
import DexSurface.Descriptor

namespace DexSurface

namespace Descriptor

/-!
# Outermost names

The last `/` divides the name of a class into its package and its simple name, and the first `$` of
the simple name ends the name of the outermost class.  A name put together from that of a class, a
`$` and a simple name has the outermost class of that class, which need not be the class itself.
-/

/-- A name is divided behind its last `/`. -/
structure Divides (name : InternalName) (package simple : List Char) : Prop where
  letters : name.toList = package ++ simple
  endsAtSlash : package = [] ∨ package.getLast? = some '/'
  noSlash : '/' ∉ simple

/-- The simple name of a class has no `$`, so that it shows no class around it. -/
def IsTopLevel (name : InternalName) : Prop :=
  ∃ package simple, Divides name package simple ∧ '$' ∉ simple

variable {name outer inner : InternalName} {package simple : List Char}

/-- Every name is divided into its package and its simple name. -/
theorem exists_divides (name : InternalName) : ∃ package simple, Divides name package simple := by
  refine ⟨(name.toList.reverse.dropWhile (· ≠ '/')).reverse,
    (name.toList.reverse.takeWhile (· ≠ '/')).reverse, ?_, ?_, ?_⟩
  · rw [← List.reverse_append, List.takeWhile_append_dropWhile, List.reverse_reverse]
  · rw [List.getLast?_reverse, List.reverse_eq_nil_iff]
    cases rest : name.toList.reverse.dropWhile (· ≠ '/') with
    | nil => exact Or.inl rfl
    | cons letter letters =>
        right
        have stops := List.head?_dropWhile_not (· ≠ '/') name.toList.reverse
        rw [rest] at stops
        simpa using stops
  · intro member
    simpa using List.mem_takeWhile_imp (List.mem_reverse.mp member)

/-- Reading the name from its end finds the package of a divided name. -/
theorem Divides.reverse_dropWhile (divides : Divides name package simple) :
    (name.toList.reverse.dropWhile (· ≠ '/')).reverse = package := by
  have passes : ∀ letter ∈ simple.reverse, decide (letter ≠ '/') = true := by
    intro letter member
    exact decide_eq_true fun isSlash => divides.noSlash (isSlash ▸ List.mem_reverse.mp member)
  rw [divides.letters, List.reverse_append, List.dropWhile_append_of_pos passes]
  rcases divides.endsAtSlash with rfl | endsAtSlash
  · rfl
  · obtain ⟨earlier, rfl⟩ := List.getLast?_eq_some_iff.mp endsAtSlash
    rw [List.reverse_append, List.reverse_singleton, List.singleton_append,
      List.dropWhile_cons_of_neg (by decide), List.reverse_cons, List.reverse_reverse]

/-- A text without a dollar sign is not cut at one. -/
theorem takeWhile_eq_self_of_not_mem {letters : List Char} (noSign : '$' ∉ letters) :
    letters.takeWhile (· ≠ '$') = letters := by
  rw [List.takeWhile_eq_self_iff]
  intro letter member
  exact decide_eq_true fun isSign => noSign (isSign ▸ member)

/-- Cutting a text at a dollar sign shortens it exactly if it has one. -/
theorem takeWhile_length_lt_iff {letters : List Char} :
    (letters.takeWhile (· ≠ '$')).length < letters.length ↔ '$' ∈ letters := by
  have isStart := List.takeWhile_prefix (· ≠ '$') (l := letters)
  constructor
  · intro shorter
    by_contra noSign
    rw [takeWhile_eq_self_of_not_mem noSign] at shorter
    exact Nat.lt_irrefl _ shorter
  · intro member
    refine Nat.lt_of_le_of_ne isStart.length_le fun sameLength => ?_
    rw [← isStart.eq_of_length sameLength] at member
    simpa using List.mem_takeWhile_imp member

/-- The outermost name ends before the first `$` behind the last `/`. -/
theorem Divides.outermostName?_eq (divides : Divides name package simple) :
    outermostName? name =
      if '$' ∈ simple then
        some (String.ofList (package ++ simple.takeWhile (· ≠ '$')))
      else
        none := by
  have behind : name.toList.drop package.length = simple := by
    rw [divides.letters, List.drop_left]
  simp only [outermostName?, divides.reverse_dropWhile, behind, takeWhile_length_lt_iff]

/-- A name has no outermost name exactly if it is at the top level. -/
theorem outermostName?_eq_none_iff : outermostName? name = none ↔ IsTopLevel name := by
  constructor
  · intro none
    obtain ⟨package, simple, divides⟩ := exists_divides name
    refine ⟨package, simple, divides, fun member => ?_⟩
    rw [divides.outermostName?_eq, if_pos member] at none
    cases none
  · rintro ⟨package, simple, divides, noSign⟩
    rw [divides.outermostName?_eq, if_neg noSign]

/-- The outermost name of a nested class is shorter than its own. -/
theorem outermostName?_ne_self (name : InternalName) : outermostName? name ≠ some name := by
  obtain ⟨package, simple, divides⟩ := exists_divides name
  rw [divides.outermostName?_eq]
  split
  · next isNested =>
      intro same
      have sameLetters := congrArg String.toList (Option.some.inj same)
      rw [String.toList_ofList, divides.letters, List.append_cancel_left_eq] at sameLetters
      have shorter := takeWhile_length_lt_iff.mpr isNested
      rw [sameLetters] at shorter
      exact Nat.lt_irrefl _ shorter
  · nofun

/-- A simple name without `/` continues the simple name of the class around it. -/
theorem Divides.nested
    (divides : Divides outer package simple)
    (noSlash : '/' ∉ inner.toList) :
    Divides (outer ++ "$" ++ inner) package (simple ++ '$' :: inner.toList) where
  letters := by simp [divides.letters]
  endsAtSlash := divides.endsAtSlash
  noSlash := by simpa [divides.noSlash] using noSlash

/-- A nested class has the outermost class of the class around it, or that class itself. -/
theorem outermostName?_nested (noSlash : '/' ∉ inner.toList) :
    outermostName? (outer ++ "$" ++ inner) = some ((outermostName? outer).getD outer) := by
  obtain ⟨package, simple, divides⟩ := exists_divides outer
  have hasSign : '$' ∈ simple ++ '$' :: inner.toList := by simp
  rw [(divides.nested noSlash).outermostName?_eq, if_pos hasSign, divides.outermostName?_eq]
  by_cases isNested : '$' ∈ simple
  case pos =>
    rw [if_pos isNested, Option.getD_some]
    have shorter := takeWhile_length_lt_iff.mpr isNested
    rw [List.takeWhile_append, if_neg (Nat.ne_of_lt shorter)]
  case neg =>
    rw [if_neg isNested, Option.getD_none, List.takeWhile_append,
      takeWhile_eq_self_of_not_mem isNested, if_pos rfl, List.takeWhile_cons_of_neg (by decide),
      List.append_nil, ← divides.letters, String.ofList_toList]

/-- With a `/` in the simple name the outermost name ends in the simple name. -/
theorem outermostName?_nested_ne (slash : '/' ∈ inner.toList) :
    outermostName? (outer ++ "$" ++ inner) ≠ some outer := by
  obtain ⟨package, simple, divides⟩ := exists_divides inner
  have endsAtSlash : package.getLast? = some '/' := by
    rcases divides.endsAtSlash with rfl | endsAtSlash
    · rw [divides.letters, List.nil_append] at slash
      exact absurd slash divides.noSlash
    · exact endsAtSlash
  have dividesWhole : Divides (outer ++ "$" ++ inner) (outer.toList ++ '$' :: package) simple := by
    refine ⟨by simp [divides.letters], Or.inr ?_, divides.noSlash⟩
    obtain ⟨earlier, rfl⟩ := List.getLast?_eq_some_iff.mp endsAtSlash
    rw [← List.cons_append, ← List.append_assoc, List.getLast?_append, List.getLast?_singleton]
    rfl
  rw [dividesWhole.outermostName?_eq]
  split
  · intro same
    have sameLength := congrArg (fun name : Option String => name.map String.length) same
    simp [String.length] at sameLength
  · nofun

/--
The outermost class of a nested class is the class around it exactly if that class is top-level and
the simple name has no `/`.
-/
theorem outermostName?_nested_eq_some_iff :
    outermostName? (outer ++ "$" ++ inner) = some outer
      ↔ IsTopLevel outer ∧ '/' ∉ inner.toList := by
  by_cases slash : '/' ∈ inner.toList
  case pos => simp [outermostName?_nested_ne slash, slash]
  case neg =>
    rw [outermostName?_nested slash, ← outermostName?_eq_none_iff, Option.some.injEq,
      and_iff_left slash]
    cases outermost : outermostName? outer with
    | none => simp
    | some other =>
        have differ : other ≠ outer := fun same => outermostName?_ne_self outer (same ▸ outermost)
        simp [differ]

end Descriptor

end DexSurface
