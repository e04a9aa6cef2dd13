/-!
# Totals

The total weight of the elements of a list, and how it shrinks when a filter drops elements.
-/

namespace DexSurface

/-- The sum of the weights of elements. -/
def total (weight : α → Nat) (elements : List α) : Nat :=
  elements.foldr (fun element rest => weight element + rest) 0

/-- No element weighs nothing. -/
@[simp]
theorem total_nil (weight : α → Nat) : total weight [] = 0 :=
  rfl

/-- The first element adds its weight. -/
@[simp]
theorem total_cons (weight : α → Nat) (first : α) (rest : List α) :
    total weight (first :: rest) = weight first + total weight rest :=
  rfl

/-- The parts of a list add their totals. -/
@[simp]
theorem total_append (weight : α → Nat) (left right : List α) :
    total weight (left ++ right) = total weight left + total weight right := by
  induction left with
  | nil => simp
  | cons first rest inductionHypothesis =>
      simp [inductionHypothesis]
      omega

/-- Elements of one weight weigh it as often as there are elements. -/
theorem total_const (weight : Nat) (elements : List α) :
    total (fun _ => weight) elements = weight * elements.length := by
  induction elements with
  | nil => rfl
  | cons first rest inductionHypothesis =>
      rw [total_cons, inductionHypothesis, List.length_cons, Nat.mul_succ, Nat.add_comm]

/-- A filter that keeps less has a smaller total. -/
theorem total_filter_le
    {weight : α → Nat}
    {kept wider : α → Bool}
    (narrower : ∀ element, kept element = true → wider element = true)
    (elements : List α) :
    total weight (elements.filter kept) ≤ total weight (elements.filter wider) := by
  induction elements with
  | nil => simp
  | cons first rest inductionHypothesis =>
      by_cases firstKept : kept first = true
      · simp [firstKept, narrower first firstKept, inductionHypothesis]
      · by_cases firstWider : wider first = true
        · simp [firstKept, firstWider]
          omega
        · simp [firstKept, firstWider, inductionHypothesis]

/-- A filter that also drops a member has a total smaller by the weight of that member. -/
theorem add_total_filter_le
    {weight : α → Nat}
    {kept wider : α → Bool}
    {element : α}
    {elements : List α}
    (narrower : ∀ other, kept other = true → wider other = true)
    (member : element ∈ elements)
    (dropped : kept element = false)
    (present : wider element = true) :
    weight element + total weight (elements.filter kept)
      ≤ total weight (elements.filter wider) := by
  induction elements with
  | nil => simp at member
  | cons first rest inductionHypothesis =>
      rcases List.mem_cons.mp member with isFirst | inRest
      · subst isFirst
        simp [dropped, present, total_filter_le narrower rest]
      · have smaller := inductionHypothesis inRest
        by_cases firstKept : kept first = true
        · simp [firstKept, narrower first firstKept]
          omega
        · by_cases firstWider : wider first = true
          · simp [firstKept, firstWider]
            omega
          · simp [firstKept, firstWider, smaller]

end DexSurface
