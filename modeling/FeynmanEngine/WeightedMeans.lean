import Mathlib.Algebra.Order.Field.Basic
import Mathlib.Tactic.Linarith
import Mathlib.Tactic.Ring

/-! Weighted means of a list over an ordered field, and the update that takes in
one more item from the mean and the total weight alone. -/
namespace FeynmanEngine.WeightedMeans

variable {Item K : Type} [Field K] (weight value : Item → K)

def totalWeight (items : List Item) : K := (items.map weight).sum

def weightedSum (items : List Item) : K := (items.map fun item => weight item * value item).sum

/-- The weighted mean; of nothing, zero. -/
def mean (items : List Item) : K := weightedSum weight value items / totalWeight weight items

@[simp] theorem totalWeight_nil : totalWeight weight ([] : List Item) = 0 := rfl

@[simp] theorem totalWeight_concat (items : List Item) (item : Item) :
    totalWeight weight (items ++ [item]) = totalWeight weight items + weight item := by
  simp [totalWeight]

@[simp] theorem weightedSum_concat (items : List Item) (item : Item) :
    weightedSum weight value (items ++ [item]) =
      weightedSum weight value items + weight item * value item := by
  simp [weightedSum]

@[simp] theorem mean_nil : mean weight value ([] : List Item) = 0 := by
  simp [mean, weightedSum]

theorem weightedSum_neg (items : List Item) :
    weightedSum weight (fun item => -value item) items = -weightedSum weight value items := by
  induction items with
  | nil => simp [weightedSum]
  | cons item items ih =>
    simp only [weightedSum, List.map_cons, List.sum_cons] at ih ⊢
    rw [ih]
    ring

variable [LinearOrder K] [IsStrictOrderedRing K] {weight value}

theorem totalWeight_nonneg (positive : ∀ item ∈ items, 0 < weight item) :
    0 ≤ totalWeight weight items := by
  induction items with
  | nil => exact le_refl _
  | cons item items ih =>
    have rest := ih fun other member => positive other (List.mem_cons_of_mem _ member)
    have head := positive item List.mem_cons_self
    simp only [totalWeight, List.map_cons, List.sum_cons] at rest ⊢
    linarith

theorem totalWeight_pos (positive : ∀ item ∈ items, 0 < weight item) (some : items ≠ []) :
    0 < totalWeight weight items := by
  cases items with
  | nil => exact absurd rfl some
  | cons item items =>
    have rest : 0 ≤ totalWeight weight items :=
      totalWeight_nonneg fun other member => positive other (List.mem_cons_of_mem _ member)
    have head := positive item List.mem_cons_self
    simp only [totalWeight, List.map_cons, List.sum_cons] at rest ⊢
    linarith

/-- A mean and its total weight give the weighted sum back. -/
theorem mean_mul_totalWeight (positive : ∀ item ∈ items, 0 < weight item) :
    mean weight value items * totalWeight weight items = weightedSum weight value items := by
  by_cases none : items = []
  · subst none
    simp [weightedSum]
  · exact div_mul_cancel₀ _ (totalWeight_pos positive none).ne'

/-- The mean with one more item, from the old mean and the old total. -/
theorem mean_concat (positive : ∀ item ∈ items, 0 < weight item) :
    mean weight value (items ++ [item]) =
      (mean weight value items * totalWeight weight items + value item * weight item) /
        (totalWeight weight items + weight item) := by
  rw [mean_mul_totalWeight positive, mean, weightedSum_concat, totalWeight_concat,
    mul_comm (weight item)]

theorem mul_totalWeight_le_weightedSum (positive : ∀ item ∈ items, 0 < weight item)
    (above : ∀ item ∈ items, bound ≤ value item) :
    bound * totalWeight weight items ≤ weightedSum weight value items := by
  induction items with
  | nil => simp [weightedSum]
  | cons item items ih =>
    have rest := ih (fun other member => positive other (List.mem_cons_of_mem _ member))
      fun other member => above other (List.mem_cons_of_mem _ member)
    have head : bound * weight item ≤ weight item * value item := by
      rw [mul_comm]
      exact mul_le_mul_of_nonneg_left (above item List.mem_cons_self)
        (positive item List.mem_cons_self).le
    simp only [totalWeight, weightedSum, List.map_cons, List.sum_cons, mul_add] at rest ⊢
    linarith

/-- A mean is not below what every item is at least. -/
theorem le_mean (positive : ∀ item ∈ items, 0 < weight item) (some : items ≠ [])
    (above : ∀ item ∈ items, bound ≤ value item) : bound ≤ mean weight value items := by
  rw [mean, le_div_iff₀ (totalWeight_pos positive some)]
  exact mul_totalWeight_le_weightedSum positive above

/-- A mean is not above what every item is at most. -/
theorem mean_le (positive : ∀ item ∈ items, 0 < weight item) (some : items ≠ [])
    (below : ∀ item ∈ items, value item ≤ bound) : mean weight value items ≤ bound := by
  have opposite : -bound ≤ mean weight (fun item => -value item) items :=
    le_mean positive some fun item member => neg_le_neg (below item member)
  have negated : mean weight (fun item => -value item) items = -mean weight value items := by
    rw [mean, weightedSum_neg, neg_div, mean]
  rw [negated] at opposite
  exact neg_le_neg_iff.mp opposite

end FeynmanEngine.WeightedMeans
