import Mathlib.Algebra.Order.Ring.Rat
import Mathlib.Tactic.Linarith
import Mathlib.Tactic.Ring
import FeynmanEngine.Orders

/-! Projection of net and gross exposure under a signed notional delta, shared
by the instrument breaker and the risk gate. -/
namespace FeynmanEngine.ExposureProjection
open Orders

/-- Signed notional of an order: a buy adds, a sell takes away. -/
def signedDelta : Side → Decimal → Decimal
  | .buy, notional => notional
  | .sell, notional => -notional

/-- `project_net_and_gross`: the opposite side of the book is reduced first. -/
def projectNetAndGross (currentNet currentGross signedDelta : Decimal) : Decimal × Decimal :=
  let long := (currentGross + currentNet) / 2
  let short := (currentGross - currentNet) / 2
  if 0 ≤ signedDelta then
    let reduction := min signedDelta short
    let short := short - reduction
    let long := long + (signedDelta - reduction)
    (long - short, long + short)
  else
    let sellQty := |signedDelta|
    let reduction := min sellQty long
    let long := long - reduction
    let short := short + (sellQty - reduction)
    (long - short, long + short)

/-- Exposure held against an order's side: what it can trade off. -/
def offset (currentNet currentGross : Decimal) : Side → Decimal
  | .buy => (currentGross - currentNet) / 2
  | .sell => (currentGross + currentNet) / 2

/-- Gross grows by the notional and shrinks by twice what is traded off. -/
theorem gross_after (net gross : Decimal) (side : Side) (positive : 0 < notional) :
    (projectNetAndGross net gross (signedDelta side notional)).2 =
      gross + notional - 2 * min notional (offset net gross side) := by
  cases side with
  | buy =>
    have upward : (0 : Decimal) ≤ notional := positive.le
    simp only [projectNetAndGross, signedDelta, offset, upward, if_true]
    ring
  | sell =>
    have negative : ¬ (0 : Decimal) ≤ -notional := by linarith
    simp only [projectNetAndGross, signedDelta, offset, negative, if_false, abs_neg,
      abs_of_pos positive]
    ring

theorem net_after (net gross delta : Decimal) : (projectNetAndGross net gross delta).1 = net + delta := by
  unfold projectNetAndGross
  dsimp only
  split
  · ring
  · next negative =>
    rw [abs_of_neg (not_le.mp negative)]
    ring

def opposite (net gross delta : Decimal) : Decimal :=
  if 0 ≤ delta then (gross - net) / 2 else (gross + net) / 2

/-- What a signed trade takes off the gross exposure; negative when it adds. -/
def relief (net gross delta : Decimal) : Decimal := 2 * min |delta| (opposite net gross delta) - |delta|

theorem gross_after_delta (net gross delta : Decimal) :
    (projectNetAndGross net gross delta).2 = gross - relief net gross delta := by
  unfold projectNetAndGross relief opposite
  dsimp only
  split
  · next upward =>
    rw [abs_of_nonneg upward]
    ring
  · ring

/-- A part of a trade leaves no more gross than the larger of none and all of it. -/
theorem gross_le_max (net gross : Decimal) (side : Side) (positive : 0 < part) (within : part ≤ whole) :
    (projectNetAndGross net gross (signedDelta side part)).2 ≤
      max gross (projectNetAndGross net gross (signedDelta side whole)).2 := by
  rw [gross_after net gross side positive, gross_after net gross side (lt_of_lt_of_le positive within)]
  rcases le_total part (offset net gross side) with covered | beyond
  · rw [min_eq_left covered]
    exact le_max_of_le_left (by linarith)
  · rw [min_eq_right beyond, min_eq_right (le_trans beyond within)]
    exact le_max_of_le_right (by linarith)

theorem gross_not_increased_iff (net gross : Decimal) (side : Side) (positive : 0 < notional) :
    (projectNetAndGross net gross (signedDelta side notional)).2 ≤ gross ↔
      notional ≤ 2 * offset net gross side := by
  rw [gross_after net gross side positive]
  rcases le_total notional (offset net gross side) with within | beyond
  · rw [min_eq_left within]
    constructor <;> intro _ <;> linarith
  · rw [min_eq_right beyond]
    constructor <;> intro _ <;> linarith

end FeynmanEngine.ExposureProjection
