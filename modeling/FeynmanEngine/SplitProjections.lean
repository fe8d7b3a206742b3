import FeynmanEngine.ExposureProjection
import FeynmanEngine.TwoSidedBooks

/-! Projected exposure of orders that come in parts. Net and gross stand for the
two sides of a book, and the projection trades on these; so it is exact, and a
split order is projected like a whole one. -/
namespace FeynmanEngine.SplitProjections
open Orders ExposureProjection TwoSidedBooks

/-- Net and gross of a book, as the projection takes and gives them. -/
def exposure (sides : Sides Decimal) : Decimal × Decimal := (sides.net, sides.gross)

/-- What is held against a trade is recovered from net and gross. -/
theorem opposite_eq_against (sides : Sides Decimal) (delta : Decimal) :
    opposite sides.net sides.gross delta = sides.against delta := by
  unfold opposite Sides.against Sides.net Sides.gross
  split
  · ring
  · ring

/-- The projection is the trade, seen through net and gross. -/
theorem project_exposure (sides : Sides Decimal) (delta : Decimal) :
    projectNetAndGross sides.net sides.gross delta = exposure (sides.trade delta) := by
  apply Prod.ext
  · rw [net_after]
    exact (sides.net_trade delta).symm
  · rw [gross_after_delta, relief, opposite_eq_against]
    show _ = (sides.trade delta).gross
    rw [sides.gross_trade]
    ring

/-- Projecting part after part. -/
def projectParts (exposure : Decimal × Decimal) (parts : List Decimal) : Decimal × Decimal :=
  parts.foldl (fun projected part => projectNetAndGross projected.1 projected.2 part) exposure

theorem projectParts_exposure (sides : Sides Decimal) (parts : List Decimal) :
    projectParts (exposure sides) parts = exposure (parts.foldl Sides.trade sides) := by
  induction parts generalizing sides with
  | nil => rfl
  | cons part rest ih =>
    unfold projectParts at ih ⊢
    rw [List.foldl_cons, List.foldl_cons, ← ih]
    exact congrArg (rest.foldl _) (project_exposure sides part)

/-- The projection moves net by the delta, takes twice what the other side
offsets off the gross, and does not depend on how a trade is split. -/
theorem projection_exact (net gross delta : Decimal) (within : |net| ≤ gross) :
    (projectNetAndGross net gross delta).1 = net + delta ∧
    |(projectNetAndGross net gross delta).1| ≤ (projectNetAndGross net gross delta).2 ∧
    (projectNetAndGross net gross delta).2 ≤ gross + |delta| ∧
    (projectNetAndGross net gross delta).2 =
      gross + |delta| - 2 * min |delta| (if 0 ≤ delta then (gross - net) / 2 else (gross + net) / 2) ∧
    (∀ second, Sides.SameSign delta second →
      projectNetAndGross (projectNetAndGross net gross delta).1 (projectNetAndGross net gross delta).2 second =
        projectNetAndGross net gross (delta + second)) ∧
    ∀ parts : List Decimal, (∀ part ∈ parts, 0 ≤ part) ∨ (∀ part ∈ parts, part ≤ 0) → parts.sum = delta →
      projectParts (net, gross) parts = projectNetAndGross net gross delta := by
  obtain ⟨sides, rfl, rfl⟩ : ∃ sides : Sides Decimal, sides.net = net ∧ sides.gross = gross :=
    ⟨.ofNetGross net gross within, Sides.net_ofNetGross net gross within, Sides.gross_ofNetGross net gross within⟩
  refine ⟨net_after _ _ _, ?_, ?_, ?_, fun second same => ?_, fun parts same whole => ?_⟩
  · rw [project_exposure]
    exact (sides.trade delta).abs_net_le_gross
  · rw [project_exposure]
    exact sides.gross_trade_le delta
  · rw [gross_after_delta, relief, opposite]
    ring
  · rw [project_exposure, project_exposure, ← sides.trade_trade same]
    exact project_exposure (sides.trade delta) second
  · rw [project_exposure, ← whole, ← sides.foldl_trade same]
    exact projectParts_exposure sides parts

/-- A book long 4 and short 1 of which 6 is sold in two parts. -/
theorem projection_exact_across :
    projectNetAndGross 3 5 (-6) = (-3, 3) ∧ projectParts (3, 5) [-2, -4] = (-3, 3) := by
  have value : projectNetAndGross 3 5 (-6) = (-3, 3) := by decide +kernel
  obtain ⟨-, -, -, -, -, parts⟩ := projection_exact 3 5 (-6) (by decide +kernel)
  refine ⟨value, ?_⟩
  rw [parts [-2, -4] (Or.inr (by decide +kernel)) (by decide +kernel)]
  exact value

end FeynmanEngine.SplitProjections
