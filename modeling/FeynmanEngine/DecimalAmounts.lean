import Mathlib.Tactic.Positivity
import FeynmanEngine.DecimalFormats

/-! Amounts of so many decimal places and no more than a bound. Sums, differences
and halves of amounts are amounts again, and a format that holds them holds them
exactly, so that a computation on amounts that are small enough rounds nothing. -/
namespace FeynmanEngine.DecimalAmounts
open CheckedArithmetic DecimalFormats

/-- A multiple of `10 ^ -places`, at most `bound` in magnitude. -/
structure Amount (places : ℕ) (bound x : ℚ) : Prop where
  whole : ∃ m : ℤ, x = m / 10 ^ places
  most : |x| ≤ bound

namespace Amount

variable {places more : ℕ} {bound other x y : ℚ}

theorem zero (positive : 0 ≤ bound) : Amount places bound 0 :=
  ⟨⟨0, by simp⟩, by rwa [abs_zero]⟩

theorem wider (amount : Amount places bound x) (le : bound ≤ other) : Amount places other x :=
  ⟨amount.whole, amount.most.trans le⟩

theorem finer (amount : Amount places bound x) (le : places ≤ more) : Amount more bound x := by
  obtain ⟨m, rfl⟩ := amount.whole
  refine ⟨⟨m * 10 ^ (more - places), ?_⟩, amount.most⟩
  rw [← Nat.add_sub_cancel' le, pow_add]
  push_cast
  rw [Nat.add_sub_cancel_left]
  field_simp

theorem neg (amount : Amount places bound x) : Amount places bound (-x) := by
  obtain ⟨⟨m, rfl⟩, most⟩ := amount
  exact ⟨⟨-m, by rw [Int.cast_neg, neg_div]⟩, by rwa [abs_neg]⟩

theorem abs (amount : Amount places bound x) : Amount places bound |x| := by
  rcases abs_choice x with same | turned
  · rwa [same]
  · rw [turned]
    exact amount.neg

theorem add (left : Amount places bound x) (right : Amount places other y) :
    Amount places (bound + other) (x + y) := by
  obtain ⟨⟨m, rfl⟩, small⟩ := left
  obtain ⟨⟨n, rfl⟩, little⟩ := right
  exact ⟨⟨m + n, by rw [Int.cast_add, add_div]⟩, (abs_add_le _ _).trans (add_le_add small little)⟩

theorem sub (left : Amount places bound x) (right : Amount places other y) :
    Amount places (bound + other) (x - y) := by
  rw [sub_eq_add_neg]
  exact left.add right.neg

theorem min (left : Amount places bound x) (right : Amount places bound y) : Amount places bound (min x y) := by
  rcases min_choice x y with first | second
  · rwa [first]
  · rwa [second]

theorem half (amount : Amount places bound x) : Amount (places + 1) (bound / 2) (x / 2) := by
  obtain ⟨⟨m, rfl⟩, most⟩ := amount
  refine ⟨⟨m * 5, ?_⟩, ?_⟩
  · rw [pow_succ]
    push_cast
    field_simp
    ring
  · rw [abs_div, abs_two]
    exact div_le_div_of_nonneg_right most two_pos.le

theorem mul (left : Amount places bound x) (right : Amount more other y) :
    Amount (places + more) (bound * other) (x * y) := by
  obtain ⟨⟨m, rfl⟩, small⟩ := left
  obtain ⟨⟨n, rfl⟩, little⟩ := right
  refine ⟨⟨m * n, ?_⟩, ?_⟩
  · rw [pow_add, Int.cast_mul, div_mul_div_comm]
  · rw [abs_mul]
    exact mul_le_mul small little (abs_nonneg _) ((abs_nonneg _).trans small)

/-- A positive amount is at least one unit of its last place. -/
theorem least (amount : Amount places bound x) (positive : 0 < x) : 1 / 10 ^ places ≤ x := by
  obtain ⟨m, rfl⟩ := amount.whole
  have unit : (0 : ℚ) < 10 ^ places := by positivity
  have above : 0 < m := by exact_mod_cast (div_pos_iff_of_pos_right unit).mp positive
  exact div_le_div_of_nonneg_right (by exact_mod_cast above) unit.le

/-- A quotient by a positive amount is at most the dividend in units of the last place. -/
theorem abs_div_le (divisor : Amount places bound y) (positive : 0 < y) (dividend : |x| ≤ other) :
    |x / y| ≤ other * 10 ^ places := by
  have unit : (0 : ℚ) < 10 ^ places := by positivity
  have least := divisor.least positive
  rw [abs_div, abs_of_pos positive, div_le_iff₀ positive]
  calc |x| ≤ other := dividend
    _ = other * 10 ^ places * (1 / 10 ^ places) := by field_simp
    _ ≤ other * 10 ^ places * y :=
        mul_le_mul_of_nonneg_left least (mul_nonneg ((abs_nonneg _).trans dividend) unit.le)

/-- A format with the places and the room for an amount holds it exactly. -/
theorem fit (amount : Amount places bound x) (format : DecimalFormat) (fine : places ≤ format.maxScale)
    (room : bound * 10 ^ places < format.limit) : format.rounding.fit x = some x := by
  obtain ⟨⟨m, rfl⟩, most⟩ := amount
  refine fitAt_number ?_ fine
  have unit : (0 : ℚ) < 10 ^ places := by positivity
  rw [abs_div, abs_of_pos unit, div_le_iff₀ unit] at most
  exact_mod_cast lt_of_le_of_lt most room

theorem round_eq (amount : Amount places bound x) (format : DecimalFormat) (fine : places ≤ format.maxScale)
    (room : bound * 10 ^ places < format.limit) : format.rounding.round x = x := by
  rw [Rounding.round, amount.fit format fine room, Option.getD_some]

theorem fits (amount : Amount places bound x) (format : DecimalFormat) (fine : places ≤ format.maxScale)
    (room : bound * 10 ^ places < format.limit) : format.rounding.Fits x := by
  rw [Rounding.Fits, amount.fit format fine room]
  rfl

end Amount

/-- Amounts that are not negative and come to no more than a bound are added up exactly. -/
theorem sumFits_of_amounts {places : ℕ} {bound : ℚ} (format : DecimalFormat) (fine : places ≤ format.maxScale)
    (room : bound * 10 ^ places < format.limit) {xs : List ℚ} {start : ℚ} (begun : Amount places bound start)
    (amounts : ∀ x ∈ xs, 0 ≤ x ∧ Amount places bound x) (positive : 0 ≤ start) (total : start + xs.sum ≤ bound) :
    format.rounding.SumFits start xs ∧
      xs.foldl (fun sum x => format.rounding.round (sum + x)) start = start + xs.sum ∧
      Amount places bound (start + xs.sum) := by
  induction xs generalizing start with
  | nil =>
    rw [List.sum_nil, add_zero]
    exact ⟨trivial, rfl, begun⟩
  | cons x xs ih =>
    obtain ⟨held, amount⟩ := amounts x List.mem_cons_self
    have rest : 0 ≤ xs.sum := List.sum_nonneg fun y member => (amounts y (List.mem_cons_of_mem x member)).1
    rw [List.sum_cons, ← add_assoc] at total
    have next : Amount places bound (start + x) :=
      ⟨(begun.add amount).whole, by rw [abs_of_nonneg (add_nonneg positive held)]; linarith⟩
    have kept := next.round_eq format fine room
    obtain ⟨fits, sum, amount⟩ := ih next (fun y member => amounts y (List.mem_cons_of_mem x member))
      (add_nonneg positive held) total
    rw [Rounding.SumFits, List.foldl_cons, List.sum_cons, kept, ← add_assoc]
    exact ⟨⟨next.fits format fine room, fits⟩, sum, amount⟩

end FeynmanEngine.DecimalAmounts
