import Mathlib.Algebra.Order.Floor.Ring
import Mathlib.Data.Rat.Floor
import Mathlib.Tactic.FieldSimp
import Mathlib.Tactic.Linarith
import Mathlib.Tactic.Ring
import FeynmanEngine.CheckedArithmetic

/-! Decimals with a bounded mantissa: an integer below a limit over a power of ten
up to a largest scale. A result is rounded at the largest scale at which its
mantissa is below the limit, half to even. -/
namespace FeynmanEngine.DecimalFormats
open CheckedArithmetic

/-- Beyond the middle, or in the middle above an odd integer. -/
def RoundsUp (q : ℚ) : Prop := 1 / 2 < Int.fract q ∨ Int.fract q = 1 / 2 ∧ ¬ 2 ∣ ⌊q⌋

instance (q : ℚ) : Decidable (RoundsUp q) := by
  unfold RoundsUp
  infer_instance

/-- The nearest integer, of two the even one. -/
def nearest (q : ℚ) : ℤ := if RoundsUp q then ⌊q⌋ + 1 else ⌊q⌋

@[simp] theorem nearest_intCast (n : ℤ) : nearest n = n := by
  simp [nearest, RoundsUp]

theorem nearest_le (q : ℚ) : (nearest q : ℚ) ≤ q + 1 / 2 := by
  have parts := Int.floor_add_fract q
  unfold nearest
  split
  · next up =>
    have above : 1 / 2 ≤ Int.fract q := by
      rcases up with above | ⟨half, -⟩
      · exact above.le
      · exact half.ge
    push_cast
    linarith
  · linarith [Int.fract_nonneg q]

/-- With one floor the larger fraction goes up if the smaller one does. -/
theorem RoundsUp.mono {q p : ℚ} (up : RoundsUp q) (less : q ≤ p) (same : ⌊q⌋ = ⌊p⌋) : RoundsUp p := by
  have fractions : Int.fract q ≤ Int.fract p := by
    have one := Int.floor_add_fract q
    have other := Int.floor_add_fract p
    rw [same] at one
    linarith
  rcases up with above | ⟨half, odd⟩
  · exact Or.inl (lt_of_lt_of_le above fractions)
  · rw [half] at fractions
    rcases fractions.lt_or_eq with above | middle
    · exact Or.inl above
    · exact Or.inr ⟨middle.symm, same ▸ odd⟩

theorem nearest_mono {q p : ℚ} (less : q ≤ p) : nearest q ≤ nearest p := by
  have floors : ⌊q⌋ ≤ ⌊p⌋ := Int.floor_le_floor less
  unfold nearest
  by_cases same : ⌊q⌋ = ⌊p⌋
  · by_cases up : RoundsUp q
    · rw [if_pos up, if_pos (up.mono less same), same]
    · rw [if_neg up]
      split <;> omega
  · split <;> split <;> omega

theorem nearest_neg (q : ℚ) : nearest (-q) = -nearest q := by
  by_cases whole : Int.fract q = 0
  · have integer : q = ⌊q⌋ := by
      have parts := Int.floor_add_fract q
      rw [whole, add_zero] at parts
      exact parts.symm
    rw [integer, ← Int.cast_neg, nearest_intCast, nearest_intCast]
  · have fraction : Int.fract (-q) = 1 - Int.fract q := Int.fract_neg whole
    have floor : ⌊-q⌋ = -⌊q⌋ - 1 := by
      have parts := Int.floor_add_fract q
      have turned := Int.floor_add_fract (-q)
      rw [fraction] at turned
      have same : (⌊-q⌋ : ℚ) = ((-⌊q⌋ - 1 : ℤ) : ℚ) := by
        push_cast
        linarith
      exact_mod_cast same
    have turns : RoundsUp (-q) ↔ ¬ RoundsUp q := by
      unfold RoundsUp
      rw [fraction, floor]
      constructor
      · rintro (above | ⟨half, odd⟩) (other | ⟨middle, even⟩)
        · linarith
        · linarith
        · linarith
        · omega
      · intro down
        rcases lt_trichotomy (Int.fract q) (1 / 2) with below | half | above
        · exact Or.inl (by linarith)
        · refine Or.inr ⟨by linarith, fun even => down (Or.inr ⟨half, ?_⟩)⟩
          omega
        · exact absurd (Or.inl above) down
    unfold nearest
    rw [floor]
    by_cases up : RoundsUp q
    · rw [if_pos up, if_neg fun turned => turns.mp turned up]
      omega
    · rw [if_neg up, if_pos (turns.mpr up)]
      omega

theorem abs_nearest (q : ℚ) : |nearest q| = nearest |q| := by
  rcases le_total 0 q with positive | negative
  · have bound : nearest ((0 : ℤ) : ℚ) ≤ nearest q := nearest_mono (by exact_mod_cast positive)
    rw [nearest_intCast] at bound
    rw [abs_of_nonneg positive, abs_of_nonneg bound]
  · have bound : nearest q ≤ nearest ((0 : ℤ) : ℚ) := nearest_mono (by exact_mod_cast negative)
    rw [nearest_intCast] at bound
    rw [abs_of_nonpos negative, abs_of_nonpos bound, nearest_neg]

/-- An even integer is reached half before it. -/
theorem le_nearest_iff {n : ℤ} (even : 2 ∣ n) (q : ℚ) : n ≤ nearest q ↔ n - 1 / 2 ≤ q := by
  constructor
  · intro reached
    have bound := nearest_le q
    have least : (n : ℚ) ≤ nearest q := by exact_mod_cast reached
    linarith
  · intro reached
    have floor : ⌊(n : ℚ) - 1 / 2⌋ = n - 1 := by
      rw [Int.floor_eq_iff]
      constructor <;> push_cast <;> linarith
    have up : RoundsUp ((n : ℚ) - 1 / 2) := by
      refine Or.inr ⟨?_, ?_⟩
      · have parts := Int.floor_add_fract ((n : ℚ) - 1 / 2)
        rw [floor] at parts
        push_cast at parts
        linarith
      · rw [floor]
        omega
    have bound := nearest_mono reached
    rw [nearest, if_pos up, floor] at bound
    omega

/-- The mantissa of a result at a scale. -/
def mantissa (scale : ℕ) (x : ℚ) : ℤ := nearest (x * 10 ^ scale)

theorem mantissa_mono {x y : ℚ} (less : x ≤ y) (scale : ℕ) : mantissa scale x ≤ mantissa scale y :=
  nearest_mono (mul_le_mul_of_nonneg_right less (by positivity))

theorem mantissa_neg (scale : ℕ) (x : ℚ) : mantissa scale (-x) = -mantissa scale x := by
  unfold mantissa
  rw [neg_mul, nearest_neg]

/-- A result rounded at a scale. -/
def roundAt (scale : ℕ) (x : ℚ) : ℚ := mantissa scale x / 10 ^ scale

/-- A number is kept at its own scale and every larger one. -/
theorem roundAt_number (m : ℤ) {scale larger : ℕ} (le : scale ≤ larger) :
    roundAt larger ((m : ℚ) / 10 ^ scale) = (m : ℚ) / 10 ^ scale := by
  have shifted : (m : ℚ) / 10 ^ scale * 10 ^ larger = ((m * 10 ^ (larger - scale) : ℤ) : ℚ) := by
    rw [← Nat.add_sub_cancel' le, pow_add]
    push_cast
    rw [Nat.add_sub_cancel_left]
    field_simp
  have exact : (10 : ℚ) ^ larger ≠ 0 := by positivity
  rw [roundAt, mantissa, shifted, nearest_intCast, ← shifted, mul_div_cancel_right₀ _ exact]

theorem roundAt_mono {x y : ℚ} (less : x ≤ y) (scale : ℕ) : roundAt scale x ≤ roundAt scale y :=
  div_le_div_of_nonneg_right (by exact_mod_cast mantissa_mono less scale) (by positivity)

theorem roundAt_neg (scale : ℕ) (x : ℚ) : roundAt scale (-x) = -roundAt scale x := by
  rw [roundAt, mantissa_neg, Int.cast_neg, neg_div, roundAt]

/-- A result rounded at the largest scale up to `scale` at which its mantissa is below the limit. -/
def fitAt (limit : ℕ) (x : ℚ) : ℕ → Option ℚ
  | 0 => if |mantissa 0 x| < limit then some (roundAt 0 x) else none
  | scale + 1 => if |mantissa (scale + 1) x| < limit then some (roundAt (scale + 1) x) else fitAt limit x scale

section
variable {limit : ℕ} {x y a b : ℚ} {scale : ℕ}

theorem fitAt_of_lt (less : |mantissa scale x| < limit) : fitAt limit x scale = some (roundAt scale x) := by
  cases scale with
  | zero => exact if_pos less
  | succ smaller => exact if_pos less

theorem fitAt_of_le (more : (limit : ℤ) ≤ |mantissa (scale + 1) x|) :
    fitAt limit x (scale + 1) = fitAt limit x scale := if_neg (not_lt.mpr more)

theorem fitAt_zero (more : (limit : ℤ) ≤ |mantissa 0 x|) : fitAt limit x 0 = none := if_neg (not_lt.mpr more)

theorem fitAt_neg (limit : ℕ) (x : ℚ) (scale : ℕ) : fitAt limit (-x) scale = (fitAt limit x scale).map (- ·) := by
  have same (scale : ℕ) : |mantissa scale (-x)| = |mantissa scale x| := by
    rw [mantissa_neg, abs_neg]
  induction scale with
  | zero =>
    unfold fitAt
    rw [same, roundAt_neg]
    split <;> rfl
  | succ scale ih =>
    unfold fitAt
    rw [same, roundAt_neg, ih]
    split <;> rfl

/-- A number with its mantissa below the limit is rounded to itself. -/
theorem fitAt_number {m : ℤ} {own : ℕ} (less : |m| < limit) (le : own ≤ scale) :
    fitAt limit ((m : ℚ) / 10 ^ own) scale = some ((m : ℚ) / 10 ^ own) := by
  have kept : |mantissa own ((m : ℚ) / 10 ^ own)| < limit := by
    rwa [mantissa, div_mul_cancel₀ _ (by positivity), nearest_intCast]
  induction scale, le using Nat.le_induction with
  | base => rw [fitAt_of_lt kept, roundAt_number m (le_refl own)]
  | succ scale le ih =>
    by_cases small : |mantissa (scale + 1) ((m : ℚ) / 10 ^ own)| < limit
    · rw [fitAt_of_lt small, roundAt_number m (le.trans (Nat.le_succ _))]
    · rw [fitAt_of_le (not_lt.mp small), ih]

/-- What a result is rounded to is a number. -/
theorem number_of_fitAt (fit : fitAt limit x scale = some a) :
    ∃ (m : ℤ) (own : ℕ), |m| < limit ∧ own ≤ scale ∧ a = (m : ℚ) / 10 ^ own := by
  induction scale with
  | zero =>
    by_cases less : |mantissa 0 x| < limit
    · rw [fitAt_of_lt less] at fit
      exact ⟨_, 0, less, le_refl _, (Option.some.inj fit).symm⟩
    · rw [fitAt_zero (not_lt.mp less)] at fit
      cases fit
  | succ scale ih =>
    by_cases less : |mantissa (scale + 1) x| < limit
    · rw [fitAt_of_lt less] at fit
      exact ⟨_, scale + 1, less, le_refl _, (Option.some.inj fit).symm⟩
    · rw [fitAt_of_le (not_lt.mp less)] at fit
      obtain ⟨m, own, small, le, shape⟩ := ih fit
      exact ⟨m, own, small, le.trans (Nat.le_succ _), shape⟩

theorem fitAt_idem (fit : fitAt limit x scale = some a) : fitAt limit a scale = some a := by
  obtain ⟨m, own, less, le, rfl⟩ := number_of_fitAt fit
  exact fitAt_number less le

end

/-- How large a mantissa may be and how far its scale goes. A number just below
the limit is not lost when a result just above it is rounded one scale down. -/
structure DecimalFormat where
  limit : ℕ
  maxScale : ℕ
  even : 2 ∣ limit
  positive : 0 < limit
  joint : ((limit : ℚ) - 1) / 10 ≤ nearest (((limit : ℚ) - 1 / 2) / 10)

namespace DecimalFormat

variable (format : DecimalFormat) {x y a b : ℚ} {scale : ℕ}

theorem le_mantissa_iff (scale : ℕ) (x : ℚ) :
    (format.limit : ℤ) ≤ mantissa scale x ↔ format.limit - 1 / 2 ≤ x * 10 ^ scale := by
  have even : (2 : ℤ) ∣ format.limit := by exact_mod_cast format.even
  have reached := le_nearest_iff even (x * 10 ^ scale)
  rwa [Int.cast_natCast] at reached

theorem mantissa_lt_iff (scale : ℕ) (x : ℚ) :
    |mantissa scale x| < format.limit ↔ |x| * 10 ^ scale < format.limit - 1 / 2 := by
  have magnitude : |mantissa scale x| = mantissa scale |x| := by
    rw [mantissa, abs_nearest, abs_mul, abs_of_pos (by positivity : (0 : ℚ) < 10 ^ scale), mantissa]
  rw [magnitude, ← not_le, format.le_mantissa_iff, not_le]

/-- A result is in range up to half before the limit. -/
theorem isSome_iff (x : ℚ) (scale : ℕ) :
    (fitAt format.limit x scale).isSome ↔ |x| < format.limit - 1 / 2 := by
  have whole : |mantissa 0 x| < format.limit ↔ |x| < format.limit - 1 / 2 := by
    rw [format.mantissa_lt_iff, pow_zero, mul_one]
  induction scale with
  | zero =>
    by_cases less : |mantissa 0 x| < format.limit
    · rw [fitAt_of_lt less]
      exact iff_of_true rfl (whole.mp less)
    · rw [fitAt_zero (not_lt.mp less), ← whole]
      exact iff_of_false Bool.false_ne_true less
  | succ scale ih =>
    by_cases less : |mantissa (scale + 1) x| < format.limit
    · have small := (format.mantissa_lt_iff (scale + 1) x).mp less
      have wider : |x| ≤ |x| * 10 ^ (scale + 1) :=
        le_mul_of_one_le_right (abs_nonneg x) (one_le_pow₀ (by norm_num))
      rw [fitAt_of_lt less]
      exact iff_of_true rfl (lt_of_le_of_lt wider small)
    · rw [fitAt_of_le (not_lt.mp less)]
      exact ih

/-- A result that passes the limit at a scale is rounded at the next to nothing
below the largest number of the first. -/
theorem largest_le_roundAt (more : (format.limit : ℤ) ≤ mantissa (scale + 1) y) :
    ((format.limit : ℚ) - 1) / 10 ^ (scale + 1) ≤ roundAt scale y := by
  have beyond : ((format.limit : ℚ) - 1 / 2) / 10 ≤ y * 10 ^ scale := by
    rw [div_le_iff₀ (by norm_num), mul_assoc, ← pow_succ]
    exact (format.le_mantissa_iff (scale + 1) y).mp more
  have rounded : ((format.limit : ℚ) - 1) / 10 ≤ mantissa scale y :=
    format.joint.trans (Int.cast_le.mpr (nearest_mono beyond))
  rw [pow_succ', ← div_div]
  exact div_le_div_of_nonneg_right rounded (by positivity)

theorem largest_le (more : (format.limit : ℤ) ≤ mantissa (scale + 1) y)
    (fit : fitAt format.limit y scale = some b) : ((format.limit : ℚ) - 1) / 10 ^ (scale + 1) ≤ b := by
  have positive : 0 ≤ y := by
    have reached := (format.le_mantissa_iff (scale + 1) y).mp more
    have least : (1 : ℚ) ≤ format.limit := by exact_mod_cast format.positive
    exact nonneg_of_mul_nonneg_left (by linarith) (by positivity : (0 : ℚ) < 10 ^ (scale + 1))
  induction scale with
  | zero =>
    by_cases less : |mantissa 0 y| < format.limit
    · rw [fitAt_of_lt less] at fit
      rw [← Option.some.inj fit]
      exact format.largest_le_roundAt more
    · rw [fitAt_zero (not_lt.mp less)] at fit
      cases fit
  | succ scale ih =>
    by_cases less : |mantissa (scale + 1) y| < format.limit
    · rw [fitAt_of_lt less] at fit
      rw [← Option.some.inj fit]
      exact format.largest_le_roundAt more
    · rw [fitAt_of_le (not_lt.mp less)] at fit
      have reached : (format.limit : ℤ) ≤ mantissa (scale + 1) y := by
        rw [format.mantissa_lt_iff, abs_of_nonneg positive, not_lt] at less
        exact (format.le_mantissa_iff _ _).mpr less
      have smaller : ((format.limit : ℚ) - 1) / 10 ^ (scale + 1 + 1) ≤ (format.limit - 1) / 10 ^ (scale + 1) := by
        have least : (1 : ℚ) ≤ format.limit := by exact_mod_cast format.positive
        exact div_le_div_of_nonneg_left (by linarith) (by positivity) (pow_le_pow_right₀ (by norm_num) (Nat.le_succ _))
      exact smaller.trans (ih reached fit)

/-- A result that keeps its mantissa below the limit is rounded to no more than the largest number. -/
theorem roundAt_le_largest (less : |mantissa scale x| < format.limit) :
    roundAt scale x ≤ ((format.limit : ℚ) - 1) / 10 ^ scale := by
  have below : mantissa scale x ≤ (format.limit : ℤ) - 1 := by
    have bound := lt_of_le_of_lt (le_abs_self _) less
    omega
  exact div_le_div_of_nonneg_right (by exact_mod_cast below) (by positivity)

/-- Rounding keeps the order of two results where the larger result has the smaller scale. -/
theorem mono_of_passes (less : x ≤ y) (kept : |mantissa (scale + 1) x| < format.limit)
    (passed : (format.limit : ℤ) ≤ |mantissa (scale + 1) y|) (fit : fitAt format.limit y scale = some b) :
    roundAt (scale + 1) x ≤ b := by
  refine (format.roundAt_le_largest kept).trans (format.largest_le ?_ fit)
  have order := mantissa_mono less (scale + 1)
  have bound := neg_abs_le (mantissa (scale + 1) x)
  rcases le_abs.mp passed with above | below
  · exact above
  · omega

theorem fitAt_mono (less : x ≤ y) (left : fitAt format.limit x scale = some a)
    (right : fitAt format.limit y scale = some b) : a ≤ b := by
  induction scale with
  | zero =>
    by_cases one : |mantissa 0 x| < format.limit
    · by_cases other : |mantissa 0 y| < format.limit
      · rw [fitAt_of_lt one] at left
        rw [fitAt_of_lt other] at right
        rw [← Option.some.inj left, ← Option.some.inj right]
        exact roundAt_mono less 0
      · rw [fitAt_zero (not_lt.mp other)] at right
        cases right
    · rw [fitAt_zero (not_lt.mp one)] at left
      cases left
  | succ scale ih =>
    by_cases one : |mantissa (scale + 1) x| < format.limit <;>
      by_cases other : |mantissa (scale + 1) y| < format.limit
    · rw [fitAt_of_lt one] at left
      rw [fitAt_of_lt other] at right
      rw [← Option.some.inj left, ← Option.some.inj right]
      exact roundAt_mono less _
    · rw [fitAt_of_lt one] at left
      rw [fitAt_of_le (not_lt.mp other)] at right
      rw [← Option.some.inj left]
      exact format.mono_of_passes less one (not_lt.mp other) right
    · -- below zero the smaller result has the smaller scale
      rw [fitAt_of_le (not_lt.mp one)] at left
      rw [fitAt_of_lt other] at right
      rw [← Option.some.inj right]
      have turned : fitAt format.limit (-x) scale = some (-a) := by
        rw [fitAt_neg, left]
        rfl
      have order := format.mono_of_passes (neg_le_neg less) (by rwa [mantissa_neg, abs_neg])
        (by rw [mantissa_neg, abs_neg]; exact not_lt.mp one) turned
      rw [roundAt_neg] at order
      exact neg_le_neg_iff.mp order
    · rw [fitAt_of_le (not_lt.mp one)] at left
      rw [fitAt_of_le (not_lt.mp other)] at right
      exact ih left right

/-- The rounding of a format. -/
def rounding : Rounding ℚ where
  fit x := fitAt format.limit x format.maxScale
  zero := by
    have small : |(0 : ℤ)| < format.limit := by
      rw [abs_zero]
      exact_mod_cast format.positive
    have number := fitAt_number small (Nat.zero_le format.maxScale)
    rwa [Int.cast_zero, zero_div] at number
  mono := format.fitAt_mono
  idem := fitAt_idem
  inward closer fit := by
    have some := (format.isSome_iff _ _).mp (Option.isSome_iff_exists.mpr ⟨_, fit⟩)
    exact Option.isSome_iff_exists.mp ((format.isSome_iff _ _).mpr (lt_of_le_of_lt closer some))

theorem fits_iff (x : ℚ) : format.rounding.Fits x ↔ |x| < format.limit - 1 / 2 := format.isSome_iff x _

end DecimalFormat

/-- `rust_decimal`: mantissas of 96 bits, scales up to 28. -/
def rustDecimal : DecimalFormat where
  limit := 2 ^ 96
  maxScale := 28
  even := by decide
  positive := by decide
  joint := by decide +kernel

example : rustDecimal.rounding.fit (2 / 3) = some (6666666666666666666666666667 / 10 ^ 28) := by decide +kernel

end FeynmanEngine.DecimalFormats
