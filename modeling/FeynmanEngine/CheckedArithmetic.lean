import Mathlib.Algebra.Order.Field.Basic
import Mathlib.Data.Option.Basic
import Mathlib.Tactic.Linarith

/-! Arithmetic that may fail. A number type with finitely many values rounds the
exact result of every operation to one of them and fails where there is none; a
division by zero fails too. Programs are written over any arithmetic: over the
checked one they may stop, over the rounded one they run on, and what lies
between is the condition under which every result is in range. -/
namespace FeynmanEngine.CheckedArithmetic

/-- A computation that returns `value` where `within` holds and fails elsewhere. -/
structure Computes {Value : Type} (computed : Option Value) (within : Prop) (value : Value) : Prop where
  returns : within → computed = some value
  fails : ¬ within → computed = none

namespace Computes

variable {Value Next : Type} {computed other : Option Value} {within more : Prop} {value another : Value}

theorem pure (value : Value) : Computes (Pure.pure value) True value :=
  ⟨fun _ => rfl, fun never => absurd trivial never⟩

theorem isSome_iff (computes : Computes computed within value) : computed.isSome ↔ within := by
  by_cases holds : within
  · simp [computes.returns holds, holds]
  · simp [computes.fails holds, holds]

theorem congr (computes : Computes computed within value) (same : within ↔ more) : Computes computed more value :=
  ⟨fun holds => computes.returns (same.mpr holds), fun fails => computes.fails fun holds => fails (same.mp holds)⟩

/-- A computation that goes on only after success is within range if both parts are. -/
theorem bind {rest : Value → Option Next} {result : Next} (computes : Computes computed within value)
    (goesOn : within → Computes (rest value) more result) : Computes (computed >>= rest) (within ∧ more) result := by
  by_cases holds : within
  · have next := goesOn holds
    rw [computes.returns holds]
    exact ⟨fun both => next.returns both.2, fun fails => next.fails fun after => fails ⟨holds, after⟩⟩
  · rw [computes.fails holds]
    exact ⟨fun both => absurd both.1 holds, fun _ => rfl⟩

theorem ite {condition : Prop} [Decidable condition] (positive : condition → Computes computed within value)
    (negative : ¬ condition → Computes other more another) :
    Computes (if condition then computed else other) (if condition then within else more)
      (if condition then value else another) := by
  split
  · next holds => exact positive holds
  · next fails => exact negative fails

/-- An early return is always in range. -/
theorem unless_returned {condition : Prop} [Decidable condition] (early : Value)
    (rest : ¬ condition → Computes computed within value) :
    Computes (if condition then Pure.pure early else computed) (¬ condition → within)
      (if condition then early else value) := by
  split
  · next holds => exact (pure early).congr (iff_of_true trivial fun fails => absurd holds fails)
  · next fails => exact (rest fails).congr ⟨fun kept _ => kept, fun kept => kept fails⟩

theorem when_reached {condition : Prop} [Decidable condition] (otherwise : Value)
    (reached : condition → Computes computed within value) :
    Computes (if condition then computed else Pure.pure otherwise) (condition → within)
      (if condition then value else otherwise) := by
  split
  · next holds => exact (reached holds).congr ⟨fun kept _ => kept, fun kept => kept holds⟩
  · next fails => exact (pure otherwise).congr (iff_of_true trivial fun holds => absurd holds fails)

end Computes

/-- How exact results become numbers of a type: in order, leaving its numbers
alone, and for every result closer to zero than one it takes. -/
structure Rounding (α : Type) [Field α] [LinearOrder α] [IsStrictOrderedRing α] where
  fit : α → Option α
  zero : fit 0 = some 0
  mono : ∀ {x y a b : α}, x ≤ y → fit x = some a → fit y = some b → a ≤ b
  idem : ∀ {x a : α}, fit x = some a → fit a = some a
  inward : ∀ {x y b : α}, |x| ≤ |y| → fit y = some b → ∃ a, fit x = some a

namespace Rounding

variable {α : Type} [Field α] [LinearOrder α] [IsStrictOrderedRing α] (rounding : Rounding α) {x y : α}

/-- The exact result is in range. -/
def Fits (x : α) : Prop := (rounding.fit x).isSome

instance (x : α) : Decidable (rounding.Fits x) := inferInstanceAs (Decidable ((rounding.fit x).isSome = true))

/-- The number an exact result is rounded to. -/
def round (x : α) : α := (rounding.fit x).getD x

theorem fit_computes (x : α) : Computes (rounding.fit x) (rounding.Fits x) (rounding.round x) := by
  unfold Fits round
  cases rounding.fit x with
  | none => exact ⟨fun never => absurd never Bool.false_ne_true, fun _ => rfl⟩
  | some a => exact ⟨fun _ => rfl, fun never => absurd rfl never⟩

variable {rounding}

theorem fit_of_fits (fits : rounding.Fits x) : rounding.fit x = some (rounding.round x) :=
  (rounding.fit_computes x).returns fits

theorem fits_round (fits : rounding.Fits x) : rounding.Fits (rounding.round x) := by
  rw [Fits, rounding.idem (fit_of_fits fits)]
  rfl

theorem Fits.inward (fits : rounding.Fits y) (closer : |x| ≤ |y|) : rounding.Fits x := by
  obtain ⟨a, fit⟩ := rounding.inward closer (fit_of_fits fits)
  rw [Fits, fit]
  rfl

theorem fits_neg : rounding.Fits (-x) ↔ rounding.Fits x :=
  ⟨fun fits => fits.inward (abs_neg x).ge, fun fits => fits.inward (abs_neg x).le⟩

/-- Between zero and a number in range everything is. -/
theorem Fits.between (fits : rounding.Fits y) (positive : 0 ≤ x) (less : x ≤ y) : rounding.Fits x :=
  fits.inward (by rwa [abs_of_nonneg positive, abs_of_nonneg (positive.trans less)])

theorem round_nonneg (positive : 0 ≤ x) (fits : rounding.Fits x) : 0 ≤ rounding.round x :=
  rounding.mono positive rounding.zero (fit_of_fits fits)

/-- A number below a rounded result is below the exact one. -/
theorem lt_of_lt_round (number : rounding.fit x = some x) (fits : rounding.Fits y)
    (less : x < rounding.round y) : x < y := by
  by_contra above
  exact absurd less (not_lt_of_ge (rounding.mono (not_lt.mp above) (fit_of_fits fits) number))

/-- Half of a number is in range. -/
theorem fits_half (fits : rounding.Fits x) : rounding.Fits (rounding.round x / 2) := by
  refine (fits_round fits).inward ?_
  rw [abs_div, abs_two]
  exact half_le_self (abs_nonneg _)

/-- The quantity at which a product comes down to a number below it is in range. -/
theorem fits_quotient {cap size unit : α} (number : rounding.fit cap = some cap) (held : 0 ≤ cap) (positive : 0 < unit)
    (sized : rounding.Fits size) (product : rounding.Fits (size * unit))
    (exceeds : cap < rounding.round (size * unit)) :
    rounding.Fits (cap / unit) := by
  have less : cap < size * unit := lt_of_lt_round number product exceeds
  exact sized.between (div_nonneg held positive.le) ((div_lt_iff₀ positive).mpr less).le

/-- A part of a number that is not negative is in range. -/
theorem fits_part {part : α} (fits : rounding.Fits x) (held : 0 ≤ x) (least : 0 ≤ part) (most : part ≤ 1) :
    rounding.Fits (x * part) :=
  fits.between (mul_nonneg held least) (mul_le_of_le_one_right held most)

end Rounding

/-- The operations of a program on its numbers and on its machine counters, in
whatever they run in. -/
structure Arithmetic (m : Type → Type) (α : Type) where
  add : α → α → m α
  sub : α → α → m α
  mul : α → α → m α
  div : α → α → m α
  addCount : Nat → Nat → m Nat

/-- Numbers added up from zero. -/
def Arithmetic.sum {m : Type → Type} [Monad m] {α : Type} [Zero α] (arith : Arithmetic m α) (xs : List α) : m α :=
  xs.foldlM arith.add 0

section
variable {α : Type} [Field α] [LinearOrder α] [IsStrictOrderedRing α]

/-- Every operation as it is on paper. -/
def Arithmetic.exact : Arithmetic Id α := ⟨(· + ·), (· - ·), (· * ·), (· / ·), (· + ·)⟩

namespace Rounding
variable (rounding : Rounding α) (bound : Nat)

/-- Results out of range and divisions by zero fail; so do counters at `bound`. -/
def checked : Arithmetic Option α where
  add x y := rounding.fit (x + y)
  sub x y := rounding.fit (x - y)
  mul x y := rounding.fit (x * y)
  div x y := if y = 0 then none else rounding.fit (x / y)
  addCount left right := if left + right < bound then some (left + right) else none

/-- The same results without a failure. -/
def rounded : Arithmetic Id α where
  add x y := rounding.round (x + y)
  sub x y := rounding.round (x - y)
  mul x y := rounding.round (x * y)
  div x y := rounding.round (x / y)
  addCount left right := left + right

variable (x y : α)

theorem add_computes : Computes ((rounding.checked bound).add x y) (rounding.Fits (x + y)) (rounding.rounded.add x y) :=
  rounding.fit_computes (x + y)

theorem sub_computes : Computes ((rounding.checked bound).sub x y) (rounding.Fits (x - y)) (rounding.rounded.sub x y) :=
  rounding.fit_computes (x - y)

theorem mul_computes : Computes ((rounding.checked bound).mul x y) (rounding.Fits (x * y)) (rounding.rounded.mul x y) :=
  rounding.fit_computes (x * y)

variable {y} in
theorem div_computes (nonzero : y ≠ 0) :
    Computes ((rounding.checked bound).div x y) (rounding.Fits (x / y)) (rounding.rounded.div x y) := by
  show Computes (if y = 0 then none else rounding.fit (x / y)) _ _
  rw [if_neg nonzero]
  exact rounding.fit_computes (x / y)

theorem addCount_computes (left right : Nat) : Computes ((rounding.checked bound).addCount left right)
    (left + right < bound) (rounding.rounded.addCount left right) :=
  ⟨fun less => if_pos less, fun more => if_neg more⟩

/-- Every sum on the way from `start` is in range. -/
def SumFits : α → List α → Prop
  | _, [] => True
  | start, x :: xs => rounding.Fits (start + x) ∧ SumFits (rounding.round (start + x)) xs

theorem foldlM_computes (xs : List α) (start : α) :
    Computes (xs.foldlM (rounding.checked bound).add start) (rounding.SumFits start xs)
      (xs.foldl (fun total x => rounding.round (total + x)) start) := by
  induction xs generalizing start with
  | nil => exact .pure start
  | cons x xs ih => exact (rounding.add_computes bound start x).bind fun _ => ih _

end Rounding
end

end FeynmanEngine.CheckedArithmetic
