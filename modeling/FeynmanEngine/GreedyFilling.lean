import Mathlib.Algebra.Order.BigOperators.Group.List
import Mathlib.Algebra.Order.Ring.Defs
import Mathlib.Data.List.Forall2
import Mathlib.Tactic.Linarith
import Mathlib.Tactic.Ring

/-! Filling a need from a list of supplies, each as far as it goes, up to the
first one that is not allowed. When the cheapest supplies come first, no other
way to take as much from them costs less. -/
namespace FeynmanEngine.GreedyFilling

variable {Supply K : Type} [CommRing K] (size price : Supply → K) (allowed : Supply → Bool)

/-- A way to take something: one part for each supply, none larger than it. -/
def Takes [LinearOrder K] (supplies : List Supply) (parts : List K) : Prop :=
  List.Forall₂ (fun supply part => 0 ≤ part ∧ part ≤ size supply) supplies parts

/-- What the parts cost at the prices of their supplies. -/
def spent (supplies : List Supply) (parts : List K) : K :=
  (List.zipWith (fun supply part => part * price supply) supplies parts).sum

/-- No part of any supply. -/
def nothing (supplies : List Supply) : List K := supplies.map fun _ => 0

/-- As much as needed from each supply in turn, nothing from the first refused one on. -/
def greedy [LinearOrder K] (needed : K) : List Supply → List K
  | [] => []
  | supply :: rest =>
    if allowed supply then
      min needed (size supply) :: greedy (needed - min needed (size supply)) rest
    else nothing (supply :: rest)

/-- What the supplies before the first refused one hold. -/
def within (supplies : List Supply) : K := ((supplies.takeWhile allowed).map size).sum

@[simp] theorem spent_cons (supply : Supply) (supplies : List Supply) (part : K) (parts : List K) :
    spent price (supply :: supplies) (part :: parts) = part * price supply + spent price supplies parts := by
  simp [spent]

@[simp] theorem nothing_cons (supply : Supply) (supplies : List Supply) :
    (nothing (supply :: supplies) : List K) = 0 :: nothing supplies := rfl

@[simp] theorem nothing_sum (supplies : List Supply) : (nothing supplies : List K).sum = 0 := by
  induction supplies with
  | nil => rfl
  | cons supply rest ih => simpa using ih

@[simp] theorem spent_nothing (supplies : List Supply) : spent price supplies (nothing supplies) = 0 := by
  induction supplies with
  | nil => rfl
  | cons supply rest ih => simpa using ih

theorem spent_neg (supplies : List Supply) (parts : List K) :
    spent (fun supply => -price supply) supplies parts = -spent price supplies parts := by
  induction supplies generalizing parts with
  | nil => simp [spent]
  | cons supply rest ih =>
    cases parts with
    | nil => simp [spent]
    | cons part parts =>
      rw [spent_cons, spent_cons, ih]
      ring

omit [CommRing K] in
/-- On supplies whose refusals come last, the allowed ones are those before the first refusal. -/
theorem takeWhile_eq_filter {supplies : List Supply} (closed : supplies.Pairwise fun earlier later =>
    allowed later = true → allowed earlier = true) : supplies.takeWhile allowed = supplies.filter allowed := by
  induction supplies with
  | nil => rfl
  | cons supply rest ih =>
    obtain ⟨first, closed⟩ := List.pairwise_cons.mp closed
    cases allows : allowed supply with
    | true => simp [allows, ih closed]
    | false =>
      have none : rest.filter allowed = [] := by
        apply List.filter_eq_nil_iff.mpr
        intro later member permitted
        rw [first later member permitted] at allows
        cases allows
      simp [allows, none]

variable {size price allowed} [LinearOrder K]

/-- Nothing needed, nothing taken. -/
theorem greedy_zero (sizes : ∀ supply ∈ supplies, 0 ≤ size supply) :
    greedy size allowed 0 supplies = nothing supplies := by
  induction supplies with
  | nil => rfl
  | cons supply rest ih =>
    have head : min 0 (size supply) = 0 := min_eq_left (sizes supply List.mem_cons_self)
    have tail := ih fun later member => sizes later (List.mem_cons_of_mem _ member)
    simp [greedy, head, tail]

theorem takes_nothing (sizes : ∀ supply ∈ supplies, 0 ≤ size supply) :
    Takes size supplies (nothing supplies) := by
  unfold Takes nothing
  rw [List.forall₂_map_right_iff, List.forall₂_same]
  exact fun supply member => ⟨le_refl _, sizes supply member⟩

/-- A part that is not empty comes from an allowed supply. -/
theorem greedy_allowed (needed : K) (supplies : List Supply) :
    List.Forall₂ (fun supply part => part ≠ 0 → allowed supply = true) supplies
      (greedy size allowed needed supplies) := by
  induction supplies generalizing needed with
  | nil => exact .nil
  | cons supply rest ih =>
    unfold greedy
    split
    · rename_i allows
      exact .cons (fun _ => allows) (ih _)
    · unfold nothing
      rw [List.forall₂_map_right_iff, List.forall₂_same]
      exact fun _ _ some => absurd rfl some

variable [IsStrictOrderedRing K]

theorem within_nonneg (sizes : ∀ supply ∈ supplies, 0 ≤ size supply) :
    0 ≤ within size allowed supplies := by
  apply List.sum_nonneg
  intro amount member
  obtain ⟨supply, taken, rfl⟩ := List.mem_map.mp member
  exact sizes supply (List.takeWhile_subset _ taken)

theorem takes_greedy (sizes : ∀ supply ∈ supplies, 0 ≤ size supply) (wanted : 0 ≤ needed) :
    Takes size supplies (greedy size allowed needed supplies) := by
  induction supplies generalizing needed with
  | nil => exact .nil
  | cons supply rest ih =>
    have head := sizes supply List.mem_cons_self
    unfold greedy
    split
    · refine .cons ⟨le_min wanted head, min_le_right _ _⟩ (ih ?_ (sub_nonneg.mpr (min_le_left _ _)))
      exact fun later member => sizes later (List.mem_cons_of_mem _ member)
    · exact takes_nothing sizes

/-- The need is met as far as the allowed supplies go. -/
theorem greedy_sum (sizes : ∀ supply ∈ supplies, 0 ≤ size supply) (wanted : 0 ≤ needed) :
    (greedy size allowed needed supplies).sum = min needed (within size allowed supplies) := by
  induction supplies generalizing needed with
  | nil => simp [greedy, within, wanted]
  | cons supply rest ih =>
    have head := sizes supply List.mem_cons_self
    have tail : ∀ later ∈ rest, 0 ≤ size later := fun later member => sizes later (List.mem_cons_of_mem _ member)
    have left : 0 ≤ within size allowed rest := within_nonneg tail
    unfold greedy
    split
    · rename_i allows
      have total : within size allowed (supply :: rest) = size supply + within size allowed rest := by
        simp [within, allows]
      rw [List.sum_cons, ih tail (sub_nonneg.mpr (min_le_left _ _)), total]
      rcases le_total needed (size supply) with enough | short
      · rw [min_eq_left enough, sub_self, min_eq_left left, add_zero, min_eq_left (by linarith)]
      · rw [min_eq_right short, ← min_add_add_left, add_sub_cancel]
    · rename_i refuses
      simp [within, refuses, wanted]

/-- Parts cost at least the lowest price for each unit. -/
theorem mul_sum_le_spent (takes : Takes size supplies parts) (floor : ∀ supply ∈ supplies, low ≤ price supply) :
    low * parts.sum ≤ spent price supplies parts := by
  induction takes with
  | nil => simp [spent]
  | @cons supply part rest parts taken _ ih =>
    have head := mul_le_mul_of_nonneg_left (floor supply List.mem_cons_self) taken.1
    have tail := ih fun later member => floor later (List.mem_cons_of_mem _ member)
    rw [List.sum_cons, spent_cons, mul_add, mul_comm low]
    exact add_le_add head tail

/-- Any way that takes at least as much as the greedy one pays the lowest price
or more for what it takes beyond, and no less for the rest. -/
theorem spent_greedy_add_le (sizes : ∀ supply ∈ supplies, 0 ≤ size supply) (wanted : 0 ≤ needed)
    (sorted : supplies.Pairwise fun earlier later => price earlier ≤ price later)
    (floor : ∀ supply ∈ supplies, low ≤ price supply) (takes : Takes size supplies parts)
    (enough : (greedy size allowed needed supplies).sum ≤ parts.sum) :
    spent price supplies (greedy size allowed needed supplies) +
      low * (parts.sum - (greedy size allowed needed supplies).sum) ≤ spent price supplies parts := by
  induction takes generalizing needed low with
  | nil => simp [greedy, spent]
  | @cons supply part rest parts taken tail ih =>
    have sizes' : ∀ later ∈ rest, 0 ≤ size later := fun later member => sizes later (List.mem_cons_of_mem _ member)
    obtain ⟨first, sorted'⟩ := List.pairwise_cons.mp sorted
    have lowest : low ≤ price supply := floor supply List.mem_cons_self
    -- what is taken beyond the greedy parts costs at least the first price
    have beyond (greedySum : K) (more : greedySum ≤ part + parts.sum) :
        low * (part + parts.sum - greedySum) ≤ price supply * (part + parts.sum - greedySum) :=
      mul_le_mul_of_nonneg_right lowest (sub_nonneg.mpr more)
    unfold greedy at enough ⊢
    split
    · rename_i allows
      simp only [allows, if_true, List.sum_cons] at enough ⊢
      rw [spent_cons, spent_cons]
      have extra := beyond _ enough
      rcases le_total needed (size supply) with filled | short
      · have rest' := mul_sum_le_spent tail first
        simp only [min_eq_left filled, sub_self, greedy_zero sizes', spent_nothing, nothing_sum,
          add_zero] at extra ⊢
        linarith [mul_comm (price supply) part, mul_comm (price supply) needed,
          mul_sub (price supply) (part + parts.sum) needed, mul_add (price supply) part parts.sum]
      · simp only [min_eq_right short] at enough extra ⊢
        have rest' := ih sizes' (sub_nonneg.mpr short) sorted' first (by linarith [taken.2])
        linarith [taken.2]
    · rename_i refuses
      have rest' := mul_sum_le_spent (.cons taken tail) floor
      simpa [refuses] using rest'

/-- **The greedy way is cheapest** among all ways to take as much. -/
theorem spent_greedy_le (sizes : ∀ supply ∈ supplies, 0 ≤ size supply) (wanted : 0 ≤ needed)
    (sorted : supplies.Pairwise fun earlier later => price earlier ≤ price later)
    (takes : Takes size supplies parts) (same : parts.sum = (greedy size allowed needed supplies).sum) :
    spent price supplies (greedy size allowed needed supplies) ≤ spent price supplies parts := by
  cases supplies with
  | nil => simp [spent]
  | cons supply rest =>
    have floor : ∀ later ∈ supply :: rest, price supply ≤ price later := by
      intro later member
      rcases List.mem_cons.mp member with rfl | later'
      · exact le_refl _
      · exact (List.pairwise_cons.mp sorted).1 later later'
    have bound := spent_greedy_add_le sizes wanted sorted floor takes same.ge
    rwa [same, sub_self, mul_zero, add_zero] at bound

end FeynmanEngine.GreedyFilling
