import Mathlib.Algebra.Order.Group.MinMax
import Mathlib.Data.Finset.Max
import FeynmanEngine.GreedyFilling

/-! Supplies seen as a curve: how much there is up to each price. Paying any one
price for the whole amount costs no more than the amount taken and the surplus of
the cheaper supplies together, and for the greedy way some price attains it. So
the mean price rises with the amount, and falls when there is more at every price. -/
namespace FeynmanEngine.SupplyCurves
open GreedyFilling

variable {Supply K : Type} [CommRing K] [LinearOrder K] (size price : Supply → K)

/-- What there is at prices up to `level`. -/
def depth (level : K) (supplies : List Supply) : K :=
  ((supplies.filter fun supply => price supply ≤ level).map size).sum

/-- What the supplies are worth at `level` beyond their own prices. -/
def surplus (level : K) (supplies : List Supply) : K :=
  (supplies.map fun supply => max (level - price supply) 0 * size supply).sum

/-- What an amount costs, taken where it is cheapest. -/
def outlay (needed : K) (supplies : List Supply) : K :=
  spent price supplies (greedy size (fun _ => true) needed supplies)

variable {size price}

@[simp] theorem surplus_cons (level : K) (supply : Supply) (supplies : List Supply) :
    surplus size price level (supply :: supplies) =
      max (level - price supply) 0 * size supply + surplus size price level supplies := by
  simp [surplus]

theorem depth_cons_of_le {supply : Supply} (within : price supply ≤ level) (supplies : List Supply) :
    depth size price level (supply :: supplies) = size supply + depth size price level supplies := by
  simp [depth, within]

theorem depth_cons_of_lt {supply : Supply} (beyond : level < price supply) (supplies : List Supply) :
    depth size price level (supply :: supplies) = depth size price level supplies := by
  simp [depth, not_le.mpr beyond]

variable [IsStrictOrderedRing K]

/-- An amount there is enough of is taken whole. -/
theorem sum_greedy_of_le (sizes : ∀ supply ∈ supplies, 0 ≤ size supply) (wanted : 0 ≤ needed)
    (enough : needed ≤ (supplies.map size).sum) : (greedy size (fun _ => true) needed supplies).sum = needed := by
  have pairs : supplies.Pairwise fun _ _ => true = true → true = true :=
    List.pairwise_of_forall fun _ _ => id
  rw [greedy_sum sizes wanted, within, takeWhile_eq_filter (fun _ => true) pairs, List.filter_true,
    min_eq_left enough]

theorem surplus_nonneg (level : K) (sizes : ∀ supply ∈ supplies, 0 ≤ size supply) :
    0 ≤ surplus size price level supplies := by
  apply List.sum_nonneg
  intro amount member
  obtain ⟨supply, own, rfl⟩ := List.mem_map.mp member
  exact mul_nonneg (le_max_right _ _) (sizes supply own)

/-- Nothing below the level, no surplus. -/
theorem surplus_eq_zero (above : ∀ supply ∈ supplies, level ≤ price supply) :
    surplus size price level supplies = 0 := by
  induction supplies with
  | nil => rfl
  | cons supply rest ih =>
    rw [surplus_cons, ih fun later member => above later (List.mem_cons_of_mem _ member),
      max_eq_right (sub_nonpos.mpr (above supply List.mem_cons_self)), zero_mul, add_zero]

/-- Beyond what there is, no more is taken. -/
theorem greedy_min_total (sizes : ∀ supply ∈ supplies, 0 ≤ size supply) (wanted : 0 ≤ needed) :
    greedy size (fun _ => true) (min needed (supplies.map size).sum) supplies =
      greedy size (fun _ => true) needed supplies := by
  induction supplies generalizing needed with
  | nil => rfl
  | cons supply rest ih =>
    have sizes' : ∀ later ∈ rest, 0 ≤ size later := fun later member => sizes later (List.mem_cons_of_mem _ member)
    have left : 0 ≤ (rest.map size).sum := by
      apply List.sum_nonneg
      intro amount member
      obtain ⟨later, own, rfl⟩ := List.mem_map.mp member
      exact sizes' later own
    have head : min (min needed (size supply + (rest.map size).sum)) (size supply) = min needed (size supply) := by
      rw [min_assoc, min_eq_right (le_add_of_nonneg_right left)]
    rw [List.map_cons, List.sum_cons, greedy, if_pos rfl, greedy, if_pos rfl, head]
    congr 1
    rcases le_total needed (size supply) with filled | short
    · rw [min_eq_left filled, min_eq_left (filled.trans (le_add_of_nonneg_right left))]
    · rw [min_eq_right short, ← min_sub_sub_right, add_sub_cancel_left, ih sizes' (sub_nonneg.mpr short)]

/-- However something is taken, one price for all of it is covered by what it
costs and the surplus at that price. -/
theorem mul_sum_le_spent_add_surplus (level : K) (takes : Takes size supplies parts) :
    level * parts.sum ≤ spent price supplies parts + surplus size price level supplies := by
  induction takes with
  | nil => simp [spent, surplus]
  | @cons supply part rest parts taken _ ih =>
    have gain : (level - price supply) * part ≤ max (level - price supply) 0 * size supply :=
      mul_le_mul (le_max_left _ _) taken.2 taken.1 (le_max_right _ _)
    rw [List.sum_cons, spent_cons, surplus_cons]
    linarith [mul_add level part parts.sum, sub_mul level (price supply) part, mul_comm (price supply) part]

/-- For the greedy way some price is covered exactly. -/
theorem exists_level_outlay (sizes : ∀ supply ∈ supplies, 0 ≤ size supply)
    (sorted : supplies.Pairwise fun earlier later => price earlier ≤ price later)
    (floor : ∀ supply ∈ supplies, low ≤ price supply) (wanted : 0 ≤ needed)
    (enough : needed ≤ (supplies.map size).sum) :
    ∃ level, low ≤ level ∧
      outlay size price needed supplies + surplus size price level supplies = level * needed := by
  induction supplies generalizing needed low with
  | nil =>
    have none : needed = 0 := le_antisymm enough wanted
    exact ⟨low, le_refl _, by simp [outlay, greedy, spent, surplus, none]⟩
  | cons supply rest ih =>
    obtain ⟨first, sorted⟩ := List.pairwise_cons.mp sorted
    have sizes' : ∀ later ∈ rest, 0 ≤ size later := fun later member => sizes later (List.mem_cons_of_mem _ member)
    rcases le_or_gt needed (size supply) with filled | short
    · -- the first supply is enough, and its price is the level
      refine ⟨price supply, floor supply List.mem_cons_self, ?_⟩
      rw [outlay, greedy, if_pos rfl, min_eq_left filled, sub_self, greedy_zero sizes', spent_cons, spent_nothing,
        surplus_cons, surplus_eq_zero first, sub_self, max_self]
      ring
    · rw [List.map_cons, List.sum_cons] at enough
      obtain ⟨level, above, exact⟩ := ih sizes' sorted first (sub_nonneg.mpr short.le) (by linarith)
      refine ⟨level, (floor supply List.mem_cons_self).trans above, ?_⟩
      rw [outlay] at exact ⊢
      rw [greedy, if_pos rfl, min_eq_right short.le, spent_cons, surplus_cons, max_eq_left (sub_nonneg.mpr above)]
      linarith [mul_sub level needed (size supply), sub_mul level (price supply) (size supply),
        mul_comm (price supply) (size supply)]

omit [IsStrictOrderedRing K] in
/-- Refused supplies cost nothing and give nothing. -/
theorem spent_greedy_takeWhile (allowed : Supply → Bool) (needed : K) (supplies : List Supply) :
    spent price supplies (greedy size allowed needed supplies) =
      outlay size price needed (supplies.takeWhile allowed) := by
  unfold outlay
  induction supplies generalizing needed with
  | nil => rfl
  | cons supply rest ih =>
    cases allows : allowed supply with
    | true => simp [greedy, allows, ih]
    | false => simp [greedy, allows, show spent price [] ([] : List K) = 0 from rfl]

/-- Between two prices with no supply between them, the surplus grows by what there is up to the lower. -/
theorem surplus_of_gap (up : low ≤ level) (gap : ∀ supply ∈ supplies, price supply ≤ low ∨ level ≤ price supply) :
    surplus size price level supplies =
      surplus size price low supplies + (level - low) * depth size price low supplies := by
  induction supplies with
  | nil => simp [surplus, depth]
  | cons supply rest ih =>
    have rest' := ih fun later member => gap later (List.mem_cons_of_mem _ member)
    rw [surplus_cons, surplus_cons, rest']
    rcases le_or_gt (price supply) low with within | beyond
    · rw [depth_cons_of_le within, max_eq_left (sub_nonneg.mpr (within.trans up)),
        max_eq_left (sub_nonneg.mpr within)]
      ring
    · have above : level ≤ price supply :=
        (gap supply List.mem_cons_self).resolve_left (not_le.mpr beyond)
      rw [depth_cons_of_lt beyond, max_eq_right (sub_nonpos.mpr above), max_eq_right (sub_nonpos.mpr beyond.le)]
      ring

/-- Where there is more at every price, there is more surplus at every price. -/
theorem surplus_mono (deeper : ∀ level, depth size price level supplies ≤ depth size price level others)
    (level : K) : surplus size price level supplies ≤ surplus size price level others := by
  -- by the number of prices below the level: at the highest of them both curves turn
  let below (level : K) := ((supplies ++ others).map price).toFinset.filter (· < level)
  induction count : (below level).card using Nat.strong_induction_on generalizing level with
  | _ count ih =>
    have mem_below (supply : Supply) (member : supply ∈ supplies ∨ supply ∈ others) (lower : price supply < level) :
        price supply ∈ below level := by
      refine Finset.mem_filter.mpr ⟨List.mem_toFinset.mpr (List.mem_map_of_mem ?_), lower⟩
      exact List.mem_append.mpr member
    rcases (below level).eq_empty_or_nonempty with empty | some
    · have above (supply : Supply) (member : supply ∈ supplies ∨ supply ∈ others) : level ≤ price supply := by
        by_contra lower
        exact absurd (mem_below supply member (not_le.mp lower)) (empty ▸ Finset.notMem_empty _)
      rw [surplus_eq_zero fun supply member => above supply (Or.inl member),
        surplus_eq_zero fun supply member => above supply (Or.inr member)]
    · obtain ⟨low, member, highest⟩ := (below level).exists_max_image id some
      have lower : low < level := (Finset.mem_filter.mp member).2
      have gap (supply : Supply) (member : supply ∈ supplies ∨ supply ∈ others) :
          price supply ≤ low ∨ level ≤ price supply := by
        rcases lt_or_ge (price supply) level with less | more
        · exact Or.inl (highest _ (mem_below supply member less))
        · exact Or.inr more
      have fewer : (below low).card < (below level).card := by
        refine Finset.card_lt_card ((Finset.ssubset_iff_of_subset ?_).mpr ⟨low, member, ?_⟩)
        · exact Finset.monotone_filter_right _ fun price _ less => less.trans lower
        · exact fun inside => lt_irrefl _ (Finset.mem_filter.mp inside).2
      rw [surplus_of_gap lower.le fun supply member => gap supply (Or.inl member),
        surplus_of_gap lower.le fun supply member => gap supply (Or.inr member)]
      exact add_le_add (ih _ (count ▸ fewer) low rfl)
        (mul_le_mul_of_nonneg_left (deeper low) (sub_nonneg.mpr lower.le))

/-- An amount costs at least the lowest price for each unit. -/
theorem mul_le_outlay (sizes : ∀ supply ∈ supplies, 0 ≤ size supply) (floor : ∀ supply ∈ supplies, low ≤ price supply)
    (wanted : 0 ≤ needed) (enough : needed ≤ (supplies.map size).sum) :
    low * needed ≤ outlay size price needed supplies := by
  have bound : low * (greedy size (fun _ => true) needed supplies).sum ≤ outlay size price needed supplies :=
    mul_sum_le_spent (takes_greedy sizes wanted) floor
  rwa [sum_greedy_of_le sizes wanted enough] at bound

section Sorted
variable {supplies : List Supply} {needed : K} (sizes : ∀ supply ∈ supplies, 0 ≤ size supply)
  (sorted : supplies.Pairwise fun earlier later => price earlier ≤ price later)
  (wanted : 0 ≤ needed)
include sizes sorted wanted

theorem exists_level (enough : needed ≤ (supplies.map size).sum) :
    ∃ level, outlay size price needed supplies + surplus size price level supplies = level * needed := by
  cases supplies with
  | nil =>
    have floor : ∀ supply ∈ ([] : List Supply), 0 ≤ price supply :=
      fun supply member => absurd member List.not_mem_nil
    obtain ⟨level, -, exact⟩ := exists_level_outlay sizes sorted floor wanted enough
    exact ⟨level, exact⟩
  | cons first rest =>
    have floor : ∀ supply ∈ first :: rest, price first ≤ price supply := by
      intro supply member
      rcases List.mem_cons.mp member with rfl | later
      · exact le_refl _
      · exact (List.pairwise_cons.mp sorted).1 supply later
    obtain ⟨level, -, exact⟩ := exists_level_outlay sizes sorted floor wanted enough
    exact ⟨level, exact⟩

/-- The mean price does not fall as more is taken. -/
theorem outlay_mean (more : needed ≤ larger) (enough : larger ≤ (supplies.map size).sum) :
    outlay size price needed supplies * larger ≤ outlay size price larger supplies * needed := by
  obtain ⟨level, exact⟩ := exists_level sizes sorted wanted (more.trans enough)
  have taken : Takes size supplies (greedy size (fun _ => true) larger supplies) :=
    takes_greedy sizes (wanted.trans more)
  have covered : level * (greedy size (fun _ => true) larger supplies).sum ≤
      outlay size price larger supplies + surplus size price level supplies :=
    mul_sum_le_spent_add_surplus level taken
  rw [sum_greedy_of_le sizes (wanted.trans more) enough] at covered
  have spare : 0 ≤ surplus size price level supplies := surplus_nonneg level sizes
  have first := mul_le_mul_of_nonneg_right covered wanted
  have second := mul_le_mul_of_nonneg_left more spare
  have third := congrArg (· * larger) exact
  linarith [add_mul (outlay size price needed supplies) (surplus size price level supplies) larger,
    add_mul (outlay size price larger supplies) (surplus size price level supplies) needed,
    mul_right_comm level larger needed]

/-- No way to take an amount from supplies with less at every price costs less. -/
theorem outlay_le_of_deeper (deeper : ∀ level, depth size price level shallow ≤ depth size price level supplies)
    (takes : Takes size shallow parts) (whole : parts.sum = needed) (enough : needed ≤ (supplies.map size).sum) :
    outlay size price needed supplies ≤ spent price shallow parts := by
  obtain ⟨level, exact⟩ := exists_level sizes sorted wanted enough
  have covered : level * parts.sum ≤ spent price shallow parts + surplus size price level shallow :=
    mul_sum_le_spent_add_surplus level takes
  have spare := surplus_mono deeper level
  rw [whole] at covered
  linarith

end Sorted

end FeynmanEngine.SupplyCurves
