import Mathlib.Algebra.BigOperators.Ring.List
import FeynmanEngine.OptimalWalk
import FeynmanEngine.SupplyCurves

/-! What size and depth do to a simulated fill. A book is a supply curve for the
order: more of it comes at no better a mean price, so a larger order is filled
worse and slices of it no worse than the whole; and a book with at least as much
at every price fills at least as much, the same amount at no worse a price. -/
namespace FeynmanEngine.MarketImpact
open Ids Orders Orderbooks VenueOrders FillSimulation GreedyFilling SupplyCurves PaperVenue OptimalWalk

/-- The order for another quantity. -/
def ofQty (order : OrderCore) (qty : Decimal) : OrderCore := { order with qty := qty }

/-- A fill that is no smaller and no better, in what it leaves, what it pays and
how far it is from the top of the book. -/
structure NoBetter (side : Side) (small large : SimulatedFill) : Prop where
  qty : small.fill.qty ≤ large.fill.qty
  rest : small.remainingQty ≤ large.remainingQty
  price : cost side small.fill.price ≤ cost side large.fill.price
  slippage : small.slippageBps ≤ large.slippageBps
  impact : small.marketImpactBps ≤ large.marketImpactBps

/-- What a simulation that goes through has checked. -/
structure Checked (order : OrderCore) (book : OrderbookSnapshot) (limit : Option Decimal) (top : PriceLevel) :
    Prop where
  sized : 0 < order.qty
  venue : order.venueId = book.venueId
  instrument : order.instrumentId = book.instrumentId
  valid : book.validate = .ok ()
  limited : priceLimitOf order = .ok limit
  first : (opposite order book).head? = some top

theorem liveSimulate_ok [LibraryText]
    (simulated : liveSimulate order venueOrderId book feeModel = .ok outcome) :
    ∃ limit top, Checked order book limit top ∧
      executeDepth order venueOrderId book feeModel limit (opposite order book) top.price = .ok outcome := by
  unfold liveSimulate at simulated
  split at simulated
  · cases simulated
  · next sized =>
    split at simulated
    · cases simulated
    · next venue =>
      split at simulated
      · cases simulated
      · next instrument =>
        split at simulated
        · cases simulated
        · next valid =>
          split at simulated
          · cases simulated
          · next limit limited =>
            split at simulated
            · cases simulated
            · next top first =>
              exact ⟨limit, top,
                ⟨not_le.mp sized, not_not.mp venue, not_not.mp instrument, valid, limited, first⟩, simulated⟩

/-- An order that passes the checks is run through the levels. -/
theorem Checked.liveSimulate_eq [LibraryText] (checked : Checked order book limit top) :
    liveSimulate order venueOrderId book feeModel =
      executeDepth order venueOrderId book feeModel limit (opposite order book) top.price := by
  simp [liveSimulate, not_le.mpr checked.sized, checked.venue, checked.instrument, checked.valid, checked.limited,
    checked.first]

/-- An executed order got something, and is reported from the totals of the loop. -/
theorem executeDepth_executed (executed : executeDepth order venueOrderId book feeModel limit levels topOfBook =
    .ok (.executed simulated)) :
    (walkOf order limit levels).executedQty ≠ 0 ∧ Reports (walkOf order limit levels) topOfBook simulated := by
  unfold executeDepth at executed
  unfold walkOf
  dsimp only at executed
  split at executed
  · cases executed
  · next some =>
    split at executed
    · cases executed
    · cases executed
      exact ⟨some, ⟨rfl, rfl, rfl, rfl, rfl⟩⟩

theorem executeDepth_resting (rests : executeDepth order venueOrderId book feeModel limit levels topOfBook =
    .ok .resting) : (walkOf order limit levels).executedQty = 0 := by
  unfold executeDepth at rests
  unfold walkOf
  dsimp only at rests
  split at rests
  · assumption
  · split at rests <;> cases rests

/-- The price of a level, as it costs the order. -/
def dearness (side : Side) (level : PriceLevel) : Decimal := cost side level.price

/-- The levels an order can reach. -/
def reach (side : Side) (limit : Option Decimal) (levels : List PriceLevel) : List PriceLevel :=
  levels.takeWhile fun level => isLevelFillable side limit level.price

section Levels
variable {side : Side} {limit : Option Decimal} {levels : List PriceLevel}
  (positive : ∀ level ∈ levels, level.Positive)
  (sorted : levels.Pairwise fun earlier later => dearness side earlier ≤ dearness side later)

include positive in
theorem reach_sizes : ∀ level ∈ reach side limit levels, 0 ≤ level.qty :=
  fun level member => (positive level (List.takeWhile_subset _ member)).qty.le

include sorted in
theorem reach_sorted : (reach side limit levels).Pairwise fun earlier later =>
    dearness side earlier ≤ dearness side later :=
  sorted.sublist (List.takeWhile_sublist _)

include sorted in
theorem reach_eq_filter : reach side limit levels = levels.filter fun level => isLevelFillable side limit level.price :=
  takeWhile_eq_filter _ (sorted.imp fun cheaper => isLevelFillable_of_le cheaper)

include sorted in
theorem reach_total : ((reach side limit levels).map PriceLevel.qty).sum = fillableDepth side limit levels := by
  rw [reach_eq_filter sorted]
  rfl

end Levels

section Totals
variable {order : OrderCore} {levels : List PriceLevel} (positive : ∀ level ∈ levels, level.Positive)
  (sorted : levels.Pairwise fun earlier later => dearness order.side earlier ≤ dearness order.side later)
  (sized : 0 < order.qty)
include positive sorted sized

/-- The loop pays what its quantity costs, taken where it is cheapest. -/
theorem walkOf_outlay (limit : Option Decimal) :
    cost order.side (walkOf order limit levels).executedNotional =
      outlay PriceLevel.qty (dearness order.side) (walkOf order limit levels).executedQty
        (reach order.side limit levels) := by
  obtain ⟨qty, notional⟩ := walkOf_totals positive sorted sized limit
  rw [notional, qty, walkParts_eq_greedy levels positive, ← spent_cost, spent_greedy_takeWhile, ← reach_total sorted]
  unfold outlay
  rw [greedy_min_total (reach_sizes positive) sized.le]
  rfl

end Totals

theorem take_remaining (walk : DepthWalk) (level : PriceLevel) :
    (walk.take level).remainingQty = max (walk.remainingQty - level.qty) 0 := by
  unfold DepthWalk.take
  dsimp only
  split
  · next deep => rw [sub_self, max_eq_right (sub_nonpos.mpr deep.le)]
  · next shallow => rw [max_eq_left (sub_nonneg.mpr (not_lt.mp shallow))]

/-- The loop goes on to dearer levels only. -/
theorem le_worst (walk : DepthWalk) (levels : List PriceLevel)
    (sorted : levels.Pairwise fun earlier later => dearness side earlier ≤ dearness side later)
    (after : ∀ level ∈ levels, cost side (walk.worstPrice.getD top) ≤ dearness side level) :
    cost side (walk.worstPrice.getD top) ≤
      cost side ((walkDepth side limit walk levels).worstPrice.getD top) := by
  induction levels generalizing walk with
  | nil => exact le_refl _
  | cons level rest ih =>
    obtain ⟨first, sorted⟩ := List.pairwise_cons.mp sorted
    have further : cost side (walk.worstPrice.getD top) ≤ cost side ((walk.take level).worstPrice.getD top) :=
      after level List.mem_cons_self
    unfold walkDepth
    split
    · dsimp only
      split
      · exact further
      · exact further.trans (ih _ sorted first)
    · exact le_refl _

/-- A loop with more to fill reaches as far or further. -/
theorem worst_mono (walk more : DepthWalk) (levels : List PriceLevel)
    (sorted : levels.Pairwise fun earlier later => dearness side earlier ≤ dearness side later)
    (same : walk.worstPrice = more.worstPrice) (less : walk.remainingQty ≤ more.remainingQty) :
    cost side ((walkDepth side limit walk levels).worstPrice.getD top) ≤
      cost side ((walkDepth side limit more levels).worstPrice.getD top) := by
  induction levels generalizing walk more with
  | nil => exact (congrArg (fun price => cost side (price.getD top)) same).le
  | cons level rest ih =>
    obtain ⟨first, sorted⟩ := List.pairwise_cons.mp sorted
    have left : (walk.take level).remainingQty ≤ (more.take level).remainingQty := by
      rw [take_remaining, take_remaining]
      exact max_le_max_right 0 (sub_le_sub_right less _)
    have ends : cost side ((walk.take level).worstPrice.getD top) = cost side level.price := rfl
    unfold walkDepth
    split
    · dsimp only
      split
      · split
        · exact le_refl _
        · exact le_worst (more.take level) rest sorted first
      · next going =>
        rw [if_neg fun done => going (left.trans done)]
        exact ih _ _ sorted rfl left
    · exact (congrArg (fun price => cost side (price.getD top)) same).le

/-- What an executed fill is: as much as there is in reach, at what that costs. -/
structure Filled (order : OrderCore) (limit : Option Decimal) (levels : List PriceLevel) (top : PriceLevel)
    (simulated : SimulatedFill) : Prop where
  positive : ∀ level ∈ levels, level.Positive
  sorted : levels.Pairwise fun earlier later => dearness order.side earlier ≤ dearness order.side later
  first : levels.head? = some top
  some : 0 < simulated.fill.qty
  qty : simulated.fill.qty = min order.qty (fillableDepth order.side limit levels)
  rest : simulated.remainingQty = order.qty - simulated.fill.qty
  paid : simulated.fill.qty * cost order.side simulated.fill.price =
    outlay PriceLevel.qty (dearness order.side) simulated.fill.qty (reach order.side limit levels)
  slippage : simulated.slippageBps = basisPointsDelta simulated.fill.price top.price
  impact : simulated.marketImpactBps =
    basisPointsDelta ((walkOf order limit levels).worstPrice.getD top.price) top.price

theorem filled_of_simulate [LibraryText]
    (executed : liveSimulate order venueOrderId book feeModel = .ok (.executed simulated)) :
    ∃ limit top, Checked order book limit top ∧ Filled order limit (opposite order book) top simulated := by
  obtain ⟨limit, top, checked, done⟩ := liveSimulate_ok executed
  obtain ⟨something, reports⟩ := executeDepth_executed done
  have positive := opposite_positive checked.valid order
  have sorted := opposite_sorted checked.valid order
  have start : (⟨order.qty, 0, 0, none⟩ : DepthWalk).Splits order.qty :=
    ⟨le_refl _, checked.sized.le, zero_add _⟩
  have splits : (walkOf order limit (opposite order book)).Splits order.qty :=
    walkDepth_splits _ start positive
  refine ⟨limit, top, checked, ⟨positive, sorted, checked.first, ?_, ?_, ?_, ?_, reports.slippage, reports.impact⟩⟩
  · rw [reports.qty]
    exact lt_of_le_of_ne splits.executed (Ne.symm something)
  · exact reports.qty.trans (walkOf_totals positive sorted checked.sized limit).1
  · rw [reports.qty, reports.rest]
    exact eq_sub_of_add_eq' splits.whole
  · rw [← cost_mul, reports.price, reports.qty, mul_div_cancel₀ _ something]
    exact walkOf_outlay positive sorted checked.sized limit

namespace Filled
variable {order : OrderCore} {levels : List PriceLevel}

theorem sizes (filled : Filled order limit levels top simulated) :
    ∀ level ∈ reach order.side limit levels, 0 ≤ level.qty := reach_sizes filled.positive

theorem enough (filled : Filled order limit levels top simulated) :
    simulated.fill.qty ≤ ((reach order.side limit levels).map PriceLevel.qty).sum := by
  rw [reach_total filled.sorted, filled.qty]
  exact min_le_right _ _

/-- The top of the book is its cheapest level. -/
theorem top_cheapest (filled : Filled order limit levels top simulated) :
    ∀ level ∈ levels, cost order.side top.price ≤ dearness order.side level := by
  intro level member
  have sorted := filled.sorted
  have first := filled.first
  cases levels with
  | nil => cases first
  | cons head rest =>
    obtain rfl := Option.some.inj first
    rcases List.mem_cons.mp member with rfl | later
    · exact le_refl _
    · exact (List.pairwise_cons.mp sorted).1 level later

/-- Nothing is filled better than at the top of the book. -/
theorem top_le (filled : Filled order limit levels top simulated) :
    cost order.side top.price ≤ cost order.side simulated.fill.price := by
  have floor : ∀ level ∈ reach order.side limit levels, cost order.side top.price ≤ dearness order.side level :=
    fun level member => filled.top_cheapest level (List.takeWhile_subset _ member)
  have bound := mul_le_outlay filled.sizes floor filled.some.le filled.enough
  rw [← filled.paid, mul_comm] at bound
  exact le_of_mul_le_mul_left bound filled.some

theorem top_le_worst (filled : Filled order limit levels top simulated) :
    cost order.side top.price ≤ cost order.side ((walkOf order limit levels).worstPrice.getD top.price) :=
  le_worst ⟨order.qty, 0, 0, none⟩ levels filled.sorted filled.top_cheapest

/-- A fill of no more, from the same levels with the same limit, is at no worse a price. -/
theorem price_mono (small : Filled order limit levels top fewer)
    (large : Filled (ofQty order larger) limit levels top more) (less : fewer.fill.qty ≤ more.fill.qty) :
    cost order.side fewer.fill.price ≤ cost order.side more.fill.price := by
  have paid : more.fill.qty * cost order.side more.fill.price = _ := large.paid
  have mean := outlay_mean small.sizes (reach_sorted small.sorted) small.some.le less large.enough
  rw [← small.paid] at mean
  have common : (fewer.fill.qty * more.fill.qty) * cost order.side fewer.fill.price ≤
      (fewer.fill.qty * more.fill.qty) * cost order.side more.fill.price :=
    calc (fewer.fill.qty * more.fill.qty) * cost order.side fewer.fill.price
        = fewer.fill.qty * cost order.side fewer.fill.price * more.fill.qty := mul_right_comm ..
      _ ≤ more.fill.qty * cost order.side more.fill.price * fewer.fill.qty := paid ▸ mean
      _ = (fewer.fill.qty * more.fill.qty) * cost order.side more.fill.price := by ring
  exact le_of_mul_le_mul_left common (mul_pos small.some large.some)

/-- A larger order is filled no better. -/
theorem noBetter (small : Filled order limit levels top fewer)
    (large : Filled (ofQty order larger) limit levels top more) (less : order.qty ≤ larger) :
    NoBetter order.side fewer more := by
  have amount : more.fill.qty = min larger (fillableDepth order.side limit levels) := large.qty
  have left : more.remainingQty = larger - more.fill.qty := large.rest
  have filled : fewer.fill.qty ≤ more.fill.qty := by
    rw [small.qty, amount]
    exact min_le_min_right _ less
  have priced := small.price_mono large filled
  have further : cost order.side ((walkOf order limit levels).worstPrice.getD top.price) ≤
      cost order.side ((walkOf (ofQty order larger) limit levels).worstPrice.getD top.price) :=
    worst_mono _ _ levels small.sorted rfl less
  have reference : 0 < top.price := (small.positive top (List.mem_of_mem_head? small.first)).price
  refine ⟨filled, ?_, priced, ?_, ?_⟩
  · rw [small.rest, left, small.qty, amount, ← max_sub_sub_left, ← max_sub_sub_left, sub_self, sub_self]
    exact max_le_max_left 0 (sub_le_sub_right less _)
  · rw [small.slippage, large.slippage]
    exact (basisPointsDelta_le reference small.top_le priced).2
  · rw [small.impact, large.impact]
    exact (basisPointsDelta_le reference small.top_le_worst further).2

end Filled

/-- Another quantity of the order is filled from the same levels with the same limit. -/
theorem Checked.filled [LibraryText] (checked : Checked (ofQty order qty) book limit top)
    (executed : liveSimulate (ofQty order larger) venueOrderId book feeModel = .ok (.executed large)) :
    Filled (ofQty order larger) limit (opposite order book) top large := by
  obtain ⟨again, head, checks, fills⟩ := filled_of_simulate executed
  have same : limit = again := Except.ok.inj (checked.limited.symm.trans checks.limited)
  have tops : top = head := Option.some.inj (checked.first.symm.trans checks.first)
  subst same tops
  exact fills

/-- Whether an order rests does not depend on its quantity. -/
theorem resting_of_resting [LibraryText] (sized : 0 < larger)
    (rests : liveSimulate (ofQty order qty) venueOrderId book feeModel = .ok .resting) :
    liveSimulate (ofQty order larger) venueOrderId book feeModel = .ok .resting := by
  obtain ⟨limit, top, checked, done⟩ := liveSimulate_ok rests
  have checks : Checked (ofQty order larger) book limit top :=
    ⟨sized, checked.venue, checked.instrument, checked.valid, checked.limited, checked.first⟩
  have positive := opposite_positive checked.valid (ofQty order qty)
  have sorted := opposite_sorted checked.valid (ofQty order qty)
  have unfillable := (walkOf_executed_eq_zero_iff positive sorted checked.sized limit).mp (executeDepth_resting done)
  have nothing : (walkOf (ofQty order larger) limit (opposite (ofQty order larger) book)).executedQty = 0 :=
    (walkOf_executed_eq_zero_iff (opposite_positive checked.valid (ofQty order larger))
      (opposite_sorted checked.valid (ofQty order larger)) sized limit).mpr unfillable
  rw [checks.liveSimulate_eq]
  exact if_pos nothing

/-- Cut to a depth one by one, amounts come to no less than cut as a whole. -/
theorem min_sum_le (amounts : List Decimal) (amountsNonneg : ∀ amount ∈ amounts, 0 ≤ amount) (depth : 0 ≤ deep) :
    min amounts.sum deep ≤ (amounts.map (min · deep)).sum := by
  induction amounts with
  | nil => exact min_le_left _ _
  | cons amount rest ih =>
    have first := amountsNonneg amount List.mem_cons_self
    have more := ih fun later member => amountsNonneg later (List.mem_cons_of_mem _ member)
    have left := List.sum_nonneg fun later member => amountsNonneg later (List.mem_cons_of_mem _ member)
    rw [List.sum_cons, List.map_cons, List.sum_cons]
    rcases le_total amount deep with within | beyond
    · rw [min_eq_left within]
      calc min (amount + rest.sum) deep ≤ min (amount + rest.sum) (amount + deep) :=
            min_le_min_left _ (le_add_of_nonneg_left first)
        _ = amount + min rest.sum deep := min_add_add_left ..
        _ ≤ amount + (rest.map (min · deep)).sum := add_le_add_right more _
    · rw [min_eq_right beyond]
      exact (min_le_right _ _).trans (le_add_of_nonneg_right ((le_min left depth).trans more))

/-- Slices of an order fill no less than the whole, at no worse a price. -/
theorem slices_of_simulate [LibraryText] (slices : List (Decimal × SimulatedFill))
    (executed : ∀ slice ∈ slices,
      liveSimulate (ofQty order slice.1) venueOrderId book feeModel = .ok (.executed slice.2))
    (together : liveSimulate (ofQty order (slices.map Prod.fst).sum) venueOrderId book feeModel =
      .ok (.executed whole)) :
    whole.fill.qty ≤ (slices.map fun slice => slice.2.fill.qty).sum ∧
    (slices.map fun slice => slice.2.fill.qty * cost order.side slice.2.fill.price).sum ≤
      (slices.map fun slice => slice.2.fill.qty).sum * cost order.side whole.fill.price := by
  obtain ⟨limit, top, checked, all⟩ := filled_of_simulate together
  have filled : ∀ slice ∈ slices, Filled (ofQty order slice.1) limit (opposite order book) top slice.2 :=
    fun slice member => checked.filled (executed slice member)
  have sized : ∀ slice ∈ slices, 0 < slice.1 := by
    intro slice member
    obtain ⟨_, _, checks, -⟩ := liveSimulate_ok (executed slice member)
    exact checks.sized
  have amounts : ∀ amount ∈ slices.map Prod.fst, 0 ≤ amount := by
    intro amount member
    obtain ⟨slice, own, rfl⟩ := List.mem_map.mp member
    exact (sized slice own).le
  constructor
  · have depth : 0 ≤ fillableDepth order.side limit (opposite order book) := by
      have enough := all.some.le.trans all.enough
      rwa [reach_total all.sorted] at enough
    have cut : (slices.map fun slice => slice.2.fill.qty) =
        (slices.map Prod.fst).map (min · (fillableDepth order.side limit (opposite order book))) := by
      rw [List.map_map]
      exact List.map_congr_left fun slice member => (filled slice member).qty
    rw [cut, all.qty]
    exact min_sum_le _ amounts depth
  · rw [← List.sum_map_mul_right]
    refine List.sum_le_sum fun slice member => mul_le_mul_of_nonneg_left ?_ (filled slice member).some.le
    have less : slice.1 ≤ (slices.map Prod.fst).sum :=
      List.single_le_sum amounts _ (List.mem_map_of_mem member)
    exact ((filled slice member).noBetter all less).price

/-- Of one order, more is filled no better: the larger quantity is filled further
down the book at no better a mean price, whether it rests does not depend on its
size, and slices simulated against the same book fill no less than the whole, at
no worse a price. -/
theorem size_brings_no_better_fill [LibraryText] (order : OrderCore) (book : OrderbookSnapshot)
    (venueOrderId : VenueOrderId) (feeModel : FeeModel) :
    (∀ qty larger small large, qty ≤ larger →
      liveSimulate (ofQty order qty) venueOrderId book feeModel = .ok (.executed small) →
      liveSimulate (ofQty order larger) venueOrderId book feeModel = .ok (.executed large) →
      NoBetter order.side small large) ∧
    (∀ qty larger, 0 < larger → liveSimulate (ofQty order qty) venueOrderId book feeModel = .ok .resting →
      liveSimulate (ofQty order larger) venueOrderId book feeModel = .ok .resting) ∧
    ∀ (slices : List (Decimal × SimulatedFill)) (whole : SimulatedFill),
      (∀ slice ∈ slices,
        liveSimulate (ofQty order slice.1) venueOrderId book feeModel = .ok (.executed slice.2)) →
      liveSimulate (ofQty order (slices.map Prod.fst).sum) venueOrderId book feeModel = .ok (.executed whole) →
      whole.fill.qty ≤ (slices.map fun slice => slice.2.fill.qty).sum ∧
      (slices.map fun slice => slice.2.fill.qty * cost order.side slice.2.fill.price).sum ≤
        (slices.map fun slice => slice.2.fill.qty).sum * cost order.side whole.fill.price := by
  refine ⟨fun qty larger small large less first second => ?_, fun qty larger sized rests => ?_,
    fun slices whole executed together => slices_of_simulate slices executed together⟩
  · obtain ⟨limit, top, checked, filled⟩ := filled_of_simulate first
    exact filled.noBetter (checked.filled second) less
  · exact resting_of_resting sized rests

theorem cost_cost (side : Side) (price : Decimal) : cost side (cost side price) = price := by
  cases side
  · rfl
  · exact neg_neg price

theorem isLevelFillable_some (side : Side) (limit price : Decimal) :
    isLevelFillable side (some limit) price = decide (cost side price ≤ cost side limit) := by
  cases side
  · rfl
  · exact decide_eq_decide.mpr neg_le_neg_iff.symm

/-- The tighter of a limit and a price, as a limit. -/
def tighter (side : Side) (limit : Option Decimal) (level : Decimal) : Option Decimal :=
  some (cost side (match limit with
    | none => level
    | some limit => min level (cost side limit)))

/-- What there is up to a price within reach of a limit is what is within reach of the tighter. -/
theorem depth_reach (level : Decimal)
    (sorted : levels.Pairwise fun earlier later => dearness side earlier ≤ dearness side later) :
    depth PriceLevel.qty (dearness side) level (reach side limit levels) =
      fillableDepth side (tighter side limit level) levels := by
  unfold depth fillableDepth tighter
  rw [reach_eq_filter sorted, List.filter_filter]
  congr 2
  refine List.filter_congr fun offer _ => ?_
  rw [isLevelFillable_some, cost_cost]
  cases limit with
  | none => exact (Bool.and_true _).trans (decide_eq_decide.mpr Iff.rfl)
  | some limit =>
    rw [isLevelFillable_some, ← Bool.decide_and]
    exact decide_eq_decide.mpr le_min_iff.symm

/-- At least as much at every price, for orders of one side. -/
def Deeper (side : Side) (levels deeper : List PriceLevel) : Prop :=
  ∀ limit, fillableDepth side limit levels ≤ fillableDepth side limit deeper

/-- Added levels deepen a book. -/
theorem deeper_of_sublist (kept : levels.Sublist others) (positive : ∀ level ∈ others, level.Positive) :
    Deeper side levels others := by
  intro limit
  refine ((kept.filter _).map PriceLevel.qty).sum_le_sum fun amount member => ?_
  obtain ⟨level, inside, rfl⟩ := List.mem_map.mp member
  exact (positive level (List.mem_of_mem_filter inside)).qty.le

/-- From a deeper book an order fills no less, and the same amount at no worse a price. -/
theorem Filled.deeper {order : OrderCore} (shallow : Filled order limit levels top fewer)
    (more : Deeper order.side levels others) (deep : Filled (ofQty order amount) limit others head taken)
    (same : taken.fill.qty = fewer.fill.qty) :
    cost order.side taken.fill.price ≤ cost order.side fewer.fill.price := by
  have sorted : others.Pairwise fun earlier later => dearness order.side earlier ≤ dearness order.side later :=
    deep.sorted
  have paid : taken.fill.qty * cost order.side taken.fill.price = _ := deep.paid
  have curves (level : Decimal) :
      depth PriceLevel.qty (dearness order.side) level (reach order.side limit levels) ≤
        depth PriceLevel.qty (dearness order.side) level (reach order.side limit others) := by
    rw [depth_reach level shallow.sorted, depth_reach level sorted]
    exact more _
  have least := outlay_le_of_deeper deep.sizes (reach_sorted sorted) shallow.some.le curves
    (takes_greedy shallow.sizes shallow.some.le)
    (sum_greedy_of_le shallow.sizes shallow.some.le shallow.enough) (same ▸ deep.enough)
  have whole : fewer.fill.qty * cost order.side taken.fill.price ≤
      fewer.fill.qty * cost order.side fewer.fill.price := by
    rw [shallow.paid, ← same, paid, same]
    exact least
  exact le_of_mul_le_mul_left whole shallow.some

/-- A deeper book takes no order worse: what is filled from a book is filled from a
deeper one, no less of it, and the amount the first could fill is filled whole at
no worse a mean price; what rests before the deeper book rests before the other. -/
theorem deeper_books_fill_better [LibraryText] (order : OrderCore) (book deeper : OrderbookSnapshot)
    (venueOrderId : VenueOrderId) (feeModel : FeeModel)
    (more : Deeper order.side (opposite order book) (opposite order deeper)) :
    (∀ small outcome, liveSimulate order venueOrderId book feeModel = .ok (.executed small) →
      liveSimulate order venueOrderId deeper feeModel = .ok outcome →
      ∃ large, outcome = .executed large ∧ small.fill.qty ≤ large.fill.qty ∧
        large.remainingQty ≤ small.remainingQty) ∧
    ∀ small taken, liveSimulate order venueOrderId book feeModel = .ok (.executed small) →
      liveSimulate (ofQty order small.fill.qty) venueOrderId deeper feeModel = .ok (.executed taken) →
      taken.isComplete = true ∧ cost order.side taken.fill.price ≤ cost order.side small.fill.price := by
  constructor
  · intro small outcome shallow deep
    obtain ⟨limit, top, checked, filled⟩ := filled_of_simulate shallow
    have reached : small.fill.qty ≤ fillableDepth order.side limit (opposite order deeper) := by
      rw [filled.qty]
      exact (min_le_right _ _).trans (more limit)
    cases outcome with
    | resting =>
      obtain ⟨again, head, checks, done⟩ := liveSimulate_ok deep
      obtain rfl : limit = again := Except.ok.inj (checked.limited.symm.trans checks.limited)
      have positive := opposite_positive checks.valid order
      have sorted := opposite_sorted checks.valid order
      have unfillable :=
        (walkOf_executed_eq_zero_iff positive sorted checks.sized limit).mp (executeDepth_resting done)
      rw [(fillableDepth_eq_zero_iff _ positive).mpr unfillable] at reached
      exact absurd filled.some (not_lt.mpr reached)
    | executed large =>
      obtain ⟨again, head, checks, fills⟩ := filled_of_simulate deep
      obtain rfl : limit = again := Except.ok.inj (checked.limited.symm.trans checks.limited)
      have qty : small.fill.qty ≤ large.fill.qty := by
        rw [filled.qty, fills.qty]
        exact min_le_min_left _ (more limit)
      refine ⟨large, rfl, qty, ?_⟩
      rw [filled.rest, fills.rest]
      exact sub_le_sub_left qty _
  · intro small taken shallow deep
    obtain ⟨limit, top, checked, filled⟩ := filled_of_simulate shallow
    obtain ⟨again, head, checks, fills⟩ := filled_of_simulate deep
    obtain rfl : limit = again := Except.ok.inj (checked.limited.symm.trans checks.limited)
    have all : taken.fill.qty = small.fill.qty := by
      rw [fills.qty]
      refine min_eq_left ?_
      rw [show (ofQty order small.fill.qty).qty = small.fill.qty from rfl, filled.qty]
      exact (min_le_right _ _).trans (more limit)
    refine ⟨decide_eq_true ?_, filled.deeper more fills all⟩
    rw [fills.rest, all]
    exact sub_self _

section Sample
open Plain

/-- The fill of an order that was executed. -/
def executedOf (outcome : Except GatewayError FillSimulationOutcome) : Option SimulatedFill :=
  match outcome with
  | .ok (.executed simulated) => some simulated
  | .ok .resting | .error _ => none

theorem eq_of_executedOf {outcome : Except GatewayError FillSimulationOutcome}
    (found : executedOf outcome = some simulated) :
    outcome = .ok (.executed simulated) := by
  unfold executedOf at found
  split at found <;> cases found
  rfl

/-- The sample book with a better ask on top. -/
def betterOrderbook : OrderbookSnapshot := { sampleOrderbook ⟨0⟩ with asks := [⟨9995, 1⟩, ⟨10000, 1⟩, ⟨10010, 3⟩] }

/-- One unit is bought at the top of the sample book, four at a worse mean. -/
theorem size_brings_no_better_fill_limitedBuy : ∃ small large : SimulatedFill,
    small.fill.price = 10000 ∧ large.fill.price = 10007.5 ∧ NoBetter .buy small large := by
  have one : (executedOf (liveSimulate (ofQty limitedBuy 1) ⟨"walk"⟩ (sampleOrderbook ⟨0⟩) zeroFee)).map
      (·.fill.price) = some 10000 := by decide +kernel
  have four : (executedOf (liveSimulate (ofQty limitedBuy 4) ⟨"walk"⟩ (sampleOrderbook ⟨0⟩) zeroFee)).map
      (·.fill.price) = some 10007.5 := by decide +kernel
  obtain ⟨small, found, price⟩ := Option.map_eq_some_iff.mp one
  obtain ⟨large, finds, prices⟩ := Option.map_eq_some_iff.mp four
  exact ⟨small, large, price, prices,
    (size_brings_no_better_fill limitedBuy (sampleOrderbook ⟨0⟩) ⟨"walk"⟩ zeroFee).1 1 4 small large (by norm_num)
      (eq_of_executedOf found) (eq_of_executedOf finds)⟩

/-- With a better ask on top the two units of the sample are bought no worse. -/
theorem deeper_books_fill_better_limitedBuy : ∃ small taken : SimulatedFill,
    small.fill.price = 10005 ∧ taken.fill.price = 9997.5 ∧ cost .buy taken.fill.price ≤ cost .buy small.fill.price := by
  have before : (executedOf (liveSimulate limitedBuy ⟨"walk"⟩ (sampleOrderbook ⟨0⟩) zeroFee)).map
      (fun simulated => (simulated.fill.qty, simulated.fill.price)) = some (2, 10005) := by decide +kernel
  have after : (executedOf (liveSimulate (ofQty limitedBuy 2) ⟨"walk"⟩ betterOrderbook zeroFee)).map
      (·.fill.price) = some 9997.5 := by decide +kernel
  have valid : betterOrderbook.validate = .ok () := by decide +kernel
  have more :
      Deeper limitedBuy.side (opposite limitedBuy (sampleOrderbook ⟨0⟩)) (opposite limitedBuy betterOrderbook) :=
    deeper_of_sublist (List.sublist_cons_self _ _) (opposite_positive valid limitedBuy)
  obtain ⟨small, found, amounts⟩ := Option.map_eq_some_iff.mp before
  obtain ⟨qty, price⟩ := Prod.mk.inj amounts
  obtain ⟨taken, finds, prices⟩ := Option.map_eq_some_iff.mp after
  refine ⟨small, taken, price, prices, ?_⟩
  exact ((deeper_books_fill_better limitedBuy (sampleOrderbook ⟨0⟩) betterOrderbook ⟨"walk"⟩ zeroFee more).2 small taken
    (eq_of_executedOf found) (qty ▸ eq_of_executedOf finds)).2

end Sample

end FeynmanEngine.MarketImpact
