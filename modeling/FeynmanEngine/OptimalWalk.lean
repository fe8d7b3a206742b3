import Mathlib.Algebra.Order.Field.Rat
import Mathlib.Order.Bounds.Basic
import FeynmanEngine.GreedyFilling
import FeynmanEngine.PaperVenue

/-! The depth walk as greedy filling. Validation puts the levels in the order in
which they serve the order best, so what the loop takes is the best way to take
as much, stays within the limit, and has a mean price between the first level
and the last one reached. -/
namespace FeynmanEngine.OptimalWalk
open Ids Orders Orderbooks VenueOrders FillSimulation GreedyFilling PaperVenue

/-- What a price costs the order: a buyer pays it, a seller receives it. -/
def cost (side : Side) (price : Decimal) : Decimal :=
  match side with
  | .buy => price
  | .sell => -price

theorem cost_add (side : Side) (first second : Decimal) :
    cost side (first + second) = cost side first + cost side second := by
  cases side
  · rfl
  · exact neg_add first second

theorem cost_mul (side : Side) (qty price : Decimal) : cost side (qty * price) = qty * cost side price := by
  cases side
  · rfl
  · exact (mul_neg qty price).symm

theorem abs_cost_sub (side : Side) (first second : Decimal) :
    |cost side first - cost side second| = |first - second| := by
  cases side
  · rfl
  · rw [cost, cost, neg_sub_neg, abs_sub_comm]

theorem spent_cost (side : Side) (levels : List PriceLevel) (parts : List Decimal) :
    spent (fun level => cost side level.price) levels parts = cost side (spent PriceLevel.price levels parts) := by
  cases side
  · rfl
  · exact spent_neg PriceLevel.price levels parts

/-- A valid book serves its cheapest levels first. -/
theorem opposite_sorted {book : OrderbookSnapshot} (valid : book.validate = .ok ()) (order : OrderCore) :
    (opposite order book).Pairwise fun earlier later =>
      cost order.side earlier.price ≤ cost order.side later.price := by
  obtain ⟨bids, asks⟩ := sorted_of_validate valid
  unfold opposite
  cases order.side with
  | buy => exact asks
  | sell => exact bids.imp neg_le_neg

theorem opposite_positive {book : OrderbookSnapshot} (valid : book.validate = .ok ()) (order : OrderCore) :
    ∀ level ∈ opposite order book, level.Positive := by
  obtain ⟨bids, asks⟩ := positive_of_validate valid
  unfold opposite
  cases order.side with
  | buy => exact asks
  | sell => exact bids

/-- A level that costs less than a fillable one is fillable. -/
theorem isLevelFillable_of_le (cheaper : cost side first ≤ cost side second)
    (fillable : isLevelFillable side priceLimit second = true) :
    isLevelFillable side priceLimit first = true := by
  cases side <;> cases priceLimit <;> simp only [isLevelFillable, cost, decide_eq_true_eq] at *
  · exact cheaper.trans fillable
  · exact fillable.trans (neg_le_neg_iff.mp cheaper)

/-- What the loop takes from each level: nothing once a level is out of reach or
nothing remains. -/
def walkParts (side : Side) (priceLimit : Option Decimal) (remainingQty : Decimal) :
    List PriceLevel → List Decimal
  | [] => []
  | level :: rest =>
    if isLevelFillable side priceLimit level.price then
      let levelFillQty := if remainingQty < level.qty then remainingQty else level.qty
      if remainingQty - levelFillQty ≤ 0 then levelFillQty :: nothing rest
      else levelFillQty :: walkParts side priceLimit (remainingQty - levelFillQty) rest
    else nothing (level :: rest)

/-- The quantity at the levels an order can reach. -/
def fillableDepth (side : Side) (priceLimit : Option Decimal) (levels : List PriceLevel) : Decimal :=
  ((levels.filter fun level => isLevelFillable side priceLimit level.price).map PriceLevel.qty).sum

private theorem levelFillQty_eq (remainingQty qty : Decimal) :
    (if remainingQty < qty then remainingQty else qty) = min remainingQty qty := by
  split
  · next less => exact (min_eq_left less.le).symm
  · next more => exact (min_eq_right (not_lt.mp more)).symm

/-- The loop fills greedily. -/
theorem walkParts_eq_greedy (levels : List PriceLevel) (positive : ∀ level ∈ levels, level.Positive) :
    walkParts side priceLimit remainingQty levels =
      greedy PriceLevel.qty (fun level => isLevelFillable side priceLimit level.price) remainingQty levels := by
  induction levels generalizing remainingQty with
  | nil => rfl
  | cons level rest ih =>
    have tail : ∀ later ∈ rest, later.Positive := fun later member => positive later (List.mem_cons_of_mem _ member)
    unfold walkParts greedy
    dsimp only
    rw [levelFillQty_eq]
    split
    · split
      · next done =>
        have none : remainingQty - min remainingQty level.qty = 0 :=
          le_antisymm done (sub_nonneg.mpr (min_le_left _ _))
        rw [none, greedy_zero fun later member => (tail later member).qty.le]
      · rw [ih tail]
    · rfl

/-- The loop's running totals are those of what it takes. -/
theorem walkDepth_totals (levels : List PriceLevel) :
    (walkDepth side priceLimit walk levels).executedQty =
      walk.executedQty + (walkParts side priceLimit walk.remainingQty levels).sum ∧
    (walkDepth side priceLimit walk levels).executedNotional =
      walk.executedNotional + spent PriceLevel.price levels (walkParts side priceLimit walk.remainingQty levels) := by
  induction levels generalizing walk with
  | nil => simp [walkDepth, walkParts, spent]
  | cons level rest ih =>
    unfold walkDepth walkParts
    split
    · dsimp only [DepthWalk.take]
      generalize (if walk.remainingQty < level.qty then walk.remainingQty else level.qty) = taken
      split
      · simp
      · obtain ⟨qty, notional⟩ := @ih ⟨walk.remainingQty - taken, walk.executedQty + taken,
          walk.executedNotional + taken * level.price, some level.price⟩
        rw [qty, notional, List.sum_cons, spent_cons]
        exact ⟨add_assoc .., add_assoc ..⟩
    · simp

/-- The totals so far lie between the first price and the last one reached. -/
structure Priced (side : Side) (top : Decimal) (walk : DepthWalk) : Prop where
  executed : 0 ≤ walk.executedQty
  low : walk.executedQty * cost side top ≤ cost side walk.executedNotional
  high : cost side walk.executedNotional ≤ walk.executedQty * cost side (walk.worstPrice.getD top)
  reached : cost side top ≤ cost side (walk.worstPrice.getD top)

private theorem Priced.take {walk : DepthWalk} (priced : Priced side top walk) (size : 0 < level.qty)
    (left : 0 ≤ walk.remainingQty)
    (later : cost side (walk.worstPrice.getD top) ≤ cost side level.price) :
    Priced side top (walk.take level) := by
  unfold DepthWalk.take
  rw [levelFillQty_eq]
  generalize taken : min walk.remainingQty level.qty = qty
  have some : 0 ≤ qty := taken ▸ le_min left size.le
  have further : cost side top ≤ cost side level.price := priced.reached.trans later
  refine ⟨add_nonneg priced.executed some, ?_, ?_, further⟩ <;>
    dsimp only [Option.getD_some] <;> rw [cost_add, cost_mul, add_mul]
  · exact add_le_add priced.low (mul_le_mul_of_nonneg_left further some)
  · have sooner := mul_le_mul_of_nonneg_left later priced.executed
    exact add_le_add_left (priced.high.trans sooner) _

/-- The loop keeps the totals between the first and the last price reached. -/
theorem walkDepth_priced (levels : List PriceLevel) (positive : ∀ level ∈ levels, level.Positive)
    (sorted : levels.Pairwise fun earlier later => cost side earlier.price ≤ cost side later.price)
    (after : ∀ level ∈ levels, cost side (walk.worstPrice.getD top) ≤ cost side level.price)
    (left : 0 ≤ walk.remainingQty) (priced : Priced side top walk) :
    Priced side top (walkDepth side priceLimit walk levels) := by
  induction levels generalizing walk with
  | nil => exact priced
  | cons level rest ih =>
    obtain ⟨first, sorted⟩ := List.pairwise_cons.mp sorted
    have size := (positive level List.mem_cons_self).qty
    have next := priced.take size left (after level List.mem_cons_self)
    unfold walkDepth
    split
    · dsimp only
      split
      · exact ⟨next.executed, next.low, next.high, next.reached⟩
      · next more =>
        refine ih (fun later member => positive later (List.mem_cons_of_mem _ member)) sorted ?_ ?_ next
        · exact fun later member => first later member
        · exact (not_le.mp more).le
    · exact priced

/-- A price further from the reference on the expensive side has the larger delta. -/
theorem basisPointsDelta_le (positive : 0 < reference) (first : cost side reference ≤ cost side actual)
    (second : cost side actual ≤ cost side further) :
    0 ≤ basisPointsDelta actual reference ∧
      basisPointsDelta actual reference ≤ basisPointsDelta further reference := by
  unfold basisPointsDelta
  rw [if_neg positive.ne', if_neg positive.ne', ← abs_cost_sub side actual, ← abs_cost_sub side further,
    abs_of_nonneg (sub_nonneg.mpr first), abs_of_nonneg (sub_nonneg.mpr (first.trans second))]
  refine ⟨mul_nonneg (div_nonneg (sub_nonneg.mpr first) positive.le) (by norm_num), ?_⟩
  gcongr

/-- What it can cost to take some quantity from the levels. -/
def waysToTake (levels : List PriceLevel) (qty : Decimal) : Set Decimal :=
  { total | ∃ parts, Takes PriceLevel.qty levels parts ∧ parts.sum = qty ∧
      spent PriceLevel.price levels parts = total }

/-- A fill that could not be better: all the depth in reach, at the least total
price for a buy and the greatest for a sell. -/
structure OptimalFill (order : OrderCore) (limit : Option Decimal) (levels : List PriceLevel)
    (simulated : SimulatedFill) : Prop where
  executed : simulated.fill.qty = min order.qty (fillableDepth order.side limit levels)
  whole : simulated.fill.qty + simulated.remainingQty = order.qty
  within : List.Forall₂ (fun level part => part ≠ 0 → isLevelFillable order.side limit level.price = true)
    levels (walkParts order.side limit order.qty levels)
  parts : (walkParts order.side limit order.qty levels).sum = simulated.fill.qty ∧
    spent PriceLevel.price levels (walkParts order.side limit order.qty levels) =
      simulated.fill.qty * simulated.fill.price
  optimal : match order.side with
    | .buy => IsLeast (waysToTake levels simulated.fill.qty) (simulated.fill.qty * simulated.fill.price)
    | .sell => IsGreatest (waysToTake levels simulated.fill.qty) (simulated.fill.qty * simulated.fill.price)
  slippage : 0 ≤ simulated.slippageBps ∧ simulated.slippageBps ≤ simulated.marketImpactBps

section Levels
variable {levels : List PriceLevel} (positive : ∀ level ∈ levels, level.Positive)
  (sorted : levels.Pairwise fun earlier later => cost side earlier.price ≤ cost side later.price)
include positive sorted

/-- The loop takes the whole depth in reach, if that is needed. -/
theorem walkParts_sum (sized : 0 ≤ qty) :
    (walkParts side limit qty levels).sum = min qty (fillableDepth side limit levels) := by
  rw [walkParts_eq_greedy levels positive, greedy_sum (fun level member => (positive level member).qty.le) sized,
    within, takeWhile_eq_filter]
  · rfl
  · exact sorted.imp fun cheaper => isLevelFillable_of_le cheaper

/-- No other way to take as much costs the order less. -/
theorem walkParts_least (sized : 0 ≤ qty) (takes : Takes PriceLevel.qty levels parts)
    (same : parts.sum = (walkParts side limit qty levels).sum) :
    cost side (spent PriceLevel.price levels (walkParts side limit qty levels)) ≤
      cost side (spent PriceLevel.price levels parts) := by
  rw [walkParts_eq_greedy levels positive] at same ⊢
  rw [← spent_cost, ← spent_cost]
  exact spent_greedy_le (fun level member => (positive level member).qty.le) sized sorted takes same

end Levels

/-- The levels have depth in reach exactly when one of them is fillable. -/
theorem fillableDepth_eq_zero_iff (levels : List PriceLevel) (positive : ∀ level ∈ levels, level.Positive) :
    fillableDepth side limit levels = 0 ↔ ∀ level ∈ levels, isLevelFillable side limit level.price = false := by
  induction levels with
  | nil => simp [fillableDepth]
  | cons level rest ih =>
    have tail := ih fun later member => positive later (List.mem_cons_of_mem _ member)
    have size := (positive level List.mem_cons_self).qty
    have rest' : 0 ≤ fillableDepth side limit rest := by
      apply List.sum_nonneg
      intro amount member
      obtain ⟨later, kept, rfl⟩ := List.mem_map.mp member
      exact (positive later (List.mem_cons_of_mem _ (List.mem_of_mem_filter kept))).qty.le
    cases fillable : isLevelFillable side limit level.price with
    | true =>
      have total : fillableDepth side limit (level :: rest) = level.qty + fillableDepth side limit rest := by
        simp [fillableDepth, fillable]
      rw [total]
      simp only [List.forall_mem_cons, fillable, Bool.true_eq_false, false_and, iff_false]
      exact (add_pos_of_pos_of_nonneg size rest').ne'
    | false =>
      have total : fillableDepth side limit (level :: rest) = fillableDepth side limit rest := by
        simp [fillableDepth, fillable]
      rw [total, tail]
      simp [fillable]

/-- What the totals of a loop are turned into. -/
structure Reports (walk : DepthWalk) (topOfBook : Decimal) (simulated : SimulatedFill) : Prop where
  qty : simulated.fill.qty = walk.executedQty
  price : simulated.fill.price = walk.executedNotional / walk.executedQty
  rest : simulated.remainingQty = walk.remainingQty
  slippage : simulated.slippageBps = basisPointsDelta simulated.fill.price topOfBook
  impact : simulated.marketImpactBps = basisPointsDelta (walk.worstPrice.getD topOfBook) topOfBook

/-- The loop of one order over some levels, from an empty start. -/
def walkOf (order : OrderCore) (limit : Option Decimal) (levels : List PriceLevel) : DepthWalk :=
  walkDepth order.side limit ⟨order.qty, 0, 0, none⟩ levels

/-- An order that got nothing rests; one that got something is reported as executed. -/
theorem executeDepth_cases (fees : ∀ fill, ∃ fee, feeModel.calculate fill = .ok fee) :
    ((walkOf order limit levels).executedQty = 0 ∧
      executeDepth order venueOrderId book feeModel limit levels topOfBook = .ok .resting) ∨
    ((walkOf order limit levels).executedQty ≠ 0 ∧
      ∃ simulated, executeDepth order venueOrderId book feeModel limit levels topOfBook =
        .ok (.executed simulated) ∧ Reports (walkOf order limit levels) topOfBook simulated) := by
  by_cases nothing : (walkOf order limit levels).executedQty = 0
  · exact Or.inl ⟨nothing, if_pos nothing⟩
  · refine Or.inr ⟨nothing, ?_⟩
    unfold walkOf at nothing ⊢
    unfold executeDepth
    dsimp only
    rw [if_neg nothing]
    generalize walkDepth order.side limit _ levels = walk at nothing ⊢
    obtain ⟨fee, charged⟩ := fees
      { orderId := order.id, venueOrderId := venueOrderId, instrumentId := order.instrumentId,
        side := order.side, qty := walk.executedQty, price := walk.executedNotional / walk.executedQty,
        fee := 0, filledAt := book.receivedAt, isMaker := false }
    rw [charged]
    exact ⟨_, rfl, ⟨rfl, rfl, rfl, rfl, rfl⟩⟩

section Execution
variable {order : OrderCore} {levels : List PriceLevel} (positive : ∀ level ∈ levels, level.Positive)
  (sorted : levels.Pairwise fun earlier later => cost order.side earlier.price ≤ cost order.side later.price)
  (sized : 0 < order.qty)
include positive sorted sized

/-- The loop executes what is needed of the depth in reach, at the prices of its parts. -/
theorem walkOf_totals (limit : Option Decimal) :
    (walkOf order limit levels).executedQty = min order.qty (fillableDepth order.side limit levels) ∧
    (walkOf order limit levels).executedNotional =
      spent PriceLevel.price levels (walkParts order.side limit order.qty levels) := by
  obtain ⟨qty, notional⟩ := @walkDepth_totals order.side limit ⟨order.qty, 0, 0, none⟩ levels
  rw [zero_add, walkParts_sum positive sorted sized.le] at qty
  rw [zero_add] at notional
  exact ⟨qty, notional⟩

theorem walkOf_executed_eq_zero_iff (limit : Option Decimal) :
    (walkOf order limit levels).executedQty = 0 ↔
      ∀ level ∈ levels, isLevelFillable order.side limit level.price = false := by
  rw [(walkOf_totals positive sorted sized limit).1, ← fillableDepth_eq_zero_iff levels positive]
  constructor
  · intro none
    rcases min_choice order.qty (fillableDepth order.side limit levels) with whole | depth
    · rw [whole] at none
      exact absurd none sized.ne'
    · rwa [depth] at none
  · intro none
    rw [none, min_eq_right sized.le]

/-- What the loop took in all is a way to take it, and no better one exists. -/
theorem walkOf_optimal (limit : Option Decimal) :
    match order.side with
    | .buy => IsLeast (waysToTake levels (walkOf order limit levels).executedQty)
        (walkOf order limit levels).executedNotional
    | .sell => IsGreatest (waysToTake levels (walkOf order limit levels).executedQty)
        (walkOf order limit levels).executedNotional := by
  obtain ⟨qty, notional⟩ := walkOf_totals positive sorted sized limit
  have sum : (walkParts order.side limit order.qty levels).sum = _ := walkParts_sum positive sorted sized.le
  have attained : (walkOf order limit levels).executedNotional ∈
      waysToTake levels (walkOf order limit levels).executedQty := by
    refine ⟨walkParts order.side limit order.qty levels, ?_, sum.trans qty.symm, notional.symm⟩
    rw [walkParts_eq_greedy levels positive]
    exact takes_greedy (fun level member => (positive level member).qty.le) sized.le
  have least (total : Decimal) (way : total ∈ waysToTake levels (walkOf order limit levels).executedQty) :
      cost order.side (walkOf order limit levels).executedNotional ≤ cost order.side total := by
    obtain ⟨parts, takes, same, rfl⟩ := way
    rw [notional]
    exact walkParts_least positive sorted sized.le takes (same.trans (qty.trans sum.symm))
  cases side : order.side <;> rw [side] at least
  · exact ⟨attained, fun total way => least total way⟩
  · exact ⟨attained, fun total way => neg_le_neg_iff.mp (least total way)⟩

/-- The mean price lies between the first level and the last one reached. -/
theorem walkOf_slippage (limit : Option Decimal) (first : levels.head? = some top)
    (something : (walkOf order limit levels).executedQty ≠ 0) :
    0 ≤ basisPointsDelta ((walkOf order limit levels).executedNotional / (walkOf order limit levels).executedQty)
        top.price ∧
      basisPointsDelta ((walkOf order limit levels).executedNotional / (walkOf order limit levels).executedQty)
        top.price ≤
      basisPointsDelta ((walkOf order limit levels).worstPrice.getD top.price) top.price := by
  have top_mem : top ∈ levels := List.mem_of_mem_head? first
  have ahead : ∀ level ∈ levels, cost order.side top.price ≤ cost order.side level.price := by
    obtain ⟨rest, rfl⟩ : ∃ rest, levels = top :: rest := by
      cases levels with
      | nil => cases first
      | cons head rest => exact ⟨rest, by rw [Option.some.inj first]⟩
    intro level member
    rcases List.mem_cons.mp member with rfl | later
    · exact le_refl _
    · exact (List.pairwise_cons.mp sorted).1 level later
  have empty : Priced order.side top.price ⟨order.qty, 0, 0, none⟩ := by
    refine ⟨le_refl _, ?_, ?_, le_refl _⟩ <;> cases order.side <;> simp [cost]
  have priced : Priced order.side top.price (walkOf order limit levels) :=
    walkDepth_priced levels positive sorted ahead sized.le empty
  have taken : 0 < (walkOf order limit levels).executedQty := lt_of_le_of_ne priced.executed (Ne.symm something)
  have mean : (walkOf order limit levels).executedQty * cost order.side
      ((walkOf order limit levels).executedNotional / (walkOf order limit levels).executedQty) =
        cost order.side (walkOf order limit levels).executedNotional := by
    rw [← cost_mul, mul_div_cancel₀ _ something]
  apply basisPointsDelta_le (positive top top_mem).price
  · exact le_of_mul_le_mul_left (mean ▸ priced.low) taken
  · exact le_of_mul_le_mul_left (mean ▸ priced.high) taken

/-- A reported fill is an optimal one. -/
theorem Reports.optimal (first : levels.head? = some top)
    (something : (walkOf order limit levels).executedQty ≠ 0)
    (reports : Reports (walkOf order limit levels) top.price simulated) :
    OptimalFill order limit levels simulated := by
  obtain ⟨qty, notional⟩ := walkOf_totals positive sorted sized limit
  have price : simulated.fill.qty * simulated.fill.price = (walkOf order limit levels).executedNotional := by
    rw [reports.qty, reports.price, mul_div_cancel₀ _ something]
  refine ⟨reports.qty.trans qty, ?_, ?_, ⟨?_, ?_⟩, ?_, ?_⟩
  · have start : (⟨order.qty, 0, 0, none⟩ : DepthWalk).Splits order.qty :=
      ⟨le_refl _, sized.le, zero_add _⟩
    rw [reports.qty, reports.rest]
    exact (walkDepth_splits levels start positive).whole
  · rw [walkParts_eq_greedy levels positive]
    exact greedy_allowed order.qty levels
  · rw [reports.qty, qty, walkParts_sum positive sorted sized.le]
  · rw [price, notional]
  · rw [price, reports.qty]
    exact walkOf_optimal positive sorted sized limit
  · rw [reports.slippage, reports.impact, reports.price]
    exact walkOf_slippage positive sorted sized limit first something

end Execution

/-- A market order has no limit; a limit order has its price. -/
def Limited (order : OrderCore) (limit : Option Decimal) : Prop :=
  order.orderType = .market ∧ limit = none ∨
    order.orderType = .limit ∧ ∃ price, order.price = some price ∧ limit = some price

theorem Limited.priceLimitOf (limited : Limited order limit) :
    FillSimulation.priceLimitOf order = .ok limit := by
  rcases limited with ⟨kind, rfl⟩ | ⟨kind, price, priced, rfl⟩
  · simp [FillSimulation.priceLimitOf, kind]
  · simp [FillSimulation.priceLimitOf, kind, priced]

theorem liveSimulate_eq [LibraryText] (sized : 0 < order.qty) (venue : order.venueId = book.venueId)
    (instrument : order.instrumentId = book.instrumentId) (valid : book.validate = .ok ())
    (limited : Limited order limit) (first : (opposite order book).head? = some top) :
    liveSimulate order venueOrderId book feeModel =
      executeDepth order venueOrderId book feeModel limit (opposite order book) top.price := by
  simp [liveSimulate, not_le.mpr sized, venue, instrument, valid, limited.priceLimitOf, first]

/-- The simulator answers every order it can price: one that meets no fillable
level rests, any other is filled optimally. -/
theorem simulate_optimal [LibraryText] (order : OrderCore) (book : OrderbookSnapshot) (feeModel : FeeModel)
    (venueOrderId : VenueOrderId) (limit : Option Decimal) (valid : book.validate = .ok ())
    (levels : opposite order book ≠ []) (limited : Limited order limit) (sized : 0 < order.qty)
    (venue : order.venueId = book.venueId) (instrument : order.instrumentId = book.instrumentId)
    (fees : ∀ fill, ∃ fee, feeModel.calculate fill = .ok fee) :
    ∃ outcome, liveOrderbookFillSimulator.simulate order venueOrderId book feeModel = .ok outcome ∧
      (outcome = .resting ↔
        ∀ level ∈ opposite order book, isLevelFillable order.side limit level.price = false) ∧
      ∀ simulated, outcome = .executed simulated →
        OptimalFill order limit (opposite order book) simulated := by
  have positive := opposite_positive valid order
  have sorted := opposite_sorted valid order
  obtain ⟨top, first⟩ : ∃ top, (opposite order book).head? = some top :=
    Option.isSome_iff_exists.mp (List.isSome_head?.mpr levels)
  have simulate : liveOrderbookFillSimulator.simulate order venueOrderId book feeModel =
      executeDepth order venueOrderId book feeModel limit (opposite order book) top.price :=
    liveSimulate_eq sized venue instrument valid limited first
  have unfillable := walkOf_executed_eq_zero_iff positive sorted sized limit
  rw [simulate]
  rcases executeDepth_cases fees with ⟨nothing, rests⟩ | ⟨something, simulated, executes, reports⟩
  · refine ⟨.resting, rests, ⟨fun _ => unfillable.mp nothing, fun _ => rfl⟩, fun simulated same => ?_⟩
    cases same
  · refine ⟨.executed simulated, executes, ⟨fun same => ?_, fun none => absurd (unfillable.mpr none) something⟩, ?_⟩
    · cases same
    · rintro simulated' same
      obtain rfl := FillSimulationOutcome.executed.inj same
      exact reports.optimal positive sorted sized first something

section Sample
open Plain

/-- Two units bought with a limit at the second ask. -/
def limitedBuy : OrderCore :=
  orderCoreFromSubmission (sampleSubmission "walk" .limit 2 (some 10010) .gtc) ⟨0⟩ 2

theorem simulate_optimal_limitedBuy :
    (sampleOrderbook ⟨0⟩).validate = .ok () ∧
      ∃ outcome, liveOrderbookFillSimulator.simulate limitedBuy ⟨"walk"⟩ (sampleOrderbook ⟨0⟩) zeroFee =
        .ok outcome ∧ outcome ≠ .resting := by
  have valid : (sampleOrderbook ⟨0⟩).validate = .ok () := by decide +kernel
  have limited : Limited limitedBuy (some 10010) := Or.inr ⟨rfl, 10010, rfl, rfl⟩
  have levels : opposite limitedBuy (sampleOrderbook ⟨0⟩) ≠ [] := by decide +kernel
  obtain ⟨outcome, simulated, resting, -⟩ := simulate_optimal limitedBuy (sampleOrderbook ⟨0⟩) zeroFee ⟨"walk"⟩
    (some 10010) valid levels limited (by decide +kernel) rfl rfl fun _ => ⟨_, rfl⟩
  refine ⟨valid, outcome, simulated, fun rests => ?_⟩
  have unfillable := resting.mp rests ⟨10000, 1⟩ (by decide +kernel)
  revert unfillable
  decide +kernel

end Sample

end FeynmanEngine.OptimalWalk
