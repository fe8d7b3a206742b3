import Mathlib.Algebra.Order.Ring.Rat
import FeynmanEngine.Orderbooks
import FeynmanEngine.VenueOrders

/-! Paper-mode fill simulation of `gateway/src/lib.rs`: walking the depth of a
book for one order. A simulator carries what the adapter relies on: an executed
fill is the order's own, and it and the rest make up the order's quantity. -/
namespace FeynmanEngine.FillSimulation
open Ids Orders Orderbooks VenueOrders

inductive FeeError where
  | noSchedule (venueId : VenueId)
  | noInstrumentSchedule (instrumentId : InstrumentId) (venueId : VenueId)
  | calculation (detail : String)
  deriving DecidableEq, Repr

def FeeError.toText : FeeError → String
  | .noSchedule venueId => "no fee schedule for venue " ++ venueId.value
  | .noInstrumentSchedule instrumentId venueId =>
    "no fee schedule for instrument " ++ instrumentId.value ++ " on venue " ++ venueId.value
  | .calculation detail => "fee calculation failed: " ++ detail

/-- Actual fee computed from a confirmed fill. -/
structure Fee where
  tradingFee : Decimal
  gasFee : Decimal
  rebate : Decimal
  fundingFee : Decimal
  net : Decimal

/-- The part of `trait FeeModel` a simulation calls. -/
structure FeeModel where
  calculate : Fill → Except FeeError Fee

/-- Simulated fill with fill-quality diagnostics. -/
structure SimulatedFill where
  fill : Fill
  remainingQty : Decimal
  slippageBps : Decimal
  marketImpactBps : Decimal

def SimulatedFill.isComplete (simulated : SimulatedFill) : Bool := simulated.remainingQty = 0

/-- Result of simulating an order against the latest orderbook snapshot. -/
inductive FillSimulationOutcome where
  | resting
  | executed (simulated : SimulatedFill)

/-- A fill is of the order, positive, and leaves the rest of its quantity. -/
structure SimulatedFill.Fills (simulated : SimulatedFill) (order : OrderCore)
    (venueOrderId : VenueOrderId) : Prop where
  orderId : simulated.fill.orderId = order.id
  venueOrderId : simulated.fill.venueOrderId = venueOrderId
  positive : 0 < simulated.fill.qty
  rest : 0 ≤ simulated.remainingQty
  whole : simulated.fill.qty + simulated.remainingQty = order.qty

theorem SimulatedFill.Fills.within {simulated : SimulatedFill} {venueOrderId : VenueOrderId}
    (fills : simulated.Fills order venueOrderId) : simulated.fill.qty ≤ order.qty := by
  have rest := fills.rest
  have whole := fills.whole
  grind

/-- An incomplete fill is smaller than its order. -/
theorem SimulatedFill.Fills.partly {simulated : SimulatedFill} {venueOrderId : VenueOrderId}
    (fills : simulated.Fills order venueOrderId) (incomplete : simulated.isComplete = false) :
    simulated.fill.qty < order.qty := by
  have rest := fills.rest
  have whole := fills.whole
  have left : simulated.remainingQty ≠ 0 := of_decide_eq_false incomplete
  grind

/-- `trait FillSimulator`. -/
structure FillSimulator where
  simulate : OrderCore → VenueOrderId → OrderbookSnapshot → FeeModel →
    Except GatewayError FillSimulationOutcome
  sized {order : OrderCore} {venueOrderId : VenueOrderId} {book : OrderbookSnapshot}
    {feeModel : FeeModel} {outcome : FillSimulationOutcome} :
    simulate order venueOrderId book feeModel = .ok outcome → 0 < order.qty
  fills {order : OrderCore} {venueOrderId : VenueOrderId} {book : OrderbookSnapshot}
    {feeModel : FeeModel} {simulated : SimulatedFill} :
    simulate order venueOrderId book feeModel = .ok (.executed simulated) →
      simulated.Fills order venueOrderId

def isLevelFillable (side : Side) (priceLimit : Option Decimal) (levelPrice : Decimal) : Bool :=
  match side, priceLimit with
  | _, none => true
  | .buy, some limit => levelPrice ≤ limit
  | .sell, some limit => limit ≤ levelPrice

def basisPointsDelta (actual reference : Decimal) : Decimal :=
  if reference = 0 then 0 else |actual - reference| / reference * 10000

/-- The running totals of the loop over the levels. -/
structure DepthWalk where
  remainingQty : Decimal
  executedQty : Decimal
  executedNotional : Decimal
  worstPrice : Option Decimal

/-- One fillable level. -/
def DepthWalk.take (walk : DepthWalk) (level : PriceLevel) : DepthWalk :=
  let levelFillQty := if walk.remainingQty < level.qty then walk.remainingQty else level.qty
  ⟨walk.remainingQty - levelFillQty, walk.executedQty + levelFillQty,
    walk.executedNotional + levelFillQty * level.price, some level.price⟩

/-- The loop: until a level is out of reach or nothing remains. -/
def walkDepth (side : Side) (priceLimit : Option Decimal) (walk : DepthWalk) :
    List PriceLevel → DepthWalk
  | [] => walk
  | level :: rest =>
    if isLevelFillable side priceLimit level.price then
      let next := walk.take level
      if next.remainingQty ≤ 0 then { next with remainingQty := 0 }
      else walkDepth side priceLimit next rest
    else walk

/-- `LiveOrderbookFillSimulator::simulate` once its inputs are checked. -/
def executeDepth (order : OrderCore) (venueOrderId : VenueOrderId) (book : OrderbookSnapshot)
    (feeModel : FeeModel) (priceLimit : Option Decimal) (levels : List PriceLevel)
    (topOfBook : Decimal) : Except GatewayError FillSimulationOutcome :=
  let walk := walkDepth order.side priceLimit ⟨order.qty, 0, 0, none⟩ levels
  if walk.executedQty = 0 then .ok .resting
  else
    let averagePrice := walk.executedNotional / walk.executedQty
    let fill : Fill :=
      { orderId := order.id, venueOrderId := venueOrderId, instrumentId := order.instrumentId,
        side := order.side, qty := walk.executedQty, price := averagePrice, fee := 0,
        filledAt := book.receivedAt, isMaker := false }
    match feeModel.calculate fill with
    | .error error => .error (.validation error.toText)
    | .ok fee => .ok (.executed
        { fill := { fill with fee := fee.net }
          remainingQty := walk.remainingQty
          slippageBps := basisPointsDelta averagePrice topOfBook
          marketImpactBps := basisPointsDelta (walk.worstPrice.getD topOfBook) topOfBook })

/-- The limit of a simulated order. -/
def priceLimitOf (order : OrderCore) : Except GatewayError (Option Decimal) :=
  match order.orderType with
  | .market => .ok none
  | .limit => match order.price with
    | some price => .ok (some price)
    | none => .error (.validation "limit order missing price")
  | .stopMarket | .stopLimit | .trailingStop => .error (.unsupported
      ("paper adapter only simulates market and limit orders, got " ++ order.orderType.toText))

/-- The levels an order trades against, best first. -/
def opposite (order : OrderCore) (book : OrderbookSnapshot) : List PriceLevel :=
  match order.side with
  | .buy => book.asks
  | .sell => book.bids

/-- `LiveOrderbookFillSimulator::simulate`. -/
def liveSimulate [LibraryText] (order : OrderCore) (venueOrderId : VenueOrderId)
    (book : OrderbookSnapshot) (feeModel : FeeModel) : Except GatewayError FillSimulationOutcome :=
  if order.qty ≤ 0 then .error (.validation "order quantity must be positive")
  else if order.venueId ≠ book.venueId then
    .error (.validation ("order venue " ++ order.venueId.value ++
      " does not match orderbook venue " ++ book.venueId.value))
  else if order.instrumentId ≠ book.instrumentId then
    .error (.validation ("order instrument " ++ order.instrumentId.value ++
      " does not match orderbook instrument " ++ book.instrumentId.value))
  else
    match book.validate with
    | .error error => .error (.validation error.toText)
    | .ok () =>
      match priceLimitOf order with
      | .error error => .error error
      | .ok priceLimit =>
        match (opposite order book).head? with
        | none => .error (.priceUnavailable order.instrumentId.value)
        | some top =>
          executeDepth order venueOrderId book feeModel priceLimit (opposite order book) top.price

/-- Nothing is lost on the way through the levels. -/
structure DepthWalk.Splits (walk : DepthWalk) (qty : Decimal) : Prop where
  executed : 0 ≤ walk.executedQty
  remaining : 0 ≤ walk.remainingQty
  whole : walk.executedQty + walk.remainingQty = qty

theorem DepthWalk.Splits.take {walk : DepthWalk} (splits : walk.Splits qty) (positive : level.Positive) :
    (walk.take level).Splits qty := by
  obtain ⟨executed, remaining, whole⟩ := splits
  have size := positive.qty
  unfold DepthWalk.take
  dsimp only
  by_cases deep : walk.remainingQty < level.qty
  · rw [if_pos deep]
    constructor <;> grind
  · rw [if_neg deep]
    constructor <;> grind

/-- The loop splits the order's quantity between executed and remaining. -/
theorem walkDepth_splits (levels : List PriceLevel) (splits : walk.Splits qty)
    (positive : ∀ level ∈ levels, level.Positive) :
    (walkDepth side priceLimit walk levels).Splits qty := by
  induction levels generalizing walk with
  | nil => exact splits
  | cons level rest ih =>
    unfold walkDepth
    have taken := splits.take (positive level (List.mem_cons_self ..))
    split
    · dsimp only
      split
      · next done =>
        have nothing : (walk.take level).remainingQty = 0 := le_antisymm done taken.remaining
        exact ⟨taken.executed, le_refl _, by rw [← nothing]; exact taken.whole⟩
      · exact ih taken fun later member => positive later (List.mem_cons_of_mem _ member)
    · exact splits

theorem executeDepth_fills (positive : ∀ level ∈ levels, level.Positive) (sized : 0 < order.qty)
    (executed : executeDepth order venueOrderId book feeModel priceLimit levels topOfBook =
      .ok (.executed simulated)) : simulated.Fills order venueOrderId := by
  have start : (⟨order.qty, 0, 0, none⟩ : DepthWalk).Splits order.qty :=
    ⟨le_refl _, le_of_lt sized, zero_add _⟩
  have splits : (walkDepth order.side priceLimit _ levels).Splits order.qty :=
    walkDepth_splits levels start positive
  unfold executeDepth at executed
  dsimp only at executed
  split at executed
  · cases executed
  · next some =>
    split at executed
    · cases executed
    · cases executed
      exact ⟨rfl, rfl, lt_of_le_of_ne splits.executed (Ne.symm some), splits.remaining, splits.whole⟩

/-- `LiveOrderbookFillSimulator`, the depth-walking simulator for paper mode. -/
def liveOrderbookFillSimulator [LibraryText] : FillSimulator where
  simulate := liveSimulate
  sized {order venueOrderId book feeModel outcome} simulated := by
    by_contra empty
    rw [liveSimulate, if_pos (not_lt.mp empty)] at simulated
    cases simulated
  fills {order venueOrderId book feeModel simulated} executed := by
    unfold liveSimulate at executed
    split at executed
    · cases executed
    · next sized =>
      split at executed
      · cases executed
      · split at executed
        · cases executed
        · split at executed
          · cases executed
          · next valid =>
            split at executed
            · cases executed
            · split at executed
              · cases executed
              · obtain ⟨bids, asks⟩ := positive_of_validate valid
                refine executeDepth_fills ?_ (not_le.mp sized) executed
                unfold opposite
                split
                · exact asks
                · exact bids

end FeynmanEngine.FillSimulation
