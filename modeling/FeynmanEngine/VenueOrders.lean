import FeynmanEngine.Orders

/-! What the gateway exchanges with venue adapters, from `gateway/src/lib.rs`:
submissions, acknowledgments, fills, the actions an adapter holds back until an
acknowledgment has been recorded, and the errors. -/
namespace FeynmanEngine.VenueOrders
open Ids Orders

/-- `GatewayError`; spans are nanoseconds, an `Internal` error is its text. -/
inductive GatewayError where
  | venueNotConnected (venueId state : String)
  | agentAllocationNotFound (agentId : String)
  | priceUnavailable (instrumentId : String)
  | stalePrice (instrumentId : String) (maxAge : Nat)
  | routingUnavailable (instrumentId reason : String)
  | timeout (operation : String) (elapsed : Nat)
  | venueRejected (reason : String)
  | orderNotFound (order : String)
  | unsupported (detail : String)
  | validation (detail : String)
  | internal (detail : String)
  deriving DecidableEq, Repr

def GatewayError.toText [LibraryText] : GatewayError → String
  | .venueNotConnected venueId state =>
    "venue " ++ venueId ++ " is not connected (state: " ++ state ++ ")"
  | .agentAllocationNotFound agentId => "agent allocation not found for " ++ agentId
  | .priceUnavailable instrumentId => "price unavailable for instrument " ++ instrumentId
  | .stalePrice instrumentId maxAge => "price for instrument " ++ instrumentId ++
    " is stale (max age " ++ LibraryText.duration maxAge ++ ")"
  | .routingUnavailable instrumentId reason =>
    "no route available for instrument " ++ instrumentId ++ ": " ++ reason
  | .timeout operation elapsed =>
    "operation timed out after " ++ LibraryText.duration elapsed ++ ": " ++ operation
  | .venueRejected reason => "venue rejected order: " ++ reason
  | .orderNotFound order => "order not found: " ++ order
  | .unsupported detail => "venue does not support: " ++ detail
  | .validation detail => "validation failed: " ++ detail
  | .internal detail => detail

/-- `OrderSubmission`: a routed order as an adapter sees it. -/
structure OrderSubmission where
  orderId : OrderId
  clientOrderId : ClientOrderId
  agentId : AgentId
  instrumentId : InstrumentId
  marketId : MarketId
  venueId : VenueId
  side : Side
  orderType : Orders.OrderType
  timeInForce : TimeInForce
  qty : Decimal
  price : Option Decimal
  triggerPrice : Option Decimal
  stopLoss : Option Decimal
  takeProfit : Option Decimal
  postOnly : Bool
  reduceOnly : Bool
  dryRun : Bool
  execHint : ExecHint
  deriving DecidableEq

/-- `OrderSubmission::from_routed`. -/
def OrderSubmission.fromRouted (order : PipelineOrder Routed) : OrderSubmission where
  orderId := order.core.id
  clientOrderId := order.stage.routing.clientOrderId
  agentId := order.core.agentId
  instrumentId := order.core.instrumentId
  marketId := order.core.marketId
  venueId := order.stage.routing.venueId
  side := order.core.side
  orderType := order.core.orderType
  timeInForce := order.core.timeInForce
  qty := order.core.qty
  price := order.core.price
  triggerPrice := order.core.triggerPrice
  stopLoss := order.core.stopLoss
  takeProfit := order.core.takeProfit
  postOnly := order.core.postOnly
  reduceOnly := order.core.reduceOnly
  dryRun := order.core.dryRun
  execHint := order.core.execHint

/-- Acknowledgment from a venue after order submission. -/
structure VenueOrderAck where
  venueOrderId : VenueOrderId
  clientOrderId : ClientOrderId
  acceptedAt : DateTime
  deriving DecidableEq, Repr

/-- Fill as subscribers of a venue's fill stream receive it. -/
structure VenueFill where
  venueOrderId : VenueOrderId
  clientOrderId : ClientOrderId
  instrumentId : InstrumentId
  side : Side
  qty : Decimal
  price : Decimal
  fee : Decimal
  isMaker : Bool
  filledAt : DateTime
  deriving DecidableEq

/-- One fill that should be emitted after the order ack is processed. -/
structure PostAckFill where
  clientOrderId : ClientOrderId
  fill : Fill
  deriving DecidableEq

/-- What must happen after the sequencer records the venue ack. -/
structure PostAckActions where
  fills : List PostAckFill
  cancellationReason : Option String
  deriving DecidableEq

def PostAckActions.default : PostAckActions := ⟨[], none⟩

/-- What follows an acknowledgment of an order of `qty`: at most one fill, of
that order and of at most its quantity, and a cancellation only of a rest. -/
structure PostAckActions.Settles (actions : PostAckActions) (orderId : OrderId) (qty : Decimal) :
    Prop where
  single : actions.fills.length ≤ 1
  fills : ∀ queued ∈ actions.fills, queued.fill.orderId = orderId ∧ 0 < queued.fill.qty ∧
    queued.fill.qty ≤ qty
  cancels : actions.cancellationReason.isSome → ∀ queued ∈ actions.fills, queued.fill.qty < qty

theorem PostAckActions.default_settles (orderId : OrderId) (qty : Decimal) :
    PostAckActions.default.Settles orderId qty :=
  ⟨Nat.zero_le 1, List.forall_mem_nil _, fun _ => List.forall_mem_nil _⟩

end FeynmanEngine.VenueOrders
