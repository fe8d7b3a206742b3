import Mathlib.Algebra.Order.Ring.Rat
import FeynmanEngine.Orders
import FeynmanEngine.Traces

/-! Live orders of `types/src/pipeline.rs`: an order after its submission to a
venue, the runtime state machine of its life there and the calls that move it.
A call works on the order in place, so it is a function to the order it leaves
and its answer. -/
namespace FeynmanEngine.LiveOrders
open Ids Orders Traces

/-- Aggregated fill state of an order; the number of fills is a 32-bit count. -/
structure FillSummary where
  filledQty : Decimal
  remainingQty : Decimal
  avgFillPrice : Decimal
  totalFee : Decimal
  fillCount : Nat
  deriving DecidableEq

inductive CancelReason where
  | userRequested
  | agentRequested (agent : AgentId)
  | riskGateKilled
  | circuitBreakerTripped
  | linkedOrderFilled
  | timeout
  | insufficientBalance
  | venueCancelled (venueReason : String)
  | selfTradePreventionTriggered
  deriving DecidableEq

/-- Runtime state machine of the life after submission. -/
inductive VenueState where
  | submitted
  | accepted (acceptedAt : DateTime)
  | triggered (triggeredAt : DateTime)
  | partiallyFilled (summary : FillSummary)
  | filled (summary : FillSummary) (filledAt : DateTime)
  | venueRejected (reason : String) (rejectedAt : DateTime)
  | cancelled (reason : CancelReason) (summary : FillSummary) (cancelledAt : DateTime)
  | expired (summary : FillSummary) (expiredAt : DateTime)
  deriving DecidableEq

inductive VenueStateError where
  | invalidTransition (source target : VenueState)
  | invalidFill (reason : String)
  deriving DecidableEq

namespace VenueState

def isTerminal : VenueState → Bool
  | .filled _ _ | .venueRejected _ _ | .cancelled _ _ _ | .expired _ _ => true
  | .submitted | .accepted _ | .triggered _ | .partiallyFilled _ => false

/-- Live on the venue: can receive fills. -/
def isLive : VenueState → Bool
  | .accepted _ | .partiallyFilled _ => true
  | .submitted | .triggered _ | .filled _ _ | .venueRejected _ _ | .cancelled _ _ _ | .expired _ _ => false

def valid : VenueState → VenueState → Bool
  | .submitted, .accepted _ | .submitted, .triggered _ | .submitted, .venueRejected _ _ => true
  -- the trigger fired
  | .triggered _, .accepted _ => true
  | .accepted _, .partiallyFilled _ | .accepted _, .filled _ _ | .accepted _, .cancelled _ _ _
  | .accepted _, .expired _ _ => true
  | .partiallyFilled _, .partiallyFilled _ | .partiallyFilled _, .filled _ _
  | .partiallyFilled _, .cancelled _ _ _ => true
  | _, _ => false

def tryTransition (state target : VenueState) : Except VenueStateError VenueState :=
  if state.valid target then .ok target else .error (.invalidTransition state target)

end VenueState

/-- An order that has been submitted to a venue. -/
structure LiveOrder where
  core : OrderCore
  clientOrderId : ClientOrderId
  venueOrderId : Option VenueOrderId
  venueState : VenueState
  filledQty : Decimal
  remainingQty : Decimal
  avgFillPrice : Option Decimal
  fills : List Fill
  riskApproval : RiskApprovalStamp
  submittedAt : DateTime
  lastUpdated : DateTime

/-- `usize as u32`. -/
def countU32 (length : Nat) : Nat := length % 2 ^ 32

namespace LiveOrder

def fromRouted (order : PipelineOrder Routed) (now : DateTime) : LiveOrder where
  core := order.core
  clientOrderId := order.clientOrderId
  venueOrderId := none
  venueState := .submitted
  filledQty := 0
  remainingQty := order.core.qty
  avgFillPrice := none
  fills := []
  riskApproval := order.stage.approval
  submittedAt := now
  lastUpdated := now

/-- The fees of the recorded fills, added to what there is already. -/
def totalFee (order : LiveOrder) (fee : Decimal) : Decimal :=
  (order.fills.map Fill.fee).foldl (· + ·) fee

def fillSummary (order : LiveOrder) : FillSummary where
  filledQty := order.filledQty
  remainingQty := order.remainingQty
  avgFillPrice := order.avgFillPrice.getD 0
  totalFee := order.totalFee 0
  fillCount := countU32 order.fills.length

/-- Moves the venue state and then, if the transition is valid, the other fields. -/
def transition (order : LiveOrder) (target : VenueState) (record : LiveOrder → LiveOrder) :
    LiveOrder × Except VenueStateError Unit :=
  match order.venueState.tryTransition target with
  | .ok state => (record { order with venueState := state }, .ok ())
  | .error error => (order, .error error)

/-- The venue acknowledged the order. -/
def onAccepted (order : LiveOrder) (venueOrderId : VenueOrderId) (now : DateTime) :
    LiveOrder × Except VenueStateError Unit :=
  order.transition (.accepted now) fun moved =>
    { moved with venueOrderId := some venueOrderId, lastUpdated := now }

/-- A conditional order was accepted and waits for its trigger. -/
def onTriggered (order : LiveOrder) (now : DateTime) : LiveOrder × Except VenueStateError Unit :=
  order.transition (.triggered now) fun moved => { moved with lastUpdated := now }

/-- The totals with one more fill. -/
def proposed (order : LiveOrder) (fill : Fill) : FillSummary :=
  let newFilledQty := order.filledQty + fill.qty
  let totalFilledNotional := order.avgFillPrice.getD 0 * order.filledQty + fill.price * fill.qty
  { filledQty := newFilledQty
    remainingQty := order.remainingQty - fill.qty
    avgFillPrice := if 0 < newFilledQty then totalFilledNotional / newFilledQty else 0
    totalFee := order.totalFee fill.fee
    fillCount := countU32 (order.fills.length + 1) }

/-- A fill from the venue, checked before anything changes. -/
def onFill [LibraryText] (order : LiveOrder) (fill : Fill) (now : DateTime) :
    LiveOrder × Except VenueStateError Unit :=
  if fill.qty ≤ 0 then
    (order, .error (.invalidFill "fill quantity must be positive"))
  else if order.remainingQty < fill.qty then
    (order, .error (.invalidFill ("fill quantity " ++ LibraryText.decimal fill.qty ++
      " exceeds remaining " ++ LibraryText.decimal order.remainingQty)))
  else
    let summary := order.proposed fill
    let nextState := if summary.remainingQty ≤ 0 then .filled summary now else .partiallyFilled summary
    order.transition nextState fun moved =>
      { moved with
        filledQty := summary.filledQty
        remainingQty := summary.remainingQty
        avgFillPrice := some summary.avgFillPrice
        fills := moved.fills ++ [fill]
        lastUpdated := now }

def onCancel (order : LiveOrder) (reason : CancelReason) (now : DateTime) :
    LiveOrder × Except VenueStateError Unit :=
  order.transition (.cancelled reason order.fillSummary now) fun moved => { moved with lastUpdated := now }

/-- The venue rejected the order. -/
def onReject (order : LiveOrder) (reason : String) (now : DateTime) :
    LiveOrder × Except VenueStateError Unit :=
  order.transition (.venueRejected reason now) fun moved => { moved with lastUpdated := now }

/-- The order expired on the venue. -/
def onExpire (order : LiveOrder) (now : DateTime) : LiveOrder × Except VenueStateError Unit :=
  order.transition (.expired order.fillSummary now) fun moved => { moved with lastUpdated := now }

end LiveOrder

inductive Call where
  | accepted (venueOrderId : VenueOrderId) (now : DateTime)
  | triggered (now : DateTime)
  | fill (fill : Fill) (now : DateTime)
  | cancel (reason : CancelReason) (now : DateTime)
  | reject (reason : String) (now : DateTime)
  | expire (now : DateTime)

def answer [LibraryText] (order : LiveOrder) : Call → LiveOrder × Except VenueStateError Unit
  | .accepted venueOrderId now => order.onAccepted venueOrderId now
  | .triggered now => order.onTriggered now
  | .fill fill now => order.onFill fill now
  | .cancel reason now => order.onCancel reason now
  | .reject reason now => order.onReject reason now
  | .expire now => order.onExpire now

/-- Any calls on the live order of a routed one, each succeeding or failing. -/
abbrev LiveRun [LibraryText] (routed : PipelineOrder Routed) (submittedAt : DateTime) :
    List (Call × Except VenueStateError Unit) → LiveOrder → Prop :=
  Path (Answers answer) (LiveOrder.fromRouted routed submittedAt)

/-- The fills the calls of a run were accepted with. -/
def acceptedFills (entries : List (Call × Except VenueStateError Unit)) : List Fill :=
  entries.filterMap fun
    | (.fill fill _, .ok ()) => some fill
    | _ => none

end FeynmanEngine.LiveOrders
