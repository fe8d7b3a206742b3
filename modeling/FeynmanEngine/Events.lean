import FeynmanEngine.Orders

/-! Engine events of `types/src/event.rs`. A durable commit carries the events
of one command, stamped with that command's sequence number. -/
namespace FeynmanEngine.Events
open Ids Orders

inductive SubsystemId where
  | venueConnection
  | messageBus
  | eventJournal
  | priceFeed
  | dashboard
  | reconciler
  deriving DecidableEq

inductive RiskOutcomeKind where
  | approved
  | resized
  | rejected
  deriving DecidableEq

/-- All events the engine can produce. -/
inductive EngineEvent where
  | orderReceived (orderId : OrderId) (agentId : AgentId) (instrumentId : InstrumentId)
      (venueId : VenueId)
  | orderValidated (orderId : OrderId)
  | orderRiskChecked (orderId : OrderId) (outcome : RiskOutcomeKind)
  | orderRouted (orderId : OrderId) (venueId : VenueId)
  | orderSubmitted (orderId : OrderId) (venueOrderId : VenueOrderId)
  | orderFilled (orderId : OrderId) (filledQty price fee : Decimal)
  | orderPartiallyFilled (orderId : OrderId) (filledQty remainingQty price fee : Decimal)
  | orderCancelled (orderId : OrderId) (reason : String)
  | orderRejected (orderId : OrderId) (stage reason : String)
  | orderAmended (orderId : OrderId) (newPrice newQty : Option Decimal)
  | riskBreached (agentId : AgentId) (checkName detail : String)
  | circuitBreakerTripped (breakerId reason : String)
  | circuitBreakerReset (breakerId : String)
  | positionCorrected (instrumentId : InstrumentId) (venueId : VenueId) (oldQty newQty : Decimal)
  | reconciliationCompleted (venueId : VenueId) (divergencesFound : Nat)
  | agentPaused (agentId : AgentId) (reason : String)
  | agentResumed (agentId : AgentId)
  | engineStarted (mode : String)
  | engineHalted (reason : String)
  | snapshotCreated (atSequence : SequenceId)
  | venueConnected (venueId : VenueId)
  | venueDisconnected (venueId : VenueId) (reason : String)
  | subsystemDegraded (subsystem : SubsystemId) (reason : String)
  | subsystemRecovered (subsystem : SubsystemId)

/-- `event_kind`: the variant's name. -/
def EngineEvent.kind : EngineEvent → String
  | .orderReceived .. => "OrderReceived"
  | .orderValidated .. => "OrderValidated"
  | .orderRiskChecked .. => "OrderRiskChecked"
  | .orderRouted .. => "OrderRouted"
  | .orderSubmitted .. => "OrderSubmitted"
  | .orderFilled .. => "OrderFilled"
  | .orderPartiallyFilled .. => "OrderPartiallyFilled"
  | .orderCancelled .. => "OrderCancelled"
  | .orderRejected .. => "OrderRejected"
  | .orderAmended .. => "OrderAmended"
  | .riskBreached .. => "RiskBreached"
  | .circuitBreakerTripped .. => "CircuitBreakerTripped"
  | .circuitBreakerReset .. => "CircuitBreakerReset"
  | .positionCorrected .. => "PositionCorrected"
  | .reconciliationCompleted .. => "ReconciliationCompleted"
  | .agentPaused .. => "AgentPaused"
  | .agentResumed .. => "AgentResumed"
  | .engineStarted .. => "EngineStarted"
  | .engineHalted .. => "EngineHalted"
  | .snapshotCreated .. => "SnapshotCreated"
  | .venueConnected .. => "VenueConnected"
  | .venueDisconnected .. => "VenueDisconnected"
  | .subsystemDegraded .. => "SubsystemDegraded"
  | .subsystemRecovered .. => "SubsystemRecovered"

/-- The order an event is about, if it is about one. -/
def EngineEvent.order? : EngineEvent → Option OrderId
  | .orderReceived orderId .. | .orderValidated orderId | .orderRiskChecked orderId _ |
    .orderRouted orderId _ | .orderSubmitted orderId _ | .orderFilled orderId .. |
    .orderPartiallyFilled orderId .. | .orderCancelled orderId _ | .orderRejected orderId .. |
    .orderAmended orderId .. => some orderId
  | .riskBreached .. | .circuitBreakerTripped .. | .circuitBreakerReset _ | .positionCorrected .. |
    .reconciliationCompleted .. | .agentPaused .. | .agentResumed _ | .engineStarted _ |
    .engineHalted _ | .snapshotCreated _ | .venueConnected _ | .venueDisconnected .. |
    .subsystemDegraded .. | .subsystemRecovered _ => none

/-- An event in its envelope: command number and engine time. -/
structure SequencedEvent where
  sequenceId : SequenceId
  timestamp : DateTime
  event : EngineEvent

end FeynmanEngine.Events
