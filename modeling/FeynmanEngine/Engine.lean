import FeynmanEngine.Events
import FeynmanEngine.Portfolio

/-! The data and the two interfaces of `engine-core/src/lib.rs`: the decision
logic (`EngineCore`) and the journal (`EventJournal`). Both are classes, so
what is proved about the sequencer holds for every implementation that keeps
the stated promises. A method of the core may also panic; its partial changes
then stay in the core. -/
namespace FeynmanEngine.Engine
open Ids Orders Events Tables Portfolio

/-- `EngineError`; an `Internal` error is its text. -/
inductive EngineError where
  | riskRejected (reason : String)
  | agentPaused (agentId reason : String)
  | engineHalted (reason : String)
  | agentNotFound (agent : String)
  | orderNotFound (order : String)
  | invalidTransition (detail : String)
  | duplicateOrder (clientOrderId : ClientOrderId)
  | journal (detail : String)
  | reconciliation (detail : String)
  | unsupportedCommand (command : String)
  | internal (detail : String)
  deriving DecidableEq, Repr

def EngineError.toText : EngineError → String
  | .riskRejected reason => "risk check failed: " ++ reason
  | .agentPaused agentId reason => "agent " ++ agentId ++ " is paused: " ++ reason
  | .engineHalted reason => "engine is halted: " ++ reason
  | .agentNotFound agent => "agent not found: " ++ agent
  | .orderNotFound order => "order not found: " ++ order
  | .invalidTransition detail => "invalid state transition: " ++ detail
  | .duplicateOrder clientOrderId =>
      "duplicate order: client_order_id " ++ clientOrderId.value ++ " already submitted"
  | .journal detail => "journal error: " ++ detail
  | .reconciliation detail => "reconciliation error: " ++ detail
  | .unsupportedCommand command => "unsupported command: " ++ command
  | .internal detail => detail

/-- Answer to an accepted order. -/
structure OrderAck where
  orderId : OrderId
  clientOrderId : ClientOrderId
  acceptedAt : DateTime
  deriving DecidableEq, Repr

structure SignalAck where
  orderId : OrderId
  clientOrderId : ClientOrderId
  positionSize : Decimal
  acceptedAt : DateTime

/-- What the engine keeps of an accepted order. -/
structure OrderRecord where
  core : OrderCore
  state : OrderState
  clientOrderId : ClientOrderId
  venueOrderId : Option VenueOrderId
  fills : List Fill
  createdAt : DateTime
  lastUpdated : DateTime
  deriving DecidableEq

/-- All mutable business state, owned by the sequencer. -/
structure EngineState where
  orders : Table OrderId OrderRecord
  positions : Table (AgentId × VenueId × InstrumentId) TrackedPosition
  pendingSignals : Table SignalId Signal
  firmBook : FirmBook
  agentAllocations : Table AgentId AgentAllocation
  riskLimits : RiskLimits
  agentStatuses : Table AgentId AgentStatus
  idempotencyCache : Table ClientOrderId OrderAck
  lastSequenceId : SequenceId
  lastUpdated : DateTime

structure EngineStateSnapshot where
  state : EngineState
  sequenceId : SequenceId
  snapshotAt : DateTime

structure PriceSnapshot where
  instrument : InstrumentId
  bid : Decimal
  ask : Decimal
  mid : Decimal
  last : Decimal
  observedAt : DateTime
  receivedAt : DateTime

/-- A price source as one command sees it; ages are nanoseconds. -/
structure PriceSource where
  latestPrice : InstrumentId → Option PriceSnapshot
  isStale : InstrumentId → Nat → Bool

inductive ReconciliationAction where
  | acceptVenue
  | alertOnly
  | cancelOrphan
  deriving DecidableEq

structure PositionDivergence where
  instrument : InstrumentId
  engineQty : Decimal
  venueQty : Decimal
  delta : Decimal
  action : ReconciliationAction

inductive OrderDivergence where
  | missingOnVenue (orderId : OrderId) (engineState : String)
  | orphanOnVenue (venueOrderId : VenueOrderId) (venueState : String)
  | stateMismatch (orderId : OrderId) (venueOrderId : VenueOrderId) (engineState venueState : String)

structure BalanceDivergence where
  engineBalance : Decimal
  venueBalance : Decimal
  delta : Decimal

structure ReconciliationReport where
  venueId : VenueId
  accountId : AccountId
  startedAt : DateTime
  completedAt : DateTime
  positionDivergences : List PositionDivergence
  orderDivergences : List OrderDivergence
  balanceDivergence : Option BalanceDivergence

def ReconciliationReport.divergenceCount (report : ReconciliationReport) : Nat :=
  report.positionDivergences.length + report.orderDivergences.length +
    (if report.balanceDivergence.isSome then 1 else 0)

/-- How a call of the core or of a handler ends. -/
inductive Completion (α : Type) where
  | ok (value : α)
  | err (error : EngineError)
  | panicked

/-- `trait EngineCore`. `stateMut` applies what the sequencer writes through
`state_mut`. -/
class EngineCore (C : Type) where
  state : C → EngineState
  stateMut : C → (EngineState → EngineState) → C
  state_stateMut (core : C) (write : EngineState → EngineState) :
    state (stateMut core write) = write (state core)
  restoreSnapshot : C → EngineStateSnapshot → C × Completion Unit :=
    fun core snapshot => (stateMut core fun _ => snapshot.state, .ok ())
  snapshot : C → SequenceId → DateTime → EngineStateSnapshot :=
    fun core sequenceId snapshotAt => ⟨state core, sequenceId, snapshotAt⟩
  evaluateOrder : C → PipelineOrder Validated → DateTime →
    C × Completion (PipelineOrder RiskChecked)
  onFill : C → Fill → DateTime → C × Completion Unit
  onReconciliation : C → ReconciliationReport → DateTime → C × Completion Unit
  markToMarket : C → PriceSource → DateTime → C × Completion Unit
  pauseAgent : C → AgentId → String → DateTime → C × Completion Unit
  resumeAgent : C → AgentId → DateTime → C × Completion Unit
  adjustLimits : C → AgentId → AgentRiskLimits → C × Completion Unit
  haltAll : C → String → DateTime → C × Completion Unit
  resetCircuitBreaker : C → DateTime → C × Completion Unit

attribute [simp] EngineCore.state_stateMut

/-- The part of `trait EventJournal` the sequencer calls. `Weather` is what the
storage does to one write. -/
class EventJournal (J : Type) (Weather : outParam Type) where
  persistCommit : J → Weather → List SequencedEvent → Option EngineStateSnapshot →
    J × Except EngineError Unit
  replayFrom : J → SequenceId → Except EngineError (List SequencedEvent)
  loadLatestSnapshot : J → Except EngineError (Option (SequenceId × EngineStateSnapshot))
  latestSequenceId : J → Except EngineError SequenceId

/-- The receiving end of a one-shot reply. -/
abbrev ReplyTo := Nat

inductive SequencerCommand where
  | submitOrder (order : PipelineOrder Validated) (respond : ReplyTo)
  | submitSignal (signal : Signal) (respond : ReplyTo)
  | onVenueAck (orderId : OrderId) (venueOrderId : VenueOrderId) (submittedAt : DateTime)
  | onVenueSubmitFailed (orderId : OrderId) (reason : String)
  | onVenueCancelled (orderId : OrderId) (reason : String) (cancelledAt : DateTime)
  | onFill (fill : Fill)
  | onReconciliation (report : ReconciliationReport)
  | markToMarket
  | adjustLimits (agent : AgentId) (limits : AgentRiskLimits) (respond : ReplyTo)
  | pauseAgent (agent : AgentId) (reason : String)
  | resumeAgent (agent : AgentId)
  | haltAll (reason : String)
  | resetCircuitBreaker (breakerId : String)
  | snapshot (respond : ReplyTo)
  | shutdown (respond : ReplyTo)
  | poisonPill

/-- Which of the two channels a command is sent on. -/
def SequencerCommand.isHighPriority : SequencerCommand → Bool
  | .onVenueAck .. | .onVenueSubmitFailed .. | .onVenueCancelled .. | .onFill .. |
    .onReconciliation .. | .haltAll .. | .resetCircuitBreaker .. | .shutdown .. | .poisonPill => true
  | .submitOrder .. | .submitSignal .. | .markToMarket | .adjustLimits .. | .pauseAgent .. |
    .resumeAgent .. | .snapshot .. => false

/-- Monotonic sequence number generator. -/
structure SequenceGenerator where
  next : SequenceId
  deriving DecidableEq, Repr

def SequenceGenerator.new (startFrom : SequenceId) : SequenceGenerator := ⟨startFrom⟩

def SequenceGenerator.nextId (gen : SequenceGenerator) : SequenceId × SequenceGenerator :=
  (gen.next, ⟨gen.next.next⟩)

end FeynmanEngine.Engine
