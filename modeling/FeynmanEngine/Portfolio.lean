import FeynmanEngine.Orders
import FeynmanEngine.Tables

/-! Firm book, allocations, exposures and risk limits, with the fields of
`types/src/portfolio.rs`, `risk.rs` and `venue.rs`. -/
namespace FeynmanEngine.Portfolio
open Ids Orders Tables

inductive AgentStatus where
  | active
  | paused (reason : String) (since : DateTime)
  | drawdownBreached
  | halted
  deriving DecidableEq

/-- `Display` of an agent's status. -/
def AgentStatus.toText : AgentStatus → String
  | .active => "active"
  | .paused .. => "paused"
  | .drawdownBreached => "drawdown_breached"
  | .halted => "halted"

/-- An agent's capital allocation and current utilization. -/
structure AgentAllocation where
  allocatedCapital : Decimal
  usedCapital : Decimal
  freeCapital : Decimal
  realizedPnl : Decimal
  unrealizedPnl : Decimal
  currentDrawdown : Decimal
  maxDrawdownLimit : Decimal
  status : AgentStatus
  deriving DecidableEq

structure VenueExposure where
  venue : VenueId
  account : AccountId
  netQty : Decimal
  notionalUsd : Decimal
  deriving DecidableEq

structure AgentExposure where
  agent : AgentId
  netQty : Decimal
  notionalUsd : Decimal
  pnl : Decimal
  deriving DecidableEq

/-- Exposure of one instrument across all venues and agents. -/
structure InstrumentExposure where
  instrument : InstrumentId
  netQty : Decimal
  grossQty : Decimal
  netNotionalUsd : Decimal
  grossNotionalUsd : Decimal
  byVenue : List VenueExposure
  byAgent : List AgentExposure
  deriving DecidableEq

structure PredictionExposureSummary where
  totalNotional : Decimal
  pctOfNav : Decimal
  unresolvedMarkets : Nat
  deriving DecidableEq

/-- Firm-wide portfolio view with agent attribution. -/
structure FirmBook where
  nav : Decimal
  grossNotional : Decimal
  netNotional : Decimal
  realizedPnl : Decimal
  unrealizedPnl : Decimal
  dailyPnl : Decimal
  hourlyPnl : Decimal
  currentDrawdownPct : Decimal
  allocatedCapital : Decimal
  cashAvailable : Decimal
  totalFeesPaid : Decimal
  agentAllocations : Table AgentId AgentAllocation
  instruments : List InstrumentExposure
  predictionExposure : PredictionExposureSummary
  asOf : DateTime

/-- Position of one agent in one instrument at one venue, which key it. -/
structure TrackedPosition where
  account : AccountId
  qty : Decimal

inductive Urgency where
  | low
  | normal
  | high
  | immediate
  deriving DecidableEq

/-- Market signal of a strategy agent; `metadata` is the text of its JSON. -/
structure Signal where
  id : SignalId
  basketId : Option BasketId
  agent : AgentId
  instrument : InstrumentId
  direction : Side
  conviction : Decimal
  sizingHint : Option Decimal
  arbType : String
  stopLoss : Decimal
  takeProfit : Option Decimal
  thesis : String
  urgency : Urgency
  metadata : String
  createdAt : DateTime

structure AgentRiskLimits where
  allocatedCapital : Decimal
  maxPositionNotional : Decimal
  maxGrossNotional : Decimal
  maxDrawdownPct : Decimal
  maxDailyLoss : Decimal
  maxOpenOrders : Nat
  allowedInstruments : Option (List InstrumentId)
  allowedVenues : Option (List VenueId)

structure InstrumentRiskLimits where
  instrument : InstrumentId
  maxNetQty : Decimal
  maxGrossQty : Decimal
  maxConcentrationPct : Decimal
  maxLeverage : Decimal

structure VenueRiskLimits where
  venue : VenueId
  maxNotional : Decimal
  maxPositions : Nat
  maxPctOfNav : Decimal

structure RiskLimits where
  perAgent : Table AgentId AgentRiskLimits
  perInstrument : Table InstrumentId InstrumentRiskLimits
  perVenue : Table VenueId VenueRiskLimits

inductive ConnectionState where
  | disconnected
  | connecting
  | connected
  | heartbeatLate (lastHeartbeat : DateTime) (missedCount : Nat)
  | stale (lastHeartbeat staleSince : DateTime)
  | reconnecting (attempt : Nat)
  deriving DecidableEq

/-- `Debug` of a connection state. -/
def ConnectionState.debug [LibraryText] : ConnectionState → String
  | .disconnected => "Disconnected"
  | .connecting => "Connecting"
  | .connected => "Connected"
  | .heartbeatLate lastHeartbeat missedCount => "HeartbeatLate \x7b last_heartbeat: " ++
    LibraryText.dateTime lastHeartbeat ++ ", missed_count: " ++ toString missedCount ++ " \x7d"
  | .stale lastHeartbeat staleSince => "Stale \x7b last_heartbeat: " ++
    LibraryText.dateTime lastHeartbeat ++ ", stale_since: " ++ LibraryText.dateTime staleSince ++ " \x7d"
  | .reconnecting attempt => "Reconnecting \x7b attempt: " ++ toString attempt ++ " \x7d"

/-- Health status of a venue connection. -/
structure VenueConnectionHealth where
  venueId : VenueId
  state : ConnectionState
  lastMessageAt : Option DateTime
  lastHeartbeatAt : Option DateTime
  heartbeatLatencyMs : Option Nat
  reconnectCount : Nat
  connectedSince : Option DateTime

/-- Submission is safe only while the venue is connected. -/
def VenueConnectionHealth.isSubmittable (health : VenueConnectionHealth) : Bool :=
  health.state = .connected

end FeynmanEngine.Portfolio
