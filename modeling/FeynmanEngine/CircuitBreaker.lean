import FeynmanEngine.ExposureProjection
import FeynmanEngine.Portfolio

/-! The compiled-in circuit breakers of `risk/src/circuit_breaker.rs`. Three
breakers latch (CB-3, CB-4, CB-5); the others are functions of the context.
The bank runs them in one fixed order and stops at the first result that is
not a pass. Logging is left out. -/
namespace FeynmanEngine.CircuitBreaker
open Ids Orders Tables Portfolio ExposureProjection

inductive RiskError where
  | circuitBreakerTripped (breaker reason : String)
  | rejected (reason : String)
  | stalePriceData (instrument : String)
  | agentNotFound (agent : String)
  deriving DecidableEq

inductive ExecutionMode where
  | live
  | paper
  | backtest
  deriving DecidableEq

def ExecutionMode.debug : ExecutionMode → String
  | .live => "Live"
  | .paper => "Paper"
  | .backtest => "Backtest"

/-- The kind of operation, as the caller declares it. -/
inductive OperationKind where
  | newOrder
  | cancel
  | reduceOnly
  deriving DecidableEq

/-- Thresholds for all compiled-in breakers. -/
structure CircuitBreakerConfig where
  maxSingleOrderNotional : Decimal
  maxInstrumentPositionNotional : Decimal
  maxFirmGrossNotional : Decimal
  maxDailyLossPct : Decimal
  maxHourlyLossPct : Decimal
  maxFirmOrdersPerMin : Nat
  maxAgentOrdersPerMin : Nat
  maxVenueErrorRate : Decimal
  maxVenueDisconnectSecs : Nat
  maxSequencerQueueDepth : Nat

structure VenueErrorStats where
  errorsLast5min : Nat
  totalLast5min : Nat

/-- Inputs to every check; `clockNow` is the clock's reading. -/
structure CircuitBreakerContext where
  order : Option (PipelineOrder Validated)
  firmBook : FirmBook
  venueHealth : Table VenueId VenueConnectionHealth
  venueErrorStats : Table VenueId VenueErrorStats
  firmOrdersLast60s : Nat
  agentOrdersLast60s : Table AgentId Nat
  sequencerQueueDepth : Nat
  executionMode : ExecutionMode
  operationKind : OperationKind
  config : CircuitBreakerConfig
  clockNow : DateTime

inductive CircuitBreakerResult where
  | pass
  | reject (breaker reason : String)
  | haltAll (breaker reason : String)
  deriving DecidableEq

inductive ResetReason where
  | manualOperator (operator : String)
  | cioApproval (approver : String)
  deriving DecidableEq

namespace CircuitBreakerResult

/-- The next check runs only after a pass. -/
def andThen (result next : CircuitBreakerResult) : CircuitBreakerResult :=
  match result with
  | .pass => next
  | blocked => blocked

@[simp] theorem andThen_eq_pass (result next : CircuitBreakerResult) :
    result.andThen next = .pass ↔ result = .pass ∧ next = .pass := by
  cases result <;> simp [andThen]

end CircuitBreakerResult

/-- `if … { return reject(…) } Pass`. -/
def rejectWhen (violated : Prop) [Decidable violated] (breaker reason : String) :
    CircuitBreakerResult :=
  if violated then .reject breaker reason else .pass

@[simp] theorem rejectWhen_eq_pass (violated : Prop) [Decidable violated] (breaker reason : String) :
    rejectWhen violated breaker reason = .pass ↔ ¬ violated := by
  by_cases holds : violated <;> simp [rejectWhen, holds]

/-- The notional of a priced order; without a positive price there is none. -/
def pricedNotional (core : OrderCore) : Option Decimal :=
  match core.price with
  | some price => if 0 < price then some (core.qty * price) else none
  | none => none

variable [LibraryText]
open LibraryText

/-- CB-1: notional of a single order. -/
def Cb1MaxSingleOrderNotional.check (ctx : CircuitBreakerContext) : CircuitBreakerResult :=
  match ctx.order with
  | none => .pass
  | some order =>
    match pricedNotional order.core with
    | none => .pass
    | some notional =>
      rejectWhen (notional > ctx.config.maxSingleOrderNotional) "CB-1"
        ("order notional " ++ decimal notional ++ " exceeds max single order notional " ++
          decimal ctx.config.maxSingleOrderNotional)

/-- Net and gross notional the book holds in an instrument; zero when it is not listed. -/
def instrumentExposure (book : FirmBook) (instrument : InstrumentId) : Decimal × Decimal :=
  match book.instruments.find? (fun entry => entry.instrument = instrument) with
  | some entry => (entry.netNotionalUsd, entry.grossNotionalUsd)
  | none => (0, 0)

/-- Gross exposure of the order's instrument after a trade of this notional. -/
def projectedGross (book : FirmBook) (core : OrderCore) (notional : Decimal) : Decimal :=
  let (currentNet, currentGross) := instrumentExposure book core.instrumentId
  (projectNetAndGross currentNet currentGross (signedDelta core.side notional)).2

/-- CB-2: projected gross exposure of the order's instrument. -/
def Cb2MaxInstrumentPosition.check (ctx : CircuitBreakerContext) : CircuitBreakerResult :=
  match ctx.order with
  | none => .pass
  | some order =>
    match pricedNotional order.core with
    | none => .pass
    | some notional =>
      let projected := projectedGross ctx.firmBook order.core notional
      rejectWhen (projected > ctx.config.maxInstrumentPositionNotional) "CB-2"
        ("projected instrument gross exposure " ++ decimal projected ++ " exceeds max " ++
          decimal ctx.config.maxInstrumentPositionNotional)

/-- CB-6: order rate of the firm. -/
def Cb6FirmOrdersPerMinute.check (ctx : CircuitBreakerContext) : CircuitBreakerResult :=
  rejectWhen (ctx.firmOrdersLast60s > ctx.config.maxFirmOrdersPerMin) "CB-6"
    ("firm order rate " ++ toString ctx.firmOrdersLast60s ++ "/min exceeds max " ++
      toString ctx.config.maxFirmOrdersPerMin ++ "/min")

/-- CB-7: order rate of the order's agent. -/
def Cb7AgentOrdersPerMinute.check (ctx : CircuitBreakerContext) : CircuitBreakerResult :=
  match ctx.order with
  | none => .pass
  | some order =>
    let agentRate := (ctx.agentOrdersLast60s.lookup order.core.agentId).getD 0
    rejectWhen (agentRate > ctx.config.maxAgentOrdersPerMin) "CB-7"
      ("agent " ++ order.core.agentId.value ++ " order rate " ++ toString agentRate ++
        "/min exceeds max " ++ toString ctx.config.maxAgentOrdersPerMin ++ "/min")

/-- CB-8: error rate of the order's venue. -/
def Cb8VenueErrorRate.check (ctx : CircuitBreakerContext) : CircuitBreakerResult :=
  match ctx.order with
  | none => .pass
  | some order =>
    match ctx.venueErrorStats.lookup order.core.venueId with
    | none => .pass
    | some stats =>
      if 0 < stats.totalLast5min then
        let errorRate : Decimal := stats.errorsLast5min / stats.totalLast5min
        rejectWhen (errorRate > ctx.config.maxVenueErrorRate) "CB-8"
          ("venue " ++ order.core.venueId.value ++ " error rate " ++ decimalFixed 2 errorRate ++
            " exceeds max " ++ decimal ctx.config.maxVenueErrorRate)
      else .pass

/-- `TimeDelta::num_seconds`: whole seconds, towards zero. -/
def numSeconds (nanos : Int) : Int := nanos.tdiv 1000000000

def connectionStateDebug : ConnectionState → String
  | .disconnected => "Disconnected"
  | .connecting => "Connecting"
  | .connected => "Connected"
  | .heartbeatLate last missed => "HeartbeatLate \x7b last_heartbeat: " ++ dateTime last ++
      ", missed_count: " ++ toString missed ++ " \x7d"
  | .stale last since => "Stale \x7b last_heartbeat: " ++ dateTime last ++
      ", stale_since: " ++ dateTime since ++ " \x7d"
  | .reconnecting attempt => "Reconnecting \x7b attempt: " ++ toString attempt ++ " \x7d"

/-- CB-9: connection and heartbeat of the order's venue; fails closed. -/
def Cb9VenueDisconnected.check (ctx : CircuitBreakerContext) : CircuitBreakerResult :=
  match ctx.order with
  | none => .pass
  | some order =>
    let venue := order.core.venueId
    match ctx.venueHealth.lookup venue with
    | none =>
      .reject "CB-9" ("no health record for venue " ++ venue.value ++ " — cannot verify connectivity")
    | some health =>
      if health.isSubmittable then
        match health.lastHeartbeatAt with
        | none => .reject "CB-9" ("venue " ++ venue.value ++ " has never sent a heartbeat")
        | some lastHb =>
          let elapsed := ctx.clockNow.nanos - lastHb.nanos
          if numSeconds elapsed < 0 then
            .reject "CB-9" ("venue " ++ venue.value ++ " heartbeat timestamp is " ++
              toString (numSeconds elapsed).natAbs ++ "s in the future — clock skew detected")
          else
            let elapsedSecs := (numSeconds elapsed).toNat
            rejectWhen (elapsedSecs > ctx.config.maxVenueDisconnectSecs) "CB-9"
              ("venue " ++ venue.value ++ " last heartbeat " ++ toString elapsedSecs ++
                "s ago exceeds " ++ toString ctx.config.maxVenueDisconnectSecs ++
                "-second disconnect limit")
      else
        .reject "CB-9" ("venue " ++ venue.value ++ " is not in Connected state (" ++
          connectionStateDebug health.state ++ ") — submission blocked")

/-- CB-10: only dry runs outside live mode. -/
def Cb10DryRunBypass.check (ctx : CircuitBreakerContext) : CircuitBreakerResult :=
  match ctx.order with
  | none => .pass
  | some order =>
    rejectWhen (order.core.dryRun = false ∧ ctx.executionMode ≠ .live) "CB-10"
      ("order has dry_run=false but engine is in " ++ ctx.executionMode.debug ++
        " mode — live submission blocked")

/-- CB-11: depth of the sequencer's queue. -/
def Cb11SequencerQueueDepth.check (ctx : CircuitBreakerContext) : CircuitBreakerResult :=
  rejectWhen (ctx.sequencerQueueDepth > ctx.config.maxSequencerQueueDepth) "CB-11"
    ("sequencer queue depth " ++ toString ctx.sequencerQueueDepth ++ " exceeds max " ++
      toString ctx.config.maxSequencerQueueDepth)

/-- State of a latching breaker. -/
structure Latch where
  tripped : Bool
  deriving DecidableEq, Repr

namespace Latch

def new : Latch := ⟨false⟩

def latch (_ : Latch) : Latch := ⟨true⟩

def reset (_ : Latch) (_ : ResetReason) : Latch := ⟨false⟩

def isTripped (breaker : Latch) : Bool := breaker.tripped

end Latch

def cb3Latched : CircuitBreakerResult :=
  .reject "CB-3" "firm gross notional limit latched — manual reset required"

def cb4Latched : CircuitBreakerResult :=
  .haltAll "CB-4" "daily loss halt latched — manual reset + CIO approval required"

def cb5Latched : CircuitBreakerResult :=
  .haltAll "CB-5" "hourly loss halt latched — manual reset required"

/-- CB-3: gross notional of the firm. -/
def Cb3MaxFirmGrossNotional.check (breaker : Latch) (ctx : CircuitBreakerContext) :
    CircuitBreakerResult :=
  if breaker.isTripped then cb3Latched
  else
    rejectWhen (ctx.firmBook.grossNotional > ctx.config.maxFirmGrossNotional) "CB-3"
      ("firm gross notional " ++ decimal ctx.firmBook.grossNotional ++ " exceeds max " ++
        decimal ctx.config.maxFirmGrossNotional)

/-- A loss beyond a fraction of a positive NAV halts; CB-4 and CB-5 differ in
the period. -/
def lossCheck (latched : CircuitBreakerResult) (name period : String) (pnl maxLossPct : Decimal)
    (breaker : Latch) (ctx : CircuitBreakerContext) : CircuitBreakerResult :=
  if breaker.isTripped then latched
  else if ctx.firmBook.nav ≤ 0 then .pass
  else
    let maxLoss := maxLossPct * ctx.firmBook.nav
    if pnl < -maxLoss then
      .haltAll name (period ++ " P&L " ++ decimal pnl ++ " breached -" ++
        decimalFixed 1 (maxLossPct * 100) ++ "% NAV loss cap (limit: -" ++ decimal maxLoss ++ ")")
    else .pass

/-- CB-4: daily loss of the firm. -/
def Cb4FirmDailyLoss.check (breaker : Latch) (ctx : CircuitBreakerContext) : CircuitBreakerResult :=
  lossCheck cb4Latched "CB-4" "daily" ctx.firmBook.dailyPnl ctx.config.maxDailyLossPct breaker ctx

/-- CB-5: hourly loss of the firm. -/
def Cb5FirmHourlyLoss.check (breaker : Latch) (ctx : CircuitBreakerContext) :
    CircuitBreakerResult :=
  lossCheck cb5Latched "CB-5" "hourly" ctx.firmBook.hourlyPnl ctx.config.maxHourlyLossPct breaker ctx

/-- The bank; stateless breakers need no field. -/
structure CircuitBreakerBank where
  cb3 : Latch
  cb4 : Latch
  cb5 : Latch
  deriving DecidableEq, Repr

namespace CircuitBreakerBank

def new : CircuitBreakerBank := ⟨.new, .new, .new⟩

/-- Early return on a latch, the loss halts first. -/
def latchedResult (bank : CircuitBreakerBank) : Option CircuitBreakerResult :=
  if bank.cb4.isTripped then some cb4Latched
  else if bank.cb5.isTripped then some cb5Latched
  else if bank.cb3.isTripped then some cb3Latched
  else none

/-- Fresh evaluation of CB-4, CB-5 and CB-3, latching the one that trips. -/
def freshResult (bank : CircuitBreakerBank) (ctx : CircuitBreakerContext) :
    CircuitBreakerBank × CircuitBreakerResult :=
  match Cb4FirmDailyLoss.check bank.cb4 ctx with
  | .haltAll breaker reason => ({ bank with cb4 := bank.cb4.latch }, .haltAll breaker reason)
  | .reject breaker reason => (bank, .reject breaker reason)
  | .pass =>
    match Cb5FirmHourlyLoss.check bank.cb5 ctx with
    | .haltAll breaker reason => ({ bank with cb5 := bank.cb5.latch }, .haltAll breaker reason)
    | .reject breaker reason => (bank, .reject breaker reason)
    | .pass =>
      match Cb3MaxFirmGrossNotional.check bank.cb3 ctx with
      | .haltAll breaker reason => (bank, .haltAll breaker reason)
      | .reject breaker reason => ({ bank with cb3 := bank.cb3.latch }, .reject breaker reason)
      | .pass => (bank, .pass)

/-- The checks after the loss and gross breakers; a reduce-only operation is
exempt from the cap on a single order. -/
def perOrderResult (ctx : CircuitBreakerContext) : CircuitBreakerResult :=
  (Cb11SequencerQueueDepth.check ctx).andThen <|
  (if ctx.operationKind = .reduceOnly then .pass else Cb1MaxSingleOrderNotional.check ctx).andThen <|
  (Cb2MaxInstrumentPosition.check ctx).andThen <|
  (Cb6FirmOrdersPerMinute.check ctx).andThen <|
  (Cb7AgentOrdersPerMinute.check ctx).andThen <|
  (Cb8VenueErrorRate.check ctx).andThen <|
  Cb9VenueDisconnected.check ctx

/-- Run the breakers in order, up to the first result that is not a pass. -/
def checkAll (bank : CircuitBreakerBank) (ctx : CircuitBreakerContext) :
    CircuitBreakerBank × CircuitBreakerResult :=
  if ctx.operationKind = .cancel then (bank, .pass)
  else
    match if ctx.operationKind = .reduceOnly then none else bank.latchedResult with
    | some latched => (bank, latched)
    | none =>
      match Cb10DryRunBypass.check ctx with
      | .pass =>
        match if ctx.operationKind = .reduceOnly then (bank, .pass) else bank.freshResult ctx with
        | (bank, .pass) => (bank, perOrderResult ctx)
        | blocked => blocked
      | blocked => (bank, blocked)

/-- Reset a latching breaker by id. CB-4 asks for the CIO. -/
def reset (bank : CircuitBreakerBank) (breakerId : String) (reason : ResetReason) :
    CircuitBreakerBank × Except RiskError Unit :=
  if breakerId = "CB-3" then ({ bank with cb3 := bank.cb3.reset reason }, .ok ())
  else if breakerId = "CB-4" then
    match reason with
    | .cioApproval _ => ({ bank with cb4 := bank.cb4.reset reason }, .ok ())
    | .manualOperator _ =>
      (bank, .error (.rejected "CB-4 (daily loss halt) requires CIO approval to reset — use ResetReason::CioApproval"))
  else if breakerId = "CB-5" then ({ bank with cb5 := bank.cb5.reset reason }, .ok ())
  else
    (bank, .error (.rejected ("circuit breaker " ++ breakerId ++ " is not resettable or does not exist")))

/-- Some loss halt is latched. -/
def isHaltActive (bank : CircuitBreakerBank) : Bool := bank.cb4.isTripped || bank.cb5.isTripped

end CircuitBreakerBank

def testConfig : CircuitBreakerConfig where
  maxSingleOrderNotional := 100000
  maxInstrumentPositionNotional := 500000
  maxFirmGrossNotional := 1000000
  maxDailyLossPct := 5 / 100
  maxHourlyLossPct := 2 / 100
  maxFirmOrdersPerMin := 100
  maxAgentOrdersPerMin := 20
  maxVenueErrorRate := 1 / 2
  maxVenueDisconnectSecs := 30
  maxSequencerQueueDepth := 1000

/-- A book with no positions, at the given daily result. -/
def testFirmBook (dailyPnl : Decimal) : FirmBook where
  nav := 1000000
  grossNotional := 200000
  netNotional := 100000
  realizedPnl := 0
  unrealizedPnl := 0
  dailyPnl := dailyPnl
  hourlyPnl := 0
  currentDrawdownPct := 0
  allocatedCapital := 500000
  cashAvailable := 800000
  totalFeesPaid := 0
  agentAllocations := (∅ : Table AgentId AgentAllocation).insert ⟨"satoshi"⟩
    ⟨100000, 0, 100000, 0, 0, 0, -15 / 100, .active⟩
  instruments := []
  predictionExposure := ⟨0, 0, 0⟩
  asOf := ⟨0⟩

def testOrder (qty price : Decimal) : PipelineOrder Validated :=
  (PipelineOrder.new
    { id := ⟨"ord-1"⟩, basketId := none, agentId := ⟨"satoshi"⟩, instrumentId := ⟨"BTC-USD"⟩,
      marketId := ⟨"BTC-USD"⟩, venueId := ⟨"bybit"⟩, side := .buy, orderType := .limit,
      timeInForce := .gtc, qty := qty, price := some price, triggerPrice := none,
      stopLoss := some (price - 5), takeProfit := none, postOnly := false, reduceOnly := false,
      dryRun := true, execHint := {}, createdAt := ⟨0⟩ }).intoValidated ⟨0⟩

def connectedVenueHealth : VenueConnectionHealth where
  venueId := ⟨"bybit"⟩
  state := .connected
  lastMessageAt := none
  lastHeartbeatAt := some ⟨0⟩
  heartbeatLatencyMs := none
  reconnectCount := 0
  connectedSince := none

def testContext (order : Option (PipelineOrder Validated)) (firmBook : FirmBook)
    (operationKind : OperationKind) : CircuitBreakerContext where
  order := order
  firmBook := firmBook
  venueHealth := (∅ : Table VenueId VenueConnectionHealth).insert ⟨"bybit"⟩ connectedVenueHealth
  venueErrorStats := ∅
  firmOrdersLast60s := 0
  agentOrdersLast60s := ∅
  sequencerQueueDepth := 0
  executionMode := .paper
  operationKind := operationKind
  config := testConfig
  clockNow := ⟨0⟩

end FeynmanEngine.CircuitBreaker
