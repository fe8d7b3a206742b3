import FeynmanEngine.ExposureProjection
import FeynmanEngine.Portfolio

/-! The deterministic risk gate of `risk/src/lib.rs`. An evaluation looks up what
concerns the order, projects the exposures it would leave behind, and collects
hard violations and resize candidates over them. Amounts are exact rationals;
`CheckedEvaluation` has the same evaluation with every result rounded. -/
namespace FeynmanEngine.RiskGate
open Ids Orders Tables Portfolio ExposureProjection

/-- Order ingress path determines which risk checks run. -/
inductive EvaluationPath where
  | submitSignal
  | submitOrder
  | submitBatch
  deriving DecidableEq

/-- Result of risk evaluation on an order. -/
inductive RiskOutcome where
  | approved (warnings : List RiskViolation)
  | resized (newQty : Decimal) (reason : String) (warnings : List RiskViolation)
  | rejected (violations : List RiskViolation)
  deriving DecidableEq

structure AgentRiskManager where
  nav : Decimal
  agentLimits : Table AgentId AgentRiskLimits
  instrumentLimits : Table InstrumentId InstrumentRiskLimits
  venueLimits : Table VenueId VenueRiskLimits

structure ResizeCandidate where
  newQty : Decimal
  reason : String
  warning : RiskViolation

def positionNavCap : Decimal := 5 / 100
def accountRiskNavCap : Decimal := 1 / 100
def drawdownHaltPct : Decimal := -15 / 100
def cashReserveMinPct : Decimal := 20 / 100
def minRiskRewardRatio : Decimal := 2

def signedValueFromNet (netQty absoluteValue : Decimal) : Decimal :=
  if 0 ≤ netQty then absoluteValue else -absoluteValue

/-- What the book shows now of the order's instrument, agent and venue. -/
structure CurrentExposure where
  instrumentNetQty : Decimal
  instrumentGrossQty : Decimal
  instrumentNetNotional : Decimal
  instrumentGrossNotional : Decimal
  agentInstrumentNetNotional : Decimal
  agentInstrumentGrossNotional : Decimal
  venueInstrumentNetNotional : Decimal
  venueInstrumentGrossNotional : Decimal
  venueNotional : Decimal
  venuePositions : Nat
  venueListed : Bool

/-- The first exposure of the order's instrument. -/
def instrumentExposure (book : FirmBook) (core : OrderCore) : Option InstrumentExposure :=
  book.instruments.find? fun exposure => exposure.instrument = core.instrumentId

/-- The agent's own part of it. -/
def agentInstrumentExposure (book : FirmBook) (core : OrderCore) : Option AgentExposure :=
  (instrumentExposure book core).bind fun exposure =>
    exposure.byAgent.find? fun agentExposure => agentExposure.agent = core.agentId

/-- The venue's part of it. -/
def venueInstrumentExposure (book : FirmBook) (core : OrderCore) : Option VenueExposure :=
  (instrumentExposure book core).bind fun exposure =>
    exposure.byVenue.find? fun venueExposure => venueExposure.venue = core.venueId

/-- The `current_…` figures of `evaluate`; zero where nothing is listed. -/
def currentExposure (book : FirmBook) (core : OrderCore) : CurrentExposure where
  instrumentNetQty := ((instrumentExposure book core).map InstrumentExposure.netQty).getD 0
  instrumentGrossQty := ((instrumentExposure book core).map InstrumentExposure.grossQty).getD 0
  instrumentNetNotional :=
    ((instrumentExposure book core).map InstrumentExposure.netNotionalUsd).getD 0
  instrumentGrossNotional :=
    ((instrumentExposure book core).map InstrumentExposure.grossNotionalUsd).getD 0
  agentInstrumentNetNotional := ((agentInstrumentExposure book core).map fun exposure =>
    signedValueFromNet exposure.netQty |exposure.notionalUsd|).getD 0
  agentInstrumentGrossNotional := ((agentInstrumentExposure book core).map fun exposure =>
    |exposure.notionalUsd|).getD 0
  venueInstrumentNetNotional := ((venueInstrumentExposure book core).map fun exposure =>
    signedValueFromNet exposure.netQty |exposure.notionalUsd|).getD 0
  venueInstrumentGrossNotional := ((venueInstrumentExposure book core).map fun exposure =>
    |exposure.notionalUsd|).getD 0
  venueNotional := (((book.instruments.flatMap InstrumentExposure.byVenue).filter fun exposure =>
    exposure.venue = core.venueId).map fun exposure => |exposure.notionalUsd|).sum
  venuePositions := (book.instruments.filter fun exposure =>
    exposure.byVenue.any fun venueExposure => venueExposure.venue = core.venueId).length
  venueListed := (venueInstrumentExposure book core).isSome

/-- The `projected_…` figures of `evaluate`. -/
structure Projection where
  signedOrderNotional : Decimal
  instrumentNetQty : Decimal
  instrumentGrossQty : Decimal
  instrumentGrossNotional : Decimal
  agentInstrumentGrossNotional : Decimal
  agentGrossNotional : Decimal
  agentFreeCapital : Decimal
  venueNotional : Decimal
  venuePositions : Nat

/-- What the order would leave behind, were it filled at its price. -/
def project (core : OrderCore) (price : Decimal) (allocation : AgentAllocation)
    (current : CurrentExposure) : Projection :=
  let signedOrderQty := signedDelta core.side core.qty
  let signedOrderNotional := signedDelta core.side (core.qty * price)
  let instrumentQty :=
    projectNetAndGross current.instrumentNetQty current.instrumentGrossQty signedOrderQty
  let agentInstrumentGrossNotional := (projectNetAndGross current.agentInstrumentNetNotional
    current.agentInstrumentGrossNotional signedOrderNotional).2
  let agentGrossNotional :=
    allocation.usedCapital - current.agentInstrumentGrossNotional + agentInstrumentGrossNotional
  { signedOrderNotional := signedOrderNotional
    instrumentNetQty := instrumentQty.1
    instrumentGrossQty := instrumentQty.2
    instrumentGrossNotional := (projectNetAndGross current.instrumentNetNotional
      current.instrumentGrossNotional signedOrderNotional).2
    agentInstrumentGrossNotional := agentInstrumentGrossNotional
    agentGrossNotional := agentGrossNotional
    agentFreeCapital := allocation.allocatedCapital - agentGrossNotional
    venueNotional := current.venueNotional - current.venueInstrumentGrossNotional +
      (projectNetAndGross current.venueInstrumentNetNotional current.venueInstrumentGrossNotional
        signedOrderNotional).2
    venuePositions := current.venuePositions + if current.venueListed then 0 else 1 }

variable [LibraryText]
open LibraryText

def violation (checkName : String) (currentValue limit : Decimal) (suggestedAction reason : String) :
    RiskViolation :=
  ⟨checkName, .hard, decimal currentValue, decimal limit, suggestedAction ++ ": " ++ reason⟩

def softViolation (checkName : String) (currentValue limit : Decimal) (suggestedAction reason : String) :
    RiskViolation :=
  ⟨checkName, .soft, decimal currentValue, decimal limit, suggestedAction ++ ": " ++ reason⟩

omit [LibraryText] in
def stringViolation (checkName currentValue limit suggestedAction reason : String) : RiskViolation :=
  ⟨checkName, .hard, currentValue, limit, suggestedAction ++ ": " ++ reason⟩

/-- A violation pushed when its condition holds. -/
def pushWhen (violated : Prop) [Decidable violated] (violation : RiskViolation) : List RiskViolation :=
  if violated then [violation] else []

/-- A figure above its cap is pushed under the check's name. -/
def capped (checkName reason : String) (figure cap : Decimal) : List RiskViolation :=
  pushWhen (cap < figure) (violation checkName figure cap "reject" reason)

def checkAgentPermissions (core : OrderCore) (limits : AgentRiskLimits) : List RiskViolation :=
  (match limits.allowedInstruments with
  | some allowed => pushWhen (core.instrumentId ∉ allowed)
      (stringViolation "agent_allowed_instruments" core.instrumentId.value
        "instrument in agent whitelist" "reject" "agent is not permitted to trade this instrument")
  | none => []) ++
  (match limits.allowedVenues with
  | some allowed => pushWhen (core.venueId ∉ allowed)
      (stringViolation "agent_allowed_venues" core.venueId.value
        "venue in agent whitelist" "reject" "agent is not permitted to trade this venue")
  | none => [])

def checkAgentBudget (projected : Projection) (limits : AgentRiskLimits) : List RiskViolation :=
  pushWhen (projected.agentFreeCapital < 0) (violation "agent_free_capital" projected.agentFreeCapital 0
    "reject" "order exceeds the agent's free capital") ++
  capped "agent_max_position_notional" "order exceeds the agent's max single-position notional"
    projected.agentInstrumentGrossNotional limits.maxPositionNotional ++
  capped "agent_max_gross_notional" "projected agent gross notional exceeds the configured cap"
    projected.agentGrossNotional limits.maxGrossNotional

/-- `risk_per_unit` of `check_account_risk`: the stop distance, or the price. -/
def riskPerUnit (core : OrderCore) (price : Decimal) : Decimal :=
  match core.stopLoss with
  | some stopLoss => |price - stopLoss|
  | none => price

/-- The hard part of `check_account_risk`. -/
def checkRiskDistance (core : OrderCore) (price : Decimal) : List RiskViolation :=
  pushWhen (riskPerUnit core price ≤ 0) (violation "account_risk_distance_positive"
    (riskPerUnit core price) 0 "reject" "entry price and stop loss must define a positive loss distance")

def checkLeverage (projected : Projection) (limits : InstrumentRiskLimits) : List RiskViolation :=
  if limits.maxLeverage ≤ 0 then
    [violation "instrument_max_leverage_positive" limits.maxLeverage 0 "reject"
      "instrument max leverage must be positive"]
  else if projected.agentFreeCapital ≤ 0 then
    [violation "agent_free_capital_positive" projected.agentFreeCapital 0 "reject"
      "agent free capital must be positive to evaluate leverage"]
  else
    capped "instrument_max_leverage" "projected leverage exceeds the instrument leverage cap"
      (projected.agentGrossNotional / projected.agentFreeCapital) limits.maxLeverage

def checkDrawdown (book : FirmBook) : List RiskViolation :=
  pushWhen (book.currentDrawdownPct < drawdownHaltPct) (violation "firm_drawdown_pct"
    book.currentDrawdownPct drawdownHaltPct "halt_all" "firm drawdown breached the 15% halt threshold")

def checkCashReserve (projected : Projection) (nav : Decimal) (book : FirmBook) : List RiskViolation :=
  let projectedCashPct := (book.cashAvailable - projected.signedOrderNotional) / nav
  pushWhen (projectedCashPct < cashReserveMinPct) (violation "cash_reserve_pct" projectedCashPct
    cashReserveMinPct "reject" "projected cash reserve falls below the 20% NAV minimum")

def checkInstrumentLimits (projected : Projection) (nav : Decimal) (limits : InstrumentRiskLimits) :
    List RiskViolation :=
  capped "instrument_max_net_qty" "projected instrument net quantity exceeds the configured cap"
    |projected.instrumentNetQty| limits.maxNetQty ++
  capped "instrument_max_gross_qty" "projected instrument gross quantity exceeds the configured cap"
    projected.instrumentGrossQty limits.maxGrossQty ++
  capped "instrument_max_concentration_pct" "projected instrument exposure exceeds the concentration cap"
    (projected.instrumentGrossNotional / nav) limits.maxConcentrationPct

def checkVenueLimits (projected : Projection) (nav : Decimal) (limits : VenueRiskLimits) :
    List RiskViolation :=
  capped "venue_max_notional" "projected venue notional exceeds the configured cap"
    projected.venueNotional limits.maxNotional ++
  capped "venue_max_pct_of_nav" "projected venue concentration exceeds the NAV cap"
    (projected.venueNotional / nav) limits.maxPctOfNav ++
  pushWhen (limits.maxPositions < projected.venuePositions) (violation "venue_max_positions"
    projected.venuePositions limits.maxPositions "reject"
    "projected venue position count exceeds the configured cap")

def checkSignalRequirements (core : OrderCore) (price : Decimal) : List RiskViolation :=
  match core.stopLoss with
  | none => [stringViolation "signal_stop_loss_required" "missing" "present" "reject"
      "SubmitSignal orders must define a stop loss"]
  | some stopLoss =>
    match core.takeProfit with
    | none => []
    | some takeProfit =>
      let riskDistance := |price - stopLoss|
      if riskDistance ≤ 0 then
        [violation "signal_risk_distance_positive" riskDistance 0 "reject"
          "risk/reward evaluation requires a positive stop distance"]
      else
        let riskRewardRatio := |takeProfit - price| / riskDistance
        pushWhen (riskRewardRatio < minRiskRewardRatio) (violation "signal_risk_reward_ratio"
          riskRewardRatio minRiskRewardRatio "reject" "signal risk/reward ratio is below 2:1")

def checkPositionLimit (orderNotional price nav : Decimal) : List ResizeCandidate :=
  let maxPositionNotional := nav * positionNavCap
  if maxPositionNotional < orderNotional then
    [⟨maxPositionNotional / price, "position notional exceeds 5% NAV; resize to the 5% cap",
      softViolation "position_notional_pct" orderNotional maxPositionNotional "resize"
        "order exceeds the 5% NAV single-position cap"⟩]
  else []

/-- The resize of `check_account_risk`. -/
def checkAccountRisk (core : OrderCore) (price nav : Decimal) : List ResizeCandidate :=
  let maxLossCap := nav * accountRiskNavCap
  if riskPerUnit core price ≤ 0 then []
  else
    let projectedMaxLoss := core.qty * riskPerUnit core price
    if maxLossCap < projectedMaxLoss then
      [⟨maxLossCap / riskPerUnit core price,
        "projected account risk exceeds 1% NAV; resize to the max-loss cap",
        softViolation "account_risk_pct" projectedMaxLoss maxLossCap "resize"
          "projected max loss exceeds the 1% NAV cap"⟩]
    else []

omit [LibraryText] in
/-- `tightest_resize`: the first of the smallest. -/
def tightestResize : List ResizeCandidate → Option ResizeCandidate
  | [] => none
  | candidate :: rest => some (rest.foldl
      (fun tightest next => if next.newQty < tightest.newQty then next else tightest) candidate)

/-- What an evaluation looks up before its checks. -/
structure Terms where
  price : Decimal
  effectiveNav : Decimal
  agentLimits : AgentRiskLimits
  agentAllocation : AgentAllocation
  instrumentLimits : InstrumentRiskLimits
  venueLimits : VenueRiskLimits

def effectiveNav (manager : AgentRiskManager) (book : FirmBook) : Except RiskViolation Decimal :=
  if manager.nav ≤ 0 then
    .error (violation "manager_nav_positive" manager.nav 0 "reject"
      "configured risk-manager NAV must be positive")
  else if book.nav ≤ 0 then
    .error (violation "firm_nav_positive" book.nav 0 "reject" "firm-book NAV must be positive")
  else .ok (min manager.nav book.nav)

/-- The price check that opens `evaluate`. -/
def evaluationPrice (core : OrderCore) : Except RiskViolation Decimal :=
  match core.price with
  | some price =>
    if 0 < price then .ok price
    else .error (violation "order_price_positive" price 0 "reject"
      "order price must be positive for risk evaluation")
  | none => .error (stringViolation "order_price_required" "missing" "present" "reject"
      "order price is required for deterministic risk evaluation")

/-- `evaluate` up to its checks: the first missing term rejects the order. -/
def lookUp (manager : AgentRiskManager) (core : OrderCore) (book : FirmBook) :
    Except RiskViolation Terms :=
  match evaluationPrice core with
  | .error missing => .error missing
  | .ok price =>
    if core.qty ≤ 0 then
      .error (violation "order_qty_positive" core.qty 0 "reject" "order quantity must be positive")
    else
      match effectiveNav manager book with
      | .error missing => .error missing
      | .ok nav =>
        match manager.agentLimits.lookup core.agentId, book.agentAllocations.lookup core.agentId,
            manager.instrumentLimits.lookup core.instrumentId, manager.venueLimits.lookup core.venueId with
        | none, _, _, _ => .error (stringViolation "agent_limits_present" core.agentId.value
            "configured agent limits" "reject" "agent risk limits are not configured")
        | some _, none, _, _ => .error (stringViolation "agent_allocation_present" core.agentId.value
            "active agent allocation" "reject" "agent allocation is not present in the firm book")
        | some _, some _, none, _ => .error (stringViolation "instrument_limits_present"
            core.instrumentId.value "configured instrument limits" "reject"
            "instrument risk limits are not configured")
        | some _, some _, some _, none => .error (stringViolation "venue_limits_present"
            core.venueId.value "configured venue limits" "reject" "venue risk limits are not configured")
        | some agentLimits, some allocation, some instrumentLimits, some venueLimits =>
          .ok ⟨price, nav, agentLimits, allocation, instrumentLimits, venueLimits⟩

/-- All hard violations, in the order of their checks. -/
def hardViolations (core : OrderCore) (book : FirmBook) (path : EvaluationPath) (terms : Terms)
    (projected : Projection) : List RiskViolation :=
  checkAgentPermissions core terms.agentLimits ++
  checkAgentBudget projected terms.agentLimits ++
  checkRiskDistance core terms.price ++
  checkLeverage projected terms.instrumentLimits ++
  checkDrawdown book ++
  checkCashReserve projected terms.effectiveNav book ++
  checkInstrumentLimits projected terms.effectiveNav terms.instrumentLimits ++
  checkVenueLimits projected terms.effectiveNav terms.venueLimits ++
  if path = .submitSignal then checkSignalRequirements core terms.price else []

/-- All resize candidates. -/
def resizeCandidates (core : OrderCore) (terms : Terms) : List ResizeCandidate :=
  checkPositionLimit (core.qty * terms.price) terms.price terms.effectiveNav ++
  checkAccountRisk core terms.price terms.effectiveNav

omit [LibraryText] in
/-- What the checks of an evaluation come to. -/
def outcomeOf (violations : List RiskViolation) (candidates : List ResizeCandidate) : RiskOutcome :=
  match violations with
  | [] =>
    match tightestResize candidates with
    | some candidate => .resized candidate.newQty candidate.reason [candidate.warning]
    | none => .approved []
  | violations => .rejected violations

def evaluate (manager : AgentRiskManager) (order : PipelineOrder Validated) (book : FirmBook)
    (path : EvaluationPath) : RiskOutcome :=
  let core := order.core
  match lookUp manager core book with
  | .error missing => .rejected [missing]
  | .ok terms =>
    let projected := project core terms.price terms.agentAllocation (currentExposure book core)
    outcomeOf (hardViolations core book path terms projected) (resizeCandidates core terms)

omit [LibraryText] in
def testManager : AgentRiskManager where
  nav := 100000
  agentLimits := (∅ : Table AgentId AgentRiskLimits).insert ⟨"satoshi"⟩
    ⟨10000, 10000, 10000, 15 / 100, 2000, 10, some [⟨"BTC-USD"⟩], some [⟨"bybit"⟩]⟩
  instrumentLimits := (∅ : Table InstrumentId InstrumentRiskLimits).insert ⟨"BTC-USD"⟩
    ⟨⟨"BTC-USD"⟩, 1000, 1000, 10 / 100, 10⟩
  venueLimits := (∅ : Table VenueId VenueRiskLimits).insert ⟨"bybit"⟩ ⟨⟨"bybit"⟩, 10000, 5, 10 / 100⟩

omit [LibraryText] in
/-- `test_firm_book`, for a position of this quantity at 100. -/
def testFirmBook (qty : Decimal) : FirmBook where
  nav := 100000
  grossNotional := |qty| * 100
  netNotional := qty * 100
  realizedPnl := 0
  unrealizedPnl := 0
  dailyPnl := 0
  hourlyPnl := 0
  currentDrawdownPct := 0
  allocatedCapital := 10000
  cashAvailable := 50000
  totalFeesPaid := 0
  agentAllocations := (∅ : Table AgentId AgentAllocation).insert ⟨"satoshi"⟩
    ⟨10000, |qty| * 100, 10000 - |qty| * 100, 0, 0, 0, -15 / 100, .active⟩
  instruments := [⟨⟨"BTC-USD"⟩, qty, |qty|, qty * 100, |qty| * 100,
    [⟨⟨"bybit"⟩, ⟨"acct-1"⟩, qty, qty * 100⟩], [⟨⟨"satoshi"⟩, qty, qty * 100, 0⟩]⟩]
  predictionExposure := ⟨0, 0, 0⟩
  asOf := ⟨0⟩

omit [LibraryText] in
/-- `test_order`, a buy at 100. -/
def testOrder (qty : Decimal) (stopLoss takeProfit : Option Decimal) : PipelineOrder Validated :=
  (PipelineOrder.new
    { id := ⟨"ord-1"⟩, basketId := none, agentId := ⟨"satoshi"⟩, instrumentId := ⟨"BTC-USD"⟩,
      marketId := ⟨"BTC-USD"⟩, venueId := ⟨"bybit"⟩, side := .buy, orderType := .limit,
      timeInForce := .gtc, qty := qty, price := some 100, triggerPrice := none, stopLoss := stopLoss,
      takeProfit := takeProfit, postOnly := false, reduceOnly := false, dryRun := true, execHint := {},
      createdAt := ⟨0⟩ }).intoValidated ⟨0⟩

end FeynmanEngine.RiskGate
