import FeynmanEngine.CheckedArithmetic
import FeynmanEngine.RiskGate

/-! The risk gate over any arithmetic. Every `+`, `-`, `*` and `/` of `evaluate`
is an operation that may fail; lookups, comparisons, absolute values and signs
are not. On paper it is the risk gate again. -/
namespace FeynmanEngine.CheckedEvaluation
open Ids Orders Tables Portfolio ExposureProjection RiskGate CheckedArithmetic

/-- How many values a `u32` has. -/
def u32Bound : Nat := 2 ^ 32

section Model
variable {m : Type → Type} [Monad m] (arith : Arithmetic m Decimal)

def projectNetAndGross (currentNet currentGross signedDelta : Decimal) : m (Decimal × Decimal) := do
  let long ← arith.div (← arith.add currentGross currentNet) 2
  let short ← arith.div (← arith.sub currentGross currentNet) 2
  if 0 ≤ signedDelta then
    let reduction := min signedDelta short
    let short ← arith.sub short reduction
    let long ← arith.add long (← arith.sub signedDelta reduction)
    return (← arith.sub long short, ← arith.add long short)
  else
    let sellQty := |signedDelta|
    let reduction := min sellQty long
    let long ← arith.sub long reduction
    let short ← arith.add short (← arith.sub sellQty reduction)
    return (← arith.sub long short, ← arith.add long short)

/-- The notionals at the order's venue, instrument by instrument. -/
def venueNotionals (book : FirmBook) (core : OrderCore) : List Decimal :=
  ((book.instruments.flatMap InstrumentExposure.byVenue).filter fun exposure =>
    exposure.venue = core.venueId).map fun exposure => |exposure.notionalUsd|

/-- The `projected_…` figures of `evaluate`. -/
def project (core : OrderCore) (orderNotional : Decimal) (allocation : AgentAllocation) (book : FirmBook) :
    m Projection := do
  let current := currentExposure book core
  let signedOrderQty := signedDelta core.side core.qty
  let signedOrderNotional := signedDelta core.side orderNotional
  let instrumentQty ← projectNetAndGross arith current.instrumentNetQty current.instrumentGrossQty signedOrderQty
  let instrumentNotional ← projectNetAndGross arith current.instrumentNetNotional
    current.instrumentGrossNotional signedOrderNotional
  let agentInstrument ← projectNetAndGross arith current.agentInstrumentNetNotional
    current.agentInstrumentGrossNotional signedOrderNotional
  let agentGrossNotional ← arith.add
    (← arith.sub allocation.usedCapital current.agentInstrumentGrossNotional) agentInstrument.2
  let agentFreeCapital ← arith.sub allocation.allocatedCapital agentGrossNotional
  let currentVenueNotional ← arith.sum (venueNotionals book core)
  let venueInstrument ← projectNetAndGross arith current.venueInstrumentNetNotional
    current.venueInstrumentGrossNotional signedOrderNotional
  let venueNotional ← arith.add
    (← arith.sub currentVenueNotional current.venueInstrumentGrossNotional) venueInstrument.2
  let venuePositions ← arith.addCount (current.venuePositions % u32Bound) (if current.venueListed then 0 else 1)
  return {
    signedOrderNotional := signedOrderNotional
    instrumentNetQty := instrumentQty.1
    instrumentGrossQty := instrumentQty.2
    instrumentGrossNotional := instrumentNotional.2
    agentInstrumentGrossNotional := agentInstrument.2
    agentGrossNotional := agentGrossNotional
    agentFreeCapital := agentFreeCapital
    venueNotional := venueNotional
    venuePositions := venuePositions }

variable [LibraryText]

def checkPositionLimit (orderNotional price nav : Decimal) : m (List ResizeCandidate) := do
  let maxPositionNotional ← arith.mul nav positionNavCap
  if maxPositionNotional < orderNotional then
    let newQty ← arith.div maxPositionNotional price
    return [⟨newQty, "position notional exceeds 5% NAV; resize to the 5% cap",
      softViolation "position_notional_pct" orderNotional maxPositionNotional "resize"
        "order exceeds the 5% NAV single-position cap"⟩]
  else return []

/-- The distance to a stop. -/
def stopDistance (core : OrderCore) (price : Decimal) : m Decimal :=
  match core.stopLoss with
  | some stopLoss => do return |← arith.sub price stopLoss|
  | none => return price

/-- `check_account_risk`: its resize candidates and its hard violations. -/
def checkAccountRisk (core : OrderCore) (price nav : Decimal) : m (List ResizeCandidate × List RiskViolation) := do
  let riskPerUnit ← stopDistance arith core price
  let maxLossCap ← arith.mul nav accountRiskNavCap
  if riskPerUnit ≤ 0 then
    return ([], [violation "account_risk_distance_positive" riskPerUnit 0 "reject"
      "entry price and stop loss must define a positive loss distance"])
  else
    let projectedMaxLoss ← arith.mul core.qty riskPerUnit
    if maxLossCap < projectedMaxLoss then
      let newQty ← arith.div maxLossCap riskPerUnit
      return ([⟨newQty, "projected account risk exceeds 1% NAV; resize to the max-loss cap",
        softViolation "account_risk_pct" projectedMaxLoss maxLossCap "resize"
          "projected max loss exceeds the 1% NAV cap"⟩], [])
    else return ([], [])

def checkLeverage (projected : Projection) (limits : InstrumentRiskLimits) : m (List RiskViolation) := do
  if limits.maxLeverage ≤ 0 then
    return [violation "instrument_max_leverage_positive" limits.maxLeverage 0 "reject"
      "instrument max leverage must be positive"]
  else if projected.agentFreeCapital ≤ 0 then
    return [violation "agent_free_capital_positive" projected.agentFreeCapital 0 "reject"
      "agent free capital must be positive to evaluate leverage"]
  else
    let projectedLeverage ← arith.div projected.agentGrossNotional projected.agentFreeCapital
    return capped "instrument_max_leverage" "projected leverage exceeds the instrument leverage cap"
      projectedLeverage limits.maxLeverage

def checkCashReserve (projected : Projection) (nav : Decimal) (book : FirmBook) : m (List RiskViolation) := do
  let projectedCashAvailable ← arith.sub book.cashAvailable projected.signedOrderNotional
  let projectedCashPct ← arith.div projectedCashAvailable nav
  return pushWhen (projectedCashPct < cashReserveMinPct) (violation "cash_reserve_pct" projectedCashPct
    cashReserveMinPct "reject" "projected cash reserve falls below the 20% NAV minimum")

def checkInstrumentLimits (projected : Projection) (nav : Decimal) (limits : InstrumentRiskLimits) :
    m (List RiskViolation) := do
  let projectedConcentrationPct ← arith.div projected.instrumentGrossNotional nav
  return capped "instrument_max_net_qty" "projected instrument net quantity exceeds the configured cap"
      |projected.instrumentNetQty| limits.maxNetQty ++
    capped "instrument_max_gross_qty" "projected instrument gross quantity exceeds the configured cap"
      projected.instrumentGrossQty limits.maxGrossQty ++
    capped "instrument_max_concentration_pct" "projected instrument exposure exceeds the concentration cap"
      projectedConcentrationPct limits.maxConcentrationPct

def checkVenueLimits (projected : Projection) (nav : Decimal) (limits : VenueRiskLimits) : m (List RiskViolation) := do
  let projectedPctOfNav ← arith.div projected.venueNotional nav
  return capped "venue_max_notional" "projected venue notional exceeds the configured cap"
      projected.venueNotional limits.maxNotional ++
    capped "venue_max_pct_of_nav" "projected venue concentration exceeds the NAV cap"
      projectedPctOfNav limits.maxPctOfNav ++
    pushWhen (limits.maxPositions < projected.venuePositions) (violation "venue_max_positions"
      projected.venuePositions limits.maxPositions "reject"
      "projected venue position count exceeds the configured cap")

def checkSignalRequirements (core : OrderCore) (price : Decimal) : m (List RiskViolation) :=
  match core.stopLoss with
  | none => return [stringViolation "signal_stop_loss_required" "missing" "present" "reject"
      "SubmitSignal orders must define a stop loss"]
  | some stopLoss =>
    match core.takeProfit with
    | none => return []
    | some takeProfit => do
      let riskDistance := |← arith.sub price stopLoss|
      if riskDistance ≤ 0 then
        return [violation "signal_risk_distance_positive" riskDistance 0 "reject"
          "risk/reward evaluation requires a positive stop distance"]
      else
        let rewardDistance := |← arith.sub takeProfit price|
        let riskRewardRatio ← arith.div rewardDistance riskDistance
        return pushWhen (riskRewardRatio < minRiskRewardRatio) (violation "signal_risk_reward_ratio"
          riskRewardRatio minRiskRewardRatio "reject" "signal risk/reward ratio is below 2:1")

/-- `check_signal_requirements`, on the path of signals only. -/
def checkSignalPath (core : OrderCore) (path : EvaluationPath) (price : Decimal) : m (List RiskViolation) :=
  if path = .submitSignal then checkSignalRequirements arith core price else return []

/-- The checks of `evaluate` after its lookups: hard violations in the order of
their checks, and resize candidates. -/
def runChecks (core : OrderCore) (book : FirmBook) (path : EvaluationPath) (terms : Terms)
    (orderNotional : Decimal) (projected : Projection) : m (List RiskViolation × List ResizeCandidate) := do
  let position ← checkPositionLimit arith orderNotional terms.price terms.effectiveNav
  let account ← checkAccountRisk arith core terms.price terms.effectiveNav
  let leverage ← checkLeverage arith projected terms.instrumentLimits
  let cash ← checkCashReserve arith projected terms.effectiveNav book
  let instrument ← checkInstrumentLimits arith projected terms.effectiveNav terms.instrumentLimits
  let venue ← checkVenueLimits arith projected terms.effectiveNav terms.venueLimits
  let signal ← checkSignalPath arith core path terms.price
  return (checkAgentPermissions core terms.agentLimits ++ checkAgentBudget projected terms.agentLimits ++
    account.2 ++ leverage ++ checkDrawdown book ++ cash ++ instrument ++ venue ++ signal, position ++ account.1)

def evaluate (manager : AgentRiskManager) (order : PipelineOrder Validated) (book : FirmBook)
    (path : EvaluationPath) : m RiskOutcome :=
  match lookUp manager order.core book with
  | .error missing => return .rejected [missing]
  | .ok terms => do
    let orderNotional ← arith.mul order.core.qty terms.price
    let projected ← project arith order.core orderNotional terms.agentAllocation book
    let found ← runChecks arith order.core book path terms orderNotional projected
    return outcomeOf found.1 found.2

end Model

section Exact
variable [LibraryText]

omit [LibraryText] in
theorem projectNetAndGross_exact (currentNet currentGross signedDelta : Decimal) :
    projectNetAndGross (m := Id) .exact currentNet currentGross signedDelta =
      ExposureProjection.projectNetAndGross currentNet currentGross signedDelta := by
  unfold projectNetAndGross ExposureProjection.projectNetAndGross
  by_cases upward : 0 ≤ signedDelta
  · rw [if_pos upward]
    exact if_pos upward
  · rw [if_neg upward]
    exact if_neg upward

omit [LibraryText] in
theorem sum_exact (xs : List Decimal) : Arithmetic.sum (m := Id) .exact xs = xs.sum := by
  rw [List.sum_eq_foldl]
  exact List.foldlM_pure ..

omit [LibraryText] in
/-- A book lists its venues in fewer than 2^32 instruments. -/
theorem project_exact (core : OrderCore) (price : Decimal) (allocation : AgentAllocation) (book : FirmBook)
    (few : (currentExposure book core).venuePositions < u32Bound) :
    project (m := Id) .exact core (core.qty * price) allocation book =
      RiskGate.project core price allocation (currentExposure book core) := by
  unfold project RiskGate.project
  simp only [projectNetAndGross_exact, sum_exact, Nat.mod_eq_of_lt few]
  rfl

theorem checkPositionLimit_exact (orderNotional price nav : Decimal) :
    checkPositionLimit (m := Id) .exact orderNotional price nav =
      RiskGate.checkPositionLimit orderNotional price nav := by
  unfold checkPositionLimit RiskGate.checkPositionLimit
  by_cases exceeds : nav * positionNavCap < orderNotional
  · rw [if_pos exceeds]
    exact if_pos exceeds
  · rw [if_neg exceeds]
    exact if_neg exceeds

omit [LibraryText] in
theorem stopDistance_exact (core : OrderCore) (price : Decimal) :
    stopDistance (m := Id) .exact core price = riskPerUnit core price := by
  unfold stopDistance riskPerUnit
  cases core.stopLoss <;> rfl

theorem checkAccountRisk_exact (core : OrderCore) (price nav : Decimal) :
    checkAccountRisk (m := Id) .exact core price nav =
      (RiskGate.checkAccountRisk core price nav, checkRiskDistance core price) := by
  unfold checkAccountRisk RiskGate.checkAccountRisk checkRiskDistance pushWhen
  rw [stopDistance_exact]
  by_cases flat : riskPerUnit core price ≤ 0
  · rw [if_pos flat, if_pos flat]
    exact if_pos flat
  · rw [if_neg flat, if_neg flat]
    refine (if_neg flat).trans ?_
    by_cases exceeds : nav * accountRiskNavCap < core.qty * riskPerUnit core price
    · rw [if_pos exceeds]
      exact if_pos exceeds
    · rw [if_neg exceeds]
      exact if_neg exceeds

theorem checkLeverage_exact (projected : Projection) (limits : InstrumentRiskLimits) :
    checkLeverage (m := Id) .exact projected limits = RiskGate.checkLeverage projected limits := by
  unfold checkLeverage RiskGate.checkLeverage
  split
  · rfl
  · split <;> rfl

theorem checkSignalRequirements_exact (core : OrderCore) (price : Decimal) :
    checkSignalRequirements (m := Id) .exact core price = RiskGate.checkSignalRequirements core price := by
  unfold checkSignalRequirements RiskGate.checkSignalRequirements
  cases core.stopLoss with
  | none => rfl
  | some stopLoss =>
    cases core.takeProfit with
    | none => rfl
    | some takeProfit =>
      dsimp only
      by_cases flat : |price - stopLoss| ≤ 0
      · rw [if_pos flat]
        exact if_pos flat
      · rw [if_neg flat]
        exact if_neg flat

theorem runChecks_exact (core : OrderCore) (book : FirmBook) (path : EvaluationPath) (terms : Terms)
    (projected : Projection) :
    runChecks (m := Id) .exact core book path terms (core.qty * terms.price) projected =
      (hardViolations core book path terms projected, resizeCandidates core terms) := by
  unfold runChecks hardViolations resizeCandidates checkSignalPath
  rw [checkPositionLimit_exact, checkAccountRisk_exact, checkLeverage_exact, checkSignalRequirements_exact]
  split <;> rfl

/-- On paper the checked risk gate is the risk gate. -/
theorem evaluate_exact (manager : AgentRiskManager) (order : PipelineOrder Validated) (book : FirmBook)
    (path : EvaluationPath) (few : (currentExposure book order.core).venuePositions < u32Bound) :
    evaluate (m := Id) .exact manager order book path = RiskGate.evaluate manager order book path := by
  unfold evaluate RiskGate.evaluate
  dsimp only
  cases lookUp manager order.core book with
  | error missing => rfl
  | ok terms =>
    have projected := project_exact order.core terms.price terms.agentAllocation book few
    have found := runChecks_exact order.core book path terms
      (RiskGate.project order.core terms.price terms.agentAllocation (currentExposure book order.core))
    calc
      _ = outcomeOf (runChecks (m := Id) .exact order.core book path terms (order.core.qty * terms.price)
            (project (m := Id) .exact order.core (order.core.qty * terms.price) terms.agentAllocation book)).1
          (runChecks (m := Id) .exact order.core book path terms (order.core.qty * terms.price)
            (project (m := Id) .exact order.core (order.core.qty * terms.price) terms.agentAllocation book)).2 := rfl
      _ = _ := by rw [projected, found]

end Exact

end FeynmanEngine.CheckedEvaluation
