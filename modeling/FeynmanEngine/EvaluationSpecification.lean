import FeynmanEngine.ResizeConvergence

/-! What a risk evaluation decides, stated without its checks. The exposures an
order would leave behind are given in closed form; the hard rules are a list of
conditions on them; the two soft caps bound the quantity. Every check finds
nothing exactly when its rules hold, and the outcome follows. -/
namespace FeynmanEngine.EvaluationSpecification
open Ids Orders Tables Portfolio ExposureProjection RiskGate ResizeConvergence

/-- Gross exposure after a trade: it grows by the notional and shrinks by twice
what is traded off against the other side. -/
def grossAfter (net gross : Decimal) (side : Side) (notional : Decimal) : Decimal :=
  gross + notional - 2 * min notional (offset net gross side)

/-- The figures after a fill of the whole order at its price. -/
def prospect (core : OrderCore) (price : Decimal) (allocation : AgentAllocation)
    (current : CurrentExposure) : Projection :=
  let notional := core.qty * price
  let agentInstrument := grossAfter current.agentInstrumentNetNotional
    current.agentInstrumentGrossNotional core.side notional
  let agent := allocation.usedCapital - current.agentInstrumentGrossNotional + agentInstrument
  { signedOrderNotional := signedDelta core.side notional
    instrumentNetQty := current.instrumentNetQty + signedDelta core.side core.qty
    instrumentGrossQty :=
      grossAfter current.instrumentNetQty current.instrumentGrossQty core.side core.qty
    instrumentGrossNotional :=
      grossAfter current.instrumentNetNotional current.instrumentGrossNotional core.side notional
    agentInstrumentGrossNotional := agentInstrument
    agentGrossNotional := agent
    agentFreeCapital := allocation.allocatedCapital - agent
    venueNotional := current.venueNotional - current.venueInstrumentGrossNotional +
      grossAfter current.venueInstrumentNetNotional current.venueInstrumentGrossNotional core.side notional
    venuePositions := current.venuePositions + if current.venueListed then 0 else 1 }

/-- Everything an evaluation needs is there: positive capital on both books, and
limits and an allocation for the order's agent, instrument and venue. -/
structure Configured (manager : AgentRiskManager) (core : OrderCore) (book : FirmBook) (price : Decimal)
    (terms : Terms) : Prop where
  managerNav : 0 < manager.nav
  firmNav : 0 < book.nav
  agent : manager.agentLimits.lookup core.agentId = some terms.agentLimits
  allocation : book.agentAllocations.lookup core.agentId = some terms.agentAllocation
  instrument : manager.instrumentLimits.lookup core.instrumentId = some terms.instrumentLimits
  venue : manager.venueLimits.lookup core.venueId = some terms.venueLimits
  price : terms.price = price
  effectiveNav : terms.effectiveNav = min manager.nav book.nav

/-- Something an evaluation needs is not there. -/
def Unconfigured (manager : AgentRiskManager) (core : OrderCore) (book : FirmBook) : Prop :=
  manager.nav ≤ 0 ∨ book.nav ≤ 0 ∨ manager.agentLimits.lookup core.agentId = none ∨
    book.agentAllocations.lookup core.agentId = none ∨
    manager.instrumentLimits.lookup core.instrumentId = none ∨
    manager.venueLimits.lookup core.venueId = none

/-- The agent may trade the instrument on the venue. -/
structure Permitted (core : OrderCore) (limits : AgentRiskLimits) : Prop where
  instrument : ∀ allowed, limits.allowedInstruments = some allowed → core.instrumentId ∈ allowed
  venue : ∀ allowed, limits.allowedVenues = some allowed → core.venueId ∈ allowed

/-- The agent's own caps, and the leverage it would have. -/
structure Budgeted (terms : Terms) (after : Projection) : Prop where
  freeCapital : 0 < after.agentFreeCapital
  position : after.agentInstrumentGrossNotional ≤ terms.agentLimits.maxPositionNotional
  gross : after.agentGrossNotional ≤ terms.agentLimits.maxGrossNotional
  leverageCap : 0 < terms.instrumentLimits.maxLeverage
  leverage : after.agentGrossNotional / after.agentFreeCapital ≤ terms.instrumentLimits.maxLeverage

/-- The firm is not in a drawdown halt and keeps a fifth of its capital in cash. -/
structure Reserved (book : FirmBook) (nav : Decimal) (after : Projection) : Prop where
  drawdown : -15 / 100 ≤ book.currentDrawdownPct
  cash : 20 / 100 * nav ≤ book.cashAvailable - after.signedOrderNotional

structure WithinInstrument (limits : InstrumentRiskLimits) (nav : Decimal) (after : Projection) : Prop where
  net : |after.instrumentNetQty| ≤ limits.maxNetQty
  gross : after.instrumentGrossQty ≤ limits.maxGrossQty
  concentration : after.instrumentGrossNotional ≤ limits.maxConcentrationPct * nav

structure WithinVenue (limits : VenueRiskLimits) (nav : Decimal) (after : Projection) : Prop where
  notional : after.venueNotional ≤ limits.maxNotional
  share : after.venueNotional ≤ limits.maxPctOfNav * nav
  positions : after.venuePositions ≤ limits.maxPositions

/-- A stop away from the price; a signal has one, and a target at least twice as far. -/
structure Stopped (core : OrderCore) (path : EvaluationPath) (price : Decimal) : Prop where
  distance : ∀ stopLoss, core.stopLoss = some stopLoss → |price - stopLoss| ≠ 0
  signal : path = .submitSignal → ∃ stopLoss, core.stopLoss = some stopLoss ∧
    ∀ takeProfit, core.takeProfit = some takeProfit → 2 * |price - stopLoss| ≤ |takeProfit - price|

/-- Every hard rule holds of the whole order. -/
structure Compliant (core : OrderCore) (book : FirmBook) (path : EvaluationPath) (terms : Terms)
    (after : Projection) : Prop where
  permitted : Permitted core terms.agentLimits
  budgeted : Budgeted terms after
  stopped : Stopped core path terms.price
  reserved : Reserved book terms.effectiveNav after
  instrument : WithinInstrument terms.instrumentLimits terms.effectiveNav after
  venue : WithinVenue terms.venueLimits terms.effectiveNav after

/-- The notional is at most 5% and the maximum loss at most 1% of the capital. -/
def WithinSoftCaps (core : OrderCore) (price nav : Decimal) : Prop :=
  core.qty * price ≤ 5 / 100 * nav ∧ core.qty * riskPerUnit core price ≤ 1 / 100 * nav

theorem project_eq_prospect (core : OrderCore) (price : Decimal) (allocation : AgentAllocation)
    (current : CurrentExposure) (sized : 0 < core.qty) (priced : 0 < price) :
    project core price allocation current = prospect core price allocation current := by
  have notional : 0 < core.qty * price := mul_pos sized priced
  simp only [project, prospect, grossAfter, net_after, gross_after _ _ core.side notional,
    gross_after _ _ core.side sized]

@[simp] theorem pushWhen_eq_nil_iff [Decidable violated] (violation : RiskViolation) :
    pushWhen violated violation = [] ↔ ¬ violated := by
  unfold pushWhen
  split <;> simp_all

section Checks
variable [LibraryText]

@[simp] theorem capped_eq_nil_iff (checkName reason : String) (figure cap : Decimal) :
    capped checkName reason figure cap = [] ↔ figure ≤ cap := by
  simp [capped]

omit [LibraryText] in
theorem checkAgentPermissions_eq_nil_iff (core : OrderCore) (limits : AgentRiskLimits) :
    checkAgentPermissions core limits = [] ↔ Permitted core limits := by
  unfold checkAgentPermissions
  rw [List.append_eq_nil_iff]
  constructor
  · rintro ⟨instrument, venue⟩
    refine ⟨fun allowed listed => ?_, fun allowed listed => ?_⟩
    · simpa [listed] using instrument
    · simpa [listed] using venue
  · rintro ⟨instrument, venue⟩
    constructor
    · cases listed : limits.allowedInstruments with
      | none => rfl
      | some allowed => simpa using instrument allowed listed
    · cases listed : limits.allowedVenues with
      | none => rfl
      | some allowed => simpa using venue allowed listed

/-- The agent's budget and leverage are two checks of one rule: leverage needs
free capital above zero, the budget alone would let it be zero. -/
theorem budget_eq_nil_iff (terms : Terms) (after : Projection) :
    checkAgentBudget after terms.agentLimits = [] ∧ checkLeverage after terms.instrumentLimits = [] ↔
      Budgeted terms after := by
  simp only [checkAgentBudget, List.append_eq_nil_iff, pushWhen_eq_nil_iff, capped_eq_nil_iff]
  unfold checkLeverage
  constructor
  · rintro ⟨⟨⟨-, position⟩, gross⟩, leverage⟩
    split at leverage
    · cases leverage
    · rename_i cap
      split at leverage
      · cases leverage
      · rename_i free
        rw [capped_eq_nil_iff] at leverage
        exact ⟨not_le.mp free, position, gross, not_le.mp cap, leverage⟩
  · rintro ⟨free, position, gross, cap, leverage⟩
    rw [if_neg (not_le.mpr cap), if_neg (not_le.mpr free), capped_eq_nil_iff]
    exact ⟨⟨⟨not_lt.mpr free.le, position⟩, gross⟩, leverage⟩

theorem checkRiskDistance_eq_nil_iff (core : OrderCore) (priced : 0 < price) :
    checkRiskDistance core price = [] ↔ ∀ stopLoss, core.stopLoss = some stopLoss → |price - stopLoss| ≠ 0 := by
  rw [checkRiskDistance, pushWhen_eq_nil_iff, not_le]
  unfold riskPerUnit
  cases stopped : core.stopLoss with
  | none => simp [priced]
  | some stopLoss => simp [abs_pos]

/-- On the signal path a stop is required, and a target at least twice as far away. -/
theorem checkSignalRequirements_eq_nil_iff (core : OrderCore)
    (distance : ∀ stopLoss, core.stopLoss = some stopLoss → |price - stopLoss| ≠ 0) :
    checkSignalRequirements core price = [] ↔ ∃ stopLoss, core.stopLoss = some stopLoss ∧
      ∀ takeProfit, core.takeProfit = some takeProfit → 2 * |price - stopLoss| ≤ |takeProfit - price| := by
  unfold checkSignalRequirements
  cases stopped : core.stopLoss with
  | none => simp
  | some stopLoss =>
    cases targeted : core.takeProfit with
    | none => simp
    | some takeProfit =>
      have positive : 0 < |price - stopLoss| :=
        lt_of_le_of_ne (abs_nonneg _) (Ne.symm (distance stopLoss stopped))
      dsimp only
      rw [if_neg (not_le.mpr positive), pushWhen_eq_nil_iff, not_lt, le_div_iff₀ positive]
      simp [minRiskRewardRatio]

/-- The stop rules are the risk distance check and, for signals, the signal check. -/
theorem stopped_eq_nil_iff (core : OrderCore) (path : EvaluationPath) (priced : 0 < price) :
    checkRiskDistance core price = [] ∧
        (if path = .submitSignal then checkSignalRequirements core price else []) = [] ↔
      Stopped core path price := by
  rw [checkRiskDistance_eq_nil_iff core priced]
  constructor
  · rintro ⟨distance, signal⟩
    refine ⟨distance, fun signalled => ?_⟩
    rwa [if_pos signalled, checkSignalRequirements_eq_nil_iff core distance] at signal
  · rintro ⟨distance, signal⟩
    refine ⟨distance, ?_⟩
    split
    · rename_i signalled
      exact (checkSignalRequirements_eq_nil_iff core distance).mpr (signal signalled)
    · rfl

theorem reserved_eq_nil_iff (book : FirmBook) (after : Projection) (funded : 0 < nav) :
    checkDrawdown book = [] ∧ checkCashReserve after nav book = [] ↔ Reserved book nav after := by
  simp only [checkDrawdown, checkCashReserve, pushWhen_eq_nil_iff, not_lt, le_div_iff₀ funded]
  exact ⟨fun ⟨drawdown, cash⟩ => ⟨drawdown, cash⟩, fun ⟨drawdown, cash⟩ => ⟨drawdown, cash⟩⟩

theorem checkInstrumentLimits_eq_nil_iff (after : Projection) (limits : InstrumentRiskLimits) (funded : 0 < nav) :
    checkInstrumentLimits after nav limits = [] ↔ WithinInstrument limits nav after := by
  simp only [checkInstrumentLimits, List.append_eq_nil_iff, capped_eq_nil_iff, div_le_iff₀ funded]
  exact ⟨fun ⟨⟨net, gross⟩, concentration⟩ => ⟨net, gross, concentration⟩,
    fun ⟨net, gross, concentration⟩ => ⟨⟨net, gross⟩, concentration⟩⟩

theorem checkVenueLimits_eq_nil_iff (after : Projection) (limits : VenueRiskLimits) (funded : 0 < nav) :
    checkVenueLimits after nav limits = [] ↔ WithinVenue limits nav after := by
  simp only [checkVenueLimits, List.append_eq_nil_iff, capped_eq_nil_iff, div_le_iff₀ funded,
    pushWhen_eq_nil_iff, not_lt]
  exact ⟨fun ⟨⟨notional, share⟩, positions⟩ => ⟨notional, share, positions⟩,
    fun ⟨notional, share, positions⟩ => ⟨⟨notional, share⟩, positions⟩⟩

/-- The checks of an evaluation find nothing exactly when every hard rule holds. -/
theorem hardViolations_eq_nil_iff (core : OrderCore) (book : FirmBook) (path : EvaluationPath) (terms : Terms)
    (after : Projection) (priced : 0 < terms.price) (funded : 0 < terms.effectiveNav) :
    hardViolations core book path terms after = [] ↔ Compliant core book path terms after := by
  have budgeted := budget_eq_nil_iff terms after
  have stopped := stopped_eq_nil_iff core path priced
  have reserved := reserved_eq_nil_iff book after funded
  simp only [hardViolations, List.append_eq_nil_iff, checkAgentPermissions_eq_nil_iff,
    checkInstrumentLimits_eq_nil_iff _ _ funded, checkVenueLimits_eq_nil_iff _ _ funded]
  constructor
  · rintro ⟨⟨⟨⟨⟨⟨⟨⟨permitted, budget⟩, risk⟩, leverage⟩, drawdown⟩, cash⟩, instrument⟩, venue⟩, signal⟩
    exact ⟨permitted, budgeted.mp ⟨budget, leverage⟩, stopped.mp ⟨risk, signal⟩,
      reserved.mp ⟨drawdown, cash⟩, instrument, venue⟩
  · intro compliant
    obtain ⟨budget, leverage⟩ := budgeted.mpr compliant.budgeted
    obtain ⟨risk, signal⟩ := stopped.mpr compliant.stopped
    obtain ⟨drawdown, cash⟩ := reserved.mpr compliant.reserved
    exact ⟨⟨⟨⟨⟨⟨⟨⟨compliant.permitted, budget⟩, risk⟩, leverage⟩, drawdown⟩, cash⟩, compliant.instrument⟩,
      compliant.venue⟩, signal⟩

theorem lookUp_ok_iff (manager : AgentRiskManager) (core : OrderCore) (book : FirmBook) (terms : Terms)
    (priced : core.price = some price) (positive : 0 < price) (sized : 0 < core.qty) :
    lookUp manager core book = .ok terms ↔ Configured manager core book price terms := by
  have known : evaluationPrice core = .ok price := by simp [evaluationPrice, priced, positive]
  unfold lookUp
  rw [known]
  dsimp only
  rw [if_neg (not_le.mpr sized)]
  unfold effectiveNav
  constructor
  · intro found
    split at found
    · cases found
    · rename_i nav funded
      split at funded
      · cases funded
      · rename_i manages
        split at funded
        · cases funded
        · rename_i holds
          split at found <;> cases found
          cases funded
          exact ⟨not_le.mp manages, not_le.mp holds, by assumption, by assumption, by assumption,
            by assumption, rfl, rfl⟩
  · rintro ⟨manages, holds, agent, allocation, instrument, venue, rfl, nav⟩
    simp only [not_le.mpr manages, not_le.mpr holds, if_false, agent, allocation, instrument, venue, ← nav]

/-- An evaluation looks up terms only for an order with a quantity and a price. -/
theorem lookUp_sized (found : lookUp manager core book = .ok terms) :
    0 < core.qty ∧ ∃ price, core.price = some price ∧ 0 < price := by
  unfold lookUp at found
  cases known : evaluationPrice core with
  | error missing =>
    rw [known] at found
    cases found
  | ok price =>
    rw [known] at found
    dsimp only at found
    split at found
    · cases found
    · next sized =>
      refine ⟨not_le.mp sized, price, ?_⟩
      unfold evaluationPrice at known
      split at known
      · next quoted priced =>
        split at known
        · next positive =>
          cases known
          exact ⟨priced, positive⟩
        · cases known
      · cases known

/-- Only an order with a positive price and quantity gets its terms. -/
theorem configured_of_lookUp (found : lookUp manager core book = .ok terms) :
    0 < terms.price ∧ 0 < core.qty ∧ ∃ price, Configured manager core book price terms := by
  obtain ⟨sized, price, priced, positive⟩ := lookUp_sized found
  have configured := (lookUp_ok_iff manager core book terms priced positive sized).mp found
  exact ⟨configured.price ▸ positive, sized, price, configured⟩

omit [LibraryText] in
theorem unconfigured_iff (manager : AgentRiskManager) (core : OrderCore) (book : FirmBook) (price : Decimal) :
    Unconfigured manager core book ↔ ∀ terms, ¬ Configured manager core book price terms := by
  constructor
  · rintro missing terms ⟨manages, holds, agent, allocation, instrument, venue, -, -⟩
    rcases missing with nav | nav | none | none | none | none
    · exact absurd nav (not_le.mpr manages)
    · exact absurd nav (not_le.mpr holds)
    · exact nomatch none.symm.trans agent
    · exact nomatch none.symm.trans allocation
    · exact nomatch none.symm.trans instrument
    · exact nomatch none.symm.trans venue
  · intro missing
    by_contra complete
    simp only [Unconfigured, not_or, not_le, ← Option.isSome_iff_ne_none, Option.isSome_iff_exists] at complete
    obtain ⟨manages, holds, ⟨agentLimits, agent⟩, ⟨agentAllocation, allocation⟩, ⟨instrumentLimits, instrument⟩,
      ⟨venueLimits, venue⟩⟩ := complete
    exact missing ⟨price, min manager.nav book.nav, agentLimits, agentAllocation, instrumentLimits, venueLimits⟩
      ⟨manages, holds, agent, allocation, instrument, venue, rfl, rfl⟩

/-- The quantity at which the notional is 5% of the capital. -/
def notionalCapQty (price nav : Decimal) : Decimal := 5 / 100 * nav / price

/-- The quantity at which the maximum loss is 1% of the capital. -/
def lossCapQty (core : OrderCore) (price nav : Decimal) : Decimal := 1 / 100 * nav / riskPerUnit core price

section Caps
variable {core : OrderCore} {terms : Terms} (priced : 0 < terms.price) (risky : 0 < riskPerUnit core terms.price)
include priced risky

omit [LibraryText] in
theorem withinSoftCaps_iff : WithinSoftCaps core terms.price terms.effectiveNav ↔
    core.qty ≤ notionalCapQty terms.price terms.effectiveNav ∧
      core.qty ≤ lossCapQty core terms.price terms.effectiveNav := by
  rw [notionalCapQty, lossCapQty, le_div_iff₀ priced, le_div_iff₀ risky]
  rfl

/-- A candidate is the quantity of a cap the order exceeds, and each such cap has one. -/
theorem mem_resizeCandidates_qty (qty : Decimal) :
    (∃ candidate ∈ resizeCandidates core terms, candidate.newQty = qty) ↔
      (notionalCapQty terms.price terms.effectiveNav < core.qty ∧
        qty = notionalCapQty terms.price terms.effectiveNav) ∨
      (lossCapQty core terms.price terms.effectiveNav < core.qty ∧
        qty = lossCapQty core terms.price terms.effectiveNav) := by
  have notional : terms.effectiveNav * positionNavCap = 5 / 100 * terms.effectiveNav := mul_comm _ _
  have loss : terms.effectiveNav * accountRiskNavCap = 1 / 100 * terms.effectiveNav := mul_comm _ _
  simp only [resizeCandidates, List.mem_append, or_and_right, exists_or, checkPositionLimit, checkAccountRisk,
    if_neg (not_le.mpr risky), notionalCapQty, lossCapQty, div_lt_iff₀ priced, div_lt_iff₀ risky, notional, loss]
  refine or_congr ?_ ?_ <;> split <;> simp_all [eq_comm]

/-- Within both caps there is nothing to resize. -/
theorem tightestResize_eq_none_iff :
    tightestResize (resizeCandidates core terms) = none ↔
      WithinSoftCaps core terms.price terms.effectiveNav := by
  have empty : tightestResize (resizeCandidates core terms) = none ↔ resizeCandidates core terms = [] := by
    cases resizeCandidates core terms <;> simp [tightestResize]
  rw [empty, withinSoftCaps_iff priced risky]
  have found := mem_resizeCandidates_qty priced risky
  constructor
  · intro none
    simp only [none, List.not_mem_nil, false_and, exists_false, false_iff, not_or, not_and] at found
    exact ⟨not_lt.mp fun above => (found _).1 above rfl, not_lt.mp fun above => (found _).2 above rfl⟩
  · rintro ⟨notional, loss⟩
    apply List.eq_nil_iff_forall_not_mem.mpr
    intro candidate member
    rcases (found candidate.newQty).mp ⟨candidate, member, rfl⟩ with ⟨above, -⟩ | ⟨above, -⟩
    · exact absurd notional (not_le.mpr above)
    · exact absurd loss (not_le.mpr above)

/-- The tightest candidate is the smaller of the two capped quantities. -/
theorem tightestResize_newQty (tightest : tightestResize (resizeCandidates core terms) = some candidate) :
    candidate.newQty =
      min (notionalCapQty terms.price terms.effectiveNav) (lossCapQty core terms.price terms.effectiveNav) := by
  have found := mem_resizeCandidates_qty priced risky
  obtain ⟨chosen, least⟩ := tightestResize_some tightest
  have smaller (qty : Decimal) (offers : ∃ other ∈ resizeCandidates core terms, other.newQty = qty) :
      candidate.newQty ≤ qty := by
    obtain ⟨other, member, rfl⟩ := offers
    exact least other member
  have within (cap : Decimal) (offers : cap < core.qty → candidate.newQty ≤ cap)
      (below : candidate.newQty < core.qty) : candidate.newQty ≤ cap := by
    rcases lt_or_ge cap core.qty with above | enough
    · exact offers above
    · exact below.le.trans enough
  have isCap := (found candidate.newQty).mp ⟨candidate, chosen, rfl⟩
  have below : candidate.newQty < core.qty := by
    rcases isCap with ⟨above, same⟩ | ⟨above, same⟩ <;> rwa [same]
  have notional := within _ (fun above => smaller _ ((found _).mpr (Or.inl ⟨above, rfl⟩))) below
  have loss := within _ (fun above => smaller _ ((found _).mpr (Or.inr ⟨above, rfl⟩))) below
  apply le_antisymm (le_min notional loss)
  rcases isCap with ⟨-, same⟩ | ⟨-, same⟩ <;> rw [same]
  · exact min_le_left _ _
  · exact min_le_right _ _

end Caps

theorem risky_of_compliant (configured : Configured manager core book price terms)
    (positive : 0 < price) (compliant : Compliant core book path terms after) :
    0 < riskPerUnit core terms.price := by
  have distance := (checkRiskDistance_eq_nil_iff core (configured.price ▸ positive)).mpr
    compliant.stopped.distance
  simpa [checkRiskDistance] using distance

section Outcome
variable {order : PipelineOrder Validated} (priced : order.core.price = some price) (positive : 0 < price)
  (sized : 0 < order.core.qty)
include priced positive sized

/-- A configured evaluation rejects a broken rule, approves what needs no resize,
and otherwise takes the tightest candidate. -/
theorem evaluate_cases (path : EvaluationPath)
    (configured : Configured manager order.core book price terms) :
    (¬ Compliant order.core book path terms
        (prospect order.core price terms.agentAllocation (currentExposure book order.core)) ∧
      ∃ violations, evaluate manager order book path = .rejected violations) ∨
    (Compliant order.core book path terms
        (prospect order.core price terms.agentAllocation (currentExposure book order.core)) ∧
      tightestResize (resizeCandidates order.core terms) = none ∧
      evaluate manager order book path = .approved []) ∨
    (Compliant order.core book path terms
        (prospect order.core price terms.agentAllocation (currentExposure book order.core)) ∧
      ∃ candidate, tightestResize (resizeCandidates order.core terms) = some candidate ∧
        evaluate manager order book path =
          .resized candidate.newQty candidate.reason [candidate.warning]) := by
  have found := (lookUp_ok_iff manager order.core book terms priced positive sized).mpr configured
  have funded : 0 < terms.effectiveNav := by
    rw [configured.effectiveNav]
    exact lt_min configured.managerNav configured.firmNav
  have checks := hardViolations_eq_nil_iff order.core book path terms
    (prospect order.core price terms.agentAllocation (currentExposure book order.core))
    (configured.price ▸ positive) funded
  simp only [evaluate, outcomeOf, found, configured.price, project_eq_prospect _ _ _ _ sized positive]
  rw [← checks]
  cases hardViolations order.core book path terms
      (prospect order.core price terms.agentAllocation (currentExposure book order.core)) with
  | cons violation rest => exact Or.inl ⟨by simp, _, rfl⟩
  | nil =>
    cases tightestResize (resizeCandidates order.core terms) with
    | none => exact Or.inr (Or.inl ⟨rfl, rfl, rfl⟩)
    | some candidate => exact Or.inr (Or.inr ⟨rfl, candidate, rfl, rfl⟩)

/-- An evaluation meets its specification: it rejects what is not configured or
breaks a hard rule, approves what stays within the soft caps, and resizes any
other order to the smaller of the two capped quantities. -/
theorem evaluate_meets_specification (manager : AgentRiskManager) (book : FirmBook) (path : EvaluationPath) :
    ((∃ violations, evaluate manager order book path = .rejected violations) ↔
      Unconfigured manager order.core book ∨ ∃ terms, Configured manager order.core book price terms ∧
        ¬ Compliant order.core book path terms
          (prospect order.core price terms.agentAllocation (currentExposure book order.core))) ∧
    ∀ terms, Configured manager order.core book price terms →
      Compliant order.core book path terms
        (prospect order.core price terms.agentAllocation (currentExposure book order.core)) →
      ((∃ warnings, evaluate manager order book path = .approved warnings) ↔
        WithinSoftCaps order.core price terms.effectiveNav) ∧
      (¬ WithinSoftCaps order.core price terms.effectiveNav → ∃ reason warnings,
        evaluate manager order book path = .resized (min (notionalCapQty price terms.effectiveNav)
          (lossCapQty order.core price terms.effectiveNav)) reason warnings) := by
  refine ⟨⟨?_, ?_⟩, ?_⟩
  · rintro ⟨violations, rejected⟩
    rw [unconfigured_iff manager order.core book price]
    by_cases fine : ∃ terms, Configured manager order.core book price terms
    · obtain ⟨terms, configured⟩ := fine
      rcases evaluate_cases priced positive sized path configured with
        ⟨broken, -⟩ | ⟨-, -, approved⟩ | ⟨-, candidate, -, resized⟩
      · exact Or.inr ⟨terms, configured, broken⟩
      · exact nomatch rejected.symm.trans approved
      · exact nomatch rejected.symm.trans resized
    · exact Or.inl fun terms configured => fine ⟨terms, configured⟩
  · rintro (missing | ⟨terms, configured, broken⟩)
    · have unfound := (unconfigured_iff manager order.core book price).mp missing
      cases found : lookUp manager order.core book with
      | error violation => exact ⟨[violation], by simp only [evaluate, found]⟩
      | ok terms =>
        have configured := (lookUp_ok_iff manager order.core book terms priced positive sized).mp found
        exact absurd configured (unfound terms)
    · rcases evaluate_cases priced positive sized path configured with
        ⟨-, rejected⟩ | ⟨compliant, -⟩ | ⟨compliant, -⟩
      · exact rejected
      · exact absurd compliant broken
      · exact absurd compliant broken
  · intro terms configured compliant
    have risky := risky_of_compliant configured positive compliant
    have priced' : 0 < terms.price := configured.price ▸ positive
    have unresized := tightestResize_eq_none_iff priced' risky
    rw [← configured.price, ← unresized]
    rcases evaluate_cases priced positive sized path configured with
      ⟨broken, -⟩ | ⟨-, within, approved⟩ | ⟨-, candidate, tightest, resized⟩
    · exact absurd compliant broken
    · simp [within, approved]
    · simp [tightest, resized, tightestResize_newQty priced' risky tightest]

end Outcome

end Checks

/-- The test's order of 60, resized to 50, has all its terms configured. -/
theorem evaluate_meets_specification_on_test :
    ¬ Unconfigured testManager (testOrder 60 (some 95) (some 110)).core (testFirmBook 25) := by
  intro missing
  have specified := @evaluate_meets_specification 100 wholeText (testOrder 60 (some 95) (some 110)) rfl
    (by decide +kernel) (by decide +kernel) testManager (testFirmBook 25) .submitSignal
  obtain ⟨violations, rejected⟩ := specified.1.mpr (Or.inl missing)
  have decided : decision (@evaluate wholeText testManager (testOrder 60 (some 95) (some 110))
      (testFirmBook 25) .submitSignal) = (some 50, []) := by decide +kernel
  rw [rejected] at decided
  cases decided

end FeynmanEngine.EvaluationSpecification
