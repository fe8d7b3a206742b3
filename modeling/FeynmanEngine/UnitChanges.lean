import Mathlib.Tactic.FieldSimp
import FeynmanEngine.AcceptedOrders

/-! Changes of units. The gate compares amounts of money with amounts of money
and quantities with quantities, and everything else it looks at is a ratio. In
other units, with every figure converted, it decides the same: the quantity it
grants is the converted one, and what it refuses fails the same checks. -/
namespace FeynmanEngine.UnitChanges
open Ids Orders Tables Portfolio ExposureProjection RiskGate ResizeConvergence

/-- A unit of money, and for each instrument a unit of quantity: how many of the
new ones make an old one. -/
structure Units where
  money : Decimal
  quantity : InstrumentId → Decimal
  money_pos : 0 < money
  quantity_pos : ∀ instrument, 0 < quantity instrument

namespace Units
variable (units : Units)

/-- Prices are money for a quantity. -/
def price (instrument : InstrumentId) : Decimal := units.money / units.quantity instrument

/-! ### Converted figures -/

def core (core : OrderCore) : OrderCore :=
  { core with
    qty := units.quantity core.instrumentId * core.qty
    price := core.price.map (units.price core.instrumentId * ·)
    triggerPrice := core.triggerPrice.map (units.price core.instrumentId * ·)
    stopLoss := core.stopLoss.map (units.price core.instrumentId * ·)
    takeProfit := core.takeProfit.map (units.price core.instrumentId * ·) }

def order (order : PipelineOrder Validated) : PipelineOrder Validated := ⟨units.core order.core, order.stage⟩

def agentLimits (limits : AgentRiskLimits) : AgentRiskLimits :=
  { limits with
    allocatedCapital := units.money * limits.allocatedCapital
    maxPositionNotional := units.money * limits.maxPositionNotional
    maxGrossNotional := units.money * limits.maxGrossNotional
    maxDailyLoss := units.money * limits.maxDailyLoss }

def instrumentLimits (instrument : InstrumentId) (limits : InstrumentRiskLimits) : InstrumentRiskLimits :=
  { limits with
    maxNetQty := units.quantity instrument * limits.maxNetQty
    maxGrossQty := units.quantity instrument * limits.maxGrossQty }

def venueLimits (limits : VenueRiskLimits) : VenueRiskLimits :=
  { limits with maxNotional := units.money * limits.maxNotional }

def manager (manager : AgentRiskManager) : AgentRiskManager where
  nav := units.money * manager.nav
  agentLimits := mapValues (fun _ => units.agentLimits) manager.agentLimits
  instrumentLimits := mapValues units.instrumentLimits manager.instrumentLimits
  venueLimits := mapValues (fun _ => units.venueLimits) manager.venueLimits

def allocation (allocation : AgentAllocation) : AgentAllocation :=
  { allocation with
    allocatedCapital := units.money * allocation.allocatedCapital
    usedCapital := units.money * allocation.usedCapital
    freeCapital := units.money * allocation.freeCapital
    realizedPnl := units.money * allocation.realizedPnl
    unrealizedPnl := units.money * allocation.unrealizedPnl }

def venueExposure (instrument : InstrumentId) (exposure : VenueExposure) : VenueExposure :=
  { exposure with
    netQty := units.quantity instrument * exposure.netQty
    notionalUsd := units.money * exposure.notionalUsd }

def agentExposure (instrument : InstrumentId) (exposure : AgentExposure) : AgentExposure :=
  { exposure with
    netQty := units.quantity instrument * exposure.netQty
    notionalUsd := units.money * exposure.notionalUsd
    pnl := units.money * exposure.pnl }

def exposure (exposure : InstrumentExposure) : InstrumentExposure where
  instrument := exposure.instrument
  netQty := units.quantity exposure.instrument * exposure.netQty
  grossQty := units.quantity exposure.instrument * exposure.grossQty
  netNotionalUsd := units.money * exposure.netNotionalUsd
  grossNotionalUsd := units.money * exposure.grossNotionalUsd
  byVenue := exposure.byVenue.map (units.venueExposure exposure.instrument)
  byAgent := exposure.byAgent.map (units.agentExposure exposure.instrument)

def book (book : FirmBook) : FirmBook :=
  { book with
    nav := units.money * book.nav
    grossNotional := units.money * book.grossNotional
    netNotional := units.money * book.netNotional
    realizedPnl := units.money * book.realizedPnl
    unrealizedPnl := units.money * book.unrealizedPnl
    dailyPnl := units.money * book.dailyPnl
    hourlyPnl := units.money * book.hourlyPnl
    allocatedCapital := units.money * book.allocatedCapital
    cashAvailable := units.money * book.cashAvailable
    totalFeesPaid := units.money * book.totalFeesPaid
    agentAllocations := mapValues (fun _ => units.allocation) book.agentAllocations
    instruments := book.instruments.map units.exposure
    predictionExposure := { book.predictionExposure with
      totalNotional := units.money * book.predictionExposure.totalNotional } }

def current (instrument : InstrumentId) (current : CurrentExposure) : CurrentExposure :=
  { current with
    instrumentNetQty := units.quantity instrument * current.instrumentNetQty
    instrumentGrossQty := units.quantity instrument * current.instrumentGrossQty
    instrumentNetNotional := units.money * current.instrumentNetNotional
    instrumentGrossNotional := units.money * current.instrumentGrossNotional
    agentInstrumentNetNotional := units.money * current.agentInstrumentNetNotional
    agentInstrumentGrossNotional := units.money * current.agentInstrumentGrossNotional
    venueInstrumentNetNotional := units.money * current.venueInstrumentNetNotional
    venueInstrumentGrossNotional := units.money * current.venueInstrumentGrossNotional
    venueNotional := units.money * current.venueNotional }

def projection (instrument : InstrumentId) (projected : Projection) : Projection :=
  { projected with
    signedOrderNotional := units.money * projected.signedOrderNotional
    instrumentNetQty := units.quantity instrument * projected.instrumentNetQty
    instrumentGrossQty := units.quantity instrument * projected.instrumentGrossQty
    instrumentGrossNotional := units.money * projected.instrumentGrossNotional
    agentInstrumentGrossNotional := units.money * projected.agentInstrumentGrossNotional
    agentGrossNotional := units.money * projected.agentGrossNotional
    agentFreeCapital := units.money * projected.agentFreeCapital
    venueNotional := units.money * projected.venueNotional }

def terms (instrument : InstrumentId) (terms : Terms) : Terms where
  price := units.price instrument * terms.price
  effectiveNav := units.money * terms.effectiveNav
  agentLimits := units.agentLimits terms.agentLimits
  agentAllocation := units.allocation terms.agentAllocation
  instrumentLimits := units.instrumentLimits instrument terms.instrumentLimits
  venueLimits := units.venueLimits terms.venueLimits

/-! ### Exposures and projections -/

theorem price_pos (instrument : InstrumentId) : 0 < units.price instrument :=
  div_pos units.money_pos (units.quantity_pos instrument)

/-- A quantity at a price is money. -/
theorem quantity_mul_price (instrument : InstrumentId) (qty price : Decimal) :
    units.quantity instrument * qty * (units.price instrument * price) = units.money * (qty * price) := by
  have positive := units.quantity_pos instrument
  rw [Units.price]
  field_simp

end Units

/-! ### Figures and a factor -/

section Factors
variable {factor : Decimal} (positive : 0 < factor)
include positive

theorem abs_mul_of_pos (value : Decimal) : |factor * value| = factor * |value| := by
  rw [abs_mul, abs_of_pos positive]

theorem mul_lt_zero_iff (value : Decimal) : factor * value < 0 ↔ value < 0 := by
  rw [← not_le, ← not_le, mul_nonneg_iff_of_pos_left positive]

theorem mul_le_zero_iff (value : Decimal) : factor * value ≤ 0 ↔ value ≤ 0 := by
  rw [← not_lt, ← not_lt, mul_pos_iff_of_pos_left positive]

omit positive in
theorem signedDelta_mul (side : Side) (value : Decimal) :
    signedDelta side (factor * value) = factor * signedDelta side value := by
  cases side with
  | buy => rfl
  | sell => exact (mul_neg factor value).symm

theorem opposite_mul (net gross delta : Decimal) :
    opposite (factor * net) (factor * gross) (factor * delta) = factor * opposite net gross delta := by
  simp only [opposite, mul_nonneg_iff_of_pos_left positive]
  split <;> ring

/-- The larger side of a book is reduced by as many units as there are. -/
theorem projectNetAndGross_mul (net gross delta : Decimal) :
    projectNetAndGross (factor * net) (factor * gross) (factor * delta) =
      (factor * (projectNetAndGross net gross delta).1, factor * (projectNetAndGross net gross delta).2) := by
  refine Prod.ext ?_ ?_
  · rw [net_after, net_after]
    ring
  · rw [gross_after_delta, gross_after_delta, relief, relief, opposite_mul positive, abs_mul_of_pos positive,
      ← mul_min_of_nonneg _ _ positive.le]
    ring

end Factors

namespace Units
variable (units : Units)

theorem signedValueFromNet_units (instrument : InstrumentId) (net notional : Decimal) :
    signedValueFromNet (units.quantity instrument * net) |units.money * notional| =
      units.money * signedValueFromNet net |notional| := by
  rw [signedValueFromNet, signedValueFromNet, abs_mul_of_pos units.money_pos]
  simp only [mul_nonneg_iff_of_pos_left (units.quantity_pos instrument)]
  split
  · rfl
  · exact (mul_neg _ _).symm

/-- What is found under a name is found, converted, in the converted list. -/
theorem find_map {α : Type} (convert : α → α) (wanted : α → Bool)
    (same : ∀ entry, wanted (convert entry) = wanted entry) (entries : List α) :
    (entries.map convert).find? wanted = (entries.find? wanted).map convert := by
  rw [List.find?_map]
  exact congrArg (fun found => Option.map convert (List.find? found entries)) (funext same)

theorem instrumentExposure_units (book : FirmBook) (core : OrderCore) :
    instrumentExposure (units.book book) (units.core core) = (instrumentExposure book core).map units.exposure :=
  find_map units.exposure _ (fun _ => rfl) book.instruments

theorem instrumentExposure_instrument {book : FirmBook} {core : OrderCore} {exposure : InstrumentExposure}
    (found : instrumentExposure book core = some exposure) : exposure.instrument = core.instrumentId := by
  simpa using List.find?_some found

theorem agentInstrumentExposure_units (book : FirmBook) (core : OrderCore) :
    agentInstrumentExposure (units.book book) (units.core core) =
      (agentInstrumentExposure book core).map (units.agentExposure core.instrumentId) := by
  rw [agentInstrumentExposure, agentInstrumentExposure, instrumentExposure_units]
  cases found : instrumentExposure book core with
  | none => rfl
  | some exposure =>
    rw [← instrumentExposure_instrument found]
    exact find_map (units.agentExposure exposure.instrument) _ (fun _ => rfl) exposure.byAgent

theorem venueInstrumentExposure_units (book : FirmBook) (core : OrderCore) :
    venueInstrumentExposure (units.book book) (units.core core) =
      (venueInstrumentExposure book core).map (units.venueExposure core.instrumentId) := by
  rw [venueInstrumentExposure, venueInstrumentExposure, instrumentExposure_units]
  cases found : instrumentExposure book core with
  | none => rfl
  | some exposure =>
    rw [← instrumentExposure_instrument found]
    exact find_map (units.venueExposure exposure.instrument) _ (fun _ => rfl) exposure.byVenue

/-- The venue's exposures over all instruments, of which each is converted in its own units. -/
theorem venueNotionals_units (book : FirmBook) (venue : VenueId) :
    ((((units.book book).instruments.flatMap InstrumentExposure.byVenue).filter fun exposure =>
      exposure.venue = venue).map fun exposure => |exposure.notionalUsd|).sum =
    units.money * (((book.instruments.flatMap InstrumentExposure.byVenue).filter fun exposure =>
      exposure.venue = venue).map fun exposure => |exposure.notionalUsd|).sum := by
  show ((((book.instruments.map units.exposure).flatMap InstrumentExposure.byVenue).filter fun exposure =>
    exposure.venue = venue).map fun exposure => |exposure.notionalUsd|).sum = _
  induction book.instruments with
  | nil => exact (mul_zero _).symm
  | cons listed rest ih =>
    rw [List.map_cons, List.flatMap_cons, List.flatMap_cons, List.filter_append, List.filter_append, List.map_append,
      List.map_append, List.sum_append, List.sum_append, ih, mul_add]
    congr 1
    show (((listed.byVenue.map (units.venueExposure listed.instrument)).filter fun exposure =>
      exposure.venue = venue).map fun exposure => |exposure.notionalUsd|).sum = _
    induction listed.byVenue with
    | nil => exact (mul_zero _).symm
    | cons held others ih =>
      have sameVenue : (units.venueExposure listed.instrument held).venue = held.venue := rfl
      rw [List.map_cons, List.filter_cons, List.filter_cons, sameVenue]
      split
      · rw [List.map_cons, List.map_cons, List.sum_cons, List.sum_cons, ih, mul_add]
        congr 1
        exact abs_mul_of_pos units.money_pos _
      · exact ih

theorem venuePositions_units (book : FirmBook) (venue : VenueId) :
    ((units.book book).instruments.filter fun exposure =>
      exposure.byVenue.any fun venueExposure => venueExposure.venue = venue).length =
    (book.instruments.filter fun exposure =>
      exposure.byVenue.any fun venueExposure => venueExposure.venue = venue).length := by
  show ((book.instruments.map units.exposure).filter fun exposure =>
    exposure.byVenue.any fun venueExposure => venueExposure.venue = venue).length = _
  rw [List.filter_map, List.length_map]
  congr 2
  funext exposure
  show (exposure.byVenue.map _).any _ = _
  rw [List.any_map]
  rfl

/-- What the book shows of an order is what it showed before, converted. -/
theorem currentExposure_units (book : FirmBook) (core : OrderCore) :
    currentExposure (units.book book) (units.core core) =
      units.current core.instrumentId (currentExposure book core) := by
  have notionals := venueNotionals_units units book core.venueId
  have positions := venuePositions_units units book core.venueId
  unfold currentExposure
  rw [instrumentExposure_units, agentInstrumentExposure_units, venueInstrumentExposure_units]
  simp only [Units.current, CurrentExposure.mk.injEq]
  refine ⟨?_, ?_, ?_, ?_, ?_, ?_, ?_, ?_, notionals, positions, Option.isSome_map⟩
  · cases found : instrumentExposure book core with
    | none => exact (mul_zero _).symm
    | some exposure =>
      exact congrArg (fun name => units.quantity name * exposure.netQty) (instrumentExposure_instrument found)
  · cases found : instrumentExposure book core with
    | none => exact (mul_zero _).symm
    | some exposure =>
      exact congrArg (fun name => units.quantity name * exposure.grossQty) (instrumentExposure_instrument found)
  · cases instrumentExposure book core with
    | none => exact (mul_zero _).symm
    | some exposure => rfl
  · cases instrumentExposure book core with
    | none => exact (mul_zero _).symm
    | some exposure => rfl
  · cases agentInstrumentExposure book core with
    | none => exact (mul_zero _).symm
    | some exposure => exact signedValueFromNet_units units core.instrumentId _ _
  · cases agentInstrumentExposure book core with
    | none => exact (mul_zero _).symm
    | some exposure => exact abs_mul_of_pos units.money_pos _
  · cases venueInstrumentExposure book core with
    | none => exact (mul_zero _).symm
    | some exposure => exact signedValueFromNet_units units core.instrumentId _ _
  · cases venueInstrumentExposure book core with
    | none => exact (mul_zero _).symm
    | some exposure => exact abs_mul_of_pos units.money_pos _

/-- What an order would leave behind is what it would have left, converted. -/
theorem project_units (core : OrderCore) (price : Decimal) (allocation : AgentAllocation) (current : CurrentExposure) :
    project (units.core core) (units.price core.instrumentId * price) (units.allocation allocation)
        (units.current core.instrumentId current) =
      units.projection core.instrumentId (project core price allocation current) := by
  have notional := units.quantity_mul_price core.instrumentId core.qty price
  have net := @projectNetAndGross_mul units.money units.money_pos
  have qty := @projectNetAndGross_mul (units.quantity core.instrumentId) (units.quantity_pos core.instrumentId)
  simp only [project, Units.core, Units.current, Units.allocation, Units.projection, notional, signedDelta_mul, net,
    qty, Projection.mk.injEq, true_and]
  refine ⟨?_, ?_, ?_, rfl⟩ <;> ring

/-! ### Checks -/

variable [LibraryText]

/-- The checks some violations name. -/
def names (violations : List RiskViolation) : List String := violations.map RiskViolation.checkName

omit [LibraryText] in
theorem names_append (left right : List RiskViolation) : names (left ++ right) = names left ++ names right :=
  List.map_append

omit [LibraryText] in
/-- A check that is violated just when another is names what the other names. -/
theorem names_pushWhen [Decidable left] [Decidable right] {first second : RiskViolation} (same : left ↔ right)
    (named : first.checkName = second.checkName) : names (pushWhen left first) = names (pushWhen right second) := by
  unfold pushWhen
  by_cases holds : right
  · rw [if_pos holds, if_pos (same.mpr holds)]
    exact congrArg (fun name => [name]) named
  · rw [if_neg holds, if_neg fun left => holds (same.mp left)]

/-- Figure and cap in the same units. -/
theorem names_capped {factor : Decimal} (positive : 0 < factor) (checkName reason : String) (figure cap : Decimal) :
    names (capped checkName reason (factor * figure) (factor * cap)) = names (capped checkName reason figure cap) :=
  names_pushWhen (mul_lt_mul_iff_right₀ positive) rfl

omit [LibraryText] in
/-- Shares of the capital are the same in any units. -/
theorem share_units (figure nav : Decimal) : units.money * figure / (units.money * nav) = figure / nav :=
  mul_div_mul_left _ _ units.money_pos.ne'

omit [LibraryText] in
theorem riskPerUnit_units (core : OrderCore) (price : Decimal) :
    riskPerUnit (units.core core) (units.price core.instrumentId * price) =
      units.price core.instrumentId * riskPerUnit core price := by
  have converted : (units.core core).stopLoss = core.stopLoss.map (units.price core.instrumentId * ·) := rfl
  unfold riskPerUnit
  rw [converted]
  cases core.stopLoss with
  | none => rfl
  | some stopLoss =>
    show |units.price core.instrumentId * price - units.price core.instrumentId * stopLoss| = _
    rw [← mul_sub]
    exact abs_mul_of_pos (units.price_pos core.instrumentId) _

theorem checkAgentBudget_units (instrument : InstrumentId) (projected : Projection) (limits : AgentRiskLimits) :
    names (checkAgentBudget (units.projection instrument projected) (units.agentLimits limits)) =
      names (checkAgentBudget projected limits) := by
  simp only [checkAgentBudget, names_append]
  refine congrArg₂ _ (congrArg₂ _ (names_pushWhen ?_ rfl) (names_capped units.money_pos ..))
    (names_capped units.money_pos ..)
  exact mul_lt_zero_iff units.money_pos _

theorem checkRiskDistance_units (core : OrderCore) (price : Decimal) :
    names (checkRiskDistance (units.core core) (units.price core.instrumentId * price)) =
      names (checkRiskDistance core price) := by
  unfold checkRiskDistance
  rw [riskPerUnit_units]
  exact names_pushWhen (mul_le_zero_iff (units.price_pos core.instrumentId) _) rfl

/-- Leverage is a ratio of money to money. -/
theorem checkLeverage_units (instrument : InstrumentId) (projected : Projection) (limits : InstrumentRiskLimits) :
    names (checkLeverage (units.projection instrument projected) (units.instrumentLimits instrument limits)) =
      names (checkLeverage projected limits) := by
  have broke : (units.projection instrument projected).agentFreeCapital ≤ 0 ↔ projected.agentFreeCapital ≤ 0 :=
    mul_le_zero_iff units.money_pos _
  have leverage : (units.projection instrument projected).agentGrossNotional /
      (units.projection instrument projected).agentFreeCapital =
      projected.agentGrossNotional / projected.agentFreeCapital := share_units units _ _
  unfold checkLeverage
  rw [leverage]
  by_cases unlimited : limits.maxLeverage ≤ 0
  · rw [if_pos unlimited, if_pos (show (units.instrumentLimits instrument limits).maxLeverage ≤ 0 from unlimited)]
    rfl
  rw [if_neg unlimited, if_neg (show ¬ (units.instrumentLimits instrument limits).maxLeverage ≤ 0 from unlimited)]
  by_cases short : projected.agentFreeCapital ≤ 0
  · rw [if_pos short, if_pos (broke.mpr short)]
    rfl
  · rw [if_neg short, if_neg fun low => short (broke.mp low)]
    rfl

theorem checkCashReserve_units (instrument : InstrumentId) (projected : Projection) (nav : Decimal) (book : FirmBook) :
    names (checkCashReserve (units.projection instrument projected) (units.money * nav) (units.book book)) =
      names (checkCashReserve projected nav book) := by
  have reserve : ((units.book book).cashAvailable - (units.projection instrument projected).signedOrderNotional) /
      (units.money * nav) = (book.cashAvailable - projected.signedOrderNotional) / nav := by
    show (units.money * book.cashAvailable - units.money * projected.signedOrderNotional) / (units.money * nav) = _
    rw [← mul_sub, share_units]
  unfold checkCashReserve
  rw [reserve]

theorem checkInstrumentLimits_units (instrument : InstrumentId) (projected : Projection) (nav : Decimal)
    (limits : InstrumentRiskLimits) :
    names (checkInstrumentLimits (units.projection instrument projected) (units.money * nav)
        (units.instrumentLimits instrument limits)) =
      names (checkInstrumentLimits projected nav limits) := by
  have net : |(units.projection instrument projected).instrumentNetQty| =
      units.quantity instrument * |projected.instrumentNetQty| := abs_mul_of_pos (units.quantity_pos instrument) _
  have concentration : (units.projection instrument projected).instrumentGrossNotional / (units.money * nav) =
      projected.instrumentGrossNotional / nav := share_units units _ _
  unfold checkInstrumentLimits
  rw [net, concentration]
  simp only [names_append]
  exact congrArg₂ _ (congrArg₂ _ (names_capped (units.quantity_pos instrument) ..)
    (names_capped (units.quantity_pos instrument) ..)) rfl

theorem checkVenueLimits_units (instrument : InstrumentId) (projected : Projection) (nav : Decimal)
    (limits : VenueRiskLimits) :
    names (checkVenueLimits (units.projection instrument projected) (units.money * nav) (units.venueLimits limits)) =
      names (checkVenueLimits projected nav limits) := by
  have share : (units.projection instrument projected).venueNotional / (units.money * nav) =
      projected.venueNotional / nav := share_units units _ _
  unfold checkVenueLimits
  rw [share]
  simp only [names_append]
  exact congrArg₂ _ (congrArg₂ _ (names_capped units.money_pos ..) rfl) rfl

/-- Risk and reward are distances between prices of one instrument. -/
theorem checkSignalRequirements_units (core : OrderCore) (price : Decimal) :
    names (checkSignalRequirements (units.core core) (units.price core.instrumentId * price)) =
      names (checkSignalRequirements core price) := by
  have positive := units.price_pos core.instrumentId
  have distance (left right : Decimal) :
      |units.price core.instrumentId * left - units.price core.instrumentId * right| =
        units.price core.instrumentId * |left - right| := by
    rw [← mul_sub]
    exact abs_mul_of_pos positive _
  have stop : (units.core core).stopLoss = core.stopLoss.map (units.price core.instrumentId * ·) := rfl
  have target : (units.core core).takeProfit = core.takeProfit.map (units.price core.instrumentId * ·) := rfl
  unfold checkSignalRequirements
  rw [stop, target]
  cases core.stopLoss with
  | none => rfl
  | some stopLoss =>
    cases core.takeProfit with
    | none => rfl
    | some takeProfit =>
      dsimp only [Option.map_some]
      rw [distance, distance, mul_div_mul_left _ _ positive.ne']
      by_cases near : |price - stopLoss| ≤ 0
      · rw [if_pos near, if_pos ((mul_le_zero_iff positive _).mpr near)]
        rfl
      · rw [if_neg near, if_neg fun low => near ((mul_le_zero_iff positive _).mp low)]

/-- All hard checks. -/
theorem hardViolations_units (core : OrderCore) (book : FirmBook) (path : EvaluationPath) (terms : Terms)
    (projected : Projection) :
    names (hardViolations (units.core core) (units.book book) path (units.terms core.instrumentId terms)
        (units.projection core.instrumentId projected)) =
      names (hardViolations core book path terms projected) := by
  have signal : names (if path = .submitSignal then
        checkSignalRequirements (units.core core) (units.price core.instrumentId * terms.price) else []) =
      names (if path = .submitSignal then checkSignalRequirements core terms.price else []) := by
    split
    · exact checkSignalRequirements_units units core terms.price
    · rfl
  simp only [hardViolations, names_append, Units.terms, checkAgentBudget_units, checkRiskDistance_units,
    checkLeverage_units, checkCashReserve_units, checkInstrumentLimits_units, checkVenueLimits_units, signal]
  rfl

/-! ### What an evaluation looks up -/

/-- The same result, converted, or a violation of the same check. -/
inductive Alike {α : Type} (convert : α → α) : Except RiskViolation α → Except RiskViolation α → Prop
  | ok (value : α) : Alike convert (.ok value) (.ok (convert value))
  | error {missing other : RiskViolation} (named : other.checkName = missing.checkName) :
      Alike convert (.error missing) (.error other)

theorem evaluationPrice_units (core : OrderCore) :
    Alike (units.price core.instrumentId * ·) (evaluationPrice core) (evaluationPrice (units.core core)) := by
  have positive := units.price_pos core.instrumentId
  have quoted : (units.core core).price = core.price.map (units.price core.instrumentId * ·) := rfl
  unfold evaluationPrice
  rw [quoted]
  cases core.price with
  | none => exact .error rfl
  | some price =>
    dsimp only [Option.map_some]
    by_cases priced : 0 < price
    · rw [if_pos priced, if_pos (mul_pos positive priced)]
      exact .ok price
    · rw [if_neg priced, if_neg fun above => priced ((mul_pos_iff_of_pos_left positive).mp above)]
      exact .error rfl

theorem effectiveNav_units (manager : AgentRiskManager) (book : FirmBook) :
    Alike (units.money * ·) (effectiveNav manager book)
      (effectiveNav (units.manager manager) (units.book book)) := by
  have managed : (units.manager manager).nav ≤ 0 ↔ manager.nav ≤ 0 := mul_le_zero_iff units.money_pos _
  have held : (units.book book).nav ≤ 0 ↔ book.nav ≤ 0 := mul_le_zero_iff units.money_pos _
  have smaller : min (units.manager manager).nav (units.book book).nav = units.money * min manager.nav book.nav :=
    (mul_min_of_nonneg _ _ units.money_pos.le).symm
  unfold effectiveNav
  by_cases unmanaged : manager.nav ≤ 0
  · rw [if_pos unmanaged, if_pos (managed.mpr unmanaged)]
    exact .error rfl
  rw [if_neg unmanaged, if_neg fun low => unmanaged (managed.mp low)]
  by_cases unheld : book.nav ≤ 0
  · rw [if_pos unheld, if_pos (held.mpr unheld)]
    exact .error rfl
  rw [if_neg unheld, if_neg fun low => unheld (held.mp low), smaller]
  exact .ok _

/-- The terms are looked up just when they were, converted; else the same check is named. -/
theorem lookUp_units (manager : AgentRiskManager) (core : OrderCore) (book : FirmBook) :
    Alike (units.terms core.instrumentId) (lookUp manager core book)
      (lookUp (units.manager manager) (units.core core) (units.book book)) := by
  have sized : (units.core core).qty ≤ 0 ↔ core.qty ≤ 0 :=
    mul_le_zero_iff (units.quantity_pos core.instrumentId) _
  have agents : (units.manager manager).agentLimits.lookup (units.core core).agentId =
      (manager.agentLimits.lookup core.agentId).map units.agentLimits := lookup_mapValues _ _ _
  have allocations : (units.book book).agentAllocations.lookup (units.core core).agentId =
      (book.agentAllocations.lookup core.agentId).map units.allocation := lookup_mapValues _ _ _
  have instruments : (units.manager manager).instrumentLimits.lookup (units.core core).instrumentId =
      (manager.instrumentLimits.lookup core.instrumentId).map (units.instrumentLimits core.instrumentId) :=
    lookup_mapValues _ _ _
  have venues : (units.manager manager).venueLimits.lookup (units.core core).venueId =
      (manager.venueLimits.lookup core.venueId).map units.venueLimits := lookup_mapValues _ _ _
  have prices := evaluationPrice_units units core
  have funds := effectiveNav_units units manager book
  unfold lookUp
  generalize evaluationPrice core = priced at prices ⊢
  generalize evaluationPrice (units.core core) = repriced at prices ⊢
  generalize effectiveNav manager book = funded at funds ⊢
  generalize effectiveNav (units.manager manager) (units.book book) = refunded at funds ⊢
  cases prices with
  | error named => exact .error named
  | ok price =>
    dsimp only
    by_cases empty : core.qty ≤ 0
    · rw [if_pos empty, if_pos (sized.mpr empty)]
      exact .error rfl
    rw [if_neg empty, if_neg fun low => empty (sized.mp low)]
    cases funds with
    | error named => exact .error named
    | ok nav =>
      rw [agents, allocations, instruments, venues]
      cases manager.agentLimits.lookup core.agentId with
      | none => exact .error rfl
      | some agentLimits =>
        cases book.agentAllocations.lookup core.agentId with
        | none => exact .error rfl
        | some allocation =>
          cases manager.instrumentLimits.lookup core.instrumentId with
          | none => exact .error rfl
          | some instrumentLimits =>
            cases manager.venueLimits.lookup core.venueId with
            | none => exact .error rfl
            | some venueLimits => exact .ok _

/-! ### Candidates -/

/-- A candidate for the converted quantity. -/
def Converts (factor : Decimal) (candidate other : ResizeCandidate) : Prop :=
  other.newQty = factor * candidate.newQty

omit [LibraryText] in
/-- The tightest of converted candidates is the converted tightest. -/
theorem tightestResize_converts {factor : Decimal} (positive : 0 < factor) {candidates others : List ResizeCandidate}
    (converts : List.Forall₂ (Converts factor) candidates others) :
    Option.Rel (Converts factor) (tightestResize candidates) (tightestResize others) := by
  cases converts with
  | nil => exact .none
  | @cons first other rest more same converts =>
    refine .some ?_
    induction converts generalizing first other with
    | nil => exact same
    | @cons next another rest more nextSame _ ih =>
      rw [List.foldl_cons, List.foldl_cons]
      refine ih ?_
      have tighter : another.newQty < other.newQty ↔ next.newQty < first.newQty := by
        rw [nextSame, same, mul_lt_mul_iff_right₀ positive]
      by_cases smaller : next.newQty < first.newQty
      · rw [if_pos smaller, if_pos (tighter.mpr smaller)]
        exact nextSame
      · rw [if_neg smaller, if_neg fun less => smaller (tighter.mp less)]
        exact same

omit [LibraryText] in
/-- A cap on money bounds money per unit just as before, at the converted quantity. -/
theorem cut_units (instrument : InstrumentId) (cap perUnit : Decimal) :
    units.money * cap / (units.price instrument * perUnit) = units.quantity instrument * (cap / perUnit) := by
  have money := units.money_pos.ne'
  have quantity := (units.quantity_pos instrument).ne'
  rw [Units.price]
  field_simp

theorem checkPositionLimit_units (instrument : InstrumentId) (notional price nav : Decimal) :
    List.Forall₂ (Converts (units.quantity instrument)) (checkPositionLimit notional price nav)
      (checkPositionLimit (units.money * notional) (units.price instrument * price) (units.money * nav)) := by
  have exceeds : units.money * nav * positionNavCap < units.money * notional ↔ nav * positionNavCap < notional := by
    rw [mul_assoc, mul_lt_mul_iff_right₀ units.money_pos]
  unfold checkPositionLimit
  dsimp only
  by_cases above : nav * positionNavCap < notional
  · rw [if_pos above, if_pos (exceeds.mpr above)]
    refine .cons ?_ .nil
    rw [Converts, mul_assoc]
    exact cut_units units instrument _ _
  · rw [if_neg above, if_neg fun more => above (exceeds.mp more)]
    exact .nil

theorem checkAccountRisk_units (core : OrderCore) (price nav : Decimal) :
    List.Forall₂ (Converts (units.quantity core.instrumentId)) (checkAccountRisk core price nav)
      (checkAccountRisk (units.core core) (units.price core.instrumentId * price) (units.money * nav)) := by
  have risk := riskPerUnit_units units core price
  have riskless := mul_le_zero_iff (units.price_pos core.instrumentId) (riskPerUnit core price)
  rw [← risk] at riskless
  have exceeds : units.money * nav * accountRiskNavCap < (units.core core).qty *
        riskPerUnit (units.core core) (units.price core.instrumentId * price) ↔
      nav * accountRiskNavCap < core.qty * riskPerUnit core price := by
    show _ < units.quantity core.instrumentId * core.qty * _ ↔ _
    rw [risk, units.quantity_mul_price, mul_assoc, mul_lt_mul_iff_right₀ units.money_pos]
  unfold checkAccountRisk
  dsimp only
  by_cases safe : riskPerUnit core price ≤ 0
  · rw [if_pos safe, if_pos (riskless.mpr safe)]
    exact .nil
  rw [if_neg safe, if_neg fun low => safe (riskless.mp low)]
  by_cases above : nav * accountRiskNavCap < core.qty * riskPerUnit core price
  · rw [if_pos above, if_pos (exceeds.mpr above)]
    refine .cons ?_ .nil
    rw [Converts, risk, mul_assoc]
    exact cut_units units core.instrumentId _ _
  · rw [if_neg above, if_neg fun more => above (exceeds.mp more)]
    exact .nil

/-- Both caps convert like the quantity. -/
theorem resizeCandidates_units (core : OrderCore) (terms : Terms) :
    List.Forall₂ (Converts (units.quantity core.instrumentId)) (resizeCandidates core terms)
      (resizeCandidates (units.core core) (units.terms core.instrumentId terms)) := by
  have position := checkPositionLimit_units units core.instrumentId (core.qty * terms.price) terms.price
    terms.effectiveNav
  rw [← units.quantity_mul_price core.instrumentId] at position
  exact List.rel_append position (checkAccountRisk_units units core terms.price terms.effectiveNav)

end Units

/-! ### Evaluations -/

/-- In other units an evaluation decides the same: it approves what it approved,
resizes what it resized to the converted quantity, and rejects what it rejected
for the same checks in the same order. -/
theorem evaluate_units [LibraryText] (units : Units) (manager : AgentRiskManager) (order : PipelineOrder Validated)
    (book : FirmBook) (path : EvaluationPath) :
    decision (evaluate (units.manager manager) (units.order order) (units.book book) path) =
      ((decision (evaluate manager order book path)).1.map (units.quantity order.core.instrumentId * ·),
        (decision (evaluate manager order book path)).2) := by
  have looked := Units.lookUp_units units manager order.core book
  have shown := Units.currentExposure_units units book order.core
  unfold evaluate outcomeOf
  dsimp only [Units.order]
  generalize lookUp manager order.core book = found at looked ⊢
  generalize lookUp (units.manager manager) (units.core order.core) (units.book book) = again at looked ⊢
  cases looked with
  | error named => exact congrArg (fun name => (none, [name])) named
  | ok terms =>
    have projected := Units.project_units units order.core terms.price terms.agentAllocation
      (currentExposure book order.core)
    have broken := Units.hardViolations_units units order.core book path terms
      (project order.core terms.price terms.agentAllocation (currentExposure book order.core))
    have tightest := Units.tightestResize_converts (units.quantity_pos order.core.instrumentId)
      (Units.resizeCandidates_units units order.core terms)
    have reprojected : project (units.core order.core) (units.terms order.core.instrumentId terms).price
        (units.terms order.core.instrumentId terms).agentAllocation
        (currentExposure (units.book book) (units.core order.core)) =
        units.projection order.core.instrumentId
          (project order.core terms.price terms.agentAllocation (currentExposure book order.core)) := by
      rw [shown]
      exact projected
    dsimp only
    rw [reprojected]
    generalize hardViolations order.core book path terms _ = violations at broken ⊢
    generalize hardViolations (units.core order.core) _ path _ _ = others at broken ⊢
    generalize tightestResize (resizeCandidates order.core terms) = candidate at tightest ⊢
    generalize tightestResize (resizeCandidates (units.core order.core) _) = converted at tightest ⊢
    cases violations with
    | cons violation rest =>
      cases others with
      | nil => cases broken
      | cons other more => exact congrArg (fun names => (none, names)) broken
    | nil =>
      cases others with
      | cons other more => cases broken
      | nil =>
        cases tightest with
        | none => rfl
        | some same => exact congrArg (fun qty => (some qty, [])) same

/-- The test's order of 60, in cents and in tenths. -/
example : decision (@evaluate wholeText
    ((⟨100, fun _ => 10, by norm_num, fun _ => by norm_num⟩ : Units).manager testManager)
    ((⟨100, fun _ => 10, by norm_num, fun _ => by norm_num⟩ : Units).order (testOrder 60 (some 95) (some 110)))
    ((⟨100, fun _ => 10, by norm_num, fun _ => by norm_num⟩ : Units).book (testFirmBook 25)) .submitSignal) =
    (some 500, []) := by decide +kernel

end FeynmanEngine.UnitChanges
