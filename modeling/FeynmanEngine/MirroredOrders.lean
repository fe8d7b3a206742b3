import FeynmanEngine.EvaluationSpecification
import FeynmanEngine.ResizeConvergence

/-! Buying and selling. An order is mirrored when its side is the other one, its
exits are as far on the other side of its price, and every position of the book
is held the other way round. Of all the gate's checks only the cash reserve tells
the two apart, and it only ever stands in the buyer's way. -/
namespace FeynmanEngine.MirroredOrders
open Ids Orders Tables Portfolio ExposureProjection RiskGate EvaluationSpecification ResizeConvergence

/-- The other side. -/
def turned : Side → Side
  | .buy => .sell
  | .sell => .buy

/-- A level as far on the other side of the order's price. -/
def reflected (core : OrderCore) (level : Decimal) : Decimal :=
  match core.price with
  | some price => 2 * price - level
  | none => level

def mirrorCore (core : OrderCore) : OrderCore :=
  { core with
    side := turned core.side
    triggerPrice := core.triggerPrice.map (reflected core)
    stopLoss := core.stopLoss.map (reflected core)
    takeProfit := core.takeProfit.map (reflected core) }

def mirrorOrder (order : PipelineOrder Validated) : PipelineOrder Validated := ⟨mirrorCore order.core, order.stage⟩

def mirrorVenue (exposure : VenueExposure) : VenueExposure :=
  { exposure with netQty := -exposure.netQty, notionalUsd := -exposure.notionalUsd }

def mirrorAgent (exposure : AgentExposure) : AgentExposure :=
  { exposure with netQty := -exposure.netQty, notionalUsd := -exposure.notionalUsd }

def mirrorExposure (exposure : InstrumentExposure) : InstrumentExposure :=
  { exposure with
    netQty := -exposure.netQty
    netNotionalUsd := -exposure.netNotionalUsd
    byVenue := exposure.byVenue.map mirrorVenue
    byAgent := exposure.byAgent.map mirrorAgent }

/-- The same capital and cash, every position the other way round. -/
def mirrorBook (book : FirmBook) : FirmBook :=
  { book with netNotional := -book.netNotional, instruments := book.instruments.map mirrorExposure }

/-- What is shown of the order's agent and venue is worth nothing when it is flat. -/
structure Directed (book : FirmBook) (core : OrderCore) : Prop where
  agent : ∀ exposure, agentInstrumentExposure book core = some exposure →
    exposure.netQty = 0 → exposure.notionalUsd = 0
  venue : ∀ exposure, venueInstrumentExposure book core = some exposure →
    exposure.netQty = 0 → exposure.notionalUsd = 0

theorem signedDelta_turned (side : Side) (value : Decimal) :
    signedDelta (turned side) value = -signedDelta side value := by
  cases side with
  | buy => rfl
  | sell => exact (neg_neg value).symm

/-- Which side of a book is reduced follows the direction of the trade. -/
theorem relief_neg (net gross : Decimal) (trades : delta ≠ 0) :
    relief (-net) gross (-delta) = relief net gross delta := by
  unfold relief opposite
  rw [abs_neg]
  rcases lt_or_gt_of_ne trades with falls | rises
  · rw [if_pos (neg_nonneg.mpr falls.le), if_neg (not_le.mpr falls), sub_neg_eq_add]
  · rw [if_neg (not_le.mpr (neg_lt_zero.mpr rises)), if_pos rises.le, ← sub_eq_add_neg]

theorem projectNetAndGross_neg (net gross : Decimal) (trades : delta ≠ 0) :
    projectNetAndGross (-net) gross (-delta) =
      (-(projectNetAndGross net gross delta).1, (projectNetAndGross net gross delta).2) := by
  refine Prod.ext ?_ ?_
  · rw [net_after, net_after]
    ring
  · rw [gross_after_delta, gross_after_delta, relief_neg net gross trades]

/-- A worth is signed like its position, unless that is flat. -/
theorem signedValueFromNet_neg (directed : netQty = 0 → worth = 0) :
    signedValueFromNet (-netQty) |(-worth)| = -signedValueFromNet netQty |worth| := by
  unfold signedValueFromNet
  rw [abs_neg]
  rcases lt_trichotomy netQty 0 with short | flat | long
  · rw [if_pos (neg_nonneg.mpr short.le), if_neg (not_le.mpr short), neg_neg]
  · rw [directed flat, abs_zero, neg_zero, ite_self, ite_self, neg_zero]
  · rw [if_neg (not_le.mpr (neg_lt_zero.mpr long)), if_pos long.le]

theorem instrumentExposure_mirror (book : FirmBook) (core : OrderCore) :
    instrumentExposure (mirrorBook book) (mirrorCore core) = (instrumentExposure book core).map mirrorExposure :=
  List.find?_map ..

theorem agentInstrumentExposure_mirror (book : FirmBook) (core : OrderCore) :
    agentInstrumentExposure (mirrorBook book) (mirrorCore core) =
      (agentInstrumentExposure book core).map mirrorAgent := by
  unfold agentInstrumentExposure
  rw [instrumentExposure_mirror]
  cases instrumentExposure book core with
  | none => rfl
  | some exposure => exact List.find?_map ..

theorem venueInstrumentExposure_mirror (book : FirmBook) (core : OrderCore) :
    venueInstrumentExposure (mirrorBook book) (mirrorCore core) =
      (venueInstrumentExposure book core).map mirrorVenue := by
  unfold venueInstrumentExposure
  rw [instrumentExposure_mirror]
  cases instrumentExposure book core with
  | none => rfl
  | some exposure => exact List.find?_map ..

theorem venueNotionals_mirror (book : FirmBook) (venue : VenueId) :
    (((mirrorBook book).instruments.flatMap InstrumentExposure.byVenue).filter fun exposure =>
      exposure.venue = venue).map (fun exposure => |exposure.notionalUsd|) =
    ((book.instruments.flatMap InstrumentExposure.byVenue).filter fun exposure =>
      exposure.venue = venue).map fun exposure => |exposure.notionalUsd| := by
  have listed : (mirrorBook book).instruments.flatMap InstrumentExposure.byVenue =
      (book.instruments.flatMap InstrumentExposure.byVenue).map mirrorVenue := by
    rw [List.map_flatMap]
    exact List.flatMap_map ..
  rw [listed, List.filter_map, List.map_map]
  exact congrArg₂ List.map (funext fun exposure => abs_neg exposure.notionalUsd) rfl

theorem venuePositions_mirror (book : FirmBook) (venue : VenueId) :
    ((mirrorBook book).instruments.filter fun exposure =>
      exposure.byVenue.any fun venueExposure => venueExposure.venue = venue).length =
    (book.instruments.filter fun exposure =>
      exposure.byVenue.any fun venueExposure => venueExposure.venue = venue).length := by
  show ((book.instruments.map mirrorExposure).filter _).length = _
  rw [List.filter_map, List.length_map]
  congr 2
  funext exposure
  exact List.any_map ..

/-- The figures of the mirrored book. -/
def mirrorCurrent (current : CurrentExposure) : CurrentExposure :=
  { current with
    instrumentNetQty := -current.instrumentNetQty
    instrumentNetNotional := -current.instrumentNetNotional
    agentInstrumentNetNotional := -current.agentInstrumentNetNotional
    venueInstrumentNetNotional := -current.venueInstrumentNetNotional }

theorem currentExposure_mirror (directed : Directed book core) :
    currentExposure (mirrorBook book) (mirrorCore core) = mirrorCurrent (currentExposure book core) := by
  have notionals := congrArg List.sum (venueNotionals_mirror book core.venueId)
  have positions := venuePositions_mirror book core.venueId
  unfold currentExposure
  rw [instrumentExposure_mirror, agentInstrumentExposure_mirror, venueInstrumentExposure_mirror]
  simp only [mirrorCurrent, CurrentExposure.mk.injEq]
  refine ⟨?_, ?_, ?_, ?_, ?_, ?_, ?_, ?_, notionals, positions, Option.isSome_map⟩
  · cases instrumentExposure book core with
    | none => exact neg_zero.symm
    | some exposure => rfl
  · cases instrumentExposure book core with
    | none => rfl
    | some exposure => rfl
  · cases instrumentExposure book core with
    | none => exact neg_zero.symm
    | some exposure => rfl
  · cases instrumentExposure book core with
    | none => rfl
    | some exposure => rfl
  · cases found : agentInstrumentExposure book core with
    | none => exact neg_zero.symm
    | some exposure => exact signedValueFromNet_neg (directed.agent exposure found)
  · cases agentInstrumentExposure book core with
    | none => rfl
    | some exposure => exact abs_neg exposure.notionalUsd
  · cases found : venueInstrumentExposure book core with
    | none => exact neg_zero.symm
    | some exposure => exact signedValueFromNet_neg (directed.venue exposure found)
  · cases venueInstrumentExposure book core with
    | none => rfl
    | some exposure => exact abs_neg exposure.notionalUsd

/-- Gross exposures come out the same, the cash goes the other way. -/
def mirrorProjection (projected : Projection) : Projection :=
  { projected with
    signedOrderNotional := -projected.signedOrderNotional
    instrumentNetQty := -projected.instrumentNetQty }

theorem signedDelta_ne_zero (side : Side) (positive : 0 < value) : signedDelta side value ≠ 0 := by
  cases side with
  | buy => exact positive.ne'
  | sell => exact neg_ne_zero.mpr positive.ne'

theorem project_mirror (sized : 0 < core.qty) (priced : 0 < price) (allocation : AgentAllocation)
    (current : CurrentExposure) :
    project (mirrorCore core) price allocation (mirrorCurrent current) =
      mirrorProjection (project core price allocation current) := by
  have qty := signedDelta_ne_zero core.side sized
  have notional := signedDelta_ne_zero core.side (mul_pos sized priced)
  simp only [project, mirrorCore, mirrorCurrent, mirrorProjection, signedDelta_turned,
    projectNetAndGross_neg _ _ qty, projectNetAndGross_neg _ _ notional]
  rfl

section Checks
variable [LibraryText]

omit [LibraryText] in
/-- Distances from the price are the same on both sides of it. -/
theorem distance_reflected (priced : core.price = some price) (level : Decimal) :
    |price - reflected core level| = |price - level| := by
  have across : price - reflected core level = -(price - level) := by
    rw [reflected, priced]
    ring
  rw [across, abs_neg]

omit [LibraryText] in
theorem riskPerUnit_mirror (priced : core.price = some price) :
    riskPerUnit (mirrorCore core) price = riskPerUnit core price := by
  have stop : (mirrorCore core).stopLoss = core.stopLoss.map (reflected core) := rfl
  unfold riskPerUnit
  rw [stop]
  cases core.stopLoss with
  | none => rfl
  | some stopLoss => exact distance_reflected priced stopLoss

theorem checkSignalRequirements_mirror (priced : core.price = some price) :
    checkSignalRequirements (mirrorCore core) price = checkSignalRequirements core price := by
  have stop : (mirrorCore core).stopLoss = core.stopLoss.map (reflected core) := rfl
  have profit : (mirrorCore core).takeProfit = core.takeProfit.map (reflected core) := rfl
  unfold checkSignalRequirements
  rw [stop, profit]
  cases core.stopLoss with
  | none => rfl
  | some stopLoss =>
    cases core.takeProfit with
    | none => rfl
    | some takeProfit =>
      dsimp only [Option.map_some]
      rw [distance_reflected priced, abs_sub_comm (reflected core takeProfit), distance_reflected priced,
        abs_sub_comm price takeProfit]

theorem resizeCandidates_mirror (priced : core.price = some terms.price) :
    resizeCandidates (mirrorCore core) terms = resizeCandidates core terms := by
  unfold resizeCandidates checkAccountRisk
  rw [riskPerUnit_mirror priced]
  rfl

/-- The violations of anything but the cash reserve. -/
def apartFromCash (violations : List RiskViolation) : List RiskViolation :=
  violations.filter fun violation => violation.checkName ≠ "cash_reserve_pct"

omit [LibraryText] in
theorem apartFromCash_append (left right : List RiskViolation) :
    apartFromCash (left ++ right) = apartFromCash left ++ apartFromCash right := List.filter_append ..

/-- Some violation is of the cash reserve. -/
def ShortOfCash (violations : List RiskViolation) : Prop :=
  ∃ violation ∈ violations, violation.checkName = "cash_reserve_pct"

theorem checkCashReserve_cases (projected : Projection) (nav : Decimal) (book : FirmBook) :
    checkCashReserve projected nav book = [] ∨
      ∃ violation, checkCashReserve projected nav book = [violation] ∧ violation.checkName = "cash_reserve_pct" := by
  unfold checkCashReserve pushWhen
  dsimp only
  split
  · exact .inr ⟨_, rfl, rfl⟩
  · exact .inl rfl

theorem apartFromCash_cash (projected : Projection) (nav : Decimal) (book : FirmBook) :
    apartFromCash (checkCashReserve projected nav book) = [] := by
  rcases checkCashReserve_cases projected nav book with none | ⟨violation, one, named⟩
  · rw [none]
    rfl
  · rw [one, apartFromCash, List.filter_singleton, named]
    rfl

/-- All checks of a mirrored order but the cash reserve find what they found. -/
theorem hardViolations_mirror (priced : core.price = some terms.price) (book : FirmBook) (path : EvaluationPath)
    (projected : Projection) :
    ∃ before after,
      hardViolations core book path terms projected =
        before ++ checkCashReserve projected terms.effectiveNav book ++ after ∧
      hardViolations (mirrorCore core) (mirrorBook book) path terms (mirrorProjection projected) =
        before ++ checkCashReserve (mirrorProjection projected) terms.effectiveNav book ++ after := by
  refine ⟨checkAgentPermissions core terms.agentLimits ++ checkAgentBudget projected terms.agentLimits ++
    checkRiskDistance core terms.price ++ checkLeverage projected terms.instrumentLimits ++ checkDrawdown book,
    checkInstrumentLimits projected terms.effectiveNav terms.instrumentLimits ++
      (checkVenueLimits projected terms.effectiveNav terms.venueLimits ++
        if path = .submitSignal then checkSignalRequirements core terms.price else []), ?_, ?_⟩
  · simp only [hardViolations, List.append_assoc]
  · have risk : checkRiskDistance (mirrorCore core) terms.price = checkRiskDistance core terms.price := by
      unfold checkRiskDistance
      rw [riskPerUnit_mirror priced]
    have net : checkInstrumentLimits (mirrorProjection projected) terms.effectiveNav terms.instrumentLimits =
        checkInstrumentLimits projected terms.effectiveNav terms.instrumentLimits := by
      unfold checkInstrumentLimits
      rw [show |(mirrorProjection projected).instrumentNetQty| = |projected.instrumentNetQty| from abs_neg _]
      rfl
    have permissions : checkAgentPermissions (mirrorCore core) terms.agentLimits =
        checkAgentPermissions core terms.agentLimits := rfl
    have budget : checkAgentBudget (mirrorProjection projected) terms.agentLimits =
        checkAgentBudget projected terms.agentLimits := rfl
    have leverage : checkLeverage (mirrorProjection projected) terms.instrumentLimits =
        checkLeverage projected terms.instrumentLimits := rfl
    have drawdown : checkDrawdown (mirrorBook book) = checkDrawdown book := rfl
    have cash : checkCashReserve (mirrorProjection projected) terms.effectiveNav (mirrorBook book) =
        checkCashReserve (mirrorProjection projected) terms.effectiveNav book := rfl
    have venue : checkVenueLimits (mirrorProjection projected) terms.effectiveNav terms.venueLimits =
        checkVenueLimits projected terms.effectiveNav terms.venueLimits := rfl
    simp only [hardViolations, risk, net, permissions, budget, leverage, drawdown, cash, venue,
      checkSignalRequirements_mirror priced, List.append_assoc]

/-- A sale leaves more cash than the purchase it mirrors. -/
theorem checkCashReserve_sale {projected : Projection} (funded : 0 < nav) (spends : 0 ≤ projected.signedOrderNotional)
    (kept : checkCashReserve projected nav book = []) :
    checkCashReserve (mirrorProjection projected) nav book = [] := by
  unfold checkCashReserve pushWhen at kept ⊢
  dsimp only at kept ⊢
  split at kept
  · cases kept
  · next enough =>
    refine if_neg fun short => enough (lt_of_le_of_lt ?_ short)
    refine div_le_div_of_nonneg_right ?_ funded.le
    show book.cashAvailable - projected.signedOrderNotional ≤ book.cashAvailable - -projected.signedOrderNotional
    linarith

/-- What an outcome was rejected for. -/
def violationsOf : RiskOutcome → List RiskViolation
  | .rejected violations => violations
  | .approved _ | .resized .. => []

omit [LibraryText] in
theorem violationsOf_outcomeOf (violations : List RiskViolation) (candidates : List ResizeCandidate) :
    violationsOf (outcomeOf violations candidates) = violations := by
  cases violations with
  | nil =>
    unfold outcomeOf
    dsimp only
    cases tightestResize candidates <;> rfl
  | cons violation rest => rfl

/-- An order and its mirror image are refused for the same reasons, or both looked at with the same terms. -/
theorem evaluate_mirror (directed : Directed book order.core) (manager : AgentRiskManager) (path : EvaluationPath) :
    evaluate manager (mirrorOrder order) (mirrorBook book) path = evaluate manager order book path ∨
    ∃ projected nav before after candidates, 0 < nav ∧ (order.core.side = .buy → 0 ≤ projected.signedOrderNotional) ∧
      evaluate manager order book path =
        outcomeOf (before ++ checkCashReserve projected nav book ++ after) candidates ∧
      evaluate manager (mirrorOrder order) (mirrorBook book) path =
        outcomeOf (before ++ checkCashReserve (mirrorProjection projected) nav book ++ after) candidates := by
  have looked : lookUp manager (mirrorCore order.core) (mirrorBook book) = lookUp manager order.core book := rfl
  cases found : lookUp manager order.core book with
  | error missing =>
    left
    unfold evaluate
    dsimp only [mirrorOrder]
    rw [looked, found]
  | ok terms =>
    right
    obtain ⟨sized, price, priced, positive⟩ := lookUp_sized found
    have configured := (lookUp_ok_iff manager order.core book terms priced positive sized).mp found
    obtain rfl := configured.price
    have funded : 0 < terms.effectiveNav := by
      rw [configured.effectiveNav]
      exact lt_min configured.managerNav configured.firmNav
    obtain ⟨before, after, here, across⟩ := hardViolations_mirror priced book path
      (project order.core terms.price terms.agentAllocation (currentExposure book order.core))
    refine ⟨project order.core terms.price terms.agentAllocation (currentExposure book order.core),
      terms.effectiveNav, before, after, resizeCandidates order.core terms, funded, fun buys => ?_, ?_, ?_⟩
    · show 0 ≤ signedDelta order.core.side (order.core.qty * terms.price)
      rw [buys]
      exact (mul_pos sized positive).le
    · unfold evaluate
      dsimp only
      rw [found, ← here]
    · unfold evaluate
      dsimp only [mirrorOrder]
      rw [looked, found, ← across, ← resizeCandidates_mirror priced]
      dsimp only
      rw [currentExposure_mirror directed, project_mirror sized positive]

/-- The gate treats buying and selling alike but for the cash. An order and its
mirror image fail the same checks, the cash reserve apart, with the same figures;
unless one of them is short of cash they get the very same outcome; and a sale is
short of cash only where the purchase it mirrors is. -/
theorem sides_alike (directed : Directed book order.core) (manager : AgentRiskManager) (path : EvaluationPath) :
    apartFromCash (violationsOf (evaluate manager (mirrorOrder order) (mirrorBook book) path)) =
      apartFromCash (violationsOf (evaluate manager order book path)) ∧
    (¬ ShortOfCash (violationsOf (evaluate manager order book path)) →
      ¬ ShortOfCash (violationsOf (evaluate manager (mirrorOrder order) (mirrorBook book) path)) →
      evaluate manager (mirrorOrder order) (mirrorBook book) path = evaluate manager order book path) ∧
    (order.core.side = .buy →
      ShortOfCash (violationsOf (evaluate manager (mirrorOrder order) (mirrorBook book) path)) →
      ShortOfCash (violationsOf (evaluate manager order book path))) := by
  rcases evaluate_mirror directed manager path with same |
    ⟨projected, nav, before, after, candidates, funded, spends, here, across⟩
  · rw [same]
    exact ⟨rfl, fun _ _ => rfl, fun _ short => short⟩
  rw [here, across, violationsOf_outcomeOf, violationsOf_outcomeOf]
  have short {cash : Projection} {violation : RiskViolation}
      (violated : checkCashReserve cash nav book = [violation]) (named : violation.checkName = "cash_reserve_pct") :
      ShortOfCash (before ++ checkCashReserve cash nav book ++ after) := by
    refine ⟨violation, ?_, named⟩
    rw [violated]
    exact List.mem_append_left _ (List.mem_append_right _ (List.mem_singleton.mpr rfl))
  refine ⟨?_, fun solvent covered => ?_, fun buys refused => ?_⟩
  · simp only [apartFromCash_append, apartFromCash_cash]
  · rcases checkCashReserve_cases projected nav book with kept | ⟨violation, violated, named⟩
    · rcases checkCashReserve_cases (mirrorProjection projected) nav book with left | ⟨violation, violated, named⟩
      · rw [kept, left]
      · exact absurd (short violated named) covered
    · exact absurd (short violated named) solvent
  · rcases checkCashReserve_cases projected nav book with kept | ⟨violation, violated, named⟩
    · rw [kept]
      rwa [checkCashReserve_sale funded (spends buys) kept] at refused
    · exact short violated named

end Checks

/-- A purchase of 60 on top of 25. -/
def boughtMore : PipelineOrder Validated := testOrder 60 (some 95) (some 110)

theorem directed_boughtMore : Directed (testFirmBook 25) boughtMore.core := by
  have agent : (agentInstrumentExposure (testFirmBook 25) boughtMore.core).map AgentExposure.netQty = some 25 := by
    decide +kernel
  have venue : (venueInstrumentExposure (testFirmBook 25) boughtMore.core).map VenueExposure.netQty = some 25 := by
    decide +kernel
  constructor
  · intro exposure found flat
    rw [found, Option.map_some, flat] at agent
    exact absurd (Option.some.inj agent) (by norm_num)
  · intro exposure found flat
    rw [found, Option.map_some, flat] at venue
    exact absurd (Option.some.inj venue) (by norm_num)

/-- Sold on top of a sale of 25 it is cut to the same quantity, 10 above or 5 below the price. -/
theorem sides_alike_on_test :
    @evaluate wholeText testManager (mirrorOrder boughtMore) (mirrorBook (testFirmBook 25)) .submitSignal =
        @evaluate wholeText testManager boughtMore (testFirmBook 25) .submitSignal ∧
      (mirrorOrder boughtMore).core.stopLoss = some 105 ∧
      ∃ reason warnings, @evaluate wholeText testManager boughtMore (testFirmBook 25) .submitSignal =
        .resized 50 reason warnings := by
  have solvent : violationsOf (@evaluate wholeText testManager boughtMore (testFirmBook 25) .submitSignal) = [] := by
    decide +kernel
  have covered : violationsOf (@evaluate wholeText testManager (mirrorOrder boughtMore)
      (mirrorBook (testFirmBook 25)) .submitSignal) = [] := by
    decide +kernel
  have alike := @sides_alike wholeText (testFirmBook 25) boughtMore directed_boughtMore testManager .submitSignal
  rw [solvent, covered] at alike
  have none : ¬ ShortOfCash [] := fun ⟨_, member, _⟩ => List.not_mem_nil member
  exact ⟨alike.2.1 none none, by decide +kernel, resized_of_decision (by decide +kernel)⟩

end FeynmanEngine.MirroredOrders
