import FeynmanEngine.SignalDrafts
import FeynmanEngine.OrderSizes
import FeynmanEngine.MirroredOrders

/-! A signal on its way through the bridge and the risk gate. The bridge has
checked whatever the gate asks of an order's shape, and the sides of its exits
besides, so that the gate refuses what the bridge made for capital and limits
only; and what it lets through risks the agent's stake, cut off at two caps. -/
namespace FeynmanEngine.GatedSignals
open Ids Orders Tables Portfolio ExposureProjection RiskGate ResizeConvergence EvaluationSpecification AcceptedOrders
open Engine VenueOrders SequencerFixtures SignalBridge SignalAcks SignalDrafts OrderSizes MirroredOrders

/-- The checks of capital and of limits, and the one of a signal's reward. -/
def limitChecks : List String :=
  ["manager_nav_positive", "firm_nav_positive", "agent_limits_present", "instrument_limits_present",
    "venue_limits_present", "agent_free_capital", "agent_max_position_notional", "agent_max_gross_notional",
    "instrument_max_leverage_positive", "agent_free_capital_positive", "instrument_max_leverage",
    "firm_drawdown_pct", "cash_reserve_pct", "instrument_max_net_qty", "instrument_max_gross_qty",
    "instrument_max_concentration_pct", "venue_max_notional", "venue_max_pct_of_nav", "venue_max_positions",
    "signal_risk_reward_ratio"]

/-- Every violation is of one of these checks. -/
def OfLimits (violations : List RiskViolation) : Prop :=
  ∀ violation ∈ violations, violation.checkName ∈ limitChecks

theorem OfLimits.nil : OfLimits [] := List.forall_mem_nil _

theorem OfLimits.append (first : OfLimits before) (second : OfLimits after) : OfLimits (before ++ after) :=
  fun violation member => (List.mem_append.mp member).elim (first violation) (second violation)

theorem OfLimits.absent (named : checkName ∈ limitChecks) :
    OfLimits [stringViolation checkName currentValue limit suggestedAction reason] :=
  List.forall_mem_singleton.mpr named

/-- The exposure rules: everything a hard rule asks but permissions and exits. -/
structure Affordable (book : FirmBook) (terms : Terms) (after : Projection) : Prop where
  budgeted : Budgeted terms after
  reserved : Reserved book terms.effectiveNav after
  instrument : WithinInstrument terms.instrumentLimits terms.effectiveNav after
  venue : WithinVenue terms.venueLimits terms.effectiveNav after

/-- A target, if there is one, is at least twice as far from the price as the stop. -/
def Rewarding (signal : Signal) (price : Decimal) : Prop :=
  ∀ takeProfit, signal.takeProfit = some takeProfit → 2 * |price - signal.stopLoss| ≤ |takeProfit - price|

/-- What an agent asks to risk on a signal: a share of its capital, or what the
hinted notional loses at the stop. -/
def stake (signal : Signal) (allocatedCapital price : Decimal) : Decimal :=
  match signal.sizingHint with
  | none => signal.conviction * allocatedCapital
  | some sizingHint => sizingHint * (|price - signal.stopLoss| / price)

theorem stop_distant (around : ExitsAround side price stopLoss takeProfit) : 0 < |price - stopLoss| := by
  have stop := around.stop
  cases side with
  | buy => exact abs_pos.mpr (sub_ne_zero.mpr (ne_of_gt stop))
  | sell => exact abs_pos.mpr (sub_ne_zero.mpr (ne_of_lt stop))

theorem lossAtStop_eq (around : ExitsAround side price stopLoss takeProfit) (qty : Decimal) :
    lossAtStop side qty price stopLoss = qty * |price - stopLoss| := by
  have stop := around.stop
  cases side with
  | buy => rw [abs_of_pos (sub_pos.mpr stop)]; rfl
  | sell => rw [abs_of_neg (sub_neg.mpr stop), neg_sub]; rfl

section Checks
variable [LibraryText]

theorem OfLimits.single (named : checkName ∈ limitChecks) :
    OfLimits [violation checkName currentValue limit suggestedAction reason] :=
  List.forall_mem_singleton.mpr named

theorem OfLimits.pushed {_ : Decidable violated} (named : checkName ∈ limitChecks) :
    OfLimits (pushWhen violated (violation checkName currentValue limit suggestedAction reason)) := by
  unfold pushWhen
  split
  · exact .single named
  · exact .nil

theorem OfLimits.capped (named : checkName ∈ limitChecks) : OfLimits (capped checkName reason figure cap) :=
  .pushed named

theorem OfLimits.budget (projected : Projection) (limits : AgentRiskLimits) :
    OfLimits (checkAgentBudget projected limits) :=
  .append (.append (.pushed (by decide)) (.capped (by decide))) (.capped (by decide))

theorem OfLimits.leverage (projected : Projection) (limits : InstrumentRiskLimits) :
    OfLimits (checkLeverage projected limits) := by
  unfold checkLeverage
  split
  · exact .single (by decide)
  · split
    · exact .single (by decide)
    · exact .capped (by decide)

theorem OfLimits.drawdown (book : FirmBook) : OfLimits (checkDrawdown book) := .pushed (by decide)

theorem OfLimits.cash (projected : Projection) (nav : Decimal) (book : FirmBook) :
    OfLimits (checkCashReserve projected nav book) := .pushed (by decide)

theorem OfLimits.instrument (projected : Projection) (nav : Decimal) (limits : InstrumentRiskLimits) :
    OfLimits (checkInstrumentLimits projected nav limits) :=
  .append (.append (.capped (by decide)) (.capped (by decide))) (.capped (by decide))

theorem OfLimits.venue (projected : Projection) (nav : Decimal) (limits : VenueRiskLimits) :
    OfLimits (checkVenueLimits projected nav limits) :=
  .append (.append (.capped (by decide)) (.capped (by decide))) (.pushed (by decide))

/-- With a stop away from the price only the reward of a signal is left to check. -/
theorem OfLimits.signal {core : OrderCore} (stopped : core.stopLoss = some stopLoss)
    (distant : 0 < |price - stopLoss|) :
    OfLimits (checkSignalRequirements core price) := by
  unfold checkSignalRequirements
  rw [stopped]
  dsimp only
  split
  · exact .nil
  · rw [if_neg (not_le.mpr distant)]
    exact .pushed (by decide)

/-- An order of an agent with an allocation, for a positive quantity at a positive
price: what is not configured is capital or limits. -/
theorem lookUp_of_limits {core : OrderCore} (priced : core.price = some price) (positive : 0 < price)
    (sized : 0 < core.qty) (allocated : book.agentAllocations.lookup core.agentId = some allocation)
    (missing : lookUp manager core book = .error lacking) : OfLimits [lacking] := by
  have known : evaluationPrice core = .ok price := by simp [evaluationPrice, priced, positive]
  unfold lookUp at missing
  rw [known] at missing
  dsimp only at missing
  rw [if_neg (not_le.mpr sized), allocated] at missing
  unfold effectiveNav at missing
  split at missing
  · next error funds =>
    cases missing
    split at funds
    · rw [← Except.error.inj funds]
      exact .single (by decide)
    · split at funds
      · rw [← Except.error.inj funds]
        exact .single (by decide)
      · cases funds
  · split at missing
    · rw [← Except.error.inj missing]
      exact .absent (by decide)
    · next absent => cases absent
    · rw [← Except.error.inj missing]
      exact .absent (by decide)
    · rw [← Except.error.inj missing]
      exact .absent (by decide)
    · cases missing

/-- Where permissions and exits are in order every violation is of a limit. -/
theorem OfLimits.hard {core : OrderCore} (permitted : Permitted core terms.agentLimits)
    (stopped : core.stopLoss = some stopLoss) (distant : 0 < |terms.price - stopLoss|) :
    OfLimits (hardViolations core book .submitSignal terms after) := by
  have allowed := (checkAgentPermissions_eq_nil_iff core terms.agentLimits).mpr permitted
  have risky : checkRiskDistance core terms.price = [] := by
    rw [checkRiskDistance, pushWhen_eq_nil_iff, riskPerUnit, stopped, not_le]
    exact distant
  unfold hardViolations
  rw [allowed, risky, if_pos rfl]
  have budgeted := (OfLimits.nil.append (.budget after terms.agentLimits)).append .nil
  have reserved := ((budgeted.append (.leverage after terms.instrumentLimits)).append (.drawdown book)).append
    (.cash after terms.effectiveNav book)
  exact ((reserved.append (.instrument _ _ _)).append (.venue _ _ _)).append (.signal stopped distant)

/-- An order the bridge made went through all of its checks. -/
theorem of_bridged (bridged : signalToOrders bridge signal firmBook agentLimits prices venueStates now = .ok orders)
    (member : order ∈ orders) :
    ∃ allocation price qty listing, firmBook.agentAllocations.lookup signal.agent = some allocation ∧
      allocation.status = .active ∧ 0 < price ∧
      ExitsAround signal.direction price signal.stopLoss signal.takeProfit ∧
      sizeSignal signal allocation.allocatedCapital price = .ok qty ∧
      order.core = draftCore bridge signal listing qty price now := by
  obtain ⟨-, -, checked⟩ := bind_ok bridged
  split at checked
  · cases checked
  · next allocation allocated =>
    split at checked
    · cases checked
    · next active =>
      split at checked
      · rw [← Except.ok.inj checked] at member
        cases member
      · obtain ⟨price, priced, checked⟩ := bind_ok checked
        obtain ⟨⟨⟩, exits, checked⟩ := bind_ok checked
        obtain ⟨qty, sized, checked⟩ := bind_ok checked
        obtain ⟨listing, -, checked⟩ := bind_ok checked
        rw [← Except.ok.inj checked] at member
        refine ⟨allocation, price, qty, listing, allocated, not_not.mp active, referencePriceFor_ok priced,
          (validateExitTargets_ok_iff signal price).mp exits, sized, ?_⟩
        rw [List.mem_singleton.mp member]
        rfl

/-- The size the bridge gives an order loses the agent's stake at the stop. -/
theorem stake_of_size (sized : sizeSignal signal allocatedCapital price = .ok qty) (positive : 0 < price)
    (around : ExitsAround signal.direction price signal.stopLoss signal.takeProfit) :
    qty * |price - signal.stopLoss| = stake signal allocatedCapital price := by
  have size := sizeSignal_sized sized positive around
  unfold SizedFor at size
  unfold stake
  cases hint : signal.sizingHint with
  | none =>
    rw [hint] at size
    rw [← lossAtStop_eq around]
    exact size
  | some sizingHint =>
    rw [hint] at size
    dsimp only at size ⊢
    rw [← size.1, mul_assoc, ← mul_div_assoc, mul_div_cancel_left₀ _ (ne_of_gt positive)]

/-- An order with everything about it in place that the gate asks for. -/
structure WellShaped (manager : AgentRiskManager) (book : FirmBook) (core : OrderCore) (price stopLoss : Decimal) :
    Prop where
  sized : 0 < core.qty
  priced : core.price = some price
  positive : 0 < price
  allocated : ∃ allocation, book.agentAllocations.lookup core.agentId = some allocation
  permitted : ∀ limits, manager.agentLimits.lookup core.agentId = some limits → Permitted core limits
  stopped : core.stopLoss = some stopLoss
  distant : 0 < |price - stopLoss|

/-- Such an order is refused for limits only. -/
theorem WellShaped.ofLimits {order : PipelineOrder Validated}
    (shaped : WellShaped manager book order.core price stopLoss) :
    OfLimits (violationsOf (evaluate manager order book .submitSignal)) := by
  cases found : lookUp manager order.core book with
  | error lacking =>
    obtain ⟨allocation, allocated⟩ := shaped.allocated
    simp only [evaluate, found]
    exact lookUp_of_limits shaped.priced shaped.positive shaped.sized allocated found
  | ok terms =>
    have configured := (lookUp_ok_iff manager order.core book terms shaped.priced shaped.positive shaped.sized).mp found
    have hard : OfLimits (hardViolations order.core book .submitSignal terms
        (project order.core terms.price terms.agentAllocation (currentExposure book order.core))) :=
      .hard (shaped.permitted _ configured.agent) shaped.stopped (configured.price ▸ shaped.distant)
    simp only [evaluate, outcomeOf, found]
    split
    · split
      · exact .nil
      · exact .nil
    · exact hard

/-- It is accepted exactly when it is configured, affordable and rewarding. -/
theorem WellShaped.accepts_iff {order : PipelineOrder Validated}
    (shaped : WellShaped manager book order.core price stopLoss) :
    Accepts (evaluate manager order book .submitSignal) ↔
      (∀ takeProfit, order.core.takeProfit = some takeProfit → 2 * |price - stopLoss| ≤ |takeProfit - price|) ∧
      ∃ terms, Configured manager order.core book price terms ∧
        Affordable book terms (prospect order.core price terms.agentAllocation (currentExposure book order.core)) := by
  rw [AcceptedOrders.accepts_iff]
  constructor
  · rintro ⟨quoted, terms, -, priced, -, configured, compliant⟩
    obtain rfl := Option.some.inj (shaped.priced.symm.trans priced)
    obtain ⟨level, stopped, rewarding⟩ := compliant.stopped.signal rfl
    obtain rfl := Option.some.inj (shaped.stopped.symm.trans stopped)
    rw [configured.price] at rewarding
    exact ⟨rewarding, terms, configured, compliant.budgeted, compliant.reserved, compliant.instrument, compliant.venue⟩
  · rintro ⟨rewarding, terms, configured, affordable⟩
    refine ⟨price, terms, shaped.sized, shaped.priced, shaped.positive, configured, {
      permitted := shaped.permitted _ configured.agent
      budgeted := affordable.budgeted
      stopped := ⟨fun level stopped => ?_, fun _ => ⟨stopLoss, shaped.stopped, ?_⟩⟩
      reserved := affordable.reserved
      instrument := affordable.instrument
      venue := affordable.venue }⟩
    · obtain rfl := Option.some.inj (shaped.stopped.symm.trans stopped)
      rw [configured.price]
      exact ne_of_gt shaped.distant
    · rw [configured.price]
      exact rewarding

/-- What it loses at its stop is what it asked for, cut off at 1% of the capital
and at what 5% of the capital loses. -/
theorem WellShaped.granted_loss {order : PipelineOrder Validated}
    (shaped : WellShaped manager book order.core price stopLoss)
    (accepted : Accepts (evaluate manager order book .submitSignal)) :
    (granted order.core.qty (evaluate manager order book .submitSignal)).map (fun qty => qty * |price - stopLoss|) =
      some (min (order.core.qty * |price - stopLoss|)
        (min (5 / 100 * min manager.nav book.nav * (|price - stopLoss| / price))
          (1 / 100 * min manager.nav book.nav))) := by
  have distance : 0 ≤ |price - stopLoss| := abs_nonneg _
  have passes : order.core.qty ∈ passing manager order book .submitSignal := accepted
  have given : granted order.core.qty (evaluate manager order book .submitSignal) = _ :=
    granted_of_passing shaped.priced passes
  have risk : riskPerUnit order.core price = |price - stopLoss| := by rw [riskPerUnit, shaped.stopped]
  rw [given, Option.map_some, min_mul_of_nonneg _ _ distance, min_mul_of_nonneg _ _ distance, notionalCapQty,
    lossCapQty, risk, div_mul_cancel₀ _ (ne_of_gt shaped.distant), div_mul_eq_mul_div, mul_div_assoc]

/-- A signal that the bridge makes an order of, with the limits the gate holds of
its agent. The agent is active. The gate refuses the order for capital, limits or
its reward only, and accepts it exactly when these are in order; then its exits
protect it, and at its stop it loses the agent's stake, cut off at 1% of the
capital and at what 5% of the capital loses there. -/
theorem signals_gated (bridged : signalToOrders bridge signal book (manager.agentLimits.lookup signal.agent) prices
      venueStates now = .ok orders)
    (member : order ∈ orders) (validatedAt : DateTime) :
    ∃ allocation price, book.agentAllocations.lookup signal.agent = some allocation ∧ allocation.status = .active ∧
      order.core.price = some price ∧
      OfLimits (violationsOf (evaluate manager (order.intoValidated validatedAt) book .submitSignal)) ∧
      (Accepts (evaluate manager (order.intoValidated validatedAt) book .submitSignal) ↔
        Rewarding signal price ∧ ∃ terms, Configured manager order.core book price terms ∧ Affordable book terms
          (prospect order.core price terms.agentAllocation (currentExposure book order.core))) ∧
      (Accepts (evaluate manager (order.intoValidated validatedAt) book .submitSignal) → Protected order.core ∧
        (granted order.core.qty (evaluate manager (order.intoValidated validatedAt) book .submitSignal)).map
            (fun qty => lossAtStop signal.direction qty price signal.stopLoss) =
          some (min (stake signal allocation.allocatedCapital price)
            (min (5 / 100 * min manager.nav book.nav * (|price - signal.stopLoss| / price))
              (1 / 100 * min manager.nav book.nav)))) := by
  obtain ⟨allocation, price, qty, listing, allocated, active, positive, around, sized, made⟩ :=
    of_bridged bridged member
  have drafted := (signalToOrders_ok bridged).2 order member
  have shaped : WellShaped manager book (order.intoValidated validatedAt).core price signal.stopLoss := {
    sized := drafted.qty
    priced := congrArg OrderCore.price made
    positive := positive
    allocated := ⟨allocation, drafted.agentId ▸ allocated⟩
    permitted := fun limits found => by
      obtain ⟨instruments, venues⟩ := drafted.allowed limits (drafted.agentId ▸ found)
      exact ⟨instruments, venues⟩
    stopped := congrArg OrderCore.stopLoss made
    distant := stop_distant around }
  have targets : order.core.takeProfit = signal.takeProfit := congrArg OrderCore.takeProfit made
  have accepts := shaped.accepts_iff
  refine ⟨allocation, price, allocated, active, shaped.priced, shaped.ofLimits, ?_, fun accepted => ⟨?_, ?_⟩⟩
  · rw [accepts]
    unfold Rewarding
    rw [← targets]
    rfl
  · obtain ⟨rewarding, -⟩ := accepts.mp accepted
    refine ⟨price, signal.stopLoss, shaped.priced, shaped.stopped, ?_, fun takeProfit targeted => ?_⟩
    · rw [drafted.side, targets]
      exact around
    · rw [← targets, targeted] at around
      exact reward_over_risk around (rewarding takeProfit targeted)
  · have loss := shaped.granted_loss accepted
    have asked : order.core.qty = qty := congrArg OrderCore.qty made
    rw [← stake_of_size sized positive around, ← asked]
    refine Eq.trans ?_ loss
    exact congrArg (fun lossOf => Option.map lossOf _) (funext fun qty => lossAtStop_eq around qty)

end Checks

section Sample
open Plain

/-- Their agent risks a 200th of its 20000. -/
def cautiousSignal : Signal := { sampleSignal "athena" "sig-1" with conviction := 1 / 200 }

/-- Limits of the gate's tests for the agent, instrument and venue of the bridge's. -/
def gateManager : AgentRiskManager where
  nav := 100000
  agentLimits := (∅ : Table AgentId AgentRiskLimits).insert ⟨"athena"⟩
    ⟨10000, 10000, 10000, 15 / 100, 2000, 10, some [⟨"BTC"⟩], some [⟨"bybit"⟩]⟩
  instrumentLimits := (∅ : Table InstrumentId InstrumentRiskLimits).insert ⟨"BTC"⟩
    ⟨⟨"BTC"⟩, 1000, 1000, 10 / 100, 10⟩
  venueLimits := (∅ : Table VenueId VenueRiskLimits).insert ⟨"bybit"⟩ ⟨⟨"bybit"⟩, 10000, 5, 10 / 100⟩

def gateBook : FirmBook := { testFirmBook 0 with agentAllocations := bridgeBook.agentAllocations }

def cautiousOrders : Except GatewayError (List (PipelineOrder Draft)) :=
  signalToOrders ⟨.default, sampleSymbolMap⟩ cautiousSignal gateBook (gateManager.agentLimits.lookup ⟨"athena"⟩)
    bridgePrices [bybitRoute] ⟨0⟩

/-- Their one order's price, and what the gate makes of the order. -/
def gatedOrder : Option (Option Decimal × RiskOutcome) :=
  match cautiousOrders with
  | .ok [order] =>
    some (order.core.price, evaluate gateManager (order.intoValidated ⟨0⟩) gateBook .submitSignal)
  | _ => none

/-- Of a stake of 100 the gate leaves what 5000 lose between 10005 and 9900. -/
theorem signals_gated_on_test : ∃ order : PipelineOrder Draft, cautiousOrders = .ok [order] ∧
    Protected order.core ∧
    (granted order.core.qty (evaluate gateManager (order.intoValidated ⟨0⟩) gateBook .submitSignal)).map
      (fun qty => lossAtStop .buy qty 10005 9900) = some (5000 * (105 / 10005)) := by
  have passes : gatedOrder.any (fun gated => gated.1 = some 10005 ∧ Accepts gated.2) = true := by decide +kernel
  unfold gatedOrder at passes
  split at passes
  · next order bridged =>
    obtain ⟨quoted, accepted⟩ := of_decide_eq_true passes
    have made : signalToOrders ⟨.default, sampleSymbolMap⟩ cautiousSignal gateBook
        (gateManager.agentLimits.lookup cautiousSignal.agent) bridgePrices [bybitRoute] ⟨0⟩ = .ok [order] := bridged
    obtain ⟨allocation, price, allocated, -, priced, -, -, safe⟩ := signals_gated made List.mem_cons_self ⟨0⟩
    obtain rfl := Option.some.inj (priced.symm.trans quoted)
    cases allocated
    obtain ⟨safely, loss⟩ := safe accepted
    have cap : min (stake cautiousSignal 20000 10005)
        (min (5 / 100 * min gateManager.nav gateBook.nav * (|10005 - cautiousSignal.stopLoss| / 10005))
          (1 / 100 * min gateManager.nav gateBook.nav)) = 5000 * (105 / 10005) := by decide +kernel
    exact ⟨order, bridged, safely, loss.trans (congrArg some cap)⟩
  · cases passes

end Sample

end FeynmanEngine.GatedSignals
