import Mathlib.Algebra.Order.Field.Basic
import FeynmanEngine.CheckedEvaluation
import FeynmanEngine.DecimalAmounts
import FeynmanEngine.EvaluationSpecification
import FeynmanEngine.SignalBridge

/-! What it takes to be accepted. An evaluation that does not reject an order has
looked up everything it needs and found every hard rule kept, and nothing else:
the results here say what follows from that for resized quantities, for the
exits of signals and for the standing of agents. -/
namespace FeynmanEngine.AcceptedOrders
open Ids Orders Tables Portfolio ExposureProjection RiskGate ResizeConvergence EvaluationSpecification SignalBridge
open CheckedArithmetic DecimalFormats DecimalAmounts

/-- An outcome lets the order go on, whole or resized. -/
def Accepts : RiskOutcome → Prop
  | .approved _ | .resized .. => True
  | .rejected _ => False

instance (outcome : RiskOutcome) : Decidable (Accepts outcome) :=
  match outcome with
  | .approved _ | .resized .. => isTrue trivial
  | .rejected _ => isFalse not_false

/-- An order with a quantity and a price, for which everything is configured and
every hard rule kept. -/
structure Admissible (manager : AgentRiskManager) (core : OrderCore) (book : FirmBook) (path : EvaluationPath)
    (price : Decimal) (terms : Terms) : Prop where
  sized : 0 < core.qty
  priced : core.price = some price
  positive : 0 < price
  configured : Configured manager core book price terms
  compliant : Compliant core book path terms
    (prospect core price terms.agentAllocation (currentExposure book core))

section Checks
variable [LibraryText]

theorem accepts_iff (manager : AgentRiskManager) (order : PipelineOrder Validated) (book : FirmBook)
    (path : EvaluationPath) :
    Accepts (evaluate manager order book path) ↔
      ∃ price terms, Admissible manager order.core book path price terms := by
  constructor
  · intro accepted
    cases found : lookUp manager order.core book with
    | error missing =>
      simp only [evaluate, found] at accepted
      cases accepted
    | ok terms =>
      obtain ⟨sized, price, priced, positive⟩ := lookUp_sized found
      have configured := (lookUp_ok_iff manager order.core book terms priced positive sized).mp found
      rcases evaluate_cases priced positive sized path configured with
        ⟨-, violations, rejected⟩ | ⟨compliant, -⟩ | ⟨compliant, -⟩
      · rw [rejected] at accepted
        cases accepted
      · exact ⟨price, terms, sized, priced, positive, configured, compliant⟩
      · exact ⟨price, terms, sized, priced, positive, configured, compliant⟩
  · rintro ⟨price, terms, sized, priced, positive, configured, compliant⟩
    rcases evaluate_cases priced positive sized path configured with
      ⟨broken, -⟩ | ⟨-, -, approved⟩ | ⟨-, candidate, -, resized⟩
    · exact absurd compliant broken
    · rw [approved]
      trivial
    · rw [resized]
      trivial

theorem candidate_soft (member : candidate ∈ resizeCandidates core terms) :
    candidate.warning.violationType = .soft := by
  rcases List.mem_append.mp member with notional | loss
  · unfold checkPositionLimit at notional
    dsimp only at notional
    split at notional
    · rw [List.mem_singleton.mp notional]
      rfl
    · cases notional
  · unfold checkAccountRisk at loss
    dsimp only at loss
    split at loss
    · cases loss
    · split at loss
      · rw [List.mem_singleton.mp loss]
        rfl
      · cases loss

/-- The quantities whose notional is at most 5% and whose maximum loss is at most
1% of the capital. -/
def softlyCapped (core : OrderCore) (price nav : Decimal) : Set Decimal :=
  { qty | qty * price ≤ 5 / 100 * nav ∧ qty * riskPerUnit core price ≤ 1 / 100 * nav }

omit [LibraryText] in
theorem isGreatest_min (priced : 0 < price) (risky : 0 < riskPerUnit core price) :
    IsGreatest (softlyCapped core price nav) (min (notionalCapQty price nav) (lossCapQty core price nav)) := by
  constructor
  · exact ⟨(le_div_iff₀ priced).mp (min_le_left _ _), (le_div_iff₀ risky).mp (min_le_right _ _)⟩
  · rintro qty ⟨notional, loss⟩
    exact le_min ((le_div_iff₀ priced).mpr notional) ((le_div_iff₀ risky).mpr loss)

/-- A resize is tight: the new quantity is a positive part of the order and the
largest one within both soft caps, and its warnings are soft. -/
theorem resize_is_tight (resized : evaluate manager order book path = .resized newQty reason warnings) :
    0 < newQty ∧ newQty < order.core.qty ∧
      (∃ price, order.core.price = some price ∧
        IsGreatest (softlyCapped order.core price (min manager.nav book.nav)) newQty) ∧
      warnings ≠ [] ∧ ∀ warning ∈ warnings, warning.violationType = .soft := by
  have accepted : Accepts (evaluate manager order book path) := by
    rw [resized]
    trivial
  obtain ⟨price, terms, sized, priced, positive, configured, compliant⟩ := (accepts_iff ..).mp accepted
  rcases evaluate_cases priced positive sized path configured with
    ⟨broken, -⟩ | ⟨-, -, approved⟩ | ⟨-, candidate, tightest, outcome⟩
  · exact absurd compliant broken
  · rw [approved] at resized
    cases resized
  · rw [outcome] at resized
    cases resized
    have risky := risky_of_compliant configured positive compliant
    have quoted : 0 < terms.price := configured.price ▸ positive
    have funded : 0 < terms.effectiveNav := by
      rw [configured.effectiveNav]
      exact lt_min configured.managerNav configured.firmNav
    have member := (tightestResize_some tightest).1
    obtain ⟨part, smaller⟩ := candidate_part quoted funded member
    refine ⟨part, smaller, ⟨price, priced, ?_⟩, List.cons_ne_nil _ _, ?_⟩
    · rw [tightestResize_newQty quoted risky tightest, ← configured.effectiveNav, ← configured.price]
      exact isGreatest_min quoted risky
    · exact List.forall_mem_singleton.mpr (candidate_soft member)

/-- The exits are on their sides, and the reward, signed like the risk, is at
least twice the risk. -/
def Protected (core : OrderCore) : Prop :=
  ∃ price stopLoss, core.price = some price ∧ core.stopLoss = some stopLoss ∧
    ExitsAround core.side price stopLoss core.takeProfit ∧
    ∀ takeProfit, core.takeProfit = some takeProfit → 2 ≤ (takeProfit - price) / (price - stopLoss)

def BridgeAdmits (core : OrderCore) : Prop :=
  ∀ signal : Signal, signal.direction = core.side → core.stopLoss = some signal.stopLoss →
    core.takeProfit = signal.takeProfit → ∀ price, core.price = some price →
      validateExitTargets signal price = .ok ()

theorem bridgeAdmits_iff (core : OrderCore) :
    BridgeAdmits core ↔ ∀ price stopLoss, core.price = some price → core.stopLoss = some stopLoss →
      ExitsAround core.side price stopLoss core.takeProfit := by
  constructor
  · intro admits price stopLoss priced stopped
    -- any signal with the order's exits will do
    let signal : Signal := ⟨⟨core.id.value⟩, core.basketId, core.agentId, core.instrumentId, core.side, 1, none, "",
      stopLoss, core.takeProfit, "", .normal, "", core.createdAt⟩
    exact (validateExitTargets_ok_iff signal price).mp (admits signal rfl stopped rfl price priced)
  · intro around signal direction stopped targeted price priced
    rw [validateExitTargets_ok_iff, direction, ← targeted]
    exact around price signal.stopLoss priced stopped

omit [LibraryText] in
/-- On the right sides, distances and signed differences agree. -/
theorem reward_over_risk (around : ExitsAround side price stopLoss (some takeProfit))
    (distance : 2 * |price - stopLoss| ≤ |takeProfit - price|) :
    2 ≤ (takeProfit - price) / (price - stopLoss) := by
  have stop := around.stop
  have target := around.target takeProfit rfl
  cases side with
  | buy =>
    have risk : 0 < price - stopLoss := sub_pos.mpr stop
    have reward : 0 < takeProfit - price := sub_pos.mpr target
    rw [abs_of_pos risk, abs_of_pos reward] at distance
    exact (le_div_iff₀ risk).mpr distance
  | sell =>
    have risk : price - stopLoss < 0 := sub_neg.mpr stop
    have reward : takeProfit - price < 0 := sub_neg.mpr target
    rw [abs_of_neg risk, abs_of_neg reward] at distance
    exact (le_div_iff_of_neg risk).mpr (by linarith)

def TwiceAsFar (core : OrderCore) : Prop :=
  ∀ price stopLoss takeProfit, core.price = some price → core.stopLoss = some stopLoss →
    core.takeProfit = some takeProfit → 2 * |price - stopLoss| ≤ |takeProfit - price|

omit [LibraryText] in
/-- The other way round, the signs only matter for the sides. -/
theorem twice_of_reward_over_risk (around : ExitsAround side price stopLoss (some takeProfit))
    (rewarding : 2 ≤ (takeProfit - price) / (price - stopLoss)) : 2 * |price - stopLoss| ≤ |takeProfit - price| := by
  have stop := around.stop
  have target := around.target takeProfit rfl
  cases side with
  | buy =>
    have risk : 0 < price - stopLoss := sub_pos.mpr stop
    have reward : 0 < takeProfit - price := sub_pos.mpr target
    rw [abs_of_pos risk, abs_of_pos reward]
    exact (le_div_iff₀ risk).mp rewarding
  | sell =>
    have risk : price - stopLoss < 0 := sub_neg.mpr stop
    have reward : takeProfit - price < 0 := sub_neg.mpr target
    rw [abs_of_neg risk, abs_of_neg reward]
    linarith [(le_div_iff_of_neg risk).mp rewarding]

/-- An order with a stop is protected exactly if the bridge lets its exits through
and the distances are as the rule asks. -/
theorem protected_iff (priced : core.price = some price) (stopped : core.stopLoss = some stopLoss) :
    Protected core ↔ BridgeAdmits core ∧ TwiceAsFar core := by
  rw [bridgeAdmits_iff]
  constructor
  · rintro ⟨price', stopLoss', priced', stopped', around, rewarding⟩
    constructor
    · intro price stopLoss priced stopped
      obtain rfl := Option.some.inj (priced.symm.trans priced')
      obtain rfl := Option.some.inj (stopped.symm.trans stopped')
      exact around
    · intro price stopLoss takeProfit priced stopped targeted
      obtain rfl := Option.some.inj (priced.symm.trans priced')
      obtain rfl := Option.some.inj (stopped.symm.trans stopped')
      rw [targeted] at around
      exact twice_of_reward_over_risk around (rewarding takeProfit targeted)
  · rintro ⟨admitted, distant⟩
    have around := admitted price stopLoss priced stopped
    refine ⟨price, stopLoss, priced, stopped, around, fun takeProfit targeted => ?_⟩
    rw [targeted] at around
    exact reward_over_risk around (distant price stopLoss takeProfit priced stopped targeted)

theorem twiceAsFar_of_accepts (accepted : Accepts (evaluate manager order book .submitSignal)) :
    (∃ price, order.core.price = some price) ∧ (∃ stopLoss, order.core.stopLoss = some stopLoss) ∧
      TwiceAsFar order.core := by
  obtain ⟨price, terms, sized, priced, positive, configured, compliant⟩ := (accepts_iff ..).mp accepted
  obtain ⟨stopLoss, stopped, distant⟩ := compliant.stopped.signal rfl
  rw [configured.price] at distant
  refine ⟨⟨price, priced⟩, ⟨stopLoss, stopped⟩, fun price' stopLoss' takeProfit priced' stopped' targeted => ?_⟩
  obtain rfl := Option.some.inj (priced.symm.trans priced')
  obtain rfl := Option.some.inj (stopped.symm.trans stopped')
  exact distant takeProfit targeted

section Rounded
variable {rounding : Rounding Decimal} {outcome : RiskOutcome}

/-- An accepted signal has been looked up, and its own check has found nothing. -/
theorem requirements_of_accepts
    (evaluated : CheckedEvaluation.evaluate (rounding.checked CheckedEvaluation.u32Bound) manager order book
      .submitSignal = some outcome) (accepted : Accepts outcome) :
    ∃ terms, lookUp manager order.core book = .ok terms ∧
      CheckedEvaluation.checkSignalRequirements (rounding.checked CheckedEvaluation.u32Bound) order.core
        terms.price = some [] := by
  unfold CheckedEvaluation.evaluate at evaluated
  cases found : lookUp manager order.core book with
  | error missing =>
    rw [found] at evaluated
    cases evaluated
    cases accepted
  | ok terms =>
    simp only [found, Option.bind_eq_bind, Option.bind_eq_some_iff, CheckedEvaluation.runChecks] at evaluated
    obtain ⟨notional, -, projected, -, checked, ⟨position, -, account, -, leverage, -, cash, -, instrument, -, venue, -,
      signal, signalled, gathered⟩, returned⟩ := evaluated
    cases gathered
    cases returned
    have clean : signal = [] := by
      unfold outcomeOf at accepted
      split at accepted
      · next none => exact (List.append_eq_nil_iff.mp none).2
      · cases accepted
    rw [clean] at signalled
    exact ⟨terms, rfl, signalled⟩

/-- A clean check has a stop, and a target whose rounded quotient is at least 2. -/
theorem quotient_of_requirements {price : Decimal}
    (clean : CheckedEvaluation.checkSignalRequirements (rounding.checked bound) core price = some []) :
    ∃ stopLoss, core.stopLoss = some stopLoss ∧ ∀ takeProfit, core.takeProfit = some takeProfit →
      ∃ risk reward ratio, rounding.fit (price - stopLoss) = some risk ∧ 0 < |risk| ∧
        rounding.fit (takeProfit - price) = some reward ∧ rounding.fit (|reward| / |risk|) = some ratio ∧ 2 ≤ ratio := by
  unfold CheckedEvaluation.checkSignalRequirements at clean
  cases stopped : core.stopLoss with
  | none =>
    rw [stopped] at clean
    cases clean
  | some stopLoss =>
    refine ⟨stopLoss, rfl, fun takeProfit targeted => ?_⟩
    simp only [stopped, targeted, Option.bind_eq_bind, Option.bind_eq_some_iff] at clean
    obtain ⟨risk, risked, rest⟩ := clean
    by_cases away : |risk| ≤ 0
    · rw [if_pos away] at rest
      cases rest
    · rw [if_neg away] at rest
      obtain ⟨reward, rewarded, ratio, divided, pushed⟩ := by
        simpa only [Option.bind_eq_some_iff] using rest
      have some_risk : 0 < |risk| := not_le.mp away
      simp only [Rounding.checked, if_neg some_risk.ne'] at divided
      refine ⟨risk, reward, ratio, risked, some_risk, rewarded, divided, ?_⟩
      by_contra short
      rw [pushWhen, if_pos (show ratio < minRiskRewardRatio from not_le.mp short)] at pushed
      cases pushed

omit [LibraryText] in
/-- Between exits of eight decimal places rounding lifts no quotient up to 2. -/
theorem two_le_of_rounded {risk reward ratio : ℚ} (risked : Amount 8 (2 * 10 ^ 11) risk)
    (rewarded : Amount 8 (2 * 10 ^ 11) reward) (away : 0 < |risk|)
    (rounded : rustDecimal.rounding.fit (|reward| / |risk|) = some ratio) (least : 2 ≤ ratio) :
    2 * |risk| ≤ |reward| := by
  by_contra short
  have gap : 1 / 10 ^ 8 ≤ 2 * |risk| - |reward| := by
    have least := ((risked.abs.add risked.abs).sub rewarded.abs).least (by linarith)
    linarith
  -- a quotient below 2 is below it by 10^-20, and 2 - 10^-20 is a decimal
  have below : |reward| / |risk| ≤ 2 - 1 / 10 ^ 20 := by
    rw [div_le_iff₀ away]
    have most := risked.abs.most
    rw [abs_abs] at most
    linarith
  have number : Amount 20 2 (2 - 1 / 10 ^ 20) := ⟨⟨2 * 10 ^ 20 - 1, by norm_num⟩, by norm_num [abs_of_pos]⟩
  have kept := number.fit rustDecimal (by decide) (by norm_num [rustDecimal])
  have order := rustDecimal.rounding.mono below rounded kept
  linarith

/-- The prices of an order have at most eight decimal places and are at most 10^11. -/
def QuotedInPlaces (core : OrderCore) : Prop :=
  ∀ amount, core.price = some amount ∨ core.stopLoss = some amount ∨ core.takeProfit = some amount →
    Amount 8 (10 ^ 11) amount

theorem twiceAsFar_of_quoted {price : Decimal} (quoted : QuotedInPlaces core) (priced : core.price = some price)
    (clean : CheckedEvaluation.checkSignalRequirements (rustDecimal.rounding.checked bound) core price = some []) :
    TwiceAsFar core := by
  intro price' stopLoss takeProfit priced' stopped targeted
  obtain rfl := Option.some.inj (priced.symm.trans priced')
  obtain ⟨stopLoss', stopped', rewarding⟩ := quotient_of_requirements clean
  obtain rfl := Option.some.inj (stopped.symm.trans stopped')
  obtain ⟨risk, reward, ratio, risked, away, rewarded, divided, least⟩ := rewarding takeProfit targeted
  have pricing := quoted price (.inl priced)
  have riskAmount : Amount _ (2 * 10 ^ 11) _ :=
    (pricing.sub (quoted stopLoss (.inr (.inl stopped)))).wider (by norm_num)
  have rewardAmount : Amount _ (2 * 10 ^ 11) _ :=
    ((quoted takeProfit (.inr (.inr targeted))).sub pricing).wider (by norm_num)
  have exactRisk := riskAmount.fit rustDecimal (by decide) (by norm_num [rustDecimal])
  have exactReward := rewardAmount.fit rustDecimal (by decide) (by norm_num [rustDecimal])
  obtain rfl := Option.some.inj (exactRisk.symm.trans risked)
  obtain rfl := Option.some.inj (exactReward.symm.trans rewarded)
  exact two_le_of_rounded riskAmount rewardAmount away divided least

end Rounded

/-- The exits of an accepted signal protect it exactly when the bridge would let
them through: the evaluation itself looks at distances only. With every result
rounded the quotient of the distances may reach 2 by rounding, and the exact
distances matter as well; on `rust_decimal` they do not for prices of at most
eight decimal places. -/
theorem stops_protect_iff (manager : AgentRiskManager) (order : PipelineOrder Validated) (book : FirmBook) :
    (Accepts (evaluate manager order book .submitSignal) → (Protected order.core ↔ BridgeAdmits order.core)) ∧
    (∀ (rounding : Rounding Decimal) outcome,
      CheckedEvaluation.evaluate (rounding.checked CheckedEvaluation.u32Bound) manager order book .submitSignal =
        some outcome → Accepts outcome → (Protected order.core ↔ BridgeAdmits order.core ∧ TwiceAsFar order.core)) ∧
    ∀ outcome, CheckedEvaluation.evaluate (rustDecimal.rounding.checked CheckedEvaluation.u32Bound) manager order book
      .submitSignal = some outcome → Accepts outcome → QuotedInPlaces order.core →
        (Protected order.core ↔ BridgeAdmits order.core) := by
  refine ⟨fun accepted => ?_, fun rounding outcome evaluated accepted => ?_,
    fun outcome evaluated accepted quoted => ?_⟩
  · obtain ⟨⟨price, priced⟩, ⟨stopLoss, stopped⟩, distant⟩ := twiceAsFar_of_accepts accepted
    rw [protected_iff priced stopped, and_iff_left distant]
  · obtain ⟨terms, found, clean⟩ := requirements_of_accepts evaluated accepted
    obtain ⟨-, price, priced, -⟩ := lookUp_sized found
    obtain ⟨stopLoss, stopped, -⟩ := quotient_of_requirements clean
    exact protected_iff priced stopped
  · obtain ⟨terms, found, clean⟩ := requirements_of_accepts evaluated accepted
    obtain ⟨sized, price, priced, positive⟩ := lookUp_sized found
    have configured := (lookUp_ok_iff manager order.core book terms priced positive sized).mp found
    rw [configured.price] at clean
    obtain ⟨stopLoss, stopped, -⟩ := quotient_of_requirements clean
    have distant := twiceAsFar_of_quoted quoted priced clean
    rw [protected_iff priced stopped, and_iff_left distant]

/-- The agent is active, and its own result over its positive capital is not
below minus its drawdown limit. -/
def InGoodStanding (manager : AgentRiskManager) (book : FirmBook) (agent : AgentId) : Prop :=
  ∃ limits allocation, manager.agentLimits.lookup agent = some limits ∧
    book.agentAllocations.lookup agent = some allocation ∧ allocation.status = .active ∧
    0 < allocation.allocatedCapital ∧
    -limits.maxDrawdownPct ≤ (allocation.realizedPnl + allocation.unrealizedPnl) / allocation.allocatedCapital

def reallocate (change : AgentId → AgentAllocation → AgentAllocation) (book : FirmBook) : FirmBook :=
  { book with agentAllocations := mapValues change book.agentAllocations }

theorem lookUp_reallocate (change : AgentId → AgentAllocation → AgentAllocation) (manager : AgentRiskManager)
    (core : OrderCore) (book : FirmBook) :
    lookUp manager core (reallocate change book) = (lookUp manager core book).map fun terms =>
      { terms with agentAllocation := change core.agentId terms.agentAllocation } := by
  unfold lookUp reallocate
  dsimp only
  rw [lookup_mapValues]
  have same : effectiveNav manager { book with agentAllocations := mapValues change book.agentAllocations } =
      effectiveNav manager book := rfl
  rw [same]
  cases evaluationPrice core with
  | error missing => rfl
  | ok price =>
    dsimp only
    split
    · rfl
    · cases effectiveNav manager book with
      | error missing => rfl
      | ok nav =>
        cases manager.agentLimits.lookup core.agentId <;> cases book.agentAllocations.lookup core.agentId <;>
          cases manager.instrumentLimits.lookup core.instrumentId <;>
          cases manager.venueLimits.lookup core.venueId <;> rfl

/-- An evaluation reads two figures of an allocation; the agent's status and its
own result are not among them. -/
theorem evaluate_reallocate (change : AgentId → AgentAllocation → AgentAllocation)
    (allocated : ∀ agent allocation, (change agent allocation).allocatedCapital = allocation.allocatedCapital)
    (used : ∀ agent allocation, (change agent allocation).usedCapital = allocation.usedCapital)
    (manager : AgentRiskManager) (order : PipelineOrder Validated) (book : FirmBook) (path : EvaluationPath) :
    evaluate manager order (reallocate change book) path = evaluate manager order book path := by
  unfold evaluate
  dsimp only
  rw [lookUp_reallocate]
  cases lookUp manager order.core book with
  | error missing => rfl
  | ok terms =>
    have same : project order.core terms.price (change order.core.agentId terms.agentAllocation)
        (currentExposure (reallocate change book) order.core) =
          project order.core terms.price terms.agentAllocation (currentExposure book order.core) := by
      simp only [project, allocated, used]
      rfl
    simp only [Except.map, same]
    rfl

/-- The book with other statuses and results of its agents. -/
def restand (status : AgentId → AgentStatus) (realized unrealized : AgentId → Decimal) (book : FirmBook) : FirmBook :=
  reallocate (fun agent allocation => { allocation with
    status := status agent, realizedPnl := realized agent, unrealizedPnl := unrealized agent }) book

theorem evaluate_restand (status : AgentId → AgentStatus) (realized unrealized : AgentId → Decimal)
    (manager : AgentRiskManager) (order : PipelineOrder Validated) (book : FirmBook) (path : EvaluationPath) :
    evaluate manager order (restand status realized unrealized book) path = evaluate manager order book path := by
  apply evaluate_reallocate
  · intro agent allocation
    rfl
  · intro agent allocation
    rfl

omit [LibraryText] in
theorem halted_not_in_standing (realized unrealized : AgentId → Decimal) (manager : AgentRiskManager)
    (book : FirmBook) (agent : AgentId) :
    ¬ InGoodStanding manager (restand (fun _ => .halted) realized unrealized book) agent := by
  rintro ⟨limits, allocation, -, found, active, -⟩
  simp only [restand, reallocate, lookup_mapValues] at found
  obtain ⟨before, -, rfl⟩ := Option.map_eq_some_iff.mp found
  cases active

/-- Acceptance says that the agent is in good standing, whatever the agents'
statuses and results may be, exactly for an order that some other rule refuses:
no outcome depends on them. -/
theorem accepted_in_standing_iff (manager : AgentRiskManager) (order : PipelineOrder Validated) (book : FirmBook)
    (path : EvaluationPath) :
    ((∀ status realized unrealized,
        Accepts (evaluate manager order (restand status realized unrealized book) path) →
          InGoodStanding manager (restand status realized unrealized book) order.core.agentId) ↔
      ∀ price terms, ¬ Admissible manager order.core book path price terms) ∧
    ∀ status realized unrealized,
      evaluate manager order (restand status realized unrealized book) path = evaluate manager order book path := by
  refine ⟨⟨fun checked price terms passes => ?_, fun refused status realized unrealized accepted => ?_⟩,
    fun status realized unrealized => evaluate_restand status realized unrealized manager order book path⟩
  · apply halted_not_in_standing (fun _ => 0) (fun _ => 0) manager book order.core.agentId
    apply checked
    rw [evaluate_restand]
    exact (accepts_iff ..).mpr ⟨price, terms, passes⟩
  · rw [evaluate_restand] at accepted
    obtain ⟨price, terms, passes⟩ := (accepts_iff ..).mp accepted
    exact absurd passes (refused price terms)

end Checks

/-- The test's order of 60 is resized to 50, and no larger quantity is within the caps. -/
theorem resize_is_tight_on_test : ∃ price, (testOrder 60 (some 95) (some 110)).core.price = some price ∧
    IsGreatest (softlyCapped (testOrder 60 (some 95) (some 110)).core price (min 100000 100000)) 50 := by
  have decided : decision (@evaluate wholeText testManager (testOrder 60 (some 95) (some 110))
      (testFirmBook 25) .submitSignal) = (some 50, []) := by decide +kernel
  obtain ⟨reason, warnings, resized⟩ := resized_of_decision decided
  exact (@resize_is_tight wholeText _ _ _ _ _ _ _ resized).2.2.1

/-- The test's signal with a stop below and a target above its price, evaluated on paper and on `rust_decimal`. -/
theorem stops_protect_on_test : Protected (testOrder 5 (some 95) (some 110)).core ∧
    TwiceAsFar (testOrder 5 (some 95) (some 110)).core := by
  have accepted : Accepts (@evaluate wholeText testManager (testOrder 5 (some 95) (some 110))
      (testFirmBook 0) .submitSignal) := by decide +kernel
  have rounded : (@CheckedEvaluation.evaluate _ _ (rustDecimal.rounding.checked CheckedEvaluation.u32Bound) wholeText
      testManager (testOrder 5 (some 95) (some 110)) (testFirmBook 0) .submitSignal).any
        (fun outcome => decide (Accepts outcome)) = true := by decide +kernel
  obtain ⟨outcome, evaluated, passes⟩ := (Option.any_eq_true _ _).mp rounded
  have conditions := @stops_protect_iff wholeText testManager (testOrder 5 (some 95) (some 110)) (testFirmBook 0)
  have protects : Protected (testOrder 5 (some 95) (some 110)).core := by
    refine (conditions.1 accepted).mpr ((@bridgeAdmits_iff wholeText _).mpr ?_)
    intro price stopLoss priced stopped
    cases priced
    cases stopped
    refine ⟨by decide +kernel, fun profit targeted => ?_⟩
    cases targeted
    decide +kernel
  exact ⟨protects, ((conditions.2.1 rustDecimal.rounding outcome evaluated (of_decide_eq_true passes)).mp protects).2⟩

/-- A sale at 7 with its stop at 10 and its target just above 1. -/
def nearTarget : PipelineOrder Validated :=
  (PipelineOrder.new { (testOrder 5 (some 10) (some (1 + 1 / 10 ^ 28))).core with
    side := .sell, price := some 7 }).intoValidated ⟨0⟩

/-- Its quotient is below 2 and rounded to 2, so it passes. -/
example : (@CheckedEvaluation.evaluate _ _ (rustDecimal.rounding.checked CheckedEvaluation.u32Bound) wholeText
    testManager nearTarget (testFirmBook 0) .submitSignal).any (fun outcome => decide (Accepts outcome)) = true ∧
      ¬ TwiceAsFar nearTarget.core := by
  refine ⟨by decide +kernel, fun distant => ?_⟩
  exact absurd (distant 7 10 (1 + 1 / 10 ^ 28) rfl rfl rfl) (by decide +kernel)

theorem stop_above_buy_accepted :
    Accepts (@evaluate wholeText testManager (testOrder 5 (some 105) (some 120)) (testFirmBook 0) .submitSignal) ∧
      ¬ Protected (testOrder 5 (some 105) (some 120)).core := by
  refine ⟨by decide +kernel, ?_⟩
  rintro ⟨price, stopLoss, priced, stopped, around, -⟩
  cases priced
  cases stopped
  exact absurd around.stop (by decide +kernel)

/-- The test's book with its agent halted after losing half of its capital. -/
def haltedAgentBook : FirmBook := restand (fun _ => .halted) (fun _ => -5000) (fun _ => 0) (testFirmBook 0)

theorem halted_agent_accepted :
    Accepts (@evaluate wholeText testManager (testOrder 5 (some 95) none) haltedAgentBook .submitOrder) ∧
      ¬ InGoodStanding testManager haltedAgentBook (testOrder 5 (some 95) none).core.agentId :=
  ⟨by decide +kernel, halted_not_in_standing _ _ _ _ _⟩

/-- Nothing else refuses the test's order, so some standing of its agent goes unnoticed. -/
theorem accepted_in_standing_iff_on_test : ¬ ∀ status realized unrealized,
    Accepts (@evaluate wholeText testManager (testOrder 5 (some 95) none)
        (restand status realized unrealized (testFirmBook 0)) .submitOrder) →
      InGoodStanding testManager (restand status realized unrealized (testFirmBook 0))
        (testOrder 5 (some 95) none).core.agentId := by
  have exact_condition := @accepted_in_standing_iff wholeText testManager (testOrder 5 (some 95) none) (testFirmBook 0)
    .submitOrder
  have accepted : Accepts (@evaluate wholeText testManager (testOrder 5 (some 95) none) (testFirmBook 0)
      .submitOrder) := by decide +kernel
  obtain ⟨price, terms, passes⟩ := (@accepts_iff wholeText ..).mp accepted
  rw [exact_condition.1]
  exact fun refused => refused price terms passes

end FeynmanEngine.AcceptedOrders
