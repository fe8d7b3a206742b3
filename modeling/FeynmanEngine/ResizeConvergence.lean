import Mathlib.Algebra.Order.Field.Rat
import FeynmanEngine.RiskGate

/-! A resized order is not resized again. It is approved unless the book breaks a
hard rule even at quantity zero: every figure the rules bound is convex in the
quantity, so between the standing book and the full order nothing gets worse
than at both ends. A trade that would have led out of a breach may fall short. -/
namespace FeynmanEngine.ResizeConvergence
open Ids Orders Tables Portfolio ExposureProjection RiskGate

/-- The order with another quantity. -/
def withQty (core : OrderCore) (qty : Decimal) : OrderCore := { core with qty := qty }

/-- The projection of the order at quantity zero: the book as it stands, where the
order still counts as a position of its venue. -/
def atNothing (allocation : AgentAllocation) (current : CurrentExposure) : Projection where
  signedOrderNotional := 0
  instrumentNetQty := current.instrumentNetQty
  instrumentGrossQty := current.instrumentGrossQty
  instrumentGrossNotional := current.instrumentGrossNotional
  agentInstrumentGrossNotional := current.agentInstrumentGrossNotional
  agentGrossNotional := allocation.usedCapital
  agentFreeCapital := allocation.allocatedCapital - allocation.usedCapital
  venueNotional := current.venueNotional
  venuePositions := current.venuePositions + if current.venueListed then 0 else 1

/-- No figure of the small order is worse than at both ends. -/
structure Between (standing small full : Projection) : Prop where
  signedOrderNotional :
    small.signedOrderNotional ≤ max standing.signedOrderNotional full.signedOrderNotional
  instrumentNetQty : |small.instrumentNetQty| ≤ max |standing.instrumentNetQty| |full.instrumentNetQty|
  instrumentGrossQty : small.instrumentGrossQty ≤ max standing.instrumentGrossQty full.instrumentGrossQty
  instrumentGrossNotional :
    small.instrumentGrossNotional ≤ max standing.instrumentGrossNotional full.instrumentGrossNotional
  agentInstrumentGrossNotional : small.agentInstrumentGrossNotional ≤
    max standing.agentInstrumentGrossNotional full.agentInstrumentGrossNotional
  agentGrossNotional :
    small.agentGrossNotional ≤ max standing.agentGrossNotional full.agentGrossNotional
  capital : small.agentFreeCapital = standing.agentFreeCapital + standing.agentGrossNotional -
      small.agentGrossNotional ∧
    full.agentFreeCapital = standing.agentFreeCapital + standing.agentGrossNotional -
      full.agentGrossNotional
  venueNotional : small.venueNotional ≤ max standing.venueNotional full.venueNotional
  venuePositions : small.venuePositions = standing.venuePositions

/-- A part of a signed delta lies between zero and all of it. -/
theorem signedDelta_between (side : Side) (positive : 0 < part) (within : part ≤ whole) :
    signedDelta side part ≤ max 0 (signedDelta side whole) ∧
      min 0 (signedDelta side whole) ≤ signedDelta side part := by
  cases side with
  | buy => exact ⟨le_max_of_le_right within, min_le_of_left_le positive.le⟩
  | sell => exact ⟨le_max_of_le_left (by simp only [signedDelta]; linarith),
      min_le_of_right_le (by simp only [signedDelta]; linarith)⟩

/-- What is added to both ends is added to what lies between. -/
theorem shifted_le_max {small standing full : Decimal} (between : small ≤ max standing full)
    (shift : Decimal) : shift + small ≤ max (shift + standing) (shift + full) := by
  rw [max_add_add_left]
  exact add_le_add_right between shift

/-- A point between two others is no farther from zero than one of them. -/
theorem abs_le_max_of_between (net : Decimal) (upper : part ≤ max 0 whole) (lower : min 0 whole ≤ part) :
    |net + part| ≤ max |net| |net + whole| := by
  rcases le_total 0 whole with upward | downward
  · rw [max_eq_right upward] at upper
    rw [min_eq_left upward] at lower
    exact abs_le_max_abs_abs (by linarith) (by linarith)
  · rw [max_eq_left downward] at upper
    rw [min_eq_right downward] at lower
    rw [max_comm]
    exact abs_le_max_abs_abs (by linarith) (by linarith)

/-- A smaller order of the same kind lies between the standing book and the full order. -/
theorem project_between (core : OrderCore) (allocation : AgentAllocation) (current : CurrentExposure)
    (priced : 0 < price) (positive : 0 < qty) (within : qty ≤ core.qty) :
    Between (atNothing allocation current) (project (withQty core qty) price allocation current)
      (project core price allocation current) := by
  have notional : 0 < qty * price := mul_pos positive priced
  have smaller : qty * price ≤ core.qty * price := mul_le_mul_of_nonneg_right within priced.le
  have gross := fun net gross => gross_le_max net gross core.side notional smaller
  have agent := gross current.agentInstrumentNetNotional current.agentInstrumentGrossNotional
  have venue := gross current.venueInstrumentNetNotional current.venueInstrumentGrossNotional
  refine ⟨(signedDelta_between core.side notional smaller).1, ?_,
    gross_le_max _ _ core.side positive within, gross _ _, agent, ?_, ⟨?_, ?_⟩, ?_, rfl⟩
  · obtain ⟨upper, lower⟩ := signedDelta_between core.side positive within
    simp only [project, atNothing, net_after]
    exact abs_le_max_of_between _ upper lower
  · have shifted := shifted_le_max agent (allocation.usedCapital - current.agentInstrumentGrossNotional)
    rw [sub_add_cancel] at shifted
    exact shifted
  · simp only [project, atNothing]
    ring
  · simp only [project, atNothing]
    ring
  · have shifted := shifted_le_max venue (current.venueNotional - current.venueInstrumentGrossNotional)
    rw [sub_add_cancel] at shifted
    exact shifted

/-- The rule a standing violation stands for. A leverage above its cap may come
from a free capital that is not positive at quantity zero. -/
def SameRule (held violation : RiskViolation) : Prop :=
  held.checkName = violation.checkName ∨
    held.checkName = "agent_free_capital_positive" ∧ violation.checkName = "instrument_max_leverage"

/-- Unless the full order breaks the check, the small one breaks it only where
the standing book does. -/
structure Traced (standing small full : List RiskViolation) : Prop where
  traced : full = [] → ∀ violation ∈ small, ∃ held ∈ standing, SameRule held violation

/-- A check that does not look at the quantity. -/
theorem Traced.same (standing violations : List RiskViolation) : Traced standing violations violations := by
  constructor
  rintro rfl violation member
  cases member

theorem Traced.append (first : Traced standing small full) (second : Traced standing' small' full') :
    Traced (standing ++ standing') (small ++ small') (full ++ full') := by
  constructor
  intro passes violation member
  obtain ⟨left, right⟩ := List.append_eq_nil_iff.mp passes
  rcases List.mem_append.mp member with here | there
  · obtain ⟨held, inside, same⟩ := first.traced left violation here
    exact ⟨held, List.mem_append_left _ inside, same⟩
  · obtain ⟨held, inside, same⟩ := second.traced right violation there
    exact ⟨held, List.mem_append_right _ inside, same⟩

theorem Traced.pushWhen [Decidable atRest] [Decidable atPart] [Decidable atWhole]
    {held violation whole : RiskViolation} (implied : atPart → ¬ atWhole → atRest)
    (same : held.checkName = violation.checkName) :
    Traced (RiskGate.pushWhen atRest held) (RiskGate.pushWhen atPart violation)
      (RiskGate.pushWhen atWhole whole) := by
  constructor
  intro passes found member
  by_cases part : atPart
  · rw [RiskGate.pushWhen, if_pos part] at member
    have full : ¬ atWhole := by
      intro broken
      rw [RiskGate.pushWhen, if_pos broken] at passes
      cases passes
    rw [List.mem_singleton.mp member]
    refine ⟨held, ?_, Or.inl same⟩
    rw [RiskGate.pushWhen, if_pos (implied part full)]
    exact List.mem_singleton.mpr rfl
  · rw [RiskGate.pushWhen, if_neg part] at member
    cases member

/-- A share of the same positive whole. -/
theorem div_le_max {rest part whole : Decimal} (between : part ≤ max rest whole) (positive : 0 < nav) :
    part / nav ≤ max (rest / nav) (whole / nav) := by
  rcases le_max_iff.mp between with low | high
  · exact le_max_of_le_left (div_le_div_of_nonneg_right low positive.le)
  · exact le_max_of_le_right (div_le_div_of_nonneg_right high positive.le)

/-- Free capital of the small order is no less than at both ends. -/
theorem Between.free {rest part whole : Projection} (between : Between rest part whole) :
    min rest.agentFreeCapital whole.agentFreeCapital ≤ part.agentFreeCapital := by
  obtain ⟨small, full⟩ := between.capital
  rcases le_max_iff.mp between.agentGrossNotional with low | high
  · exact min_le_of_left_le (by linarith)
  · exact min_le_of_right_le (by linarith)

section Checks
variable [LibraryText]

theorem Traced.capped {rest part whole : Decimal} (between : part ≤ max rest whole) (checkName reason : String)
    (cap : Decimal) :
    Traced (RiskGate.capped checkName reason rest cap) (RiskGate.capped checkName reason part cap)
      (RiskGate.capped checkName reason whole cap) := by
  refine Traced.pushWhen (fun above below => ?_) rfl
  rcases le_max_iff.mp between with low | high
  · exact lt_of_lt_of_le above low
  · exact absurd (lt_of_lt_of_le above high) below

variable {rest part whole : Projection}

theorem checkAgentBudget_traced (between : Between rest part whole) (limits : AgentRiskLimits) :
    Traced (checkAgentBudget rest limits) (checkAgentBudget part limits) (checkAgentBudget whole limits) := by
  have budget : part.agentFreeCapital < 0 → ¬ whole.agentFreeCapital < 0 → rest.agentFreeCapital < 0 := by
    intro short enough
    rcases min_le_iff.mp between.free with low | high
    · exact lt_of_le_of_lt low short
    · exact absurd (lt_of_le_of_lt high short) enough
  exact Traced.append (Traced.append (Traced.pushWhen budget (by rfl))
    (.capped between.agentInstrumentGrossNotional ..)) (.capped between.agentGrossNotional ..)

theorem checkCashReserve_traced (between : Between rest part whole) (positive : 0 < nav) (book : FirmBook) :
    Traced (checkCashReserve rest nav book) (checkCashReserve part nav book)
      (checkCashReserve whole nav book) := by
  refine Traced.pushWhen (fun short enough => ?_) rfl
  rcases le_max_iff.mp between.signedOrderNotional with low | high
  · exact lt_of_le_of_lt (div_le_div_of_nonneg_right (by linarith) positive.le) short
  · exact absurd (lt_of_le_of_lt (div_le_div_of_nonneg_right (by linarith) positive.le) short) enough

theorem checkInstrumentLimits_traced (between : Between rest part whole) (positive : 0 < nav)
    (limits : InstrumentRiskLimits) :
    Traced (checkInstrumentLimits rest nav limits) (checkInstrumentLimits part nav limits)
      (checkInstrumentLimits whole nav limits) :=
  ((Traced.capped between.instrumentNetQty ..).append (.capped between.instrumentGrossQty ..)).append
    (.capped (div_le_max between.instrumentGrossNotional positive) ..)

theorem checkVenueLimits_traced (between : Between rest part whole) (positive : 0 < nav)
    (limits : VenueRiskLimits) :
    Traced (checkVenueLimits rest nav limits) (checkVenueLimits part nav limits)
      (checkVenueLimits whole nav limits) := by
  have crowded : limits.maxPositions < part.venuePositions → ¬ limits.maxPositions < whole.venuePositions →
      limits.maxPositions < rest.venuePositions := by
    intro beyond _
    rwa [← between.venuePositions]
  exact ((Traced.capped between.venueNotional ..).append
    (.capped (div_le_max between.venueNotional positive) ..)).append (.pushWhen crowded (by rfl))

/-- Leverage and the free capital it needs count as one rule. -/
theorem checkLeverage_traced (between : Between rest part whole) (limits : InstrumentRiskLimits) :
    Traced (checkLeverage rest limits) (checkLeverage part limits) (checkLeverage whole limits) := by
  constructor
  intro passes violation member
  unfold checkLeverage at passes member ⊢
  by_cases unlimited : limits.maxLeverage ≤ 0
  · rw [if_pos unlimited] at passes
    cases passes
  rw [if_neg unlimited] at passes member ⊢
  by_cases broke : whole.agentFreeCapital ≤ 0
  · rw [if_pos broke] at passes
    cases passes
  rw [if_neg broke] at passes
  have funded := not_le.mp broke
  by_cases short : rest.agentFreeCapital ≤ 0
  · -- at quantity zero the free capital is gone already
    rw [if_pos short]
    refine ⟨_, List.mem_singleton.mpr rfl, ?_⟩
    by_cases shortPart : part.agentFreeCapital ≤ 0
    · rw [if_pos shortPart] at member
      rw [List.mem_singleton.mp member]
      exact Or.inl rfl
    · rw [if_neg shortPart, RiskGate.capped, RiskGate.pushWhen] at member
      split at member
      · rw [List.mem_singleton.mp member]
        exact Or.inr ⟨rfl, rfl⟩
      · cases member
  · rw [if_neg short]
    have covered : 0 < part.agentFreeCapital :=
      lt_of_lt_of_le (lt_min (not_le.mp short) funded) between.free
    rw [if_neg (not_le.mpr covered)] at member
    have implied : limits.maxLeverage < part.agentGrossNotional / part.agentFreeCapital →
        ¬ limits.maxLeverage < whole.agentGrossNotional / whole.agentFreeCapital →
        limits.maxLeverage < rest.agentGrossNotional / rest.agentFreeCapital := by
      intro above below
      have unfilled := not_le.mp short
      rw [lt_div_iff₀ covered] at above
      rw [lt_div_iff₀ funded] at below
      rw [lt_div_iff₀ unfilled]
      obtain ⟨small, full⟩ := between.capital
      rcases le_max_iff.mp between.agentGrossNotional with low | high
      · have richer : rest.agentFreeCapital ≤ part.agentFreeCapital := by linarith
        exact lt_of_le_of_lt (mul_le_mul_of_nonneg_left richer (not_le.mp unlimited).le)
          (lt_of_lt_of_le above low)
      · have richer : whole.agentFreeCapital ≤ part.agentFreeCapital := by linarith
        exact absurd (lt_of_le_of_lt (mul_le_mul_of_nonneg_left richer (not_le.mp unlimited).le)
          (lt_of_lt_of_le above high)) below
    exact (Traced.pushWhen implied (by rfl)).traced passes violation member

/-- All hard checks of a smaller quantity. -/
theorem hardViolations_traced (between : Between rest part whole) (core : OrderCore) (qty : Decimal)
    (book : FirmBook) (path : EvaluationPath) (terms : Terms) (positive : 0 < terms.effectiveNav) :
    Traced (hardViolations core book path terms rest)
      (hardViolations (withQty core qty) book path terms part)
      (hardViolations core book path terms whole) :=
  ((((((((Traced.same _ _).append (checkAgentBudget_traced between _)).append (.same _ _)).append
    (checkLeverage_traced between _)).append (.same _ _)).append
    (checkCashReserve_traced between positive book)).append
    (checkInstrumentLimits_traced between positive _)).append
    (checkVenueLimits_traced between positive _)).append (.same _ _)

omit [LibraryText] in
/-- The running minimum is one of the candidates and below all of them. -/
theorem foldl_tightest (candidates : List ResizeCandidate) (first : ResizeCandidate) :
    (candidates.foldl (fun tightest next => if next.newQty < tightest.newQty then next else tightest)
        first ∈ first :: candidates) ∧
      ∀ other ∈ first :: candidates, (candidates.foldl (fun tightest next =>
        if next.newQty < tightest.newQty then next else tightest) first).newQty ≤ other.newQty := by
  induction candidates generalizing first with
  | nil => exact ⟨List.mem_singleton.mpr rfl, fun other member => by rw [List.mem_singleton.mp member]; rfl⟩
  | cons next rest ih =>
    rw [List.foldl_cons]
    by_cases tighter : next.newQty < first.newQty
    · rw [if_pos tighter]
      obtain ⟨found, least⟩ := ih next
      refine ⟨List.mem_cons_of_mem _ found, fun other member => ?_⟩
      rcases List.mem_cons.mp member with rfl | later
      · exact le_trans (least next List.mem_cons_self) tighter.le
      · exact least other later
    · rw [if_neg tighter]
      obtain ⟨found, least⟩ := ih first
      refine ⟨?_, fun other member => ?_⟩
      · rcases List.mem_cons.mp found with here | there
        · rw [here]
          exact List.mem_cons_self
        · exact List.mem_cons_of_mem _ (List.mem_cons_of_mem _ there)
      · rcases List.mem_cons.mp member with rfl | later
        · exact least other List.mem_cons_self
        · rcases List.mem_cons.mp later with rfl | last
          · exact le_trans (least first List.mem_cons_self) (not_lt.mp tighter)
          · exact least other (List.mem_cons_of_mem _ last)

omit [LibraryText] in
theorem tightestResize_some (tightest : tightestResize candidates = some candidate) :
    candidate ∈ candidates ∧ ∀ other ∈ candidates, candidate.newQty ≤ other.newQty := by
  cases candidates with
  | nil => cases tightest
  | cons first rest =>
    obtain rfl := Option.some.inj tightest
    exact foldl_tightest rest first

/-- A candidate is a positive part of the order. -/
theorem candidate_part (priced : 0 < terms.price) (funded : 0 < terms.effectiveNav)
    (member : candidate ∈ resizeCandidates core terms) :
    0 < candidate.newQty ∧ candidate.newQty < core.qty := by
  have notionalCap : (0 : Decimal) < positionNavCap := by norm_num [positionNavCap]
  have lossCap : (0 : Decimal) < accountRiskNavCap := by norm_num [accountRiskNavCap]
  rcases List.mem_append.mp member with notional | loss
  · unfold checkPositionLimit at notional
    dsimp only at notional
    split at notional
    · next above =>
      rw [List.mem_singleton.mp notional]
      exact ⟨div_pos (mul_pos funded notionalCap) priced, (div_lt_iff₀ priced).mpr above⟩
    · cases notional
  · unfold checkAccountRisk at loss
    dsimp only at loss
    split at loss
    · cases loss
    · next distance =>
      have risky := not_le.mp distance
      split at loss
      · next above =>
        rw [List.mem_singleton.mp loss]
        exact ⟨div_pos (mul_pos funded lossCap) risky, (div_lt_iff₀ risky).mpr above⟩
      · cases loss

/-- A quantity within the order and every candidate needs no resize. -/
theorem resizeCandidates_nil (priced : 0 < terms.price) (within : qty ≤ core.qty)
    (least : ∀ other ∈ resizeCandidates core terms, qty ≤ other.newQty) :
    resizeCandidates (withQty core qty) terms = [] := by
  refine List.append_eq_nil_iff.mpr ⟨?_, ?_⟩
  · unfold checkPositionLimit
    refine if_neg fun above => ?_
    by_cases full : terms.effectiveNav * positionNavCap < core.qty * terms.price
    · have cap := least ⟨terms.effectiveNav * positionNavCap / terms.price, _, _⟩
        (List.mem_append_left _ (by rw [checkPositionLimit, if_pos full]; exact List.mem_singleton.mpr rfl))
      exact absurd ((le_div_iff₀ priced).mp cap) (not_le.mpr above)
    · exact full (lt_of_lt_of_le above (mul_le_mul_of_nonneg_right within priced.le))
  · unfold checkAccountRisk
    have same : riskPerUnit (withQty core qty) terms.price = riskPerUnit core terms.price := rfl
    rw [same]
    by_cases distance : riskPerUnit core terms.price ≤ 0
    · exact if_pos distance
    · have risky := not_le.mp distance
      dsimp only
      rw [if_neg distance]
      refine if_neg fun above => ?_
      by_cases full : terms.effectiveNav * accountRiskNavCap < core.qty * riskPerUnit core terms.price
      · have cap := least ⟨terms.effectiveNav * accountRiskNavCap / riskPerUnit core terms.price, _, _⟩
          (List.mem_append_right _ (by
            rw [checkAccountRisk, if_neg distance, if_pos full]; exact List.mem_singleton.mpr rfl))
        exact absurd ((le_div_iff₀ risky).mp cap) (not_le.mpr above)
      · exact full (lt_of_lt_of_le above (mul_le_mul_of_nonneg_right within risky.le))

/-- The terms of an order do not depend on its quantity. -/
theorem lookUp_ok (found : lookUp manager core book = .ok terms) :
    0 < terms.price ∧ 0 < terms.effectiveNav ∧
      ∀ qty, 0 < qty → lookUp manager (withQty core qty) book = .ok terms := by
  unfold lookUp at found
  cases priced : evaluationPrice core with
  | error missing =>
    rw [priced] at found
    cases found
  | ok price =>
    rw [priced] at found
    dsimp only at found
    split at found
    · cases found
    · cases funded : effectiveNav manager book with
      | error missing =>
        rw [funded] at found
        cases found
      | ok nav =>
        rw [funded] at found
        have positive : 0 < price := by
          unfold evaluationPrice at priced
          split at priced
          · split at priced
            · next above =>
              cases priced
              exact above
            · cases priced
          · cases priced
        have wealthy : 0 < nav := by
          unfold effectiveNav at funded
          split at funded
          · cases funded
          · next manages =>
            split at funded
            · cases funded
            · next holds =>
              cases funded
              exact lt_min (not_le.mp manages) (not_le.mp holds)
        dsimp only at found
        split at found
        · cases found
        · cases found
        · cases found
        · cases found
        · next agentLimits allocation instrumentLimits venueLimits agents allocations instruments venues =>
          cases found
          refine ⟨positive, wealthy, fun qty sized => ?_⟩
          unfold lookUp
          have again : evaluationPrice (withQty core qty) = .ok price := priced
          rw [again]
          dsimp only
          rw [if_neg (not_le.mpr (show 0 < (withQty core qty).qty from sized)), funded]
          simp only [withQty, agents, allocations, instruments, venues]

/-- The hard violations of the order at quantity zero. -/
def standingViolations (manager : AgentRiskManager) (core : OrderCore) (book : FirmBook)
    (path : EvaluationPath) : List RiskViolation :=
  match lookUp manager core book with
  | .error missing => [missing]
  | .ok terms =>
    hardViolations core book path terms (atNothing terms.agentAllocation (currentExposure book core))

/-- How an evaluation comes to a resize. -/
theorem evaluate_resized (resized : evaluate manager order book path = .resized newQty reason warnings) :
    ∃ terms candidate, lookUp manager order.core book = .ok terms ∧
      hardViolations order.core book path terms
        (project order.core terms.price terms.agentAllocation (currentExposure book order.core)) = [] ∧
      tightestResize (resizeCandidates order.core terms) = some candidate ∧ candidate.newQty = newQty := by
  unfold evaluate outcomeOf at resized
  dsimp only at resized
  split at resized
  · cases resized
  · next terms found =>
    split at resized
    · next passes =>
      split at resized
      · next candidate tightest =>
        cases resized
        exact ⟨terms, candidate, found, passes, tightest, rfl⟩
      · cases resized
    · cases resized

/-- A resized order is a smaller one that is not resized again. It is approved
when at quantity zero it breaks no hard rule, and otherwise rejected at most for
rules it breaks at quantity zero. -/
theorem resize_converges (resized : evaluate manager order book path = .resized newQty reason warnings) :
    0 < newQty ∧ newQty < order.core.qty ∧
    (standingViolations manager order.core book path = [] →
      evaluate manager ⟨withQty order.core newQty, order.stage⟩ book path = .approved []) ∧
    (evaluate manager ⟨withQty order.core newQty, order.stage⟩ book path = .approved [] ∨
      ∃ violations,
        evaluate manager ⟨withQty order.core newQty, order.stage⟩ book path = .rejected violations ∧
        ∀ violation ∈ violations,
          ∃ held ∈ standingViolations manager order.core book path, SameRule held violation) := by
  obtain ⟨terms, candidate, found, passes, tightest, rfl⟩ := evaluate_resized resized
  obtain ⟨priced, funded, again⟩ := lookUp_ok found
  obtain ⟨chosen, least⟩ := tightestResize_some tightest
  obtain ⟨positive, smaller⟩ := candidate_part priced funded chosen
  have between := project_between order.core terms.agentAllocation (currentExposure book order.core)
    priced positive smaller.le
  have traced := (hardViolations_traced between order.core candidate.newQty book path terms funded).traced passes
  have standing : standingViolations manager order.core book path = hardViolations order.core book path
      terms (atNothing terms.agentAllocation (currentExposure book order.core)) := by
    rw [standingViolations, found]
  have unresized := resizeCandidates_nil priced smaller.le least
  have outcome : ∀ violations, hardViolations (withQty order.core candidate.newQty) book path terms
        (project (withQty order.core candidate.newQty) terms.price terms.agentAllocation
          (currentExposure book order.core)) = violations →
      evaluate manager ⟨withQty order.core candidate.newQty, order.stage⟩ book path =
        if violations.isEmpty then .approved [] else .rejected violations := by
    intro violations checked
    -- the exposure looked up is the one the order itself had
    have found : hardViolations (withQty order.core candidate.newQty) book path terms
        (project (withQty order.core candidate.newQty) terms.price terms.agentAllocation
          (currentExposure book (withQty order.core candidate.newQty))) = violations := checked
    unfold evaluate outcomeOf
    dsimp only
    rw [again _ positive]
    dsimp only
    rw [unresized, found]
    cases violations <;> rfl
  rw [standing, outcome _ rfl]
  generalize hardViolations (withQty order.core candidate.newQty) book path terms
    (project (withQty order.core candidate.newQty) terms.price terms.agentAllocation
      (currentExposure book order.core)) = violations at traced
  cases violations with
  | nil => exact ⟨positive, smaller, fun _ => rfl, Or.inl rfl⟩
  | cons violation rest =>
    refine ⟨positive, smaller, fun clean => ?_, Or.inr ⟨_, rfl, traced⟩⟩
    obtain ⟨held, member, -⟩ := traced violation List.mem_cons_self
    rw [clean] at member
    cases member

end Checks

/-- What an outcome says to do, without its texts. -/
def decision : RiskOutcome → Option Decimal × List String
  | .approved _ => (none, [])
  | .resized newQty _ _ => (some newQty, [])
  | .rejected violations => (none, violations.map RiskViolation.checkName)

theorem resized_of_decision (decided : decision outcome = (some newQty, [])) :
    ∃ reason warnings, outcome = .resized newQty reason warnings := by
  cases outcome with
  | approved warnings => cases decided
  | resized qty reason warnings =>
    cases decided
    exact ⟨reason, warnings, rfl⟩
  | rejected violations => cases decided

/-- The test's order of 60 is resized to 50 and then approved. -/
theorem resize_converges_on_test :
    @evaluate wholeText testManager ⟨withQty (testOrder 60 (some 95) (some 110)).core 50, ⟨⟨0⟩⟩⟩
      (testFirmBook 25) .submitSignal = .approved [] := by
  have decided : decision (@evaluate wholeText testManager (testOrder 60 (some 95) (some 110))
      (testFirmBook 25) .submitSignal) = (some 50, []) := by decide +kernel
  obtain ⟨reason, warnings, resized⟩ := resized_of_decision decided
  exact (@resize_converges wholeText _ _ _ _ _ _ _ resized).2.2.1 (by decide +kernel)

/-- The whole buy brings the agent's gross from 15000 to 9000 of a capital of
10000; what is left of it after the resize brings it to 10000 only. -/
theorem resized_order_falls_short :
    ∃ newQty reason warnings,
      @evaluate wholeText testManager (testOrder 60 (some 99) none) (testFirmBook (-150)) .submitOrder =
        .resized newQty reason warnings ∧
      decision (@evaluate wholeText testManager
        ⟨withQty (testOrder 60 (some 99) none).core newQty, ⟨⟨0⟩⟩⟩ (testFirmBook (-150)) .submitOrder) =
          (none, ["agent_free_capital_positive"]) := by
  have decided : decision (@evaluate wholeText testManager (testOrder 60 (some 99) none)
      (testFirmBook (-150)) .submitOrder) = (some 50, []) := by decide +kernel
  obtain ⟨reason, warnings, resized⟩ := resized_of_decision decided
  exact ⟨50, reason, warnings, resized, by decide +kernel⟩

end FeynmanEngine.ResizeConvergence
