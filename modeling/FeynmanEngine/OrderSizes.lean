import Mathlib.Order.Interval.Set.OrdConnected
import FeynmanEngine.AcceptedOrders

/-! The risk gate as a function of the quantity alone. Every figure a hard rule
bounds is convex in the quantity, so that the quantities which pass have no
gaps; what is granted of one that passes is cut off at one cap. -/
namespace FeynmanEngine.OrderSizes
open Ids Orders Tables Portfolio ExposureProjection RiskGate ResizeConvergence EvaluationSpecification AcceptedOrders

def ofQty (order : PipelineOrder Validated) (qty : Decimal) : PipelineOrder Validated :=
  ⟨withQty order.core qty, order.stage⟩

/-- What an outcome lets be traded of a quantity. -/
def granted (qty : Decimal) : RiskOutcome → Option Decimal
  | .approved _ => some qty
  | .resized newQty .. => some newQty
  | .rejected _ => none

/-- Of two parts the smaller lies between the larger and nothing, on either side. -/
theorem signedDelta_le_max (side : Side) (above : low ≤ middle) (below : middle ≤ high) :
    signedDelta side middle ≤ max (signedDelta side low) (signedDelta side high) := by
  cases side with
  | buy => exact le_max_of_le_right below
  | sell => exact le_max_of_le_left (neg_le_neg above)

theorem abs_signedDelta_le_max (net : Decimal) (side : Side) (above : low ≤ middle) (below : middle ≤ high) :
    |net + signedDelta side middle| ≤ max |net + signedDelta side low| |net + signedDelta side high| := by
  cases side with
  | buy => exact abs_le_max_abs_abs (add_le_add_right above net) (add_le_add_right below net)
  | sell =>
    rw [max_comm]
    exact abs_le_max_abs_abs (add_le_add_right (neg_le_neg below) net) (add_le_add_right (neg_le_neg above) net)

/-- Gross falls while there is something to trade off and rises from there on. -/
theorem gross_le_max_ends (net gross : Decimal) (side : Side) (positive : 0 < low) (above : low ≤ middle)
    (below : middle ≤ high) :
    (projectNetAndGross net gross (signedDelta side middle)).2 ≤
      max (projectNetAndGross net gross (signedDelta side low)).2
        (projectNetAndGross net gross (signedDelta side high)).2 := by
  have larger := lt_of_lt_of_le positive above
  rw [gross_after net gross side positive, gross_after net gross side larger,
    gross_after net gross side (lt_of_lt_of_le larger below)]
  rcases le_total middle (offset net gross side) with covered | beyond
  · rw [min_eq_left covered, min_eq_left (le_trans above covered)]
    exact le_max_of_le_left (by linarith)
  · rw [min_eq_right beyond, min_eq_right (le_trans beyond below)]
    exact le_max_of_le_right (by linarith)

/-- No figure of a quantity is worse than at both ends of a range around it. -/
theorem projects_between (core : OrderCore) (allocation : AgentAllocation) (current : CurrentExposure)
    (priced : 0 < price) (positive : 0 < low) (above : low ≤ middle) (below : middle ≤ high) :
    Between (project (withQty core low) price allocation current)
      (project (withQty core middle) price allocation current)
      (project (withQty core high) price allocation current) := by
  have notional : 0 < low * price := mul_pos positive priced
  have lower : low * price ≤ middle * price := mul_le_mul_of_nonneg_right above priced.le
  have upper : middle * price ≤ high * price := mul_le_mul_of_nonneg_right below priced.le
  have gross := fun net gross => gross_le_max_ends net gross core.side notional lower upper
  have agent := gross current.agentInstrumentNetNotional current.agentInstrumentGrossNotional
  have venue := gross current.venueInstrumentNetNotional current.venueInstrumentGrossNotional
  refine ⟨signedDelta_le_max core.side lower upper, ?_, gross_le_max_ends _ _ core.side positive above below,
    gross _ _, agent, shifted_le_max agent _, ⟨?_, ?_⟩, shifted_le_max venue _, rfl⟩
  · simp only [project, withQty, net_after]
    exact abs_signedDelta_le_max _ core.side above below
  · simp only [project, withQty]
    ring
  · simp only [project, withQty]
    ring

section Checks
variable [LibraryText]

/-- The quantities an evaluation does not reject. -/
def passing (manager : AgentRiskManager) (order : PipelineOrder Validated) (book : FirmBook)
    (path : EvaluationPath) : Set Decimal :=
  { qty | Accepts (evaluate manager (ofQty order qty) book path) }

theorem accepted_terms (accepted : Accepts (evaluate manager order book path)) :
    ∃ terms, lookUp manager order.core book = .ok terms ∧
      hardViolations order.core book path terms
        (project order.core terms.price terms.agentAllocation (currentExposure book order.core)) = [] := by
  cases found : lookUp manager order.core book with
  | error missing =>
    simp only [evaluate, found] at accepted
    cases accepted
  | ok terms =>
    refine ⟨terms, rfl, ?_⟩
    simp only [evaluate, outcomeOf, found] at accepted
    split at accepted
    · next passes => exact passes
    · cases accepted

/-- An order that passes is approved, or gets its tightest candidate. -/
theorem evaluate_of_terms {order : PipelineOrder Validated} (found : lookUp manager order.core book = .ok terms)
    (passes : hardViolations order.core book path terms
      (project order.core terms.price terms.agentAllocation (currentExposure book order.core)) = []) :
    (tightestResize (resizeCandidates order.core terms) = none ∧
      evaluate manager order book path = .approved []) ∨
    ∃ candidate, tightestResize (resizeCandidates order.core terms) = some candidate ∧
      evaluate manager order book path = .resized candidate.newQty candidate.reason [candidate.warning] := by
  cases tightest : tightestResize (resizeCandidates order.core terms) with
  | none => exact Or.inl ⟨rfl, by simp only [evaluate, outcomeOf, found, passes, tightest]⟩
  | some candidate => exact Or.inr ⟨candidate, rfl, by simp only [evaluate, outcomeOf, found, passes, tightest]⟩

theorem ordConnected_passing (manager : AgentRiskManager) (order : PipelineOrder Validated) (book : FirmBook)
    (path : EvaluationPath) : (passing manager order book path).OrdConnected := by
  constructor
  rintro low passesLow high passesHigh middle ⟨above, below⟩
  obtain ⟨terms, found, clean⟩ := accepted_terms passesLow
  obtain ⟨others, again, cleanHigh⟩ := accepted_terms passesHigh
  have positive : 0 < low := (lookUp_sized found).1
  obtain ⟨priced, funded, looks⟩ := lookUp_ok found
  have larger : 0 < middle := lt_of_lt_of_le positive above
  obtain rfl : others = terms :=
    Except.ok.inj (again.symm.trans (looks high (lt_of_lt_of_le larger below)))
  have between := projects_between order.core others.agentAllocation (currentExposure book order.core)
    priced positive above below
  have traced := (hardViolations_traced between order.core middle book path others funded).traced cleanHigh
  have cleanMiddle : hardViolations (withQty order.core middle) book path others
      (project (withQty order.core middle) others.price others.agentAllocation
        (currentExposure book order.core)) = [] := by
    refine List.eq_nil_iff_forall_not_mem.mpr fun violation member => ?_
    obtain ⟨held, broken, -⟩ := traced violation member
    have clean : hardViolations order.core book path others
        (project (withQty order.core low) others.price others.agentAllocation
          (currentExposure book order.core)) = [] := clean
    rw [clean] at broken
    cases broken
  show Accepts (evaluate manager (ofQty order middle) book path)
  have seen : lookUp manager (ofQty order middle).core book = .ok others := looks middle larger
  rcases evaluate_of_terms seen cleanMiddle with ⟨-, approved⟩ | ⟨candidate, -, resized⟩
  · rw [approved]
    trivial
  · rw [resized]
    trivial

/-- What passes is granted up to the smaller of the two capped quantities. -/
theorem granted_of_passing {price : Decimal} (priced : order.core.price = some price)
    (passes : qty ∈ passing manager order book path) :
    granted qty (evaluate manager (ofQty order qty) book path) =
      some (min qty (min (notionalCapQty price (min manager.nav book.nav))
        (lossCapQty order.core price (min manager.nav book.nav)))) := by
  obtain ⟨quoted, terms, sized, same, positive, configured, compliant⟩ := (accepts_iff ..).mp passes
  obtain rfl : quoted = price := Option.some.inj (same.symm.trans priced)
  have risky := risky_of_compliant configured positive compliant
  have within := withinSoftCaps_iff (configured.price ▸ positive) risky
  rw [configured.price, configured.effectiveNav] at within
  rcases evaluate_cases same positive sized path configured with
    ⟨broken, -⟩ | ⟨-, unresized, approved⟩ | ⟨-, candidate, tightest, resized⟩
  · exact absurd compliant broken
  · have capped := (tightestResize_eq_none_iff (configured.price ▸ positive) risky).mp unresized
    rw [configured.price, configured.effectiveNav] at capped
    have below : qty ≤ min (notionalCapQty quoted (min manager.nav book.nav))
        (lossCapQty order.core quoted (min manager.nav book.nav)) := le_min_iff.mpr (within.mp capped)
    rw [approved, min_eq_left below]
    rfl
  · have exceeded : ¬ WithinSoftCaps (withQty order.core qty) quoted (min manager.nav book.nav) := by
      intro capped
      rw [← configured.price, ← configured.effectiveNav] at capped
      rw [(tightestResize_eq_none_iff (configured.price ▸ positive) risky).mpr capped] at tightest
      cases tightest
    have beyond : ¬ qty ≤ min (notionalCapQty quoted (min manager.nav book.nav))
        (lossCapQty order.core quoted (min manager.nav book.nav)) := by
      rw [le_min_iff]
      exact fun both => exceeded (within.mpr both)
    have newQty := tightestResize_newQty (configured.price ▸ positive) risky tightest
    rw [configured.price, configured.effectiveNav] at newQty
    rw [resized, min_eq_right (not_le.mp beyond).le]
    exact congrArg some newQty

/-- Seen as a function of the quantity, the gate has one window and one cap: the
quantities it does not reject have no gaps between them, everything outside is
granted nothing, and everything inside is granted whole up to the cap and the
cap beyond it, however large the order. -/
theorem sizes_without_gaps (manager : AgentRiskManager) (order : PipelineOrder Validated) (book : FirmBook)
    (path : EvaluationPath) (priced : order.core.price = some price) :
    (passing manager order book path).OrdConnected ∧
    (∀ qty ∉ passing manager order book path,
      granted qty (evaluate manager (ofQty order qty) book path) = none) ∧
    ∀ qty ∈ passing manager order book path,
      granted qty (evaluate manager (ofQty order qty) book path) =
        some (min qty (min (notionalCapQty price (min manager.nav book.nav))
          (lossCapQty order.core price (min manager.nav book.nav)))) := by
  refine ⟨ordConnected_passing manager order book path, fun qty refused => ?_,
    fun qty passes => granted_of_passing priced passes⟩
  have rejected : ¬ Accepts (evaluate manager (ofQty order qty) book path) := refused
  cases outcome : evaluate manager (ofQty order qty) book path with
  | approved warnings => exact absurd (by rw [outcome]; trivial) rejected
  | resized newQty reason warnings => exact absurd (by rw [outcome]; trivial) rejected
  | rejected violations => rfl

end Checks

/-- The test's signal passes at 60 and at 65, and is granted 50 of any quantity between. -/
theorem sizes_without_gaps_on_test : Set.Icc (60 : Decimal) 65 ⊆
    { qty | granted qty (@evaluate wholeText testManager (ofQty (testOrder 60 (some 95) (some 110)) qty)
      (testFirmBook 25) .submitSignal) = some 50 } := by
  have profile := @sizes_without_gaps wholeText 100 testManager (testOrder 60 (some 95) (some 110))
    (testFirmBook 25) .submitSignal rfl
  have passesLow : (60 : Decimal) ∈ @passing wholeText testManager (testOrder 60 (some 95) (some 110))
      (testFirmBook 25) .submitSignal := by
    show Accepts _
    decide +kernel
  have passesHigh : (65 : Decimal) ∈ @passing wholeText testManager (testOrder 60 (some 95) (some 110))
      (testFirmBook 25) .submitSignal := by
    show Accepts _
    decide +kernel
  have cap : min (notionalCapQty 100 (min testManager.nav (testFirmBook 25).nav))
      (lossCapQty (testOrder 60 (some 95) (some 110)).core 100 (min testManager.nav (testFirmBook 25).nav)) =
      50 := by decide +kernel
  rintro qty ⟨above, below⟩
  have passes := profile.1.out passesLow passesHigh ⟨above, below⟩
  have least : (50 : Decimal) ≤ qty := le_trans (by norm_num) above
  have given := profile.2.2 qty passes
  rw [cap, min_eq_right least] at given
  exact given

end FeynmanEngine.OrderSizes
