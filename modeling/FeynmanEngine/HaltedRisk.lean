import FeynmanEngine.CircuitBreakerLatches

/-! What a halted bank still lets through. New orders stop at the latch, so
everything rests on the operation kind: an order declared reduce-only is judged
by the remaining checks, and none of them compares it with the position it is
said to reduce. -/
namespace FeynmanEngine.HaltedRisk
open Ids Orders Portfolio ExposureProjection CircuitBreaker CircuitBreakerBank CircuitBreakerLatches

/-- The order leaves the gross exposure of its instrument no larger than the book has it. -/
def Derisking (book : FirmBook) (core : OrderCore) (notional : Decimal) : Prop :=
  projectedGross book core notional ≤ (instrumentExposure book core.instrumentId).2

/-- The notional is at most twice the exposure held against the order's side:
`gross - net` for a buy, `gross + net` for a sell. -/
def WithinOffset (book : FirmBook) (core : OrderCore) (notional : Decimal) : Prop :=
  let (net, gross) := instrumentExposure book core.instrumentId
  match core.side with
  | .buy => notional ≤ gross - net
  | .sell => notional ≤ gross + net

theorem derisking_iff_within_offset (book : FirmBook) (core : OrderCore) (positive : 0 < notional) :
    Derisking book core notional ↔ WithinOffset book core notional := by
  obtain ⟨net, gross⟩ : ∃ exposure, exposure = instrumentExposure book core.instrumentId := ⟨_, rfl⟩
  unfold Derisking WithinOffset projectedGross
  dsimp only
  rw [gross_not_increased_iff _ _ _ positive]
  cases core.side with
  | buy => simp only [offset, mul_div_cancel₀ _ (two_ne_zero (α := Decimal))]
  | sell => simp only [offset, mul_div_cancel₀ _ (two_ne_zero (α := Decimal))]

section Checks
variable [LibraryText]

/-- The breakers a reduce-only operation still meets, in their order. -/
def reduceOnlyChecks : List (CircuitBreakerContext → CircuitBreakerResult) :=
  [Cb10DryRunBypass.check, Cb11SequencerQueueDepth.check, Cb2MaxInstrumentPosition.check,
    Cb6FirmOrdersPerMinute.check, Cb7AgentOrdersPerMinute.check, Cb8VenueErrorRate.check,
    Cb9VenueDisconnected.check]

/-- A halted bank blocks every new order. -/
theorem halted_blocks_new_order (bank : CircuitBreakerBank) (halted : bank.isHaltActive = true)
    (kind : ctx.operationKind = .newOrder) : (bank.checkAll ctx).2 ≠ .pass := by
  rcases Bool.or_eq_true_iff.mp halted with daily | hourly
  · exact newOrder_blocked bank .cb4 kind daily
  · exact newOrder_blocked bank .cb5 kind hourly

/-- A reduce-only operation passes exactly when none of its own checks rejects,
whatever is latched. -/
theorem reduceOnly_passes_iff (bank : CircuitBreakerBank) (kind : ctx.operationKind = .reduceOnly) :
    (bank.checkAll ctx).2 = .pass ↔ ∀ check ∈ reduceOnlyChecks, check ctx = .pass := by
  rw [checkAll_reduceOnly bank kind]
  simp [perOrderResult, kind, reduceOnlyChecks]

/-- In a halted bank an order declared new never passes, and one declared
reduce-only passes by its own checks alone, whatever the position. A pass means
no added exposure exactly for orders declared new, orders within their offset,
and orders another breaker rejects. -/
theorem halted_pass_derisks_iff (bank : CircuitBreakerBank) (halted : bank.isHaltActive = true)
    (ctx : CircuitBreakerContext) (kind : ctx.operationKind ≠ .cancel) :
    (ctx.operationKind = .newOrder → (bank.checkAll ctx).2 ≠ .pass) ∧
    (ctx.operationKind = .reduceOnly →
      ((bank.checkAll ctx).2 = .pass ↔ ∀ check ∈ reduceOnlyChecks, check ctx = .pass)) ∧
    ∀ order price, ctx.order = some order → order.core.price = some price →
      0 < order.core.qty → 0 < price →
      (((bank.checkAll ctx).2 = .pass →
          Derisking ctx.firmBook order.core (order.core.qty * price)) ↔
        ctx.operationKind = .newOrder ∨
          WithinOffset ctx.firmBook order.core (order.core.qty * price) ∨
          ∃ check ∈ reduceOnlyChecks, check ctx ≠ .pass) := by
  refine ⟨halted_blocks_new_order bank halted, reduceOnly_passes_iff bank, ?_⟩
  intro order price carried priced qty positive
  rw [derisking_iff_within_offset _ _ (mul_pos qty positive)]
  cases operation : ctx.operationKind with
  | cancel => exact absurd operation kind
  | newOrder =>
    have blocked := halted_blocks_new_order bank halted operation
    simp [blocked]
  | reduceOnly =>
    rw [reduceOnly_passes_iff bank operation]
    constructor
    · intro derisks
      by_cases passes : ∀ check ∈ reduceOnlyChecks, check ctx = .pass
      · exact Or.inr (Or.inl (derisks passes))
      · push Not at passes
        exact Or.inr (Or.inr passes)
    · rintro (new | within | ⟨check, member, rejected⟩) passes
      · cases new
      · exact within
      · exact absurd (passes check member) rejected

end Checks

/-- The tests' order, sent reduce-only to the halted bank with no position to reduce. -/
def unbackedReduction : CircuitBreakerContext :=
  testContext (some (testOrder 1 100)) (testFirmBook (-50001)) .reduceOnly

private theorem unbackedReduction_accepted :
    ∀ check ∈ @reduceOnlyChecks wholeText, check unbackedReduction = .pass := by
  decide +kernel

private theorem unbackedReduction_beyond_offset :
    ¬ WithinOffset unbackedReduction.firmBook (testOrder 1 100).core ((testOrder 1 100).core.qty * 100) := by
  norm_num [WithinOffset, unbackedReduction, testContext, testFirmBook, testOrder, instrumentExposure,
    PipelineOrder.new, PipelineOrder.intoValidated]

/-- The exact condition at an order with nothing to reduce: it passes and adds exposure. -/
theorem halted_pass_derisks_iff_unbacked :
    ¬ ((@checkAll wholeText haltedBank unbackedReduction).2 = .pass →
      Derisking unbackedReduction.firmBook (testOrder 1 100).core
        ((testOrder 1 100).core.qty * 100)) := by
  have exact_condition := @halted_pass_derisks_iff wholeText haltedBank haltedBank_isHaltActive
    unbackedReduction (by decide)
  rw [exact_condition.2.2 (testOrder 1 100) 100 rfl rfl (by decide +kernel) (by norm_num)]
  rintro (new | within | ⟨check, member, rejected⟩)
  · cases new
  · exact unbackedReduction_beyond_offset within
  · exact rejected (unbackedReduction_accepted check member)

/-- A halted system does take new risk: the caller's word reduce-only is not checked. -/
theorem halted_pass_can_add_exposure :
    ¬ ∀ trace bank ctx order price, @BankRun wholeText trace bank → bank.isHaltActive = true →
      ctx.operationKind ≠ .cancel → ctx.order = some order → order.core.price = some price →
      0 < order.core.qty → 0 < price → (@checkAll wholeText bank ctx).2 = .pass →
      Derisking ctx.firmBook order.core (order.core.qty * price) := by
  intro claimed
  obtain ⟨reason, run⟩ := haltedBank_run
  have passes := (@reduceOnly_passes_iff wholeText unbackedReduction haltedBank rfl).mpr
    unbackedReduction_accepted
  have derisking := claimed _ haltedBank unbackedReduction (testOrder 1 100) 100 run
    haltedBank_isHaltActive (by decide) rfl rfl (by decide +kernel) (by norm_num) passes
  exact unbackedReduction_beyond_offset
    ((derisking_iff_within_offset _ _ (by decide +kernel)).mp derisking)

end FeynmanEngine.HaltedRisk
