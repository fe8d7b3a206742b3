import FeynmanEngine.HaltedRisk
import FeynmanEngine.CircuitBreakerVerdicts

/-! Reduce-only orders and the breakers of exposure and loss. Four of the five
let them through unseen; the instrument breaker compares what they leave of the
position with its cap, so a reduction that does not come down to the cap is
rejected like an order that goes beyond it. -/
namespace FeynmanEngine.ReduceOnlyOrders
open Ids Orders Portfolio ExposureProjection CircuitBreaker CircuitBreakerBank CircuitBreakerLatches
open CircuitBreakerVerdicts Traces

/-- The breakers of exposure and loss. -/
def exposureAndLoss : List BreakerId := [.cb1, .cb2, .cb3, .cb4, .cb5]

/-- An earlier breaker refuses the order: a real order outside live mode, or a
queue beyond its cap. -/
def RefusedEarlier (ctx : CircuitBreakerContext) (core : OrderCore) : Prop :=
  (ctx.executionMode ≠ .live ∧ core.dryRun = false) ∨
    ctx.config.maxSequencerQueueDepth < ctx.sequencerQueueDepth

/-- A priced order takes off at least what the book holds of its instrument
beyond the cap. -/
def CoversExcess (ctx : CircuitBreakerContext) (core : OrderCore) : Prop :=
  ∀ notional, pricedNotional core = some notional →
    (instrumentExposure ctx.firmBook core.instrumentId).2 - ctx.config.maxInstrumentPositionNotional ≤
      relief (instrumentExposure ctx.firmBook core.instrumentId).1
        (instrumentExposure ctx.firmBook core.instrumentId).2 (signedDelta core.side notional)

/-- The breaker a result blocks in the name of. -/
def namedBreaker : CircuitBreakerResult → Option String
  | .pass => none
  | .reject breaker _ | .haltAll breaker _ => some breaker

theorem names_iff (id : BreakerId) (result : CircuitBreakerResult) :
    Names id result ↔ namedBreaker result = some id.text := by
  constructor
  · rintro ⟨reason, rfl | rfl⟩ <;> rfl
  · intro named
    cases result with
    | pass => cases named
    | reject breaker reason =>
      obtain rfl := Option.some.inj named
      exact ⟨reason, Or.inl rfl⟩
    | haltAll breaker reason =>
      obtain rfl := Option.some.inj named
      exact ⟨reason, Or.inr rfl⟩

theorem text_injective (same : BreakerId.text breaker = BreakerId.text other) : breaker = other := by
  cases breaker <;> cases other <;> first | rfl | exact absurd same (by decide)

/-- A result names at most one breaker. -/
theorem names_unique {breaker other : BreakerId} (names : Names breaker result) (names' : Names other result) :
    breaker = other := by
  rw [names_iff] at names names'
  exact text_injective (Option.some.inj (names.symm.trans names'))

/-- Checks by other breakers never answer in the name of one of these. -/
theorem Settles.not_names {ids : List BreakerId} (settled : Settles holds ids result)
    (others : ∀ id ∈ ids, id ∉ exposureAndLoss) : ∀ id ∈ exposureAndLoss, ¬ Names id result := by
  intro id member names
  rcases settled with ⟨rfl, -⟩ | ⟨other, found, names', -⟩
  · exact names.not_pass rfl
  · obtain rfl := names_unique names names'
    exact others id found member

theorem pass_andThen (next : CircuitBreakerResult) : CircuitBreakerResult.pass.andThen next = next := rfl

/-- A chain stops at a check by another breaker, or its rest decides. -/
theorem andThen_unnamed_iff {ids : List BreakerId} (settled : Settles holds ids result)
    (others : ∀ id ∈ ids, id ∉ exposureAndLoss) (next : CircuitBreakerResult) :
    (∀ id ∈ exposureAndLoss, ¬ Names id (result.andThen next)) ↔
      (∃ id ∈ ids, ¬ holds id) ∨ ∀ id ∈ exposureAndLoss, ¬ Names id next := by
  have unnamed := Settles.not_names settled others
  rcases settled with ⟨rfl, all⟩ | ⟨other, member, names, violated⟩
  · constructor
    · exact Or.inr
    · rintro (⟨id, member, violated⟩ | passes)
      · exact absurd (all id member) violated
      · exact passes
  · have stops : result.andThen next = result := by
      obtain ⟨reason, rfl | rfl⟩ := names <;> rfl
    rw [stops]
    exact ⟨fun _ => Or.inl ⟨other, member, violated⟩, fun _ => unnamed⟩

/-- A check by one of these breakers, and behind it checks by others. -/
theorem andThen_named_iff {breaker : BreakerId} {ids : List BreakerId} (settled : Settles holds [breaker] result)
    (one : breaker ∈ exposureAndLoss) (rest : Settles holds' ids next) (others : ∀ id ∈ ids, id ∉ exposureAndLoss) :
    (∀ id ∈ exposureAndLoss, ¬ Names id (result.andThen next)) ↔ holds breaker := by
  rcases settled with ⟨rfl, all⟩ | ⟨other, member, names, violated⟩
  · exact ⟨fun _ => all breaker (List.mem_singleton.mpr rfl), fun _ => Settles.not_names rest others⟩
  · obtain rfl := List.mem_singleton.mp member
    have stops : result.andThen next = result := by
      obtain ⟨reason, rfl | rfl⟩ := names <;> rfl
    rw [stops]
    exact ⟨fun unnamed => absurd names (unnamed other one), fun holds => absurd holds violated⟩

section Checks
variable [LibraryText] {ctx : CircuitBreakerContext} {order : PipelineOrder Validated}

/-- The instrument breaker asks that the excess over the cap be covered. -/
theorem cb2_covers (carries : ctx.order = some order) :
    Settles (fun _ => CoversExcess ctx order.core) [.cb2] (Cb2MaxInstrumentPosition.check ctx) := by
  simp only [Cb2MaxInstrumentPosition.check, carries]
  cases priced : pricedNotional order.core with
  | none =>
    refine .of_pass fun notional found => ?_
    rw [priced] at found
    cases found
  | some notional =>
    refine .rejectWhen _ ?_
    have left := gross_after_delta (instrumentExposure ctx.firmBook order.core.instrumentId).1
      (instrumentExposure ctx.firmBook order.core.instrumentId).2 (signedDelta order.core.side notional)
    simp only [CoversExcess, priced, Option.some.injEq, forall_eq', projectedGross, left, gt_iff_lt, not_le]
    constructor <;> intro beyond <;> linarith

/-- A reduce-only order, latched bank or not, is stopped by none of the breakers
of exposure and loss exactly when it is refused earlier or covers the excess of
its instrument over the cap. -/
theorem reduce_only_unblocked_iff (bank : CircuitBreakerBank) (kind : ctx.operationKind = .reduceOnly)
    (carries : ctx.order = some order) :
    (∀ id ∈ exposureAndLoss, ¬ Names id (bank.checkAll ctx).2) ↔
      RefusedEarlier ctx order.core ∨ CoversExcess ctx order.core := by
  -- none of the other conditions looks at the price
  have dryRun : Settles (Holds ctx order.core 0) [.cb10] (Cb10DryRunBypass.check ctx) := cb10_settles carries
  have queue : Settles (Holds ctx order.core 0) [.cb11] (Cb11SequencerQueueDepth.check ctx) := cb11_settles
  have instrument := cb2_covers carries
  have venue : Settles (Holds ctx order.core 0) _ _ := (cb8_settles carries).andThen (cb9_settles carries)
  have counted := cb6_settles.andThen ((cb7_settles carries).andThen venue)
  rw [checkAll_reduceOnly bank kind]
  unfold perOrderResult
  rw [if_pos kind, andThen_unnamed_iff dryRun (by decide), andThen_unnamed_iff queue (by decide)]
  rw [pass_andThen, andThen_named_iff instrument (by decide) counted (by decide)]
  simp [RefusedEarlier, Holds, or_assoc]

end Checks

/-- The tests' book, long 800000 of an instrument capped at 500000. -/
def longBook : FirmBook :=
  { testFirmBook 0 with instruments := [⟨⟨"BTC-USD"⟩, 8, 8, 800000, 800000, [], []⟩] }

/-- A sale of so many at 100000. -/
def reduction (qty : Decimal) : PipelineOrder Validated :=
  ⟨{ (testOrder qty 100000).core with side := .sell, reduceOnly := true }, ⟨⟨0⟩⟩⟩

def reducing (qty : Decimal) : CircuitBreakerContext := testContext (some (reduction qty)) longBook .reduceOnly

/-- A sale of three comes down to the cap and is let through. -/
theorem reduce_only_unblocked_to_cap : ¬ Names .cb2 (@checkAll wholeText new (reducing 3)).2 := by
  refine (@reduce_only_unblocked_iff wholeText _ _ new rfl rfl).mpr (Or.inr ?_) .cb2 (by decide)
  intro notional priced
  have sale : pricedNotional (reduction 3).core = some 300000 := by decide +kernel
  obtain rfl := Option.some.inj (priced.symm.trans sale)
  decide +kernel

/-- A sale of one leaves 700000 of 800000 and is rejected. -/
theorem partial_reduction_rejected :
    ¬ ∀ trace bank ctx order notional, @BankRun wholeText trace bank → ctx.operationKind = .reduceOnly →
      ctx.order = some order → pricedNotional order.core = some notional →
      projectedGross ctx.firmBook order.core notional <
        (instrumentExposure ctx.firmBook order.core.instrumentId).2 →
      ∀ id ∈ exposureAndLoss, ¬ Names id (@checkAll wholeText bank ctx).2 := by
  intro claimed
  have unnamed := claimed [] new (reducing 1) (reduction 1) 100000 .start rfl rfl (by decide +kernel)
    (by decide +kernel) .cb2 (by decide)
  exact unnamed ((names_iff _ _).mpr (by decide +kernel))

end FeynmanEngine.ReduceOnlyOrders
