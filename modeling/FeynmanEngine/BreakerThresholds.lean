import FeynmanEngine.CircuitBreakerVerdicts

/-! Two banks side by side, one with looser thresholds, asked about the same
operations and reset by the same calls. What the strict bank lets through stops at
the loose one only on a latch, and only after a reset: while the strict bank is
held by one breaker the loose one can latch another, and outlive its reset. -/
namespace FeynmanEngine.BreakerThresholds
open Ids Orders Tables Portfolio CircuitBreaker CircuitBreakerBank CircuitBreakerLatches CircuitBreakerVerdicts Traces

/-- No threshold is lower. -/
structure Looser (strict loose : CircuitBreakerConfig) : Prop where
  maxSingleOrderNotional : strict.maxSingleOrderNotional ≤ loose.maxSingleOrderNotional
  maxInstrumentPositionNotional : strict.maxInstrumentPositionNotional ≤ loose.maxInstrumentPositionNotional
  maxFirmGrossNotional : strict.maxFirmGrossNotional ≤ loose.maxFirmGrossNotional
  maxDailyLossPct : strict.maxDailyLossPct ≤ loose.maxDailyLossPct
  maxHourlyLossPct : strict.maxHourlyLossPct ≤ loose.maxHourlyLossPct
  maxFirmOrdersPerMin : strict.maxFirmOrdersPerMin ≤ loose.maxFirmOrdersPerMin
  maxAgentOrdersPerMin : strict.maxAgentOrdersPerMin ≤ loose.maxAgentOrdersPerMin
  maxVenueErrorRate : strict.maxVenueErrorRate ≤ loose.maxVenueErrorRate
  maxVenueDisconnectSecs : strict.maxVenueDisconnectSecs ≤ loose.maxVenueDisconnectSecs
  maxSequencerQueueDepth : strict.maxSequencerQueueDepth ≤ loose.maxSequencerQueueDepth

/-- The same question to a bank with other thresholds. -/
def withConfig (ctx : CircuitBreakerContext) (config : CircuitBreakerConfig) : CircuitBreakerContext :=
  { ctx with config := config }

/-- A figure within a threshold is within a higher one. -/
theorem rejectWhen_looser [Preorder α] {figure strict loose : α} [Decidable (figure > strict)]
    [Decidable (figure > loose)] (looser : strict ≤ loose)
    (passes : rejectWhen (figure > strict) breaker reason = .pass) :
    rejectWhen (figure > loose) other text = .pass := by
  rw [rejectWhen_eq_pass] at passes ⊢
  exact fun above => passes (lt_of_le_of_lt looser above)

section Checks
variable [LibraryText] {ctx : CircuitBreakerContext} {loose : CircuitBreakerConfig} (looser : Looser ctx.config loose)
include looser

theorem cb1_looser (passes : Cb1MaxSingleOrderNotional.check ctx = .pass) :
    Cb1MaxSingleOrderNotional.check (withConfig ctx loose) = .pass := by
  unfold Cb1MaxSingleOrderNotional.check at passes ⊢
  dsimp only [withConfig]
  cases carried : ctx.order with
  | none => rfl
  | some order =>
    rw [carried] at passes
    dsimp only at passes ⊢
    cases priced : pricedNotional order.core with
    | none => rfl
    | some notional =>
      rw [priced] at passes
      exact rejectWhen_looser looser.maxSingleOrderNotional passes

theorem cb2_looser (passes : Cb2MaxInstrumentPosition.check ctx = .pass) :
    Cb2MaxInstrumentPosition.check (withConfig ctx loose) = .pass := by
  unfold Cb2MaxInstrumentPosition.check at passes ⊢
  dsimp only [withConfig]
  cases carried : ctx.order with
  | none => rfl
  | some order =>
    rw [carried] at passes
    dsimp only at passes ⊢
    cases priced : pricedNotional order.core with
    | none => rfl
    | some notional =>
      rw [priced] at passes
      exact rejectWhen_looser looser.maxInstrumentPositionNotional passes

omit [LibraryText] in
theorem cb7_looser (passes : Cb7AgentOrdersPerMinute.check ctx = .pass) :
    Cb7AgentOrdersPerMinute.check (withConfig ctx loose) = .pass := by
  unfold Cb7AgentOrdersPerMinute.check at passes ⊢
  dsimp only [withConfig]
  cases carried : ctx.order with
  | none => rfl
  | some order =>
    rw [carried] at passes
    exact rejectWhen_looser looser.maxAgentOrdersPerMin passes

theorem cb8_looser (passes : Cb8VenueErrorRate.check ctx = .pass) :
    Cb8VenueErrorRate.check (withConfig ctx loose) = .pass := by
  unfold Cb8VenueErrorRate.check at passes ⊢
  dsimp only [withConfig]
  cases carried : ctx.order with
  | none => rfl
  | some order =>
    rw [carried] at passes
    dsimp only at passes ⊢
    cases recorded : ctx.venueErrorStats.lookup order.core.venueId with
    | none => rfl
    | some stats =>
      rw [recorded] at passes
      dsimp only at passes ⊢
      split
      · next traffic =>
        rw [if_pos traffic] at passes
        exact rejectWhen_looser looser.maxVenueErrorRate passes
      · rfl

/-- Only the age of a heartbeat has a threshold. -/
theorem cb9_looser (passes : Cb9VenueDisconnected.check ctx = .pass) :
    Cb9VenueDisconnected.check (withConfig ctx loose) = .pass := by
  unfold Cb9VenueDisconnected.check at passes ⊢
  dsimp only [withConfig]
  cases carried : ctx.order with
  | none => rfl
  | some order =>
    rw [carried] at passes
    dsimp only at passes ⊢
    cases recorded : ctx.venueHealth.lookup order.core.venueId with
    | none =>
      rw [recorded] at passes
      cases passes
    | some health =>
      rw [recorded] at passes
      dsimp only at passes ⊢
      split at passes
      · next submittable =>
        rw [if_pos submittable]
        cases beats : health.lastHeartbeatAt with
        | none =>
          rw [beats] at passes
          cases passes
        | some lastHeartbeat =>
          rw [beats] at passes
          dsimp only at passes ⊢
          split at passes
          · cases passes
          · next past =>
            rw [if_neg past]
            exact rejectWhen_looser looser.maxVenueDisconnectSecs passes
      · cases passes

theorem cb3_looser (clear : latch.isTripped = false) (passes : Cb3MaxFirmGrossNotional.check breaker ctx = .pass) :
    Cb3MaxFirmGrossNotional.check latch (withConfig ctx loose) = .pass := by
  unfold Cb3MaxFirmGrossNotional.check at passes ⊢
  rw [clear]
  split at passes
  · cases passes
  · exact rejectWhen_looser looser.maxFirmGrossNotional passes

omit looser in
/-- Of a positive capital, a larger part may be lost; of none, anything. -/
theorem lossCheck_looser (larger : strictPct ≤ loosePct) (clear : latch.isTripped = false)
    (passes : lossCheck latched name period pnl strictPct breaker ctx = .pass) (tripped : latched ≠ .pass) :
    lossCheck latched name period pnl loosePct latch (withConfig ctx loose) = .pass := by
  unfold lossCheck at passes ⊢
  rw [clear]
  split at passes
  · exact absurd passes tripped
  dsimp only [withConfig]
  by_cases broke : ctx.firmBook.nav ≤ 0
  · simp only [broke, if_true, Bool.false_eq_true, if_false]
  · rw [if_neg broke] at passes
    dsimp only at passes
    split at passes
    · cases passes
    · next kept =>
      have more : strictPct * ctx.firmBook.nav ≤ loosePct * ctx.firmBook.nav :=
        mul_le_mul_of_nonneg_right larger (not_le.mp broke).le
      have within : ¬ pnl < -(loosePct * ctx.firmBook.nav) :=
        fun lost => kept (lt_of_lt_of_le lost (neg_le_neg more))
      simp only [broke, within, if_false, Bool.false_eq_true]

/-- The checks after the loss and gross breakers. -/
theorem perOrderResult_looser (passes : perOrderResult ctx = .pass) :
    perOrderResult (withConfig ctx loose) = .pass := by
  unfold perOrderResult at passes ⊢
  simp only [CircuitBreakerResult.andThen_eq_pass] at passes ⊢
  obtain ⟨depth, single, instrument, firm, agent, errors, connected⟩ := passes
  refine ⟨rejectWhen_looser looser.maxSequencerQueueDepth depth, ?_, cb2_looser looser instrument,
    rejectWhen_looser looser.maxFirmOrdersPerMin firm, cb7_looser looser agent, cb8_looser looser errors,
    cb9_looser looser connected⟩
  have kind : (withConfig ctx loose).operationKind = ctx.operationKind := rfl
  rw [kind]
  split at single
  · next reduces => rw [if_pos reduces]
  · next reduces =>
    rw [if_neg reduces]
    exact cb1_looser looser single

/-- The fresh evaluation, by a bank without a latch. -/
theorem freshResult_looser {strict bank : CircuitBreakerBank} (clear : ∀ id, tripped bank id = false)
    (passes : (strict.freshResult ctx).2 = .pass) : (bank.freshResult (withConfig ctx loose)).2 = .pass := by
  rw [freshResult_snd, CircuitBreakerResult.andThen_eq_pass, CircuitBreakerResult.andThen_eq_pass] at passes ⊢
  obtain ⟨daily, hourly, gross⟩ := passes
  exact ⟨lossCheck_looser looser.maxDailyLossPct (clear .cb4) daily CircuitBreakerResult.noConfusion,
    lossCheck_looser looser.maxHourlyLossPct (clear .cb5) hourly CircuitBreakerResult.noConfusion,
    cb3_looser looser (clear .cb3) gross⟩

omit [LibraryText] looser in
theorem unlatched_of_clear {bank : CircuitBreakerBank} (clear : ∀ id, tripped bank id = false) :
    bank.latchedResult = none := by
  rcases latchedResult_cases bank with ⟨none, -⟩ | ⟨id, result, blocks, latched, same⟩
  · exact none
  · have up := (tripped_trip bank id id).mpr (Or.inl rfl)
    rw [same, clear id] at up
    cases up

omit looser in
/-- A new order passes only a bank without a latch. -/
theorem clear_of_passes {bank : CircuitBreakerBank} (kind : ctx.operationKind = .newOrder)
    (passes : (bank.checkAll ctx).2 = .pass) (id : LatchId) : tripped bank id = false :=
  Bool.eq_false_iff.mpr fun up => newOrder_blocked bank id kind up passes

/-- A bank without a latch lets through what a stricter one does. -/
theorem checkAll_looser {strict bank : CircuitBreakerBank} (clear : ∀ id, tripped bank id = false)
    (passes : (strict.checkAll ctx).2 = .pass) : (bank.checkAll (withConfig ctx loose)).2 = .pass := by
  cases operation : ctx.operationKind with
  | cancel =>
    have kind : (withConfig ctx loose).operationKind = .cancel := operation
    rw [checkAll_cancel bank kind]
  | reduceOnly =>
    have kind : (withConfig ctx loose).operationKind = .reduceOnly := operation
    rw [checkAll_reduceOnly bank kind, CircuitBreakerResult.andThen_eq_pass]
    rw [checkAll_reduceOnly strict operation, CircuitBreakerResult.andThen_eq_pass] at passes
    exact ⟨passes.1, perOrderResult_looser looser passes.2⟩
  | newOrder =>
    have kind : (withConfig ctx loose).operationKind = .newOrder := operation
    rw [checkAll_snd strict operation (unlatched_of_clear (clear_of_passes operation passes)),
      CircuitBreakerResult.andThen_eq_pass, CircuitBreakerResult.andThen_eq_pass] at passes
    rw [checkAll_snd bank kind (unlatched_of_clear clear), CircuitBreakerResult.andThen_eq_pass,
      CircuitBreakerResult.andThen_eq_pass]
    exact ⟨passes.1, freshResult_looser looser clear passes.2.1, perOrderResult_looser looser passes.2.2⟩

omit looser in
theorem lossCheck_ne_reject (halts : latched ≠ .reject other text) :
    lossCheck latched name period pnl pct breaker ctx ≠ .reject other text := by
  unfold lossCheck
  split
  · exact halts
  · split
    · exact CircuitBreakerResult.noConfusion
    · dsimp only
      split <;> exact CircuitBreakerResult.noConfusion

omit looser in
/-- A fresh evaluation that does not pass leaves a latch up. -/
theorem freshResult_raises {bank : CircuitBreakerBank} (blocked : (bank.freshResult ctx).2 ≠ .pass) :
    ∃ id, tripped (bank.freshResult ctx).1 id = true := by
  unfold freshResult at blocked ⊢
  cases daily : Cb4FirmDailyLoss.check bank.cb4 ctx with
  | haltAll breaker reason => exact ⟨.cb4, rfl⟩
  | reject breaker reason => exact absurd daily (lossCheck_ne_reject CircuitBreakerResult.noConfusion)
  | pass =>
    rw [daily] at blocked
    cases hourly : Cb5FirmHourlyLoss.check bank.cb5 ctx with
    | haltAll breaker reason => exact ⟨.cb5, rfl⟩
    | reject breaker reason => exact absurd hourly (lossCheck_ne_reject CircuitBreakerResult.noConfusion)
    | pass =>
      rw [hourly] at blocked
      cases gross : Cb3MaxFirmGrossNotional.check bank.cb3 ctx with
      | reject breaker reason => exact ⟨.cb3, rfl⟩
      | haltAll breaker reason =>
        unfold Cb3MaxFirmGrossNotional.check rejectWhen at gross
        split at gross
        · cases gross
        · split at gross <;> cases gross
      | pass =>
        rw [gross] at blocked
        exact absurd rfl blocked

omit looser in
/-- A fresh evaluation that passes raises nothing. -/
theorem freshResult_passed {bank : CircuitBreakerBank} (passes : (bank.freshResult ctx).2 = .pass) :
    (bank.freshResult ctx).1 = bank := by
  unfold freshResult at passes ⊢
  cases daily : Cb4FirmDailyLoss.check bank.cb4 ctx with
  | haltAll breaker reason =>
    rw [daily] at passes
    cases passes
  | reject breaker reason => rfl
  | pass =>
    rw [daily] at passes
    cases hourly : Cb5FirmHourlyLoss.check bank.cb5 ctx with
    | haltAll breaker reason =>
      rw [hourly] at passes
      cases passes
    | reject breaker reason => rfl
    | pass =>
      rw [hourly] at passes
      cases gross : Cb3MaxFirmGrossNotional.check bank.cb3 ctx with
      | reject breaker reason =>
        rw [gross] at passes
        cases passes
      | haltAll breaker reason => rfl
      | pass => rfl

omit looser in
/-- What a check of a new order leaves of a bank: the fresh evaluation's, if it comes to that. -/
theorem checkAll_fst (bank : CircuitBreakerBank) (kind : ctx.operationKind = .newOrder) :
    (bank.checkAll ctx).1 =
      if bank.latchedResult = none ∧ Cb10DryRunBypass.check ctx = .pass then (bank.freshResult ctx).1 else bank := by
  unfold checkAll
  rw [if_neg (by simp [kind]), if_neg (by simp [kind]), if_neg (by simp [kind])]
  cases bank.latchedResult with
  | some latched => rfl
  | none =>
    cases Cb10DryRunBypass.check ctx with
    | reject breaker reason => rfl
    | haltAll breaker reason => rfl
    | pass =>
      obtain ⟨after, result⟩ := bank.freshResult ctx
      cases result <;> rfl

/-- While the strict bank ends a check without a latch, the loose one raises none. -/
theorem checkAll_raises {strict : CircuitBreakerBank} (bank : CircuitBreakerBank)
    (down : ∀ id, tripped (strict.checkAll ctx).1 id = false) :
    (bank.checkAll (withConfig ctx loose)).1 = bank := by
  by_cases kind : ctx.operationKind = .newOrder
  swap
  · have other : (withConfig ctx loose).operationKind ≠ .newOrder := kind
    exact checkAll_unchanged bank other
  have asked : (withConfig ctx loose).operationKind = .newOrder := kind
  rw [checkAll_fst bank asked]
  split
  · next evaluates =>
    rw [checkAll_fst strict kind] at down
    have clear : ∀ id, tripped bank id = false := by
      rcases latchedResult_cases bank with ⟨-, clear⟩ | ⟨id, result, -, latched, -⟩
      · exact clear
      · rw [evaluates.1] at latched
        cases latched
    have live : Cb10DryRunBypass.check ctx = .pass := evaluates.2
    have unlatched : strict.latchedResult = none := by
      rcases latchedResult_cases strict with ⟨none, -⟩ | ⟨id, result, -, latched, same⟩
      · exact none
      · rw [if_neg (by simp [latched])] at down
        have up := (tripped_trip strict id id).mpr (Or.inl rfl)
        rw [same, down id] at up
        cases up
    rw [if_pos ⟨unlatched, live⟩] at down
    have passes : (strict.freshResult ctx).2 = .pass := by
      by_contra blocked
      obtain ⟨id, up⟩ := freshResult_raises blocked
      rw [down id] at up
      cases up
    exact freshResult_passed (freshResult_looser looser clear passes)
  · rfl

end Checks

/-- An operation put to both banks, the loose one with its own thresholds, or a reset of both. -/
inductive SharedCall where
  | check (ctx : CircuitBreakerContext) (loose : CircuitBreakerConfig)
  | reset (breakerId : String) (reason : ResetReason)

def SharedCall.strict : SharedCall → Call
  | .check ctx _ => .check ctx
  | .reset breakerId reason => .reset breakerId reason

def SharedCall.loose : SharedCall → Call
  | .check ctx loose => .check (withConfig ctx loose)
  | .reset breakerId reason => .reset breakerId reason

/-- The loose bank's thresholds are looser than the strict one's at the time. -/
def SharedCall.Loosened : SharedCall → Prop
  | .check ctx loose => Looser ctx.config loose
  | .reset .. => True

structure Banks where
  strict : CircuitBreakerBank
  loose : CircuitBreakerBank

/-- What the two answered. -/
structure Verdicts where
  strict : Answer
  loose : Answer

section Runs
variable [LibraryText]

/-- Both banks answer. -/
def answerBoth (banks : Banks) (call : SharedCall) : Banks × Verdicts :=
  (⟨(answer banks.strict call.strict).1, (answer banks.loose call.loose).1⟩,
    ⟨(answer banks.strict call.strict).2, (answer banks.loose call.loose).2⟩)

/-- A run on two new banks. -/
abbrev SharedRun : List (SharedCall × Verdicts) → Banks → Prop := Path (Answers answerBoth) ⟨new, new⟩

/-- A call with what the strict bank answered. -/
def strictEntry (entry : SharedCall × Verdicts) : Call × Answer := (entry.1.strict, entry.2.strict)

/-- A call with what the loose bank answered. -/
def looseEntry (entry : SharedCall × Verdicts) : Call × Answer := (entry.1.loose, entry.2.loose)

/-- The loose bank was blocked in the name of a latch, the strict bank has since
been reset for another breaker, and the latch has not. -/
def Outlives (id : LatchId) (trace : List (SharedCall × Verdicts)) : Prop :=
  ∃ before trip between lift after, trace = before ++ trip :: (between ++ lift :: after) ∧
    Trips id (looseEntry trip) ∧ (∀ entry ∈ between ++ lift :: after, ¬ Clears id (looseEntry entry)) ∧
    ∃ other, other ≠ id ∧ Clears other (strictEntry lift)

omit [LibraryText] in
theorem Outlives.snoc {id : LatchId} (outlives : Outlives id trace) (kept : ¬ Clears id (looseEntry entry)) :
    Outlives id (trace ++ [entry]) := by
  obtain ⟨before, trip, between, lift, after, rfl, trips, uncleared, lifted⟩ := outlives
  refine ⟨before, trip, between, lift, after ++ [entry], by simp, trips, fun later member => ?_, lifted⟩
  rw [← List.cons_append, ← List.append_assoc] at member
  rcases List.mem_append.mp member with old | new
  · exact uncleared later old
  · exact List.mem_singleton.mp new ▸ kept

/-- A latch of the loose bank is up exactly while its last trip has not been reset. -/
theorem loose_iff_standing (run : SharedRun trace banks) (id : LatchId) :
    tripped banks.loose id = true ↔
      Standing (fun entry => Trips id (looseEntry entry)) (fun entry => Clears id (looseEntry entry)) trace := by
  refine Path.flag_iff_standing (fun banks => tripped banks.loose id = true) ?_ ?_ run
  · cases id <;> simp [tripped, new, Latch.new, Latch.isTripped]
  · rintro banks ⟨call, verdicts⟩ next move
    have moved : answerBoth banks call = (next, verdicts) := move
    obtain ⟨rfl, rfl⟩ := Prod.mk.inj moved
    exact answer_tripped banks.loose call.loose id

omit [LibraryText] in
/-- Whether a reset succeeds does not depend on the bank. -/
theorem reset_same (bank other : CircuitBreakerBank) (breakerId : String) (reason : ResetReason) :
    (bank.reset breakerId reason).2 = (other.reset breakerId reason).2 := by
  unfold CircuitBreakerBank.reset
  split
  · rfl
  · split
    · cases reason <;> rfl
    · split <;> rfl

/-- The strict bank is held whenever the loose one is, or the loose one's latch outlives a reset. -/
def Covered (trace : List (SharedCall × Verdicts)) (banks : Banks) : Prop :=
  ∀ id, tripped banks.loose id = true → (∃ other, tripped banks.strict other = true) ∨ Outlives id trace

/-- A check with looser thresholds. -/
theorem Covered.check (covered : Covered trace banks) (looser : Looser ctx.config loose)
    (moved : answerBoth banks (.check ctx loose) = (next, verdicts)) :
    Covered (trace ++ [(.check ctx loose, verdicts)]) next := by
  obtain ⟨rfl, rfl⟩ := Prod.mk.inj moved
  intro id up
  by_cases held : ∃ other, tripped (answer banks.strict (.check ctx)).1 other = true
  · exact .inl held
  have down : ∀ other, tripped (banks.strict.checkAll ctx).1 other = false :=
    fun other => Bool.eq_false_iff.mpr fun up => held ⟨other, up⟩
  have same : (banks.loose.checkAll (withConfig ctx loose)).1 = banks.loose := checkAll_raises looser banks.loose down
  have before : tripped banks.loose id = true := same ▸ up
  have uncleared (other : LatchId) (call : CircuitBreakerContext) (answered : Answer) :
      ¬ Clears other (Call.check call, answered) := fun ⟨_, reset⟩ => nomatch (Prod.mk.inj reset).1
  rcases covered id before with ⟨other, strict⟩ | outlives
  · refine absurd ?_ (Bool.eq_false_iff.mp (down other))
    exact (answer_tripped banks.strict (.check ctx) other).mpr (.inr ⟨strict, uncleared other ctx _⟩)
  · exact .inr (outlives.snoc (uncleared id (withConfig ctx loose) _))

/-- A reset of both. -/
theorem Covered.reset (covered : Covered trace banks) (run : SharedRun trace banks)
    (moved : answerBoth banks (.reset breakerId reason) = (next, verdicts)) :
    Covered (trace ++ [(.reset breakerId reason, verdicts)]) next := by
  obtain ⟨rfl, rfl⟩ := Prod.mk.inj moved
  intro id up
  have untripped : ∀ (answered : Answer), ¬ Trips id (Call.reset breakerId reason, answered) :=
    fun _ ⟨_, _, check, _⟩ => nomatch (Prod.mk.inj check).1
  rcases (answer_tripped banks.loose (.reset breakerId reason) id).mp up with trips | ⟨before, uncleared⟩
  · exact absurd trips (untripped _)
  rcases covered id before with ⟨other, strict⟩ | outlives
  swap
  · exact .inr (outlives.snoc uncleared)
  by_cases held : tripped (answer banks.strict (.reset breakerId reason)).1 other = true
  · exact .inl ⟨other, held⟩
  right
  -- the strict bank's latch fell by this reset, which the loose bank's latch has outlived
  have cleared : Clears other (Call.reset breakerId reason, (answer banks.strict (.reset breakerId reason)).2) := by
    by_contra kept
    exact held ((answer_tripped banks.strict (.reset breakerId reason) other).mpr (.inr ⟨strict, kept⟩))
  have distinct : other ≠ id := by
    rintro rfl
    obtain ⟨given, same⟩ := cleared
    refine uncleared ⟨given, ?_⟩
    rw [← same]
    exact congrArg (fun done => (Call.reset breakerId reason, Answer.reset done)) (reset_same ..)
  obtain ⟨earlier, trip, later, rfl, trips, standing⟩ := (loose_iff_standing run id).mp before
  refine ⟨earlier, trip, later, (.reset breakerId reason, ⟨(answer banks.strict (.reset breakerId reason)).2,
    (answer banks.loose (.reset breakerId reason)).2⟩), [], ?_, trips, fun entry member => ?_, other, distinct, cleared⟩
  · rw [List.append_assoc, List.cons_append]
    rfl
  rcases List.mem_append.mp member with old | new
  · exact standing entry old
  · exact List.mem_singleton.mp new ▸ uncleared

theorem covered_of_run (run : SharedRun trace banks) (loosened : ∀ entry ∈ trace, entry.1.Loosened) :
    Covered trace banks := by
  induction run with
  | start =>
    intro id up
    cases id <;> cases up
  | @step trace banks entry next run move ih =>
    have covered := ih fun earlier member => loosened earlier (List.mem_append_left _ member)
    obtain ⟨call, verdicts⟩ := entry
    have looser : call.Loosened := loosened _ (List.mem_append_right _ (List.mem_singleton.mpr rfl))
    cases call with
    | check ctx loose => exact covered.check looser move
    | reset breakerId reason => exact covered.reset run move

/-- Looser thresholds, in every run of checks and resets that both banks share:
whenever a latch of the loose bank is up the strict bank is held too, or the latch
has outlived the reset of another breaker; and what the strict bank lets through
and the loose one does not is a new order, stopped by such a latch. -/
theorem looser_blocks_after_reset (run : SharedRun trace banks)
    (loosened : ∀ entry ∈ trace, entry.1.Loosened) :
    Covered trace banks ∧
    ∀ ctx loose, Looser ctx.config loose → (banks.strict.checkAll ctx).2 = .pass →
      (banks.loose.checkAll (withConfig ctx loose)).2 ≠ .pass →
      ctx.operationKind = .newOrder ∧
        ∃ id, Blocks id (banks.loose.checkAll (withConfig ctx loose)).2 ∧ Outlives id trace := by
  have covered := covered_of_run run loosened
  refine ⟨covered, fun ctx loose looser passes blocked => ?_⟩
  cases operation : ctx.operationKind with
  | cancel =>
    have kind : (withConfig ctx loose).operationKind = .cancel := operation
    exact absurd (by rw [checkAll_cancel banks.loose kind]) blocked
  | reduceOnly =>
    have kind : (withConfig ctx loose).operationKind = .reduceOnly := operation
    -- no latch is asked, so that any bank answers the same
    have clear : ∀ id, tripped new id = false := fun id => by cases id <;> rfl
    have fresh : (new.checkAll (withConfig ctx loose)).2 = .pass := checkAll_looser looser clear passes
    rw [checkAll_reduceOnly new kind] at fresh
    rw [checkAll_reduceOnly banks.loose kind] at blocked
    exact absurd fresh blocked
  | newOrder =>
    refine ⟨rfl, ?_⟩
    rcases latchedResult_cases banks.loose with ⟨-, clear⟩ | ⟨id, result, blocks, latched, same⟩
    · exact absurd (checkAll_looser looser clear passes) blocked
    have kind : (withConfig ctx loose).operationKind = .newOrder := operation
    have shape : (banks.loose.checkAll (withConfig ctx loose)).2 = result := by simp [checkAll, kind, latched]
    have up : tripped banks.loose id = true := same ▸ (tripped_trip banks.loose id id).mpr (Or.inl rfl)
    refine ⟨id, shape ▸ blocks, ?_⟩
    rcases covered id up with ⟨other, held⟩ | outlives
    · rw [clear_of_passes operation passes other] at held
      cases held
    · exact outlives

end Runs

/-- The tests' thresholds with twice the daily loss. -/
def looserDaily : CircuitBreakerConfig := { testConfig with maxDailyLossPct := 10 / 100 }

theorem looser_looserDaily : Looser testConfig looserDaily :=
  ⟨le_refl _, le_refl _, le_refl _, by norm_num [testConfig, looserDaily], le_refl _, le_refl _, le_refl _,
    le_refl _, le_refl _, le_refl _⟩

/-- A book past the tests' daily and hourly limits, and within twice the daily one. -/
def losingBook : FirmBook := { testFirmBook (-60000) with hourlyPnl := -30000 }

/-- An order on the losing book, then the reset of the daily halt. -/
def lossThenReset : List SharedCall :=
  [.check (testContext (some (testOrder 10 100)) losingBook .newOrder) looserDaily,
    .reset "CB-4" (.cioApproval "cio")]

/-- With the daily limit doubled the same loss latches the hourly halt instead, and
an order on the recovered book that would have passed is stopped. -/
theorem looser_blocks_after_reset_on_test : ∃ trace banks, @SharedRun wholeText trace banks ∧
    (@checkAll wholeText banks.strict (testContext (some (testOrder 10 100)) (testFirmBook 0) .newOrder)).2 = .pass ∧
    Outlives .cb5 trace := by
  have run := @Path.of_answered _ _ _ (@answerBoth wholeText) ⟨new, new⟩ lossThenReset
  have passes : (@checkAll wholeText (answered (@answerBoth wholeText) ⟨new, new⟩ lossThenReset).2.strict
      (testContext (some (testOrder 10 100)) (testFirmBook 0) .newOrder)).2 = .pass := by decide +kernel
  have halted : (@checkAll wholeText (answered (@answerBoth wholeText) ⟨new, new⟩ lossThenReset).2.loose
      (withConfig (testContext (some (testOrder 10 100)) (testFirmBook 0) .newOrder) looserDaily)).2 = cb5Latched := by
    decide +kernel
  have loosened : ∀ entry ∈ (answered (@answerBoth wholeText) ⟨new, new⟩ lossThenReset).1,
      entry.1.Loosened := by
    intro entry member
    rcases List.mem_cons.mp member with rfl | later
    · exact looser_looserDaily
    · obtain rfl := List.mem_singleton.mp later
      trivial
  obtain ⟨-, id, blocks, outlives⟩ := (@looser_blocks_after_reset wholeText _ _ run loosened).2 _ looserDaily
    looser_looserDaily passes (by rw [halted]; exact CircuitBreakerResult.noConfusion)
  rw [halted] at blocks
  have hourly : Blocks .cb5 cb5Latched := ⟨_, rfl⟩
  exact ⟨_, _, run, passes, blocks.unique hourly ▸ outlives⟩

end FeynmanEngine.BreakerThresholds
