import Mathlib.Tactic.NormNum
import FeynmanEngine.CircuitBreaker
import FeynmanEngine.Traces

/-! Latches of the bank over whole traces. One check either blocks under the
name of one latch, which is then up, or leaves every latch as it was; a reset
lowers at most the latch it names. -/
namespace FeynmanEngine.CircuitBreakerLatches
open Ids Orders CircuitBreaker CircuitBreakerBank Traces

/-- The latching breakers. -/
inductive LatchId where
  | cb3
  | cb4
  | cb5
  deriving DecidableEq

def LatchId.text : LatchId → String
  | .cb3 => "CB-3"
  | .cb4 => "CB-4"
  | .cb5 => "CB-5"

def tripped (bank : CircuitBreakerBank) : LatchId → Bool
  | .cb3 => bank.cb3.isTripped
  | .cb4 => bank.cb4.isTripped
  | .cb5 => bank.cb5.isTripped

def trip (bank : CircuitBreakerBank) : LatchId → CircuitBreakerBank
  | .cb3 => { bank with cb3 := bank.cb3.latch }
  | .cb4 => { bank with cb4 := bank.cb4.latch }
  | .cb5 => { bank with cb5 := bank.cb5.latch }

/-- The result is the one a latch gives: a rejection by CB-3, a halt by CB-4 or CB-5. -/
def Blocks : LatchId → CircuitBreakerResult → Prop
  | .cb3, result => ∃ reason, result = .reject "CB-3" reason
  | .cb4, result => ∃ reason, result = .haltAll "CB-4" reason
  | .cb5, result => ∃ reason, result = .haltAll "CB-5" reason

/-- A pass, or a rejection by a breaker that does not latch. -/
def Unlatched (result : CircuitBreakerResult) : Prop :=
  result = .pass ∨ ∃ breaker reason, result = .reject breaker reason ∧ breaker ≠ "CB-3"

theorem Blocks.not_pass {id : LatchId} (blocks : Blocks id result) : result ≠ .pass := by
  cases id <;> obtain ⟨reason, rfl⟩ := blocks <;> simp

theorem Blocks.unique {id other : LatchId} (blocks : Blocks id result)
    (blocks' : Blocks other result) : id = other := by
  cases id <;> obtain ⟨reason, rfl⟩ := blocks <;> cases other <;> simp [Blocks] at blocks' ⊢

theorem Unlatched.of_pass : Unlatched .pass := Or.inl rfl

theorem Unlatched.not_blocks (unlatched : Unlatched result) (id : LatchId) : ¬ Blocks id result := by
  rcases unlatched with rfl | ⟨breaker, reason, rfl, other⟩
  · exact fun blocks => blocks.not_pass rfl
  · cases id <;> simp [Blocks, other]

theorem tripped_trip (bank : CircuitBreakerBank) (id other : LatchId) :
    tripped (trip bank other) id = true ↔ id = other ∨ tripped bank id = true := by
  cases id <;> cases other <;> simp [tripped, trip, Latch.latch, Latch.isTripped]

/-- Raising a latch that is up already changes nothing. -/
theorem trip_of_tripped {id : LatchId} (up : tripped bank id = true) : trip bank id = bank := by
  obtain ⟨⟨cb3⟩, ⟨cb4⟩, ⟨cb5⟩⟩ := bank
  cases id <;> simp_all [tripped, trip, Latch.latch, Latch.isTripped]

theorem Unlatched.andThen (first : Unlatched result) (second : Unlatched next) :
    Unlatched (result.andThen next) := by
  rcases first with rfl | ⟨breaker, reason, rfl, other⟩
  · exact second
  · exact Or.inr ⟨breaker, reason, rfl, other⟩

theorem rejectWhen_unlatched (violated : Prop) [Decidable violated] (reason : String)
    (other : breaker ≠ "CB-3") : Unlatched (rejectWhen violated breaker reason) := by
  by_cases holds : violated
  · exact Or.inr ⟨breaker, reason, by simp [rejectWhen, holds], other⟩
  · exact Or.inl (by simp [holds])

private theorem cb7_unlatched (ctx : CircuitBreakerContext) :
    Unlatched (Cb7AgentOrdersPerMinute.check ctx) := by
  unfold Cb7AgentOrdersPerMinute.check
  split
  · exact Or.inl rfl
  · exact rejectWhen_unlatched _ _ (by decide)

private theorem cb10_unlatched (ctx : CircuitBreakerContext) :
    Unlatched (Cb10DryRunBypass.check ctx) := by
  unfold Cb10DryRunBypass.check
  split
  · exact Or.inl rfl
  · exact rejectWhen_unlatched _ _ (by decide)

theorem latchedResult_cases (bank : CircuitBreakerBank) :
    (bank.latchedResult = none ∧ ∀ id, tripped bank id = false) ∨
      ∃ id result, Blocks id result ∧ bank.latchedResult = some result ∧ trip bank id = bank := by
  by_cases daily : bank.cb4.isTripped = true
  · exact Or.inr ⟨.cb4, cb4Latched, ⟨_, rfl⟩, by simp [latchedResult, daily], trip_of_tripped daily⟩
  by_cases hourly : bank.cb5.isTripped = true
  · exact Or.inr ⟨.cb5, cb5Latched, ⟨_, rfl⟩, by simp [latchedResult, daily, hourly],
      trip_of_tripped hourly⟩
  by_cases gross : bank.cb3.isTripped = true
  · exact Or.inr ⟨.cb3, cb3Latched, ⟨_, rfl⟩, by simp [latchedResult, daily, hourly, gross],
      trip_of_tripped gross⟩
  refine Or.inl ⟨by simp [latchedResult, daily, hourly, gross], fun id => ?_⟩
  cases id <;> simp [tripped, daily, hourly, gross]

/-- One reset: an error changes nothing, a success lowers the named latch and no other. -/
private theorem reset_tripped (bank : CircuitBreakerBank) (breakerId : String) (reason : ResetReason)
    (id : LatchId) : tripped (bank.reset breakerId reason).1 id = true ↔
      tripped bank id = true ∧ ¬ (breakerId = id.text ∧ (bank.reset breakerId reason).2 = .ok ()) := by
  unfold CircuitBreakerBank.reset
  split
  · cases id <;> simp_all [tripped, LatchId.text, Latch.reset, Latch.isTripped]
  · split
    · cases reason <;> cases id <;> simp_all [tripped, LatchId.text, Latch.reset, Latch.isTripped]
    · split
      · cases id <;> simp_all [tripped, LatchId.text, Latch.reset, Latch.isTripped]
      · cases id <;> simp_all [LatchId.text]

theorem reset_error_unchanged (bank : CircuitBreakerBank)
    (failed : (bank.reset breakerId reason).2 = .error error) :
    (bank.reset breakerId reason).1 = bank := by
  unfold CircuitBreakerBank.reset at failed ⊢
  split at failed
  · cases failed
  · split at failed
    · cases reason with
      | manualOperator operator => simp_all
      | cioApproval approver => cases failed
    · split at failed
      · cases failed
      · simp_all

/-- A daily loss halt is lifted by the CIO only. -/
theorem reset_cb4_ok (bank : CircuitBreakerBank) (done : (bank.reset "CB-4" reason).2 = .ok ()) :
    ∃ approver, reason = .cioApproval approver := by
  cases reason with
  | manualOperator operator => simp [CircuitBreakerBank.reset] at done
  | cioApproval approver => exact ⟨approver, rfl⟩

section Checks
variable [LibraryText]

private theorem cb1_unlatched (ctx : CircuitBreakerContext) :
    Unlatched (Cb1MaxSingleOrderNotional.check ctx) := by
  unfold Cb1MaxSingleOrderNotional.check
  split
  · exact Or.inl rfl
  · split
    · exact Or.inl rfl
    · exact rejectWhen_unlatched _ _ (by decide)

private theorem cb2_unlatched (ctx : CircuitBreakerContext) :
    Unlatched (Cb2MaxInstrumentPosition.check ctx) := by
  unfold Cb2MaxInstrumentPosition.check
  split
  · exact Or.inl rfl
  · split
    · exact Or.inl rfl
    · exact rejectWhen_unlatched _ _ (by decide)

private theorem cb8_unlatched (ctx : CircuitBreakerContext) :
    Unlatched (Cb8VenueErrorRate.check ctx) := by
  unfold Cb8VenueErrorRate.check
  split
  · exact Or.inl rfl
  · split
    · exact Or.inl rfl
    · split
      · exact rejectWhen_unlatched _ _ (by decide)
      · exact Or.inl rfl

private theorem cb9_unlatched (ctx : CircuitBreakerContext) :
    Unlatched (Cb9VenueDisconnected.check ctx) := by
  have rejected (reason : String) : Unlatched (.reject "CB-9" reason) :=
    Or.inr ⟨"CB-9", reason, rfl, by decide⟩
  unfold Cb9VenueDisconnected.check
  split
  · exact Or.inl rfl
  · dsimp only
    split
    · exact rejected _
    · split
      · split
        · exact rejected _
        · split
          · exact rejected _
          · exact rejectWhen_unlatched _ _ (by decide)
      · exact rejected _

/-- No check after the loss and gross breakers answers in the name of a latch. -/
theorem perOrderResult_unlatched (ctx : CircuitBreakerContext) : Unlatched (perOrderResult ctx) := by
  have cb1 : Unlatched (if ctx.operationKind = .reduceOnly then .pass
      else Cb1MaxSingleOrderNotional.check ctx) := by
    split
    · exact Or.inl rfl
    · exact cb1_unlatched ctx
  exact (rejectWhen_unlatched _ _ (by decide)).andThen <| cb1.andThen <|
    (cb2_unlatched ctx).andThen <| (rejectWhen_unlatched _ _ (by decide)).andThen <|
    (cb7_unlatched ctx).andThen <| (cb8_unlatched ctx).andThen <| cb9_unlatched ctx

theorem checkAll_cancel (bank : CircuitBreakerBank) (kind : ctx.operationKind = .cancel) :
    bank.checkAll ctx = (bank, .pass) := by
  simp [checkAll, kind]

/-- A reduce-only check meets no latch and sets none. -/
theorem checkAll_reduceOnly (bank : CircuitBreakerBank) (kind : ctx.operationKind = .reduceOnly) :
    bank.checkAll ctx = (bank, (Cb10DryRunBypass.check ctx).andThen (perOrderResult ctx)) := by
  cases dryRun : Cb10DryRunBypass.check ctx <;>
    simp [checkAll, kind, dryRun, CircuitBreakerResult.andThen]

private theorem lossCheck_cases (untripped : breaker.isTripped = false) :
    lossCheck latched name period pnl pct breaker ctx = .pass ∨
      ∃ reason, lossCheck latched name period pnl pct breaker ctx = .haltAll name reason := by
  simp only [lossCheck, untripped, Bool.false_eq_true, if_false]
  split
  · exact Or.inl rfl
  · split
    · exact Or.inr ⟨_, rfl⟩
    · exact Or.inl rfl

private theorem cb3_cases (untripped : breaker.isTripped = false) :
    Cb3MaxFirmGrossNotional.check breaker ctx = .pass ∨
      ∃ reason, Cb3MaxFirmGrossNotional.check breaker ctx = .reject "CB-3" reason := by
  simp only [Cb3MaxFirmGrossNotional.check, untripped, Bool.false_eq_true, if_false, rejectWhen]
  split
  · exact Or.inr ⟨_, rfl⟩
  · exact Or.inl rfl

/-- Fresh evaluation passes and changes nothing, or raises the latch it names. -/
private theorem freshResult_cases (bank : CircuitBreakerBank) (ctx : CircuitBreakerContext)
    (clear : ∀ id, tripped bank id = false) :
    bank.freshResult ctx = (bank, .pass) ∨
      ∃ id result, Blocks id result ∧ bank.freshResult ctx = (trip bank id, result) := by
  unfold freshResult
  rcases lossCheck_cases (clear .cb4) with daily | ⟨reason, daily⟩ <;>
    rw [Cb4FirmDailyLoss.check, daily]
  · rcases lossCheck_cases (clear .cb5) with hourly | ⟨reason, hourly⟩ <;>
      rw [Cb5FirmHourlyLoss.check, hourly]
    · rcases cb3_cases (clear .cb3) with gross | ⟨reason, gross⟩ <;> rw [gross]
      · exact Or.inl rfl
      · exact Or.inr ⟨.cb3, _, ⟨reason, rfl⟩, rfl⟩
    · exact Or.inr ⟨.cb5, _, ⟨reason, rfl⟩, rfl⟩
  · exact Or.inr ⟨.cb4, _, ⟨reason, rfl⟩, rfl⟩

/-- A new order is blocked in the name of a latch, which is up afterwards, or
every latch is down and stays down. -/
theorem checkAll_newOrder (bank : CircuitBreakerBank) (kind : ctx.operationKind = .newOrder) :
    (∃ id, Blocks id (bank.checkAll ctx).2 ∧ (bank.checkAll ctx).1 = trip bank id) ∨
      (Unlatched (bank.checkAll ctx).2 ∧ (bank.checkAll ctx).1 = bank ∧
        ∀ id, tripped bank id = false) := by
  rcases latchedResult_cases bank with ⟨none, clear⟩ | ⟨id, result, blocks, latched, same⟩
  · rcases cb10_unlatched ctx with dryRun | ⟨breaker, reason, dryRun, other⟩
    · rcases freshResult_cases bank ctx clear with fresh | ⟨id, result, blocks, fresh⟩
      · right
        simpa [checkAll, kind, none, dryRun, fresh, clear] using perOrderResult_unlatched ctx
      · left
        have shape : bank.checkAll ctx = (trip bank id, result) := by
          have stopped := blocks.not_pass
          cases result <;> simp_all [checkAll]
        exact ⟨id, by rw [shape]; exact blocks, by rw [shape]⟩
    · have rejected : Unlatched (.reject breaker reason) := Or.inr ⟨breaker, reason, rfl, other⟩
      right
      simpa [checkAll, kind, none, dryRun, clear] using rejected
  · left
    have shape : bank.checkAll ctx = (bank, result) := by simp [checkAll, kind, latched]
    exact ⟨id, by rw [shape]; exact blocks, by rw [shape, same]⟩

inductive Call where
  | check (ctx : CircuitBreakerContext)
  | reset (breakerId : String) (reason : ResetReason)

inductive Answer where
  | checked (result : CircuitBreakerResult)
  | reset (done : Except RiskError Unit)

def answer (bank : CircuitBreakerBank) : Call → CircuitBreakerBank × Answer
  | .check ctx => ((bank.checkAll ctx).1, .checked (bank.checkAll ctx).2)
  | .reset breakerId reason => ((bank.reset breakerId reason).1, .reset (bank.reset breakerId reason).2)

/-- A run on a new bank. -/
abbrev BankRun : List (Call × Answer) → CircuitBreakerBank → Prop := Path (Answers answer) new

/-- A check was blocked in the name of this latch. -/
def Trips (id : LatchId) (entry : Call × Answer) : Prop :=
  ∃ ctx result, entry = (.check ctx, .checked result) ∧ Blocks id result

/-- A reset of this breaker succeeded. -/
def Clears (id : LatchId) (entry : Call × Answer) : Prop :=
  ∃ reason, entry = (.reset id.text reason, .reset (.ok ()))

/-- Checks of cancels and of reduce-only orders leave the bank as it was. -/
theorem checkAll_unchanged (bank : CircuitBreakerBank) (kind : ctx.operationKind ≠ .newOrder) :
    (bank.checkAll ctx).1 = bank := by
  cases operation : ctx.operationKind with
  | newOrder => exact absurd operation kind
  | cancel => rw [checkAll_cancel bank operation]
  | reduceOnly => rw [checkAll_reduceOnly bank operation]

private theorem checkAll_tripped (bank : CircuitBreakerBank) (ctx : CircuitBreakerContext)
    (id : LatchId) : tripped (bank.checkAll ctx).1 id = true ↔
      Blocks id (bank.checkAll ctx).2 ∨ tripped bank id = true := by
  cases operation : ctx.operationKind with
  | newOrder =>
    rcases checkAll_newOrder bank operation with ⟨other, blocks, moved⟩ | ⟨unlatched, same, clear⟩
    · rw [moved, tripped_trip]
      constructor
      · rintro (rfl | up)
        · exact Or.inl blocks
        · exact Or.inr up
      · rintro (blocks' | up)
        · exact Or.inl (blocks'.unique blocks)
        · exact Or.inr up
    · simp [same, clear, unlatched.not_blocks id]
  | cancel => simp [checkAll_cancel bank operation, Unlatched.of_pass.not_blocks id]
  | reduceOnly =>
    have unlatched := (cb10_unlatched ctx).andThen (perOrderResult_unlatched ctx)
    simp [checkAll_reduceOnly bank operation, unlatched.not_blocks id]

/-- One call moves a latch exactly as its own entry says. -/
theorem answer_tripped (bank : CircuitBreakerBank) (call : Call) (id : LatchId) :
    tripped (answer bank call).1 id = true ↔ Trips id (call, (answer bank call).2) ∨
      tripped bank id = true ∧ ¬ Clears id (call, (answer bank call).2) := by
  cases call with
  | check ctx => simp [answer, checkAll_tripped, Trips, Clears]
  | reset breakerId reason => simp [answer, reset_tripped, Trips, Clears]

/-- A latch is up exactly while its last trip has not been reset. -/
theorem tripped_iff_standing (run : BankRun trace bank) (id : LatchId) :
    tripped bank id = true ↔ Standing (Trips id) (Clears id) trace := by
  refine Path.flag_iff_standing (fun bank => tripped bank id = true) ?_ ?_ run
  · cases id <;> simp [tripped, new, Latch.new, Latch.isTripped]
  · rintro bank ⟨call, answered⟩ next move
    have moved : answer bank call = (next, answered) := move
    have result := answer_tripped bank call id
    rwa [moved] at result

/-- No new order passes while a latch is up. -/
theorem newOrder_blocked (bank : CircuitBreakerBank) (id : LatchId) (kind : ctx.operationKind = .newOrder)
    (up : tripped bank id = true) : (bank.checkAll ctx).2 ≠ .pass := by
  rcases checkAll_newOrder bank kind with ⟨other, blocks, -⟩ | ⟨-, -, clear⟩
  · exact blocks.not_pass
  · simp [clear] at up

/-- A daily loss beyond the cap halts, whatever the later checks would say. -/
theorem checkAll_daily_loss (bank : CircuitBreakerBank) (clear : ∀ id, tripped bank id = false)
    (kind : ctx.operationKind = .newOrder) (dryRun : Cb10DryRunBypass.check ctx = .pass)
    (nav : 0 < ctx.firmBook.nav)
    (loss : ctx.firmBook.dailyPnl < -(ctx.config.maxDailyLossPct * ctx.firmBook.nav)) :
    Blocks .cb4 (bank.checkAll ctx).2 ∧ (bank.checkAll ctx).1 = trip bank .cb4 := by
  have untripped : bank.cb4.isTripped = false := clear .cb4
  have none : bank.latchedResult = none := by
    have hourly : bank.cb5.isTripped = false := clear .cb5
    have gross : bank.cb3.isTripped = false := clear .cb3
    simp [latchedResult, untripped, hourly, gross]
  have positive : ¬ ctx.firmBook.nav ≤ 0 := not_le.mpr nav
  obtain ⟨reason, halted⟩ : ∃ reason, Cb4FirmDailyLoss.check bank.cb4 ctx = .haltAll "CB-4" reason := by
    simp [Cb4FirmDailyLoss.check, lossCheck, untripped, positive, loss]
  have shape : bank.checkAll ctx = (trip bank .cb4, .haltAll "CB-4" reason) := by
    simp [checkAll, kind, none, dryRun, freshResult, halted, trip]
  exact ⟨⟨reason, by rw [shape]⟩, by rw [shape]⟩

/-- Halts latch over whole traces: after a trip no new order passes until that
breaker is reset, which for the daily loss takes the CIO; failed resets and
checks of other kinds move nothing; the halt is active exactly while the last
trip of a loss breaker has not been reset. -/
theorem halts_latch (run : BankRun trace bank) :
    (∀ id before trip between ctx result after,
      trace = before ++ trip :: (between ++ (.check ctx, .checked result) :: after) →
      Trips id trip → (∀ entry ∈ between, ¬ Clears id entry) → ctx.operationKind = .newOrder →
      result ≠ .pass) ∧
    (∀ reason, (Call.reset "CB-4" reason, Answer.reset (.ok ())) ∈ trace →
      ∃ approver, reason = .cioApproval approver) ∧
    (∀ breakerId reason error, (bank.reset breakerId reason).2 = .error error →
      (bank.reset breakerId reason).1 = bank) ∧
    (∀ ctx, ctx.operationKind ≠ .newOrder → (bank.checkAll ctx).1 = bank) ∧
    (bank.isHaltActive = true ↔ Standing (Trips .cb4) (Clears .cb4) trace ∨
      Standing (Trips .cb5) (Clears .cb5) trace) := by
  refine ⟨?_, ?_, fun _ _ _ => reset_error_unchanged bank, fun _ => checkAll_unchanged bank, ?_⟩
  · intro id before trip between ctx result after shape trips kept kind
    rw [shape, ← List.cons_append, ← List.append_assoc] at run
    obtain ⟨earlier, next, prior, answered, -⟩ := run.at_label
    have up := (tripped_iff_standing prior id).mpr ⟨before, trip, between, rfl, trips, kept⟩
    obtain ⟨-, rfl⟩ : (earlier.checkAll ctx).1 = next ∧ (earlier.checkAll ctx).2 = result := by
      simpa [Answers, answer] using answered
    exact newOrder_blocked earlier id kind up
  · intro reason member
    obtain ⟨before, after, shape⟩ := List.append_of_mem member
    rw [shape] at run
    obtain ⟨earlier, next, -, answered, -⟩ := run.at_label
    have done : (earlier.reset "CB-4" reason).1 = next ∧
        (earlier.reset "CB-4" reason).2 = .ok () := by
      simpa [Answers, answer] using answered
    exact reset_cb4_ok earlier done.2
  · rw [← tripped_iff_standing run, ← tripped_iff_standing run]
    simp [isHaltActive, tripped]

end Checks

/-- The bank after the tests' daily loss of a little over five percent. -/
def haltedBank : CircuitBreakerBank :=
  (@checkAll wholeText new (testContext none (testFirmBook (-50001)) .newOrder)).1

private theorem haltedBank_spec : Blocks .cb4 (@checkAll wholeText new
      (testContext none (testFirmBook (-50001)) .newOrder)).2 ∧ haltedBank = trip new .cb4 := by
  refine @checkAll_daily_loss wholeText _ new ?_ rfl rfl ?_ ?_
  · intro id
    cases id <;> rfl
  · norm_num [testContext, testFirmBook]
  · norm_num [testContext, testFirmBook, testConfig]

theorem haltedBank_isHaltActive : haltedBank.isHaltActive = true := by
  rw [haltedBank_spec.2]
  rfl

theorem haltedBank_run : ∃ reason, @BankRun wholeText
    [(.check (testContext none (testFirmBook (-50001)) .newOrder), .checked (.haltAll "CB-4" reason))]
    haltedBank := by
  obtain ⟨⟨reason, halted⟩, -⟩ := haltedBank_spec
  have fresh : @BankRun wholeText [] new := .start
  exact ⟨reason, fresh.step (Prod.ext rfl (congrArg Answer.checked halted))⟩

/-- On a recovered book the next order is still blocked. -/
theorem halts_latch_after_daily_loss :
    (@checkAll wholeText haltedBank (testContext none (testFirmBook 0) .newOrder)).2 ≠ .pass := by
  obtain ⟨reason, run⟩ := haltedBank_run
  have answered : Answers (@answer wholeText) haltedBank
      (.check (testContext none (testFirmBook 0) .newOrder), _) _ := rfl
  have next := run.step answered
  exact (@halts_latch wholeText _ _ next).1 .cb4 [] _ [] _ _ [] rfl
    ⟨_, _, rfl, reason, rfl⟩ (by simp) rfl

end FeynmanEngine.CircuitBreakerLatches
