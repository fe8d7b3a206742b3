import FeynmanEngine.CircuitBreakerLatches

/-! What each breaker guards, stated without its check, and the verdict of the
whole bank on a new order: it passes when no latch is up and every condition
holds, and otherwise names a breaker that has a reason. -/
namespace FeynmanEngine.CircuitBreakerVerdicts
open Ids Orders Tables Portfolio CircuitBreaker CircuitBreakerBank CircuitBreakerLatches Traces

/-- The eleven breakers. -/
inductive BreakerId where
  | cb1
  | cb2
  | cb3
  | cb4
  | cb5
  | cb6
  | cb7
  | cb8
  | cb9
  | cb10
  | cb11
  deriving DecidableEq

def BreakerId.text : BreakerId → String
  | .cb1 => "CB-1"
  | .cb2 => "CB-2"
  | .cb3 => "CB-3"
  | .cb4 => "CB-4"
  | .cb5 => "CB-5"
  | .cb6 => "CB-6"
  | .cb7 => "CB-7"
  | .cb8 => "CB-8"
  | .cb9 => "CB-9"
  | .cb10 => "CB-10"
  | .cb11 => "CB-11"

/-- The breaker a latch belongs to. -/
def breakerOf : LatchId → BreakerId
  | .cb3 => .cb3
  | .cb4 => .cb4
  | .cb5 => .cb5

/-- The venue is connected, and its last heartbeat is neither in the future nor
too long ago, in whole seconds. -/
def VenueAlive (ctx : CircuitBreakerContext) (venue : VenueId) : Prop :=
  ∃ health lastHeartbeat, ctx.venueHealth.lookup venue = some health ∧ health.state = .connected ∧
    health.lastHeartbeatAt = some lastHeartbeat ∧
    0 ≤ numSeconds (ctx.clockNow.nanos - lastHeartbeat.nanos) ∧
    numSeconds (ctx.clockNow.nanos - lastHeartbeat.nanos) ≤ ctx.config.maxVenueDisconnectSecs

/-- What a breaker asks of a context with an order at this price. -/
def Holds (ctx : CircuitBreakerContext) (core : OrderCore) (price : Decimal) : BreakerId → Prop
  | .cb1 => core.qty * price ≤ ctx.config.maxSingleOrderNotional
  | .cb2 => projectedGross ctx.firmBook core (core.qty * price) ≤ ctx.config.maxInstrumentPositionNotional
  | .cb3 => ctx.firmBook.grossNotional ≤ ctx.config.maxFirmGrossNotional
  | .cb4 => -(ctx.config.maxDailyLossPct * ctx.firmBook.nav) ≤ ctx.firmBook.dailyPnl
  | .cb5 => -(ctx.config.maxHourlyLossPct * ctx.firmBook.nav) ≤ ctx.firmBook.hourlyPnl
  | .cb6 => ctx.firmOrdersLast60s ≤ ctx.config.maxFirmOrdersPerMin
  | .cb7 => (ctx.agentOrdersLast60s.lookup core.agentId).getD 0 ≤ ctx.config.maxAgentOrdersPerMin
  -- a venue without recorded traffic has no error rate
  | .cb8 => ∀ stats, ctx.venueErrorStats.lookup core.venueId = some stats → 0 < stats.totalLast5min →
      (stats.errorsLast5min : Decimal) / stats.totalLast5min ≤ ctx.config.maxVenueErrorRate
  | .cb9 => VenueAlive ctx core.venueId
  | .cb10 => ctx.executionMode ≠ .live → core.dryRun = true
  | .cb11 => ctx.sequencerQueueDepth ≤ ctx.config.maxSequencerQueueDepth

/-- The result blocks in the name of a breaker. -/
def Names (id : BreakerId) (result : CircuitBreakerResult) : Prop :=
  ∃ reason, result = .reject id.text reason ∨ result = .haltAll id.text reason

/-- A result passes and all these conditions hold, or it names one that does not. -/
def Settles (holds : BreakerId → Prop) (ids : List BreakerId) (result : CircuitBreakerResult) : Prop :=
  (result = .pass ∧ ∀ id ∈ ids, holds id) ∨ ∃ id ∈ ids, Names id result ∧ ¬ holds id

variable {breaker : BreakerId}

theorem Names.not_pass (names : Names breaker result) : result ≠ .pass := by
  obtain ⟨reason, rfl | rfl⟩ := names <;> simp

theorem names_of_blocks {id : LatchId} (blocks : Blocks id result) : Names (breakerOf id) result := by
  cases id <;> obtain ⟨reason, rfl⟩ := blocks
  · exact ⟨reason, Or.inl rfl⟩
  · exact ⟨reason, Or.inr rfl⟩
  · exact ⟨reason, Or.inr rfl⟩

theorem Settles.of_pass (holding : holds breaker) : Settles holds [breaker] .pass :=
  Or.inl ⟨rfl, fun _ member => List.mem_singleton.mp member ▸ holding⟩

theorem Settles.of_names (names : Names breaker result) (violated : ¬ holds breaker) :
    Settles holds [breaker] result :=
  Or.inr ⟨breaker, List.mem_singleton.mpr rfl, names, violated⟩

/-- The next check settles its conditions once the first has passed. -/
theorem Settles.andThen (first : Settles holds ids result) (second : Settles holds others next) :
    Settles holds (ids ++ others) (result.andThen next) := by
  rcases first with ⟨rfl, here⟩ | ⟨id, member, names, violated⟩
  · rcases second with ⟨rfl, there⟩ | ⟨id, member, names, violated⟩
    · refine Or.inl ⟨rfl, fun id member => ?_⟩
      rcases List.mem_append.mp member with left | right
      · exact here id left
      · exact there id right
    · exact Or.inr ⟨id, List.mem_append_right _ member, names, violated⟩
  · refine Or.inr ⟨id, List.mem_append_left _ member, ?_, violated⟩
    obtain ⟨reason, rfl | rfl⟩ := names
    · exact ⟨reason, Or.inl rfl⟩
    · exact ⟨reason, Or.inr rfl⟩

theorem Settles.rejectWhen [Decidable violated] (reason : String) (agrees : violated ↔ ¬ holds breaker) :
    Settles holds [breaker] (rejectWhen violated breaker.text reason) := by
  by_cases broken : violated
  · rw [CircuitBreaker.rejectWhen, if_pos broken]
    exact .of_names ⟨reason, Or.inl rfl⟩ (agrees.mp broken)
  · rw [CircuitBreaker.rejectWhen, if_neg broken]
    exact .of_pass (not_not.mp fun none => broken (agrees.mpr none))

section Checks
variable [LibraryText] {ctx : CircuitBreakerContext} {order : PipelineOrder Validated} {price : Decimal}
variable (carries : ctx.order = some order) (priced : order.core.price = some price) (positive : 0 < price)

include carries priced positive in
theorem cb1_settles :
    Settles (Holds ctx order.core price) [.cb1] (Cb1MaxSingleOrderNotional.check ctx) := by
  simp only [Cb1MaxSingleOrderNotional.check, carries, pricedNotional, priced, positive, if_true]
  refine .rejectWhen _ ?_
  exact not_le.symm

include carries priced positive in
theorem cb2_settles :
    Settles (Holds ctx order.core price) [.cb2] (Cb2MaxInstrumentPosition.check ctx) := by
  simp only [Cb2MaxInstrumentPosition.check, carries, pricedNotional, priced, positive, if_true]
  refine .rejectWhen _ ?_
  exact not_le.symm

theorem cb3_settles {latch : Latch} (clear : latch.isTripped = false) :
    Settles (Holds ctx order.core price) [.cb3] (Cb3MaxFirmGrossNotional.check latch ctx) := by
  simp only [Cb3MaxFirmGrossNotional.check, clear, Bool.false_eq_true, if_false]
  refine .rejectWhen _ ?_
  exact not_le.symm

/-- Both loss breakers, by what their condition says. -/
theorem lossCheck_settles {latch : Latch} (clear : latch.isTripped = false) (nav : 0 < ctx.firmBook.nav)
    (condition : Holds ctx order.core price breaker ↔ -(maxLossPct * ctx.firmBook.nav) ≤ pnl) :
    Settles (Holds ctx order.core price) [breaker]
      (lossCheck latched breaker.text period pnl maxLossPct latch ctx) := by
  simp only [lossCheck, clear, Bool.false_eq_true, if_false, not_le.mpr nav]
  split
  · rename_i lost
    exact .of_names ⟨_, Or.inr rfl⟩ fun holds => not_lt.mpr (condition.mp holds) lost
  · rename_i kept
    exact .of_pass (condition.mpr (not_lt.mp kept))

omit [LibraryText] in
theorem cb6_settles :
    Settles (Holds ctx order.core price) [.cb6] (Cb6FirmOrdersPerMinute.check ctx) := by
  refine .rejectWhen _ ?_
  exact not_le.symm

omit [LibraryText] in
include carries in
theorem cb7_settles :
    Settles (Holds ctx order.core price) [.cb7] (Cb7AgentOrdersPerMinute.check ctx) := by
  simp only [Cb7AgentOrdersPerMinute.check, carries]
  refine .rejectWhen _ ?_
  exact not_le.symm

include carries in
theorem cb8_settles :
    Settles (Holds ctx order.core price) [.cb8] (Cb8VenueErrorRate.check ctx) := by
  simp only [Cb8VenueErrorRate.check, carries]
  cases recorded : ctx.venueErrorStats.lookup order.core.venueId with
  | none =>
    refine .of_pass fun stats found => ?_
    rw [recorded] at found
    cases found
  | some stats =>
    dsimp only
    split
    · rename_i traffic
      refine .rejectWhen _ ?_
      simp [Holds, recorded, traffic]
    · rename_i silent
      refine .of_pass fun other found traffic => ?_
      obtain rfl := Option.some.inj (recorded.symm.trans found)
      exact absurd traffic silent

include carries in
/-- Without a health record, a connection or a heartbeat the breaker rejects. -/
theorem cb9_settles :
    Settles (Holds ctx order.core price) [.cb9] (Cb9VenueDisconnected.check ctx) := by
  have rejected (reason : String) (dead : ¬ VenueAlive ctx order.core.venueId) :
      Settles (Holds ctx order.core price) [.cb9] (.reject "CB-9" reason) :=
    .of_names ⟨reason, Or.inl rfl⟩ dead
  simp only [Cb9VenueDisconnected.check, carries]
  cases recorded : ctx.venueHealth.lookup order.core.venueId with
  | none =>
    apply rejected
    rintro ⟨health, -, found, -⟩
    rw [recorded] at found
    cases found
  | some health =>
    dsimp only
    have same {other : VenueConnectionHealth}
        (found : ctx.venueHealth.lookup order.core.venueId = some other) : other = health :=
      Option.some.inj (found.symm.trans recorded)
    split
    · rename_i submittable
      have connected : health.state = .connected := of_decide_eq_true submittable
      cases beat : health.lastHeartbeatAt with
      | none =>
        apply rejected
        rintro ⟨other, lastHeartbeat, found, -, beats, -⟩
        rw [same found, beat] at beats
        cases beats
      | some lastHeartbeat =>
        dsimp only
        have alive : VenueAlive ctx order.core.venueId ↔
            0 ≤ numSeconds (ctx.clockNow.nanos - lastHeartbeat.nanos) ∧
            numSeconds (ctx.clockNow.nanos - lastHeartbeat.nanos) ≤ ctx.config.maxVenueDisconnectSecs := by
          constructor
          · rintro ⟨other, heartbeat, found, -, beats, age⟩
            rw [same found, beat] at beats
            rwa [← Option.some.inj beats] at age
          · exact fun age => ⟨health, lastHeartbeat, recorded, connected, beat, age⟩
        split
        · rename_i future
          exact rejected _ fun living => absurd (alive.mp living).1 (not_le.mpr future)
        · rename_i past
          refine .rejectWhen _ ?_
          show _ ↔ ¬ VenueAlive ctx order.core.venueId
          rw [alive]
          omega
    · rename_i unsubmittable
      apply rejected
      rintro ⟨other, -, found, connected, -⟩
      rw [same found] at connected
      exact unsubmittable (decide_eq_true connected)

omit [LibraryText] in
include carries in
theorem cb10_settles :
    Settles (Holds ctx order.core price) [.cb10] (Cb10DryRunBypass.check ctx) := by
  simp only [Cb10DryRunBypass.check, carries]
  refine .rejectWhen _ ?_
  cases dryRun : order.core.dryRun <;> simp [Holds, dryRun]

omit [LibraryText] in
theorem cb11_settles :
    Settles (Holds ctx order.core price) [.cb11] (Cb11SequencerQueueDepth.check ctx) := by
  refine .rejectWhen _ ?_
  exact not_le.symm

/-- The order in which the bank asks its breakers. -/
def checkOrder : List BreakerId := [.cb10, .cb4, .cb5, .cb3, .cb11, .cb1, .cb2, .cb6, .cb7, .cb8, .cb9]

omit [LibraryText] in
theorem mem_checkOrder (breaker : BreakerId) : breaker ∈ checkOrder := by
  cases breaker <;> decide

/-- Fresh evaluation answers as the three checks in a row. -/
theorem freshResult_snd (bank : CircuitBreakerBank) (ctx : CircuitBreakerContext) :
    (bank.freshResult ctx).2 = (Cb4FirmDailyLoss.check bank.cb4 ctx).andThen
      ((Cb5FirmHourlyLoss.check bank.cb5 ctx).andThen (Cb3MaxFirmGrossNotional.check bank.cb3 ctx)) := by
  unfold freshResult
  cases Cb4FirmDailyLoss.check bank.cb4 ctx with
  | reject | haltAll => rfl
  | pass =>
    cases Cb5FirmHourlyLoss.check bank.cb5 ctx with
    | reject | haltAll => rfl
    | pass => cases Cb3MaxFirmGrossNotional.check bank.cb3 ctx <;> rfl

/-- Without a latch the bank answers as all its checks in a row. -/
theorem checkAll_snd (bank : CircuitBreakerBank) (kind : ctx.operationKind = .newOrder)
    (unlatched : bank.latchedResult = none) :
    (bank.checkAll ctx).2 = (Cb10DryRunBypass.check ctx).andThen
      ((bank.freshResult ctx).2.andThen (perOrderResult ctx)) := by
  simp only [checkAll, kind, unlatched, reduceCtorEq, if_false]
  cases Cb10DryRunBypass.check ctx with
  | reject | haltAll => rfl
  | pass =>
    obtain ⟨after, result⟩ := bank.freshResult ctx
    cases result <;> rfl

include carries priced positive in
/-- All eleven checks settle all eleven conditions. -/
theorem checks_settle (bank : CircuitBreakerBank) (clear : ∀ id, tripped bank id = false)
    (kind : ctx.operationKind = .newOrder) (nav : 0 < ctx.firmBook.nav) :
    Settles (Holds ctx order.core price) checkOrder
      ((Cb10DryRunBypass.check ctx).andThen ((bank.freshResult ctx).2.andThen (perOrderResult ctx))) := by
  have daily : Settles (Holds ctx order.core price) [.cb4] (Cb4FirmDailyLoss.check bank.cb4 ctx) :=
    lossCheck_settles (clear .cb4) nav Iff.rfl
  have hourly : Settles (Holds ctx order.core price) [.cb5] (Cb5FirmHourlyLoss.check bank.cb5 ctx) :=
    lossCheck_settles (clear .cb5) nav Iff.rfl
  have fresh := daily.andThen (hourly.andThen (cb3_settles (clear .cb3)))
  have counted := (cb1_settles carries priced positive).andThen <|
    (cb2_settles carries priced positive).andThen <| cb6_settles.andThen <|
    (cb7_settles carries).andThen <| (cb8_settles carries).andThen <| cb9_settles carries
  rw [freshResult_snd]
  unfold perOrderResult
  rw [if_neg (by simp [kind])]
  exact (cb10_settles carries).andThen (fresh.andThen (cb11_settles.andThen counted))

include carries priced positive in
/-- The bank's verdict on a new order: it passes exactly when no breaker is
latched and every condition holds, it otherwise names a breaker with a reason,
and only the latch it names can have moved. -/
theorem checkAll_sound_and_complete (bank : CircuitBreakerBank) (kind : ctx.operationKind = .newOrder)
    (nav : 0 < ctx.firmBook.nav) :
    ((bank.checkAll ctx).2 = .pass ↔
      (∀ id, tripped bank id = false) ∧ ∀ breaker, Holds ctx order.core price breaker) ∧
    ((bank.checkAll ctx).2 ≠ .pass → ∃ breaker, Names breaker (bank.checkAll ctx).2 ∧
      ((∃ id, breakerOf id = breaker ∧ tripped bank id = true) ∨ ¬ Holds ctx order.core price breaker)) ∧
    (∀ id, tripped (bank.checkAll ctx).1 id ≠ tripped bank id →
      Names (breakerOf id) (bank.checkAll ctx).2) := by
  have moved (id : LatchId) (differs : tripped (bank.checkAll ctx).1 id ≠ tripped bank id) :
      Names (breakerOf id) (bank.checkAll ctx).2 := by
    rcases checkAll_newOrder bank kind with ⟨other, blocks, raised⟩ | ⟨-, same, -⟩
    · have up := tripped_trip bank id other
      rw [raised] at differs
      by_cases named : id = other
      · exact named ▸ names_of_blocks blocks
      · refine absurd (Bool.eq_iff_iff.mpr ?_) differs
        rw [up]
        simp [named]
    · exact absurd (by rw [same]) differs
  rcases latchedResult_cases bank with ⟨unlatched, clear⟩ | ⟨id, result, blocks, latched, same⟩
  · have settled := checks_settle carries priced positive bank clear kind nav
    rw [← checkAll_snd bank kind unlatched] at settled
    rcases settled with ⟨pass, holds⟩ | ⟨breaker, -, names, violated⟩
    · refine ⟨⟨fun _ => ⟨clear, fun breaker => holds breaker (mem_checkOrder breaker)⟩, fun _ => pass⟩,
        fun blocked => absurd pass blocked, moved⟩
    · refine ⟨⟨fun pass => absurd pass names.not_pass, fun all => absurd (all.2 breaker) violated⟩,
        fun _ => ⟨breaker, names, Or.inr violated⟩, moved⟩
  · have up : tripped bank id = true := by
      rw [← same]
      exact (tripped_trip bank id id).mpr (Or.inl rfl)
    have shape : (bank.checkAll ctx).2 = result := by simp [checkAll, kind, latched]
    have names : Names (breakerOf id) (bank.checkAll ctx).2 := shape ▸ names_of_blocks blocks
    refine ⟨⟨fun pass => absurd pass names.not_pass, fun all => ?_⟩,
      fun _ => ⟨breakerOf id, names, Or.inl ⟨id, rfl, up⟩⟩, moved⟩
    rw [all.1 id] at up
    cases up

end Checks

/-- The tests' order passes a new bank. -/
theorem checkAll_sound_and_complete_on_test :
    (@checkAll wholeText new (testContext (some (testOrder 10 100)) (testFirmBook 0) .newOrder)).2 = .pass ∧
      Holds (testContext (some (testOrder 10 100)) (testFirmBook 0) .newOrder) (testOrder 10 100).core 100 .cb9 := by
  have passes : (@checkAll wholeText new
      (testContext (some (testOrder 10 100)) (testFirmBook 0) .newOrder)).2 = .pass := by decide +kernel
  have verdict := @checkAll_sound_and_complete wholeText
    (testContext (some (testOrder 10 100)) (testFirmBook 0) .newOrder) (testOrder 10 100) 100 rfl rfl
    (by decide +kernel) new rfl (by decide +kernel)
  exact ⟨passes, (verdict.1.mp passes).2 .cb9⟩

end FeynmanEngine.CircuitBreakerVerdicts
