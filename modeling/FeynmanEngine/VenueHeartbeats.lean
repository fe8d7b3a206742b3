import FeynmanEngine.HaltedRisk
import FeynmanEngine.CircuitBreakerVerdicts

/-! Heartbeats at the nanosecond. The disconnect breaker counts the time since
the last heartbeat in whole seconds, cut off towards zero, so each bound it
keeps is off by less than a second: a heartbeat may lie that much in the future,
and be that much older than the threshold. -/
namespace FeynmanEngine.VenueHeartbeats
open Ids Orders Portfolio CircuitBreaker CircuitBreakerBank CircuitBreakerLatches CircuitBreakerVerdicts
open HaltedRisk

def second : Int := 1000000000

/-- The order's venue is connected, its last heartbeat is not later than the
clock and not older than the threshold, to the nanosecond. -/
def FreshHeartbeat (ctx : CircuitBreakerContext) (venue : VenueId) : Prop :=
  ∃ health lastHeartbeat, ctx.venueHealth.lookup venue = some health ∧ health.state = .connected ∧
    health.lastHeartbeatAt = some lastHeartbeat ∧ lastHeartbeat.nanos ≤ ctx.clockNow.nanos ∧
    ctx.clockNow.nanos - lastHeartbeat.nanos ≤ ctx.config.maxVenueDisconnectSecs * second

/-- The heartbeat lies less than a second in the future, or is older than the
threshold by less than a second. -/
def Unresolved (ctx : CircuitBreakerContext) (lastHeartbeat : DateTime) : Prop :=
  (ctx.clockNow.nanos < lastHeartbeat.nanos ∧ lastHeartbeat.nanos - ctx.clockNow.nanos < second) ∨
    (ctx.config.maxVenueDisconnectSecs * second < ctx.clockNow.nanos - lastHeartbeat.nanos ∧
      ctx.clockNow.nanos - lastHeartbeat.nanos < (ctx.config.maxVenueDisconnectSecs + 1) * second)

/-- Past times are rounded down, future ones up. -/
theorem numSeconds_eq (nanos : Int) :
    numSeconds nanos = if 0 ≤ nanos then nanos / second else -(-nanos / second) := by
  unfold numSeconds
  split
  · next past => exact Int.tdiv_eq_ediv_of_nonneg past
  · next future =>
    have mirrored : (-nanos).tdiv second = -nanos / second := Int.tdiv_eq_ediv_of_nonneg (by omega)
    rw [← mirrored, Int.neg_tdiv, Int.neg_neg]
    rfl

theorem numSeconds_nonneg_iff (nanos : Int) : 0 ≤ numSeconds nanos ↔ -second < nanos := by
  rw [numSeconds_eq]
  unfold second
  split <;> omega

theorem numSeconds_le_iff (nanos : Int) (secs : Nat) : numSeconds nanos ≤ secs ↔ nanos < (secs + 1) * second := by
  rw [numSeconds_eq]
  unfold second
  split <;> omega

section Checks
variable [LibraryText] {ctx : CircuitBreakerContext} {order : PipelineOrder Validated}

theorem cb9_of_pass (bank : CircuitBreakerBank) (kind : ctx.operationKind ≠ .cancel)
    (pass : (bank.checkAll ctx).2 = .pass) : Cb9VenueDisconnected.check ctx = .pass := by
  cases operation : ctx.operationKind with
  | cancel => exact absurd operation kind
  | reduceOnly => exact (reduceOnly_passes_iff bank operation).mp pass _ (by simp [reduceOnlyChecks])
  | newOrder =>
    rcases latchedResult_cases bank with ⟨unlatched, -⟩ | ⟨id, result, blocks, latched, -⟩
    · rw [checkAll_snd bank operation unlatched] at pass
      simp only [CircuitBreakerResult.andThen_eq_pass, perOrderResult] at pass
      exact pass.2.2.2.2.2.2.2.2
    · have shape : (bank.checkAll ctx).2 = result := by simp [checkAll, operation, latched]
      exact absurd (shape.symm.trans pass) blocks.not_pass

/-- What a pass says of the venue: connected, and within a second of both bounds. -/
theorem venue_of_pass (bank : CircuitBreakerBank) (kind : ctx.operationKind ≠ .cancel)
    (carries : ctx.order = some order) (pass : (bank.checkAll ctx).2 = .pass) :
    ∃ health lastHeartbeat, ctx.venueHealth.lookup order.core.venueId = some health ∧
      health.state = .connected ∧ health.lastHeartbeatAt = some lastHeartbeat ∧
      -second < ctx.clockNow.nanos - lastHeartbeat.nanos ∧
      ctx.clockNow.nanos - lastHeartbeat.nanos < (ctx.config.maxVenueDisconnectSecs + 1) * second := by
  have alive : VenueAlive ctx order.core.venueId := by
    have settled : Settles (Holds ctx order.core 0) [.cb9] _ := cb9_settles carries
    rcases settled with ⟨-, holds⟩ | ⟨id, -, names, -⟩
    · exact holds .cb9 (List.mem_singleton.mpr rfl)
    · exact absurd (cb9_of_pass bank kind pass) names.not_pass
  obtain ⟨health, lastHeartbeat, recorded, connected, beat, lower, upper⟩ := alive
  exact ⟨health, lastHeartbeat, recorded, connected, beat, (numSeconds_nonneg_iff _).mp lower,
    (numSeconds_le_iff _ _).mp upper⟩

/-- A pass keeps the disconnect rule to the nanosecond exactly when the last
heartbeat is not within the second that the breaker cannot tell. -/
theorem disconnect_exact_iff (bank : CircuitBreakerBank) (kind : ctx.operationKind ≠ .cancel)
    (carries : ctx.order = some order) (pass : (bank.checkAll ctx).2 = .pass) :
    FreshHeartbeat ctx order.core.venueId ↔
      ∀ health lastHeartbeat, ctx.venueHealth.lookup order.core.venueId = some health →
        health.lastHeartbeatAt = some lastHeartbeat → ¬ Unresolved ctx lastHeartbeat := by
  obtain ⟨health, lastHeartbeat, recorded, connected, beat, lower, upper⟩ :=
    venue_of_pass bank kind carries pass
  have same {other : VenueConnectionHealth} {heartbeat : DateTime}
      (found : ctx.venueHealth.lookup order.core.venueId = some other)
      (beats : other.lastHeartbeatAt = some heartbeat) : heartbeat = lastHeartbeat := by
    obtain rfl := Option.some.inj (found.symm.trans recorded)
    exact Option.some.inj (beats.symm.trans beat)
  constructor
  · rintro ⟨other, heartbeat, found, -, beats, past, recent⟩ other' heartbeat' found' beats' unresolved
    rw [same found beats] at past recent
    rw [same found' beats'] at unresolved
    rcases unresolved with ⟨future, -⟩ | ⟨old, -⟩ <;> omega
  · intro resolved
    have clear := resolved health lastHeartbeat recorded beat
    unfold Unresolved at clear
    refine ⟨health, lastHeartbeat, recorded, connected, beat, ?_, ?_⟩ <;> omega

end Checks

/-- The tests' order on a venue with this last heartbeat, at the epoch plus so
many nanoseconds; the threshold is 30 seconds. -/
def beating (lastHeartbeat now : Int) : CircuitBreakerContext :=
  { testContext (some (testOrder 1 100)) (testFirmBook 0) .newOrder with
    venueHealth := (∅ : Tables.Table VenueId VenueConnectionHealth).insert ⟨"bybit"⟩
      { connectedVenueHealth with lastHeartbeatAt := some ⟨lastHeartbeat⟩ }
    clockNow := ⟨now⟩ }

theorem disconnect_exact_at_threshold :
    (@checkAll wholeText new (beating 0 30000000000)).2 = .pass ∧
      FreshHeartbeat (beating 0 30000000000) ⟨"bybit"⟩ := by
  have passes : (@checkAll wholeText new (beating 0 30000000000)).2 = .pass := by decide +kernel
  refine ⟨passes, (@disconnect_exact_iff wholeText _ (testOrder 1 100) new (by decide) rfl passes).mpr ?_⟩
  intro health lastHeartbeat recorded beats
  cases recorded
  cases beats
  unfold Unresolved second
  decide

/-- A heartbeat half a second in the future passes, and one that is older than
the threshold by half a second. -/
theorem half_seconds_pass :
    (@checkAll wholeText new (beating 500000000 0)).2 = .pass ∧
      ¬ FreshHeartbeat (beating 500000000 0) ⟨"bybit"⟩ ∧
    (@checkAll wholeText new (beating 0 30500000000)).2 = .pass ∧
      ¬ FreshHeartbeat (beating 0 30500000000) ⟨"bybit"⟩ := by
  refine ⟨by decide +kernel, ?_, by decide +kernel, ?_⟩
  · rintro ⟨health, lastHeartbeat, recorded, -, beats, past, -⟩
    cases recorded
    cases beats
    exact absurd past (by decide)
  · rintro ⟨health, lastHeartbeat, recorded, -, beats, -, recent⟩
    cases recorded
    cases beats
    exact absurd recent (by decide)

end FeynmanEngine.VenueHeartbeats
