import FeynmanEngine.Journal
import FeynmanEngine.OrderBookkeeping

/-! The core of the sequencer's tests: it approves every order unless told not
to, books fills on the order's record, and leaves the orders alone otherwise.
With a codec that stores values as they are it runs on the SQLite journal. -/
namespace FeynmanEngine.SequencerFixtures
open Ids Orders Events Tables Portfolio Engine Journal Sequencing CommandCases OrderBookkeeping

structure TestCore where
  state : EngineState
  rejectOrders : Bool

namespace TestCore

/-- `on_fill`: the fill is pushed before the overfill check. -/
def onFill (core : TestCore) (fill : Fill) (now : DateTime) : TestCore × Completion Unit :=
  match core.state.orders.lookup fill.orderId with
  | none => (core, .err (.orderNotFound fill.orderId.value))
  | some record =>
    if fill.qty ≤ 0 then (core, .err (.invalidTransition "fill quantity must be positive"))
    else
      let record := { record with fills := record.fills ++ [fill], lastUpdated := now }
      let filledQty := (record.fills.map Fill.qty).foldl (· + ·) 0
      let put (record : OrderRecord) : TestCore :=
        { core with state := { core.state with orders := core.state.orders.insert fill.orderId record } }
      if record.core.qty < filledQty then
        (put record, .err (.invalidTransition ("order " ++ record.core.id.value ++ " overfilled")))
      else
        (put { record with state := if filledQty = record.core.qty then .filled else .partiallyFilled },
          .ok ())

def reconciledPosition (report : ReconciliationReport) (divergence : PositionDivergence) :
    TrackedPosition where
  account := report.accountId
  qty := divergence.venueQty

/-- `on_reconciliation`: the venue's quantity replaces the position. -/
def reconcile (state : EngineState) (report : ReconciliationReport) : EngineState :=
  { state with
    positions := report.positionDivergences.foldl (fun positions divergence =>
      if divergence.action = .acceptVenue then
        positions.insert (⟨"reconciler"⟩, report.venueId, divergence.instrument)
          (reconciledPosition report divergence)
      else positions) state.positions }

instance : EngineCore TestCore where
  state := TestCore.state
  stateMut core write := { core with state := write core.state }
  state_stateMut _ _ := rfl
  evaluateOrder core order now :=
    if core.rejectOrders then (core, .err (.riskRejected "test rejection"))
    else (core, .ok (order.intoRiskChecked ⟨now, [], []⟩))
  onFill := onFill
  onReconciliation core report _ := ({ core with state := reconcile core.state report }, .ok ())
  markToMarket core _ _ := (core, .ok ())
  pauseAgent core agent reason now :=
    ({ core with state := { core.state with
        agentStatuses := core.state.agentStatuses.insert agent (.paused reason now) } }, .ok ())
  resumeAgent core agent _ :=
    ({ core with state := { core.state with
        agentStatuses := core.state.agentStatuses.insert agent .active } }, .ok ())
  adjustLimits core agent limits :=
    ({ core with state := { core.state with riskLimits := { core.state.riskLimits with
        perAgent := core.state.riskLimits.perAgent.insert agent limits } } }, .ok ())
  haltAll core _ _ :=
    ({ core with state := { core.state with
        agentStatuses := mapValues (fun _ _ => .halted) core.state.agentStatuses } }, .ok ())
  resetCircuitBreaker core _ := (core, .ok ())

/-- Apart from fills the test core never touches orders or answers. -/
theorem ownCall_untouched (own : OwnCall (core : TestCore) after) : Untouched core.state after.state := by
  cases own with
  | evaluateOrder order now =>
    simp only [EngineCore.evaluateOrder]
    split <;> exact .refl _
  | onReconciliation report now => exact ⟨fun _ => rfl, fun _ => rfl⟩
  | markToMarket prices now => exact .refl _
  | pauseAgent agent reason now => exact ⟨fun _ => rfl, fun _ => rfl⟩
  | resumeAgent agent now => exact ⟨fun _ => rfl, fun _ => rfl⟩
  | adjustLimits agent limits => exact ⟨fun _ => rfl, fun _ => rfl⟩
  | haltAll reason now => exact ⟨fun _ => rfl, fun _ => rfl⟩
  | resetCircuitBreaker now => exact .refl _

theorem evaluateOrder_id {core after : TestCore}
    (evaluated : EngineCore.evaluateOrder core order now = (after, .ok checked)) :
    checked.core.id = order.core.id := by
  simp only [EngineCore.evaluateOrder] at evaluated
  split at evaluated
  · cases evaluated
  · cases evaluated
    rfl

/-- The record after a fill it accepts. -/
def filledRecord (record : OrderRecord) (fill : Fill) (now : DateTime) : OrderRecord :=
  let fills := record.fills ++ [fill]
  { record with
    fills := fills
    state := if (fills.map Fill.qty).foldl (· + ·) 0 = record.core.qty then .filled else .partiallyFilled
    lastUpdated := now }

theorem filledRecord_state (record : OrderRecord) (fill : Fill) (now : DateTime) :
    (filledRecord record fill now).state = .partiallyFilled ∨
      (filledRecord record fill now).state = .filled := by
  unfold filledRecord
  dsimp only
  split
  · exact Or.inr rfl
  · exact Or.inl rfl

/-- A successful fill rewrites the record of its order, and nothing else. -/
theorem onFill_ok {core after : TestCore} (filled : core.onFill fill now = (after, .ok ())) :
    ∃ record, core.state.orders.lookup fill.orderId = some record ∧ 0 < fill.qty ∧
      ((record.fills ++ [fill]).map Fill.qty).foldl (· + ·) 0 ≤ record.core.qty ∧
      after.state = { core.state with
        orders := core.state.orders.insert fill.orderId (filledRecord record fill now) } := by
  unfold TestCore.onFill at filled
  split at filled
  · cases filled
  · next record found =>
    split at filled
    · cases filled
    · next positive =>
      dsimp only at filled
      split at filled
      · cases filled
      · next within =>
        cases filled
        exact ⟨record, found, Rat.not_le.mp positive, Rat.not_lt.mp within, rfl⟩

/-- The test core leaves the book to the sequencer. -/
theorem sameBook_contract : CoreContract TestCore SameBook fun _ => SameBook where
  keeps own := (ownCall_untouched own).sameBook
  evaluated := evaluateOrder_id
  fills {core after fill now} filled := by
    obtain ⟨record, found, -, -, moved⟩ := onFill_ok filled
    have same : SameBook core.state { core.state with
        orders := core.state.orders.insert fill.orderId (filledRecord record fill now) } :=
      sameBook_putOrder found rfl
    rwa [← moved] at same

/-- It keeps the trait's `snapshot` and `restore_snapshot`. -/
theorem trait_defaults : TraitDefaults TestCore := ⟨fun _ _ => rfl, fun _ _ _ => rfl⟩

theorem limits_atomic : LimitsAtomic TestCore := by
  intro core after agent limits error failed
  cases failed

theorem sameAnswers_calls : CoreCalls TestCore SameAnswers fun _ => SameAnswers where
  keeps own := (ownCall_untouched own).answers
  fills filled := by
    obtain ⟨record, -, -, -, moved⟩ := onFill_ok filled
    intro clientOrderId
    rw [show EngineCore.state _ = _ from moved]
    rfl

end TestCore

/-- A result that is no error has a value. -/
theorem exists_ok {Error Value : Type} {result : Except Error Value} (ok : result.toBool = true) :
    ∃ value, result = .ok value := by
  cases result with
  | error error => cases ok
  | ok value => exact ⟨value, rfl⟩

/-- A codec that stores values as they are. -/
abbrev PlainBlob := SequencedEvent ⊕ EngineStateSnapshot

instance : MessagePack PlainBlob where
  encodeEvent event := .ok (.inl event)
  decodeEvent
    | .inl event => .ok event
    | .inr _ => .error "snapshot where an event was expected"
  encodeSnapshot snapshot := .ok (.inr snapshot)
  decodeSnapshot
    | .inr snapshot => .ok snapshot
    | .inl _ => .error "event where a snapshot was expected"
  decode_event produced := by
    cases produced
    rfl
  decode_snapshot produced := by
    cases produced
    rfl

def emptyBook (now : DateTime) : FirmBook where
  nav := 100000
  grossNotional := 0
  netNotional := 0
  realizedPnl := 0
  unrealizedPnl := 0
  dailyPnl := 0
  hourlyPnl := 0
  currentDrawdownPct := 0
  allocatedCapital := 25000
  cashAvailable := 75000
  totalFeesPaid := 0
  agentAllocations := ∅
  instruments := []
  predictionExposure := ⟨0, 0, 0⟩
  asOf := now

def emptyState (now : DateTime) : EngineState where
  orders := ∅
  positions := ∅
  pendingSignals := ∅
  firmBook := emptyBook now
  agentAllocations := ∅
  riskLimits := ⟨∅, ∅, ∅⟩
  agentStatuses := (∅ : Table AgentId AgentStatus).insert ⟨"athena"⟩ .active
  idempotencyCache := ∅
  lastSequenceId := .zero
  lastUpdated := now

/-- `sample_order`, already validated. -/
def sampleOrder (orderId : String) (now : DateTime) : PipelineOrder Validated :=
  (PipelineOrder.new
    { id := ⟨orderId⟩, basketId := none, agentId := ⟨"athena"⟩, instrumentId := ⟨"BTCUSDT"⟩,
      marketId := ⟨"BTCUSDT"⟩, venueId := ⟨"bybit"⟩, side := .buy, orderType := .limit,
      timeInForce := .gtc, qty := 10, price := some 50000, triggerPrice := none,
      stopLoss := some 49000, takeProfit := some 52000, postOnly := false, reduceOnly := false,
      dryRun := true, execHint := {}, createdAt := now }).intoValidated now

/-- A fill of the sample order at its limit price. -/
def sampleFill (orderId : String) (qty : Decimal) : Fill where
  orderId := ⟨orderId⟩
  venueOrderId := ⟨"venue-1"⟩
  instrumentId := ⟨"BTCUSDT"⟩
  side := .buy
  qty := qty
  price := 50000
  fee := 0
  isMaker := false
  filledAt := ⟨0⟩

/-- A quiet environment at the epoch: an open venue channel and clear weather. -/
def calm : Environment Weather where
  now := ⟨0⟩
  prices := ⟨fun _ => none, fun _ _ => false⟩
  submitChannel := .ready
  weather := .clear

/-- A test core that has seen nothing. -/
def freshCore : TestCore := ⟨emptyState ⟨0⟩, false⟩

/-- The journal of a first start. -/
def freshJournal : SqliteJournal PlainBlob := .empty

namespace Plain

/-- Texts for closed examples. -/
scoped instance : LibraryText := wholeText

end Plain

/-- The test core started on an empty journal. -/
def firstBoot : Sequencer TestCore (SqliteJournal PlainBlob) :=
  ⟨freshCore, freshJournal, ⟨⟨1⟩⟩, ⟨emptyState ⟨0⟩, ⟨0⟩, ⟨0⟩⟩, ∅, 0, false⟩

/-- The engine received this order under this command number. -/
def receivedEvent (id : Nat) (order : String) : SequencedEvent where
  sequenceId := ⟨id⟩
  timestamp := ⟨0⟩
  event := .orderReceived ⟨order⟩ ⟨"athena"⟩ ⟨"BTC"⟩ ⟨"bybit"⟩

def validatedEvent (id : Nat) (order : String) : SequencedEvent where
  sequenceId := ⟨id⟩
  timestamp := ⟨0⟩
  event := .orderValidated ⟨order⟩

/-- A snapshot of the empty state. -/
def emptySnapshot (id : Nat) : EngineStateSnapshot where
  state := emptyState ⟨0⟩
  sequenceId := ⟨id⟩
  snapshotAt := ⟨0⟩

/-- A first submission of the sample order. -/
def submit : SequencerCommand := .submitOrder (sampleOrder "order-1" ⟨0⟩) 0

open Plain in
/-- The first life takes one order. -/
def firstLife : Sequencer TestCore (SqliteJournal PlainBlob) :=
  (firstBoot.processCommand submit calm).sequencer

end FeynmanEngine.SequencerFixtures
