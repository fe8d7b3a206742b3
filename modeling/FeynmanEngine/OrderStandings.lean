import Mathlib.Algebra.Order.Ring.Rat
import FeynmanEngine.VenueTask

/-! Where an order stands between the sequencer and its venue: its state and
the quantity left to fill. Reports of the venue move an order along this, one
at a time; every other command leaves all orders where they stand or enters a
new one. -/
namespace FeynmanEngine.OrderStandings
open Ids Orders Tables Engine Sequencing JournalCommits CommandCases OrderBookkeeping VenueOrders
open VenueTask

/-- Where an order stands: its state and the quantity left to fill. -/
structure Stand where
  state : OrderState
  left : Decimal
  deriving DecidableEq

/-- What the record's fills add up to. -/
def filledQty (record : OrderRecord) : Decimal := (record.fills.map Fill.qty).foldl (· + ·) 0

def standOf (record : OrderRecord) : Stand := ⟨record.state, record.core.qty - filledQty record⟩

namespace Stand

/-- A report of the venue, where it is expected. -/
def take (stand : Stand) : SequencerCommand → Option Stand
  | .onVenueAck .. =>
    if stand.state = .pending then some { stand with state := .submitted } else none
  | .onVenueSubmitFailed .. =>
    if stand.state = .pending then some { stand with state := .rejected } else none
  | .onVenueCancelled .. =>
    if stand.state = .submitted ∨ stand.state = .partiallyFilled then
      some { stand with state := .cancelled }
    else none
  | .onFill fill =>
    if stand.state.isActive = true ∧ 0 < fill.qty ∧ fill.qty ≤ stand.left then
      some ⟨if fill.qty = stand.left then .filled else .partiallyFilled, stand.left - fill.qty⟩
    else none
  | .submitOrder .. | .submitSignal .. | .onReconciliation .. | .markToMarket | .adjustLimits .. |
    .pauseAgent .. | .resumeAgent .. | .haltAll .. | .resetCircuitBreaker .. | .snapshot .. |
    .shutdown .. | .poisonPill => none

/-- Several reports, oldest first. -/
def takes (stand : Stand) : List SequencerCommand → Option Stand
  | [] => some stand
  | command :: rest => (stand.take command).bind fun next => next.takes rest

theorem takes_append (stand : Stand) (first last : List SequencerCommand) :
    stand.takes (first ++ last) = (stand.takes first).bind fun next => next.takes last := by
  induction first generalizing stand with
  | nil => rfl
  | cons command rest ih =>
    simp only [List.cons_append, takes, Option.bind_assoc]
    exact congrArg _ (funext fun next => ih next)

end Stand

/-- Where an order stands, and the client order id it is recorded under. -/
def standing (state : EngineState) (orderId : OrderId) : Option (Stand × ClientOrderId) :=
  (state.orders.lookup orderId).map fun record => (standOf record, record.clientOrderId)

/-- Every order stands where it stood, and the answers are the same. -/
structure SameStandings (before after : EngineState) : Prop where
  standings : ∀ orderId, standing after orderId = standing before orderId
  answers : SameAnswers before after

theorem SameStandings.refl (state : EngineState) : SameStandings state state :=
  ⟨fun _ => rfl, fun _ => rfl⟩

theorem SameStandings.trans (first : SameStandings before middle) (second : SameStandings middle after) :
    SameStandings before after where
  standings orderId := (second.standings orderId).trans (first.standings orderId)
  answers clientOrderId := (second.answers clientOrderId).trans (first.answers clientOrderId)

theorem sameStandings_of_untouched (untouched : Untouched before after) :
    SameStandings before after where
  standings orderId := by rw [standing, standing, untouched.orders]
  answers := untouched.answers

/-- One order was told something; everything else is as it was. -/
structure Told (before after : EngineState) (orderId : OrderId) (stand : Stand) : Prop where
  standings : ∀ probe, standing after probe =
    if probe = orderId then (standing before probe).map fun place => (stand, place.2)
    else standing before probe
  answers : SameAnswers before after

theorem Told.trans (told : Told before middle orderId stand) (same : SameStandings middle after) :
    Told before after orderId stand where
  standings probe := (same.standings probe).trans (told.standings probe)
  answers clientOrderId := (same.answers clientOrderId).trans (told.answers clientOrderId)

/-- A rewritten record under the same client order id. -/
theorem told_putOrder {state : EngineState} (found : state.orders.lookup orderId = some record)
    (stands : standOf after = stand) (same : after.clientOrderId = record.clientOrderId) :
    Told state { state with orders := state.orders.insert orderId after } orderId stand where
  standings probe := by
    simp only [standing, lookup_insert_if]
    by_cases hit : probe = orderId
    · subst hit
      simp [found, stands, same]
    · simp [hit]
  answers _ := rfl

/-- The record a core makes of a fill it books: the fill is appended, and the
state says whether the order is complete. -/
structure Booked (record booked : OrderRecord) (fill : Fill) : Prop where
  fills : booked.fills = record.fills ++ [fill]
  state : booked.state = if filledQty booked = booked.core.qty then .filled else .partiallyFilled
  qty : booked.core.qty = record.core.qty
  clientOrderId : booked.clientOrderId = record.clientOrderId

/-- The core books every fill that fits an order active on a venue, and touches
no other order. -/
def BooksFills (C : Type) [EngineCore C] : Prop :=
  ∀ (core : C) (fill : Fill) (now : DateTime) (record : OrderRecord),
    (EngineCore.state core).orders.lookup fill.orderId = some record →
    record.state.isActive = true → 0 < fill.qty → filledQty record + fill.qty ≤ record.core.qty →
    ∃ after booked, EngineCore.onFill core fill now = (after, .ok ()) ∧ Booked record booked fill ∧
      (∀ probe, (EngineCore.state after).orders.lookup probe =
        if probe = fill.orderId then some booked else (EngineCore.state core).orders.lookup probe) ∧
      SameAnswers (EngineCore.state core) (EngineCore.state after)

theorem Booked.filledQty (booked : Booked record after fill) :
    filledQty after = OrderStandings.filledQty record + fill.qty := by
  simp [OrderStandings.filledQty, booked.fills]

/-- A booked fill leaves the order where the fill takes it. -/
theorem Booked.standOf (booked : Booked record after fill) :
    standOf after = ⟨if fill.qty = record.core.qty - OrderStandings.filledQty record then .filled
      else .partiallyFilled, record.core.qty - OrderStandings.filledQty record - fill.qty⟩ := by
  have complete : OrderStandings.filledQty record + fill.qty = record.core.qty ↔
      fill.qty = record.core.qty - OrderStandings.filledQty record := by grind
  simp only [OrderStandings.standOf, booked.state, booked.filledQty, booked.qty, complete, Stand.mk.injEq,
    true_and]
  grind

/-- A new order enters: pending, unfilled, answered, and dispatched if a venue
channel is wired. -/
structure Enters (before after : EngineState) (effects : List Effect) (order : PipelineOrder Routed) :
    Prop where
  unknown : answerOf before order.core.id = none
  standings : ∀ probe, standing after probe =
    if probe = order.core.id then some (⟨.pending, order.core.qty⟩, order.clientOrderId)
    else standing before probe
  answered : (after.idempotencyCache.lookup order.clientOrderId).isSome
  answers : ∀ clientOrderId, (before.idempotencyCache.lookup clientOrderId).isSome →
    (after.idempotencyCache.lookup clientOrderId).isSome
  dispatched : OrderBookkeeping.dispatched effects = [] ∨ OrderBookkeeping.dispatched effects = [order]

theorem Enters.trans (enters : Enters before middle effects order) (same : SameStandings middle after) :
    Enters before after effects order where
  unknown := enters.unknown
  standings probe := (same.standings probe).trans (enters.standings probe)
  answered := by
    rw [same.answers]
    exact enters.answered
  answers clientOrderId cached := by
    rw [same.answers]
    exact enters.answers clientOrderId cached
  dispatched := enters.dispatched

variable {C J Weather : Type} [EngineCore C]

/-- What follows the handler writes metadata only. -/
private theorem finish_sameStandings [EventJournal J Weather] (handled : Handled C J) (outcome : CommandOutcome)
    (sequenceId : SequenceId) (env : Environment Weather) :
    SameStandings handled.sequencer.state
      (Sequencer.finish handled outcome sequenceId env).sequencer.state := by
  unfold Sequencer.finish
  dsimp only
  split
  · split
    · exact .refl _
    · next persisted =>
      exact sameStandings_of_untouched (settled_untouched handled.sequencer
        (commitOf handled.sequencer outcome sequenceId env.now) _)
  · exact .refl _

/-- A report that finds its order where it expects it. -/
private theorem updateOrder_told {sequencer : Sequencer C J}
    (found : sequencer.state.orders.lookup orderId = some record) {accepts : OrderState → Bool}
    (accepted : accepts record.state = true) (stands : standOf (update record) = stand)
    (same : (update record).clientOrderId = record.clientOrderId) :
    ∃ after outcome, sequencer.updateOrder orderId report accepts update event =
      ⟨after, [], .ok outcome⟩ ∧ Told sequencer.state after.state orderId stand := by
  refine ⟨sequencer.putOrder orderId (update record), .mutated [event], ?_, ?_⟩
  · simp only [Sequencer.updateOrder, found, accepted, if_true]
  · rw [Sequencer.state_putOrder]
    exact told_putOrder found stands same

variable [LibraryText]

/-- A fill that fits an order active on a venue. -/
private theorem handleFill_told (books : BooksFills C) {sequencer : Sequencer C J}
    (found : sequencer.state.orders.lookup fill.orderId = some record)
    (active : record.state.isActive = true) (positive : 0 < fill.qty)
    (fits : fill.qty ≤ record.core.qty - filledQty record) (now : DateTime) :
    ∃ after outcome, sequencer.handleFill fill now = ⟨after, [], .ok outcome⟩ ∧
      Told sequencer.state after.state fill.orderId
        ⟨if fill.qty = record.core.qty - filledQty record then .filled else .partiallyFilled,
          record.core.qty - filledQty record - fill.qty⟩ := by
  have within : filledQty record + fill.qty ≤ record.core.qty := by grind
  obtain ⟨core, booked, called, bookedFill, lookups, answers⟩ :=
    books sequencer.core fill now record found active positive within
  have stored : (EngineCore.state core).orders.lookup fill.orderId = some booked := by
    simpa using lookups fill.orderId
  have left : remainingQty booked = .ok (booked.core.qty - filledQty booked) := by
    have room : ¬ booked.core.qty - filledQty booked < 0 := by
      rw [bookedFill.qty, bookedFill.filledQty]
      grind
    exact if_neg room
  obtain ⟨event, emitted⟩ : ∃ event,
      Sequencer.fillEvent fill booked (booked.core.qty - filledQty booked) = some event := by
    unfold Sequencer.fillEvent
    rw [bookedFill.state]
    by_cases complete : filledQty booked = booked.core.qty
    · rw [if_pos complete]
      exact ⟨_, rfl⟩
    · rw [if_neg complete]
      exact ⟨_, rfl⟩
  refine ⟨{ sequencer with core := core }, .mutated [event], ?_, ?_, answers⟩
  · simp only [Sequencer.handleFill, Sequencer.afterCore, called, Sequencer.state, stored, left, emitted]
  · intro probe
    have known : sequencer.state.orders.lookup probe =
      (EngineCore.state sequencer.core).orders.lookup probe := rfl
    by_cases hit : probe = fill.orderId
    · subst hit
      simp only [standing, Sequencer.state, stored, if_true, Option.map_some, bookedFill.standOf,
        bookedFill.clientOrderId]
      rw [← known, found]
      rfl
    · simp only [standing, Sequencer.state, lookups, if_neg hit]

/-- A report that its order can take is handled, and the order takes it. -/
theorem handleCommand_told (books : BooksFills C) {sequencer : Sequencer C J}
    (found : standing sequencer.state orderId = some (stand, clientOrderId))
    (named : subject command = some orderId) (taken : stand.take command = some next)
    (env : Environment Weather) :
    ∃ after outcome, sequencer.handleCommand command env = ⟨after, [], .ok outcome⟩ ∧
      Told sequencer.state after.state orderId next := by
  obtain ⟨record, recorded, same⟩ := Option.map_eq_some_iff.mp found
  obtain ⟨rfl, rfl⟩ := Prod.mk.inj same
  cases command with
  | onVenueAck reported venueOrderId submittedAt =>
    obtain rfl := Option.some.inj named
    obtain ⟨pending, moved⟩ := Option.ite_none_right_eq_some.mp taken
    obtain rfl := Option.some.inj moved
    simp only [Sequencer.handleCommand, Sequencer.handleVenueAck]
    exact updateOrder_told recorded (decide_eq_true pending) rfl rfl
  | onVenueSubmitFailed reported reason =>
    obtain rfl := Option.some.inj named
    obtain ⟨pending, moved⟩ := Option.ite_none_right_eq_some.mp taken
    obtain rfl := Option.some.inj moved
    simp only [Sequencer.handleCommand, Sequencer.handleVenueSubmitFailed]
    exact updateOrder_told recorded (decide_eq_true pending) rfl rfl
  | onVenueCancelled reported reason cancelledAt =>
    obtain rfl := Option.some.inj named
    obtain ⟨live, moved⟩ := Option.ite_none_right_eq_some.mp taken
    obtain rfl := Option.some.inj moved
    simp only [Sequencer.handleCommand, Sequencer.handleVenueCancelled]
    exact updateOrder_told recorded (by simpa [standOf] using live) rfl rfl
  | onFill fill =>
    obtain rfl := Option.some.inj named
    obtain ⟨⟨active, positive, fits⟩, moved⟩ := Option.ite_none_right_eq_some.mp taken
    obtain rfl := Option.some.inj moved
    exact handleFill_told books recorded active positive fits env.now
  | submitOrder | submitSignal | onReconciliation | markToMarket | adjustLimits | pauseAgent |
    resumeAgent | haltAll | resetCircuitBreaker | snapshot | shutdown | poisonPill => cases named

/-- The core's own calls leave every order where it stands. -/
abbrev KeepsStandings (C : Type) [EngineCore C] : Prop :=
  CoreContract C SameStandings fun _ _ _ => True

/-- A command that is no report of the venue moves no order. -/
theorem Handling.standings (contract : KeepsStandings C) {before after : Sequencer C J}
    {env : Environment Weather} (foreign : subject command = none)
    (handling : Handling before env command after effects outcome) :
    (SameStandings before.state after.state ∧ dispatched effects = []) ∨
      ∃ order, Enters before.state after.state effects order := by
  cases handling with
  | answered respond known => exact Or.inl ⟨.refl _, rfl⟩
  | refused respond unknown evaluated => exact Or.inl ⟨contract.evaluate_keeps evaluated, rfl⟩
  | unroutable respond unknown evaluated => exact Or.inl ⟨contract.evaluate_keeps evaluated, rfl⟩
  | @accepted order core checked sent respond unknown evaluated ready routed =>
    have kept : SameStandings before.state (EngineCore.state core) := contract.evaluate_keeps evaluated
    have named : checked.core.id = order.core.id := contract.evaluated evaluated
    have moved : (drawn before core order.core.agentId env.now).state = EngineCore.state core := rfl
    rw [findExistingAck_eq] at unknown
    refine Or.inr ⟨checked.intoRouted ⟨order.core.venueId,
      freshId before order.core.agentId env.now, env.now⟩, ?_, fun probe => ?_, ?_, ?_, ?_⟩
    · rw [PipelineOrder.intoRouted_core, named]
      exact unknown
    · have same := kept.standings probe
      by_cases hit : probe = order.core.id
      · simp [standing, lookup_insert_if, hit, named, pendingRecord, standOf, filledQty]
      · simpa [standing, lookup_insert_if, hit, named, moved] using same
    · simp
    · intro clientOrderId cached
      rw [← kept.answers] at cached
      simp only [Sequencer.state_recordOrder, lookup_insert_if, moved]
      split
      · rfl
      · exact cached
    · subst routed
      by_cases wired : before.venueSubmitTx = true
      · exact Or.inr (by simp [dispatched, wired])
      · exact Or.inl (by simp [dispatched, wired])
  | reported found report => cases report <;> cases foreign
  | filled called found left emitted => cases foreign
  | called own quiet unrelated =>
    exact Or.inl ⟨contract.keeps own, (quiet_effects quiet).1⟩
  | limitsRefused respond failed => exact Or.inl ⟨contract.limits_keep failed, rfl⟩
  | silent reply quiet => exact Or.inl ⟨.refl _, (quiet_effects quiet).1⟩

variable [EventJournal J Weather]

/-- A command of another sender, processed. -/
theorem Processing.standings (contract : KeepsStandings C) {sequencer after : Sequencer C J}
    {env : Environment Weather} (foreign : subject command = none)
    (processing : Processing sequencer command env effects commit after) :
    (SameStandings sequencer.state after.state ∧ dispatched effects = []) ∨
      ∃ order, Enters sequencer.state after.state effects order := by
  cases processing with
  | idle handling quiet =>
    have moved := Handling.standings contract foreign handling
    exact moved
  | @committed handled effects outcome commit journal handling commits asked persisted =>
    have same := sameStandings_of_untouched (settled_untouched handled commit journal)
    rcases Handling.standings contract foreign handling with ⟨kept, undispatched⟩ | ⟨order, enters⟩
    · exact Or.inl ⟨kept.trans same, undispatched⟩
    · exact Or.inr ⟨order, enters.trans same⟩

/-- A report that its order can take, processed: the order takes it, nothing is
dispatched, and only the storage can stop the sequencer here. -/
theorem processCommand_told (books : BooksFills C) {sequencer : Sequencer C J}
    (found : standing sequencer.state orderId = some (stand, clientOrderId))
    (named : subject command = some orderId) (taken : stand.take command = some next)
    (env : Environment Weather) :
    Told sequencer.state (sequencer.processCommand command env).sequencer.state orderId next ∧
      dispatched (sequencer.processCommand command env).effects = [] ∧
      (Persists sequencer command env →
        ∃ reply, (sequencer.processCommand command env).result = .ok reply) := by
  have same : standing (numbered sequencer).state orderId = some (stand, clientOrderId) := found
  obtain ⟨after, outcome, handled, told⟩ := handleCommand_told books same named taken env
  have completion : ((numbered sequencer).handleCommand command env).completion = .ok outcome := by
    rw [handled]
  refine ⟨?_, ?_, fun persists => ⟨_, processCommand_persisted completion persists⟩⟩
  · rw [processCommand_eq, handled]
    have same := finish_sameStandings (⟨after, [], .ok outcome⟩ : Handled C J) outcome
      sequencer.sequenceGen.next env
    exact told.trans same
  · rw [processCommand_effects, handled]
    rfl

end FeynmanEngine.OrderStandings
