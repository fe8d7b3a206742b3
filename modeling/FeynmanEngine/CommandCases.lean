import FeynmanEngine.JournalCommits
import FeynmanEngine.Sequencing

/-! What one processed command can do. Every way a handler can succeed is one
constructor, with all that it changed; an unsuccessful one was never visible
outside. Invariants are proved from these cases and never from the handlers. -/
namespace FeynmanEngine.CommandCases
open Ids Orders Events Tables Portfolio Engine Sequencing JournalCommits

section Calls
variable {C : Type} [EngineCore C]

/-- The core after any call of its own, other than `on_fill`, however it ended. -/
inductive OwnCall (core : C) : C → Prop
  | evaluateOrder (order : PipelineOrder Validated) (now : DateTime) :
      OwnCall core (EngineCore.evaluateOrder core order now).1
  | onReconciliation (report : ReconciliationReport) (now : DateTime) :
      OwnCall core (EngineCore.onReconciliation core report now).1
  | markToMarket (prices : PriceSource) (now : DateTime) :
      OwnCall core (EngineCore.markToMarket core prices now).1
  | pauseAgent (agent : AgentId) (reason : String) (now : DateTime) :
      OwnCall core (EngineCore.pauseAgent core agent reason now).1
  | resumeAgent (agent : AgentId) (now : DateTime) :
      OwnCall core (EngineCore.resumeAgent core agent now).1
  | adjustLimits (agent : AgentId) (limits : AgentRiskLimits) :
      OwnCall core (EngineCore.adjustLimits core agent limits).1
  | haltAll (reason : String) (now : DateTime) : OwnCall core (EngineCore.haltAll core reason now).1
  | resetCircuitBreaker (now : DateTime) :
      OwnCall core (EngineCore.resetCircuitBreaker core now).1

/-- A promise of a core about its own calls: they move the engine state along
`Keeps`, and a successful fill moves it along `Fills`. -/
structure CoreCalls (C : Type) [EngineCore C] (Keeps : EngineState → EngineState → Prop)
    (Fills : Fill → EngineState → EngineState → Prop) : Prop where
  keeps {core after : C} : OwnCall core after → Keeps (EngineCore.state core) (EngineCore.state after)
  fills {core after : C} {fill : Fill} {now : DateTime} :
    EngineCore.onFill core fill now = (after, .ok ()) →
      Fills fill (EngineCore.state core) (EngineCore.state after)

/-- With the promise that an accepted order keeps its id. -/
structure CoreContract (C : Type) [EngineCore C] (Keeps : EngineState → EngineState → Prop)
    (Fills : Fill → EngineState → EngineState → Prop) : Prop extends CoreCalls C Keeps Fills where
  evaluated {core after : C} {order : PipelineOrder Validated} {now : DateTime}
    {checked : PipelineOrder RiskChecked} :
    EngineCore.evaluateOrder core order now = (after, .ok checked) → checked.core.id = order.core.id

theorem CoreCalls.evaluate_keeps (calls : CoreCalls C Keeps Fills) {core after : C}
    (evaluated : EngineCore.evaluateOrder core order now = (after, completion)) :
    Keeps (EngineCore.state core) (EngineCore.state after) := by
  have kept := calls.keeps (.evaluateOrder order now : OwnCall core _)
  rwa [evaluated] at kept

theorem CoreCalls.limits_keep (calls : CoreCalls C Keeps Fills) {core after : C}
    (adjusted : EngineCore.adjustLimits core agent limits = (after, completion)) :
    Keeps (EngineCore.state core) (EngineCore.state after) := by
  have kept := calls.keeps (.adjustLimits agent limits : OwnCall core _)
  rwa [adjusted] at kept

end Calls

/-- The order id and client order id an effect gives away. -/
def promised : Effect → Option (OrderId × ClientOrderId)
  | .orderReply _ (.ok ack) => some (ack.orderId, ack.clientOrderId)
  | .dispatch order => some (order.core.id, order.clientOrderId)
  | .orderReply _ (.error _) | .signalReply .. | .limitsReply .. | .snapshotReply .. => none

/-- A report of the venue on a recorded order, the record it makes and its event. -/
inductive VenueReport (now : DateTime) (orderId : OrderId) (record : OrderRecord) :
    SequencerCommand → OrderRecord → EngineEvent → Prop
  | acked (pending : record.state = .pending) (venueOrderId : VenueOrderId) (submittedAt : DateTime) :
      VenueReport now orderId record (.onVenueAck orderId venueOrderId submittedAt)
        { record with
          state := .submitted, venueOrderId := some venueOrderId, lastUpdated := submittedAt }
        (.orderSubmitted orderId venueOrderId)
  | submitFailed (pending : record.state = .pending) (reason : String) :
      VenueReport now orderId record (.onVenueSubmitFailed orderId reason)
        { record with state := .rejected, lastUpdated := now }
        (.orderRejected orderId "venue_submit" reason)
  | cancelled (live : record.state = .submitted ∨ record.state = .partiallyFilled) (reason : String)
      (cancelledAt : DateTime) :
      VenueReport now orderId record (.onVenueCancelled orderId reason cancelledAt)
        { record with state := .cancelled, lastUpdated := cancelledAt }
        (.orderCancelled orderId reason)

/-- A report leaves the client order id. -/
theorem VenueReport.clientOrderId {record after : OrderRecord}
    (report : VenueReport now orderId record command after event) :
    after.clientOrderId = record.clientOrderId := by
  cases report <;> rfl

variable {C J Weather : Type}

private theorem trySend_ok {sequencer : Sequencer C J} {env : Environment Weather}
    (sending : sequencer.trySend env routed = .ok sent) :
    (sequencer.venueSubmitTx = true → env.submitChannel = .ready) ∧
      sent = if sequencer.venueSubmitTx then [.dispatch routed] else [] := by
  unfold Sequencer.trySend at sending
  split at sending
  · split at sending <;> simp_all
  · simp_all

private theorem mutatingCall_failed {sequencer : Sequencer C J} {called : C × Completion Unit}
    (failed : ∀ outcome, (sequencer.mutatingCall called events).completion ≠ .ok outcome) :
    (sequencer.mutatingCall called events).sequencer.journal = sequencer.journal ∧
      (sequencer.mutatingCall called events).effects = [] := by
  obtain ⟨core, completion⟩ := called
  cases completion with
  | panicked => exact ⟨rfl, rfl⟩
  | err error => exact ⟨rfl, rfl⟩
  | ok value => exact absurd rfl (failed _)

variable [EngineCore C]

/-- The record an accepted order gets. -/
def pendingRecord (core : OrderCore) (clientOrderId : ClientOrderId) (now : DateTime) : OrderRecord :=
  ⟨core, .pending, clientOrderId, none, [], now, now⟩

/-- The client order id the next order of an agent gets. -/
def freshId (sequencer : Sequencer C J) (agent : AgentId) (now : DateTime) : ClientOrderId :=
  (sequencer.nextClientOrderId agent now).1

/-- The sequencer after its core was replaced and an id was drawn. -/
def drawn (sequencer : Sequencer C J) (core : C) (agent : AgentId) (now : DateTime) :
    Sequencer C J :=
  ({ sequencer with core := core }.nextClientOrderId agent now).2

/-- The branch of an approved order, by what the venue channel says. -/
private theorem handleSubmitOrder_approved {sequencer : Sequencer C J} {core : C}
    {order : PipelineOrder Validated} (respond : ReplyTo) {env : Environment Weather}
    (unknown : sequencer.findExistingAck order.core.id = none)
    (evaluated : EngineCore.evaluateOrder sequencer.core order env.now = (core, .ok checked)) :
    sequencer.handleSubmitOrder order respond env =
      match (drawn sequencer core order.core.agentId env.now).trySend env (checked.intoRouted
        ⟨order.core.venueId, freshId sequencer order.core.agentId env.now, env.now⟩) with
      | .error reason => ⟨drawn sequencer core order.core.agentId env.now,
          [.orderReply respond (.error (.internal reason))],
          .ok (.ofEvents [.orderRejected order.core.id "route" reason])⟩
      | .ok sent => ⟨(drawn sequencer core order.core.agentId env.now).recordOrder
            (pendingRecord checked.core (freshId sequencer order.core.agentId env.now) env.now)
            ⟨order.core.id, freshId sequencer order.core.agentId env.now, env.now⟩,
          sent ++ [.orderReply respond
            (.ok ⟨order.core.id, freshId sequencer order.core.agentId env.now, env.now⟩)],
          .ok (.mutated [
            .orderReceived order.core.id order.core.agentId order.core.instrumentId order.core.venueId,
            .orderValidated order.core.id,
            .orderRiskChecked order.core.id .approved,
            .orderRouted order.core.id order.core.venueId])⟩ := by
  simp only [Sequencer.handleSubmitOrder, unknown, evaluated]
  rfl

private theorem updateOrder_ok {sequencer : Sequencer C J} {accepts : OrderState → Bool}
    (ok : (sequencer.updateOrder orderId subject accepts update event).completion = .ok outcome) :
    ∃ record, sequencer.state.orders.lookup orderId = some record ∧ accepts record.state = true ∧
      sequencer.updateOrder orderId subject accepts update event =
        ⟨sequencer.putOrder orderId (update record), [], .ok outcome⟩ ∧ outcome = .mutated [event] := by
  unfold Sequencer.updateOrder at ok ⊢
  split at ok
  · cases ok
  · next record found =>
    split at ok
    · next accepted =>
      cases ok
      exact ⟨record, found, accepted, by simp [accepted], rfl⟩
    · cases ok

private theorem updateOrder_failed {sequencer : Sequencer C J} {accepts : OrderState → Bool}
    (failed : ∀ outcome,
      (sequencer.updateOrder orderId subject accepts update event).completion ≠ .ok outcome) :
    (sequencer.updateOrder orderId subject accepts update event).sequencer.journal =
        sequencer.journal ∧
      (sequencer.updateOrder orderId subject accepts update event).effects = [] := by
  unfold Sequencer.updateOrder at failed ⊢
  split
  · exact ⟨rfl, rfl⟩
  · split
    · simp_all
    · exact ⟨rfl, rfl⟩

private theorem handleSubmitOrder_failed {sequencer : Sequencer C J}
    (order : PipelineOrder Validated) (respond : ReplyTo) (env : Environment Weather)
    (failed : ∀ outcome, (sequencer.handleSubmitOrder order respond env).completion ≠ .ok outcome) :
    (sequencer.handleSubmitOrder order respond env).sequencer.journal = sequencer.journal ∧
      (sequencer.handleSubmitOrder order respond env).effects = [] := by
  cases known : sequencer.findExistingAck order.core.id with
  | some ack => simp [Sequencer.handleSubmitOrder, known] at failed
  | none =>
    obtain ⟨core, completion, evaluated⟩ : ∃ core completion,
        EngineCore.evaluateOrder sequencer.core order env.now = (core, completion) := ⟨_, _, rfl⟩
    cases completion with
    | panicked => simp [Sequencer.handleSubmitOrder, known, evaluated]
    | err error => simp [Sequencer.handleSubmitOrder, known, evaluated] at failed
    | ok checked =>
      rw [handleSubmitOrder_approved respond known evaluated] at failed ⊢
      split at failed <;> simp at failed

variable [LibraryText]

/-- Every way in which a command is handled with success. -/
inductive Handling (sequencer : Sequencer C J) (env : Environment Weather) :
    SequencerCommand → Sequencer C J → List Effect → CommandOutcome → Prop
  | answered {order : PipelineOrder Validated} {ack : OrderAck} (respond : ReplyTo)
      (known : sequencer.findExistingAck order.core.id = some ack) :
      Handling sequencer env (.submitOrder order respond) sequencer [.orderReply respond (.ok ack)]
        .nothing
  | refused {order : PipelineOrder Validated} {core : C} {error : EngineError} (respond : ReplyTo)
      (unknown : sequencer.findExistingAck order.core.id = none)
      (evaluated : EngineCore.evaluateOrder sequencer.core order env.now = (core, .err error)) :
      Handling sequencer env (.submitOrder order respond) { sequencer with core := core }
        [.orderReply respond (.error error)]
        (.ofEvents [.orderRejected order.core.id "risk" error.toText])
  | unroutable {order : PipelineOrder Validated} {core : C} {checked : PipelineOrder RiskChecked}
      {reason : String} (respond : ReplyTo)
      (unknown : sequencer.findExistingAck order.core.id = none)
      (evaluated : EngineCore.evaluateOrder sequencer.core order env.now = (core, .ok checked)) :
      Handling sequencer env (.submitOrder order respond)
        (drawn sequencer core order.core.agentId env.now)
        [.orderReply respond (.error (.internal reason))]
        (.ofEvents [.orderRejected order.core.id "route" reason])
  | accepted {order : PipelineOrder Validated} {core : C} {checked : PipelineOrder RiskChecked}
      {sent : List Effect} (respond : ReplyTo)
      (unknown : sequencer.findExistingAck order.core.id = none)
      (evaluated : EngineCore.evaluateOrder sequencer.core order env.now = (core, .ok checked))
      (ready : sequencer.venueSubmitTx = true → env.submitChannel = .ready)
      (routed : sent = if sequencer.venueSubmitTx then
        [.dispatch (checked.intoRouted ⟨order.core.venueId,
          freshId sequencer order.core.agentId env.now, env.now⟩)] else []) :
      Handling sequencer env (.submitOrder order respond)
        ((drawn sequencer core order.core.agentId env.now).recordOrder
          (pendingRecord checked.core (freshId sequencer order.core.agentId env.now) env.now)
          ⟨order.core.id, freshId sequencer order.core.agentId env.now, env.now⟩)
        (sent ++ [.orderReply respond
          (.ok ⟨order.core.id, freshId sequencer order.core.agentId env.now, env.now⟩)])
        (.mutated [
          .orderReceived order.core.id order.core.agentId order.core.instrumentId order.core.venueId,
          .orderValidated order.core.id,
          .orderRiskChecked order.core.id .approved,
          .orderRouted order.core.id order.core.venueId])
  | reported {orderId : OrderId} {record after : OrderRecord} {command : SequencerCommand}
      {event : EngineEvent} (found : sequencer.state.orders.lookup orderId = some record)
      (report : VenueReport env.now orderId record command after event) :
      Handling sequencer env command (sequencer.putOrder orderId after) [] (.mutated [event])
  | filled {fill : Fill} {core : C} {record : OrderRecord} {remaining : Decimal} {event : EngineEvent}
      (called : EngineCore.onFill sequencer.core fill env.now = (core, .ok ()))
      (found : (EngineCore.state core).orders.lookup fill.orderId = some record)
      (left : remainingQty record = .ok remaining)
      (emitted : Sequencer.fillEvent fill record remaining = some event) :
      Handling sequencer env (.onFill fill) { sequencer with core := core } [] (.mutated [event])
  | called {command : SequencerCommand} {core : C} {effects : List Effect} {events : List EngineEvent}
      (own : OwnCall sequencer.core core) (quiet : ∀ effect ∈ effects, promised effect = none)
      (unrelated : ∀ event ∈ events, event.order? = none) :
      Handling sequencer env command { sequencer with core := core } effects (.mutated events)
  | limitsRefused {agent : AgentId} {limits : AgentRiskLimits} {core : C} {error : EngineError}
      (respond : ReplyTo)
      (failed : EngineCore.adjustLimits sequencer.core agent limits = (core, .err error)) :
      Handling sequencer env (.adjustLimits agent limits respond) { sequencer with core := core }
        [.limitsReply respond (.error error)] .nothing
  | silent {command : SequencerCommand} {effects : List Effect} (reply : Option ReplyTo)
      (quiet : ∀ effect ∈ effects, promised effect = none) :
      Handling sequencer env command sequencer effects ⟨[], false, reply⟩

private theorem handleSubmitOrder_handling (sequencer : Sequencer C J)
    (order : PipelineOrder Validated) (respond : ReplyTo) (env : Environment Weather)
    (ok : (sequencer.handleSubmitOrder order respond env).completion = .ok outcome) :
    Handling sequencer env (.submitOrder order respond)
      (sequencer.handleSubmitOrder order respond env).sequencer
      (sequencer.handleSubmitOrder order respond env).effects outcome := by
  cases known : sequencer.findExistingAck order.core.id with
  | some ack =>
    simp only [Sequencer.handleSubmitOrder, known, Completion.ok.injEq] at ok ⊢
    subst ok
    exact .answered respond known
  | none =>
    obtain ⟨core, completion, evaluated⟩ : ∃ core completion,
        EngineCore.evaluateOrder sequencer.core order env.now = (core, completion) := ⟨_, _, rfl⟩
    cases completion with
    | panicked => simp [Sequencer.handleSubmitOrder, known, evaluated] at ok
    | err error =>
      simp only [Sequencer.handleSubmitOrder, known, evaluated, Completion.ok.injEq] at ok ⊢
      subst ok
      exact .refused respond known evaluated
    | ok checked =>
      rw [handleSubmitOrder_approved respond known evaluated] at ok ⊢
      split at ok
      · cases ok
        exact .unroutable respond known evaluated
      · next sent sending =>
        cases ok
        obtain ⟨ready, sent⟩ := trySend_ok sending
        exact .accepted respond known evaluated ready sent

/-- One successful report of the venue. -/
private theorem updateOrder_handling {sequencer : Sequencer C J} (env : Environment Weather)
    {accepts : OrderState → Bool}
    (reports : ∀ record, accepts record.state = true →
      VenueReport env.now orderId record command (update record) event)
    (ok : (sequencer.updateOrder orderId subject accepts update event).completion = .ok outcome) :
    Handling sequencer env command
      (sequencer.updateOrder orderId subject accepts update event).sequencer
      (sequencer.updateOrder orderId subject accepts update event).effects outcome := by
  obtain ⟨record, found, accepted, shape, rfl⟩ := updateOrder_ok ok
  rw [shape]
  exact .reported found (reports record accepted)

private theorem mutatingCall_handling {sequencer : Sequencer C J} (env : Environment Weather)
    {called : C × Completion Unit} (command : SequencerCommand) (own : OwnCall sequencer.core called.1)
    (unrelated : ∀ event ∈ events, event.order? = none)
    (ok : (sequencer.mutatingCall called events).completion = .ok outcome) :
    Handling sequencer env command (sequencer.mutatingCall called events).sequencer
      (sequencer.mutatingCall called events).effects outcome := by
  obtain ⟨core, completion⟩ := called
  cases completion with
  | panicked => cases ok
  | err error => cases ok
  | ok value =>
    cases ok
    exact .called own (List.forall_mem_nil _) unrelated

private theorem handleAdjustLimits_handling {sequencer : Sequencer C J} (env : Environment Weather)
    (ok : (sequencer.handleAdjustLimits agent limits respond).completion = .ok outcome) :
    Handling sequencer env (.adjustLimits agent limits respond)
      (sequencer.handleAdjustLimits agent limits respond).sequencer
      (sequencer.handleAdjustLimits agent limits respond).effects outcome := by
  have own : OwnCall sequencer.core (EngineCore.adjustLimits sequencer.core agent limits).1 :=
    .adjustLimits agent limits
  obtain ⟨core, completion, adjusted⟩ : ∃ core completion,
      EngineCore.adjustLimits sequencer.core agent limits = (core, completion) := ⟨_, _, rfl⟩
  rw [adjusted] at own
  unfold Sequencer.handleAdjustLimits at ok ⊢
  rw [adjusted] at ok ⊢
  cases completion with
  | panicked => cases ok
  | err error =>
    cases ok
    exact .limitsRefused respond adjusted
  | ok value =>
    cases ok
    exact .called own (by simp [promised]) (by simp)

private theorem handleFill_handling {sequencer : Sequencer C J} (env : Environment Weather)
    (ok : (sequencer.handleFill fill env.now).completion = .ok outcome) :
    Handling sequencer env (.onFill fill) (sequencer.handleFill fill env.now).sequencer
      (sequencer.handleFill fill env.now).effects outcome := by
  obtain ⟨core, completion, called⟩ : ∃ core completion,
      EngineCore.onFill sequencer.core fill env.now = (core, completion) := ⟨_, _, rfl⟩
  unfold Sequencer.handleFill Sequencer.afterCore at ok ⊢
  rw [called] at ok ⊢
  cases completion with
  | panicked => cases ok
  | err error => cases ok
  | ok value =>
    dsimp only at ok ⊢
    split at ok
    · cases ok
    · next record found =>
      split at ok
      · cases ok
      · next remaining left =>
        split at ok
        · next event emitted =>
          cases ok
          exact .filled called found left emitted
        · cases ok

/-- A command handled with success is one of the cases. -/
theorem handleCommand_handling (sequencer : Sequencer C J) (command : SequencerCommand)
    (env : Environment Weather)
    (ok : (sequencer.handleCommand command env).completion = .ok outcome) :
    Handling sequencer env command (sequencer.handleCommand command env).sequencer
      (sequencer.handleCommand command env).effects outcome := by
  cases command with
  | submitOrder order respond => exact handleSubmitOrder_handling sequencer order respond env ok
  | submitSignal signal respond =>
    cases ok
    exact .silent none (by simp [Sequencer.handleCommand, promised])
  | onVenueAck orderId venueOrderId submittedAt =>
    exact updateOrder_handling env
      (fun _ accepted => .acked (by simpa using accepted) venueOrderId submittedAt) ok
  | onVenueSubmitFailed orderId reason =>
    exact updateOrder_handling env
      (fun _ accepted => .submitFailed (by simpa using accepted) reason) ok
  | onVenueCancelled orderId reason cancelledAt =>
    exact updateOrder_handling env
      (fun _ accepted => .cancelled (by simpa using accepted) reason cancelledAt) ok
  | onFill fill => exact handleFill_handling env ok
  | onReconciliation report =>
    refine mutatingCall_handling env _ (.onReconciliation report env.now) ?_ ok
    simp only [Sequencer.reconciliationEvents, List.mem_append, List.mem_map, List.mem_singleton]
    rintro event (⟨divergence, -, rfl⟩ | rfl) <;> rfl
  | markToMarket => exact mutatingCall_handling env _ (.markToMarket env.prices env.now) (by simp) ok
  | adjustLimits agent limits respond => exact handleAdjustLimits_handling env ok
  | pauseAgent agent reason =>
    exact mutatingCall_handling env _ (.pauseAgent agent reason env.now)
      (by simp [EngineEvent.order?]) ok
  | resumeAgent agent =>
    exact mutatingCall_handling env _ (.resumeAgent agent env.now) (by simp [EngineEvent.order?]) ok
  | haltAll reason =>
    exact mutatingCall_handling env _ (.haltAll reason env.now) (by simp [EngineEvent.order?]) ok
  | resetCircuitBreaker breakerId =>
    exact mutatingCall_handling env _ (.resetCircuitBreaker env.now) (by simp [EngineEvent.order?]) ok
  | snapshot respond =>
    cases ok
    exact .silent none (by simp [Sequencer.handleCommand, promised])
  | shutdown respond =>
    cases ok
    exact .silent (some respond) (List.forall_mem_nil _)
  | poisonPill => cases ok

/-- Two sequencers that differ at most in core and generators. -/
structure Frame (before after : Sequencer C J) : Prop where
  journal : after.journal = before.journal
  sequenceGen : after.sequenceGen = before.sequenceGen
  snapshotCache : after.snapshotCache = before.snapshotCache
  restartEpoch : after.restartEpoch = before.restartEpoch
  venueSubmitTx : after.venueSubmitTx = before.venueSubmitTx

theorem Handling.frame {sequencer after : Sequencer C J} {env : Environment Weather}
    (handling : Handling sequencer env command after effects outcome) : Frame sequencer after := by
  cases handling <;> exact ⟨rfl, rfl, rfl, rfl, rfl⟩

private theorem handleFill_failed {sequencer : Sequencer C J} (fill : Fill) (now : DateTime)
    (failed : ∀ outcome, (sequencer.handleFill fill now).completion ≠ .ok outcome) :
    (sequencer.handleFill fill now).sequencer.journal = sequencer.journal ∧
      (sequencer.handleFill fill now).effects = [] := by
  unfold Sequencer.handleFill Sequencer.afterCore at failed ⊢
  dsimp only at failed ⊢
  split
  · split
    · exact ⟨rfl, rfl⟩
    · split
      · exact ⟨rfl, rfl⟩
      · split <;> simp_all
  · exact ⟨rfl, rfl⟩
  · exact ⟨rfl, rfl⟩

/-- A handler that fails has shown nothing and leaves the journal alone. -/
theorem handleCommand_failed (sequencer : Sequencer C J) (command : SequencerCommand)
    (env : Environment Weather)
    (failed : ∀ outcome, (sequencer.handleCommand command env).completion ≠ .ok outcome) :
    (sequencer.handleCommand command env).sequencer.journal = sequencer.journal ∧
      (sequencer.handleCommand command env).effects = [] := by
  cases command with
  | submitOrder order respond => exact handleSubmitOrder_failed order respond env failed
  | submitSignal signal respond => exact absurd rfl (failed _)
  | onVenueAck orderId venueOrderId submittedAt => exact updateOrder_failed failed
  | onVenueSubmitFailed orderId reason => exact updateOrder_failed failed
  | onVenueCancelled orderId reason cancelledAt => exact updateOrder_failed failed
  | onFill fill => exact handleFill_failed fill env.now failed
  | onReconciliation report => exact mutatingCall_failed failed
  | markToMarket => exact mutatingCall_failed failed
  | adjustLimits agent limits respond =>
    simp only [Sequencer.handleCommand, Sequencer.handleAdjustLimits] at failed ⊢
    split
    · simp_all
    · simp_all
    · exact ⟨rfl, rfl⟩
  | pauseAgent agent reason => exact mutatingCall_failed failed
  | resumeAgent agent => exact mutatingCall_failed failed
  | haltAll reason => exact mutatingCall_failed failed
  | resetCircuitBreaker breakerId => exact mutatingCall_failed failed
  | snapshot respond => exact absurd rfl (failed _)
  | shutdown respond => exact absurd rfl (failed _)
  | poisonPill => exact ⟨rfl, rfl⟩

/-- The sequencer with the command's number taken. -/
def numbered (sequencer : Sequencer C J) : Sequencer C J :=
  { sequencer with sequenceGen := sequencer.sequenceGen.nextId.2 }

/-- The commit a handled command asks for. -/
def commitOf (sequencer : Sequencer C J) (outcome : CommandOutcome) (sequenceId : SequenceId)
    (now : DateTime) : Commit :=
  ⟨sequenceId, outcome.events.map fun event => ⟨sequenceId, now, event⟩,
    sequencer.snapshotForCommit sequenceId now⟩

/-- The sequencer once its commit is reported durable. -/
def settled (sequencer : Sequencer C J) (commit : Commit) (journal : J) : Sequencer C J :=
  { { sequencer with journal := journal }.updateMetadata commit.sequenceId
      commit.snapshot.snapshotAt with
    snapshotCache := commit.snapshot }

/-- The commit the processing of a command asks the journal for. -/
def requestedCommit (sequencer : Sequencer C J) (command : SequencerCommand)
    (env : Environment Weather) : Option Commit :=
  let handled := (numbered sequencer).handleCommand command env
  match handled.completion with
  | .ok outcome =>
    if outcome.shouldCommit then
      some (commitOf handled.sequencer outcome sequencer.sequenceGen.next env.now)
    else none
  | .err _ | .panicked => none

/-- Only a successful handler's commit is ever asked for. -/
theorem requestedCommit_some {sequencer : Sequencer C J} {env : Environment Weather}
    (requested : requestedCommit sequencer command env = some commit) :
    ∃ outcome, ((numbered sequencer).handleCommand command env).completion = .ok outcome ∧
      outcome.shouldCommit = true ∧
      commit = commitOf ((numbered sequencer).handleCommand command env).sequencer outcome
        sequencer.sequenceGen.next env.now := by
  unfold requestedCommit at requested
  dsimp only at requested
  split at requested
  · next outcome completion =>
    split at requested
    · next commits =>
      cases requested
      exact ⟨outcome, completion, commits, rfl⟩
    · cases requested
  · cases requested
  · cases requested

variable [EventJournal J Weather]

/-- Every way in which a command is processed and the loop goes on. -/
inductive Processing (sequencer : Sequencer C J) (command : SequencerCommand)
    (env : Environment Weather) : List Effect → Option Commit → Sequencer C J → Prop
  | idle {after : Sequencer C J} {effects : List Effect} {outcome : CommandOutcome}
      (handling : Handling (numbered sequencer) env command after effects outcome)
      (quiet : outcome.shouldCommit = false) :
      Processing sequencer command env effects none after
  | committed {after : Sequencer C J} {effects : List Effect} {outcome : CommandOutcome}
      {commit : Commit} {journal : J}
      (handling : Handling (numbered sequencer) env command after effects outcome)
      (commits : outcome.shouldCommit = true)
      (asked : commit = commitOf after outcome sequencer.sequenceGen.next env.now)
      (persisted : EventJournal.persistCommit after.journal env.weather commit.events
        (some commit.snapshot) = (journal, .ok ())) :
      Processing sequencer command env effects (some commit) (settled after commit journal)

/-- `process_command` by how the handler ended. -/
theorem processCommand_eq (sequencer : Sequencer C J) (command : SequencerCommand)
    (env : Environment Weather) :
    sequencer.processCommand command env =
      match ((numbered sequencer).handleCommand command env).completion with
      | .ok outcome => Sequencer.finish ((numbered sequencer).handleCommand command env) outcome
          sequencer.sequenceGen.next env
      | .err error => ⟨((numbered sequencer).handleCommand command env).sequencer,
          ((numbered sequencer).handleCommand command env).effects, .error error⟩
      | .panicked => ⟨((numbered sequencer).handleCommand command env).sequencer,
          ((numbered sequencer).handleCommand command env).effects, .error (.internal
            ("sequencer panic at " ++ sequencer.sequenceGen.next.toText ++ ": Any \x7b .. \x7d"))⟩ :=
  rfl

/-- Processing a command never rewires the venue channel. -/
theorem Processing.venueSubmitTx {sequencer after : Sequencer C J} {env : Environment Weather}
    (processing : Processing sequencer command env effects commit after) :
    after.venueSubmitTx = sequencer.venueSubmitTx := by
  cases processing with
  | idle handling quiet => exact handling.frame.venueSubmitTx
  | committed handling commits asked persisted => exact handling.frame.venueSubmitTx

/-- What is shown of a command is what its handler showed. -/
theorem processCommand_effects (sequencer : Sequencer C J) (command : SequencerCommand)
    (env : Environment Weather) :
    (sequencer.processCommand command env).effects =
      ((numbered sequencer).handleCommand command env).effects := by
  rw [processCommand_eq]
  split
  · unfold Sequencer.finish
    dsimp only
    split
    · split <;> rfl
    · rfl
  · rfl
  · rfl

/-- What follows the handler draws no client order id. -/
theorem processCommand_generators (sequencer : Sequencer C J) (command : SequencerCommand)
    (env : Environment Weather) :
    (sequencer.processCommand command env).sequencer.clientOrderIdGenerators =
      ((numbered sequencer).handleCommand command env).sequencer.clientOrderIdGenerators := by
  rw [processCommand_eq]
  split
  · unfold Sequencer.finish
    dsimp only
    split
    · split <;> rfl
    · rfl
  · rfl
  · rfl

/-- The journal after a command, however it ended, is the one it found or the
one the requested commit left. -/
theorem processCommand_journal (sequencer : Sequencer C J) (command : SequencerCommand)
    (env : Environment Weather) :
    (sequencer.processCommand command env).sequencer.journal =
      match requestedCommit sequencer command env with
      | none => sequencer.journal
      | some commit => (EventJournal.persistCommit sequencer.journal env.weather commit.events
          (some commit.snapshot)).1 := by
  have shape := processCommand_eq sequencer command env
  cases completion : ((numbered sequencer).handleCommand command env).completion with
  | err error =>
    have kept := (handleCommand_failed (numbered sequencer) command env (by simp [completion])).1
    rw [completion] at shape
    simp only [shape, requestedCommit, completion]
    exact kept
  | panicked =>
    have kept := (handleCommand_failed (numbered sequencer) command env (by simp [completion])).1
    rw [completion] at shape
    simp only [shape, requestedCommit, completion]
    exact kept
  | ok outcome =>
    have kept : ((numbered sequencer).handleCommand command env).sequencer.journal = sequencer.journal :=
      (handleCommand_handling (numbered sequencer) command env completion).frame.journal
    rw [completion] at shape
    simp only [shape, requestedCommit, completion, Sequencer.finish]
    by_cases commits : outcome.shouldCommit = true
    · simp only [commits, if_true, kept, commitOf]
      split <;> rfl
    · simp only [commits, Bool.false_eq_true, if_false]
      exact kept

/-- The storage takes the commit this command asks for. -/
def Persists (sequencer : Sequencer C J) (command : SequencerCommand) (env : Environment Weather) :
    Prop :=
  ∀ commit, requestedCommit sequencer command env = some commit →
    (EventJournal.persistCommit sequencer.journal env.weather commit.events
      (some commit.snapshot)).2 = .ok ()

/-- A handled command whose commit is stored lets the loop go on. -/
theorem processCommand_persisted {sequencer : Sequencer C J} {env : Environment Weather}
    (completion : ((numbered sequencer).handleCommand command env).completion = .ok outcome)
    (persists : Persists sequencer command env) :
    (sequencer.processCommand command env).result = .ok outcome.shutdownReply := by
  have kept : ((numbered sequencer).handleCommand command env).sequencer.journal = sequencer.journal :=
    (handleCommand_handling (numbered sequencer) command env completion).frame.journal
  rw [processCommand_eq, completion]
  by_cases commits : outcome.shouldCommit = true
  · have requested : requestedCommit sequencer command env = some (commitOf
        ((numbered sequencer).handleCommand command env).sequencer outcome
        sequencer.sequenceGen.next env.now) := by
      simp only [requestedCommit, completion, commits, if_true]
    have stored := persists _ requested
    simp only [commitOf] at stored
    simp only [Sequencer.finish, commits, if_true, kept, stored]
  · simp only [Sequencer.finish, commits, Bool.false_eq_true, if_false]

/-- A command after which the loop goes on is one of the two cases. -/
theorem processCommand_ok (sequencer : Sequencer C J) (command : SequencerCommand)
    (env : Environment Weather) (ok : (sequencer.processCommand command env).result = .ok reply) :
    Processing sequencer command env (sequencer.processCommand command env).effects
      (requestedCommit sequencer command env) (sequencer.processCommand command env).sequencer := by
  have shape := processCommand_eq sequencer command env
  cases completion : ((numbered sequencer).handleCommand command env).completion with
  | err error =>
    rw [completion] at shape
    rw [shape] at ok
    cases ok
  | panicked =>
    rw [completion] at shape
    rw [shape] at ok
    cases ok
  | ok outcome =>
    have handling := handleCommand_handling (numbered sequencer) command env completion
    rw [completion] at shape
    rw [shape] at ok ⊢
    unfold Sequencer.finish at ok ⊢
    by_cases commits : outcome.shouldCommit = true
    · simp only [commits, if_true] at ok ⊢
      obtain ⟨journal, persisted, reported⟩ : ∃ journal persisted,
          EventJournal.persistCommit ((numbered sequencer).handleCommand command env).sequencer.journal
            env.weather (commitOf ((numbered sequencer).handleCommand command env).sequencer outcome
              sequencer.sequenceGen.next env.now).events
            (some (commitOf ((numbered sequencer).handleCommand command env).sequencer outcome
              sequencer.sequenceGen.next env.now).snapshot) = (journal, persisted) := ⟨_, _, rfl⟩
      have requested : requestedCommit sequencer command env = some (commitOf
          ((numbered sequencer).handleCommand command env).sequencer outcome
          sequencer.sequenceGen.next env.now) := by
        simp only [requestedCommit, completion, commits, if_true]
      rw [requested]
      simp only [commitOf] at reported
      rw [reported] at ok ⊢
      cases persisted with
      | error error => cases ok
      | ok value => exact .committed handling commits rfl reported
    · have requested : requestedCommit sequencer command env = none := by
        simp only [requestedCommit, completion, commits]
        rfl
      rw [requested]
      simp only [Bool.not_eq_true] at commits
      simp only [commits, Bool.false_eq_true, if_false]
      exact .idle handling commits

/-- What one turn of the loop showed outside and asked the journal for. -/
structure Turn where
  effects : List Effect
  commit : Option Commit

/-- The turn of a command. -/
def turnOf (sequencer : Sequencer C J) (command : SequencerCommand) (env : Environment Weather) :
    Turn :=
  ⟨(sequencer.processCommand command env).effects, requestedCommit sequencer command env⟩

/-- A command is processed and the loop goes on. -/
structure Processes (sequencer : Sequencer C J) (command : SequencerCommand)
    (env : Environment Weather) (turn : Turn) (next : Sequencer C J) : Prop where
  succeeds : ∃ reply, (sequencer.processCommand command env).result = .ok reply
  turn : turn = turnOf sequencer command env
  next : next = (sequencer.processCommand command env).sequencer

theorem Processes.processing {sequencer after : Sequencer C J} {env : Environment Weather}
    {turn : Turn} (processes : Processes sequencer command env turn after) :
    Processing sequencer command env turn.effects turn.commit after := by
  obtain ⟨⟨reply, ok⟩, rfl, rfl⟩ := processes
  exact processCommand_ok sequencer command env ok

end FeynmanEngine.CommandCases
