import FeynmanEngine.Engine

/-! The sequencer of `engine-core/src/sequencer.rs`: one command at a time,
handled under `catch_unwind`, then committed to the journal. What the outside
world sees of a command is the list of its effects, in order. Clock, prices,
the state of the venue channel and the storage's behaviour come from the
environment of the command. -/
namespace FeynmanEngine.Sequencing
open Ids Orders Events Tables Portfolio Engine

/-- Visible effects: values sent on reply channels, orders put on the venue channel. -/
inductive Effect where
  | orderReply (respond : ReplyTo) (answer : Except EngineError OrderAck)
  | signalReply (respond : ReplyTo) (answer : Except EngineError SignalAck)
  | limitsReply (respond : ReplyTo) (answer : Except EngineError Unit)
  | snapshotReply (respond : ReplyTo) (snapshot : EngineStateSnapshot)
  | dispatch (order : PipelineOrder Routed)

/-- The venue channel as `try_send` finds it. -/
inductive SubmitChannel where
  | ready
  | full
  | closed
  deriving DecidableEq, Repr

/-- What one command finds outside the sequencer. -/
structure Environment (Weather : Type) where
  now : DateTime
  prices : PriceSource
  submitChannel : SubmitChannel
  weather : Weather

structure CommandOutcome where
  events : List EngineEvent
  stateMutated : Bool
  shutdownReply : Option ReplyTo

namespace CommandOutcome

/-- `CommandOutcome::default()`. -/
def nothing : CommandOutcome := ⟨[], false, none⟩

def ofEvents (events : List EngineEvent) : CommandOutcome := ⟨events, false, none⟩

def mutated (events : List EngineEvent) : CommandOutcome := ⟨events, true, none⟩

def shutdown (reply : ReplyTo) : CommandOutcome := ⟨[], false, some reply⟩

/-- `should_commit_metadata`. -/
def shouldCommit (outcome : CommandOutcome) : Bool :=
  outcome.stateMutated || !outcome.events.isEmpty

end CommandOutcome

/-- `Sequencer<C, J, P, K>`, without its command channels. `venueSubmitTx` says
whether a venue channel is wired. -/
structure Sequencer (C J : Type) where
  core : C
  journal : J
  sequenceGen : SequenceGenerator
  snapshotCache : EngineStateSnapshot
  clientOrderIdGenerators : Table AgentId ClientOrderIdGenerator
  restartEpoch : Nat
  venueSubmitTx : Bool

/-- A handler's end: the sequencer it leaves, its effects so far, its result. -/
structure Handled (C J : Type) where
  sequencer : Sequencer C J
  effects : List Effect
  completion : Completion CommandOutcome

/-- The end of `process_command`; an error stops the loop. -/
structure Processed (C J : Type) where
  sequencer : Sequencer C J
  effects : List Effect
  result : Except EngineError (Option ReplyTo)

/-- `restore_client_order_generators`, first pass: the next counter value per agent. -/
def nextSequences : List OrderAck → Table AgentId Nat → Except EngineError (Table AgentId Nat)
  | [], table => .ok table
  | ack :: rest, table =>
    match ack.clientOrderId.parseAgent with
    | none => .error (.internal ("persisted client_order_id " ++ ack.clientOrderId.value ++
        " is malformed: missing agent prefix"))
    | some agent =>
      match ack.clientOrderId.parseSequence.filter fun sequence => sequence + 1 < u64Limit with
      | none => .error (.internal ("persisted client_order_id " ++ ack.clientOrderId.value ++
          " is malformed: missing or overflowing sequence"))
      | some sequence =>
        let nextSequence := sequence + 1
        let entry := match table.lookup agent with
          | some current => max current nextSequence
          | none => nextSequence
        nextSequences rest (table.insert agent entry)

def restoreClientOrderGenerators (state : EngineState) (restartEpoch : Nat) :
    Except EngineError (Table AgentId ClientOrderIdGenerator) :=
  match nextSequences (values state.idempotencyCache) ∅ with
  | .error error => .error error
  | .ok table => .ok (mapValues
      (fun agent nextSequence => .withStartSeq agent restartEpoch nextSequence) table)

/-- `remaining_qty`: what is left to fill; an overfill is an error. -/
def remainingQty [LibraryText] (record : OrderRecord) : Except EngineError Decimal :=
  let filledQty := (record.fills.map Fill.qty).foldl (· + ·) 0
  let remaining := record.core.qty - filledQty
  if remaining < 0 then
    .error (.invalidTransition ("order " ++ record.core.id.value ++ " overfilled by " ++
      LibraryText.decimal (-remaining)))
  else .ok remaining

namespace Sequencer

variable {C J Weather : Type} [EngineCore C] [EventJournal J Weather]

/-- `has_unapplied_journal_tail`. -/
def hasUnappliedTail (journal : J) (latestSnapshot : Option (SequenceId × EngineStateSnapshot))
    (journalSequence : SequenceId) : Except EngineError Bool :=
  match latestSnapshot with
  | some (snapshotSequence, _) => .ok (snapshotSequence.val < journalSequence.val)
  | none =>
    match EventJournal.replayFrom journal .zero with
    | .ok events => .ok !events.isEmpty
    | .error error => .error error

/-- `Sequencer::new` after the journal has been read. -/
def assemble (core : C) (journal : J) (restartEpoch : Nat)
    (latestSnapshot : Option (SequenceId × EngineStateSnapshot)) : Completion (Sequencer C J) :=
  let state := EngineCore.state core
  let currentSequence := match latestSnapshot with
    | some (sequenceId, _) => sequenceId
    | none => state.lastSequenceId
  let snapshotCache := match latestSnapshot with
    | some (_, snapshot) => snapshot
    | none => EngineCore.snapshot core currentSequence state.lastUpdated
  match restoreClientOrderGenerators state restartEpoch with
  | .error error => .err error
  | .ok generators =>
    .ok ⟨core, journal, .new currentSequence.next, snapshotCache, generators, restartEpoch, false⟩

/-- `Sequencer::new`. -/
def new (core : C) (journal : J) (restartEpoch : Nat) : Completion (Sequencer C J) :=
  match EventJournal.loadLatestSnapshot journal, EventJournal.latestSequenceId journal with
  | .error error, _ => .err error
  | .ok _, .error error => .err error
  | .ok latestSnapshot, .ok journalSequence =>
    let restored : C × Completion Unit := match latestSnapshot with
      | some (_, snapshot) => EngineCore.restoreSnapshot core snapshot
      | none => (core, .ok ())
    match restored.2 with
    | .err error => .err error
    | .panicked => .panicked
    | .ok () =>
      match hasUnappliedTail journal latestSnapshot journalSequence with
      | .error error => .err error
      | .ok true => .err (.journal "journal contains unapplied events beyond the latest persisted snapshot; replay bootstrap is not implemented yet")
      | .ok false => assemble restored.1 journal restartEpoch latestSnapshot

def withVenueSubmitTx (sequencer : Sequencer C J) : Sequencer C J :=
  { sequencer with venueSubmitTx := true }

def state (sequencer : Sequencer C J) : EngineState := EngineCore.state sequencer.core

/-- A write through `core.state_mut()`. -/
def writeState (sequencer : Sequencer C J) (write : EngineState → EngineState) : Sequencer C J :=
  { sequencer with core := EngineCore.stateMut sequencer.core write }

def findExistingAck (sequencer : Sequencer C J) (orderId : OrderId) : Option OrderAck :=
  match sequencer.state.orders.lookup orderId with
  | some record => sequencer.state.idempotencyCache.lookup record.clientOrderId
  | none => none

/-- The generator of an agent, made on first use. -/
def generatorFor (sequencer : Sequencer C J) (agent : AgentId) : ClientOrderIdGenerator :=
  (sequencer.clientOrderIdGenerators.lookup agent).getD (.new agent sequencer.restartEpoch)

def nextClientOrderId (sequencer : Sequencer C J) (agent : AgentId) (now : DateTime) :
    ClientOrderId × Sequencer C J :=
  let (clientOrderId, generator) := (sequencer.generatorFor agent).next now
  (clientOrderId, { sequencer with
    clientOrderIdGenerators := sequencer.clientOrderIdGenerators.insert agent generator })

/-- `try_send` on the venue channel, when one is wired. -/
def trySend (sequencer : Sequencer C J) (env : Environment Weather) (routed : PipelineOrder Routed) :
    Except String (List Effect) :=
  if sequencer.venueSubmitTx then
    match env.submitChannel with
    | .ready => .ok [.dispatch routed]
    | .full => .error "venue submit channel is full — order rejected"
    | .closed => .error "venue submit channel is closed — order rejected"
  else .ok []

/-- The record of an accepted order and its answer, written together. -/
def recordOrder (sequencer : Sequencer C J) (record : OrderRecord) (ack : OrderAck) :
    Sequencer C J :=
  sequencer.writeState fun state =>
    { state with
      orders := state.orders.insert ack.orderId record
      idempotencyCache := state.idempotencyCache.insert ack.clientOrderId ack }

/-- A call of the core whose error ends the handler (`?`). -/
def afterCore (sequencer : Sequencer C J) (called : C × Completion Unit)
    (next : Sequencer C J → Handled C J) : Handled C J :=
  let sequencer := { sequencer with core := called.1 }
  match called.2 with
  | .ok () => next sequencer
  | .err error => ⟨sequencer, [], .err error⟩
  | .panicked => ⟨sequencer, [], .panicked⟩

/-- `handle_submit_order`: a known order gets its first answer again; a new one
is evaluated, numbered and put on the venue channel, and only then recorded. -/
def handleSubmitOrder (sequencer : Sequencer C J) (order : PipelineOrder Validated)
    (respond : ReplyTo) (env : Environment Weather) : Handled C J :=
  let orderId := order.core.id
  match sequencer.findExistingAck orderId with
  | some existingAck => ⟨sequencer, [.orderReply respond (.ok existingAck)], .ok .nothing⟩
  | none =>
    let (core, evaluated) := EngineCore.evaluateOrder sequencer.core order env.now
    let sequencer := { sequencer with core := core }
    match evaluated with
    | .panicked => ⟨sequencer, [], .panicked⟩
    | .err error => ⟨sequencer, [.orderReply respond (.error error)],
        .ok (.ofEvents [.orderRejected orderId "risk" error.toText])⟩
    | .ok riskChecked =>
      let (clientOrderId, sequencer) := sequencer.nextClientOrderId order.core.agentId env.now
      let routed := riskChecked.intoRouted ⟨order.core.venueId, clientOrderId, env.now⟩
      match sequencer.trySend env routed with
      | .error reason => ⟨sequencer, [.orderReply respond (.error (.internal reason))],
          .ok (.ofEvents [.orderRejected orderId "route" reason])⟩
      | .ok sent =>
        let ack : OrderAck := ⟨orderId, clientOrderId, env.now⟩
        let record : OrderRecord :=
          ⟨riskChecked.core, .pending, clientOrderId, none, [], env.now, env.now⟩
        ⟨sequencer.recordOrder record ack, sent ++ [.orderReply respond (.ok ack)],
          .ok (.mutated [
            .orderReceived orderId order.core.agentId order.core.instrumentId order.core.venueId,
            .orderValidated orderId,
            .orderRiskChecked orderId .approved,
            .orderRouted orderId order.core.venueId])⟩

/-- One record rewritten. -/
def putOrder (sequencer : Sequencer C J) (orderId : OrderId) (record : OrderRecord) :
    Sequencer C J :=
  sequencer.writeState fun state => { state with orders := state.orders.insert orderId record }

/-- The three reports of the venue about an order: it must be known and in an
accepted state; the record is rewritten and one event is emitted. -/
def updateOrder (sequencer : Sequencer C J) (orderId : OrderId) (subject : String)
    (accepts : OrderState → Bool) (update : OrderRecord → OrderRecord) (event : EngineEvent) :
    Handled C J :=
  match sequencer.state.orders.lookup orderId with
  | none => ⟨sequencer, [], .err (.orderNotFound orderId.value)⟩
  | some record =>
    if accepts record.state then
      ⟨sequencer.putOrder orderId (update record), [], .ok (.mutated [event])⟩
    else
      ⟨sequencer, [], .err (.invalidTransition (subject ++ " for order " ++ orderId.value ++
        " in unexpected state " ++ record.state.toText))⟩

def handleVenueAck (sequencer : Sequencer C J) (orderId : OrderId) (venueOrderId : VenueOrderId)
    (submittedAt : DateTime) : Handled C J :=
  sequencer.updateOrder orderId "venue ack" (fun state => state = .pending)
    (fun record => { record with
      state := .submitted, venueOrderId := some venueOrderId, lastUpdated := submittedAt })
    (.orderSubmitted orderId venueOrderId)

def handleVenueSubmitFailed (sequencer : Sequencer C J) (orderId : OrderId) (reason : String)
    (now : DateTime) : Handled C J :=
  sequencer.updateOrder orderId "venue submit failed" (fun state => state = .pending)
    (fun record => { record with state := .rejected, lastUpdated := now })
    (.orderRejected orderId "venue_submit" reason)

def handleVenueCancelled (sequencer : Sequencer C J) (orderId : OrderId) (reason : String)
    (cancelledAt : DateTime) : Handled C J :=
  sequencer.updateOrder orderId "venue cancel"
    (fun state => state = .submitted || state = .partiallyFilled)
    (fun record => { record with state := .cancelled, lastUpdated := cancelledAt })
    (.orderCancelled orderId reason)

/-- The event of a fill, from the record the core left. -/
def fillEvent (fill : Fill) (record : OrderRecord) (remainingQty : Decimal) : Option EngineEvent :=
  match record.state with
  | .partiallyFilled =>
    some (.orderPartiallyFilled fill.orderId fill.qty remainingQty fill.price fill.fee)
  | .filled => some (.orderFilled fill.orderId fill.qty fill.price fill.fee)
  | _ => none

def handleFill [LibraryText] (sequencer : Sequencer C J) (fill : Fill) (now : DateTime) :
    Handled C J :=
  sequencer.afterCore (EngineCore.onFill sequencer.core fill now) fun sequencer =>
    match sequencer.state.orders.lookup fill.orderId with
    | none => ⟨sequencer, [], .err (.orderNotFound fill.orderId.value)⟩
    | some record =>
      match remainingQty record with
      | .error error => ⟨sequencer, [], .err error⟩
      | .ok remaining =>
        match fillEvent fill record remaining with
        | some event => ⟨sequencer, [], .ok (.mutated [event])⟩
        | none => ⟨sequencer, [], .err (.invalidTransition ("fill for order " ++ fill.orderId.value ++
            " left state " ++ record.state.toText))⟩

/-- The events of a reconciliation report. -/
def reconciliationEvents (report : ReconciliationReport) : List EngineEvent :=
  (report.positionDivergences.filter fun divergence => divergence.action = .acceptVenue).map
    (fun divergence => .positionCorrected divergence.instrument report.venueId divergence.engineQty
      divergence.venueQty) ++
  [.reconciliationCompleted report.venueId (min report.divergenceCount (2 ^ 32 - 1))]

/-- A call of the core that counts as a mutation with the given events. -/
def mutatingCall (sequencer : Sequencer C J) (called : C × Completion Unit)
    (events : List EngineEvent) : Handled C J :=
  sequencer.afterCore called fun sequencer => ⟨sequencer, [], .ok (.mutated events)⟩

/-- The `AdjustLimits` arm: an error is answered and the loop goes on. -/
def handleAdjustLimits (sequencer : Sequencer C J) (agent : AgentId) (limits : AgentRiskLimits)
    (respond : ReplyTo) : Handled C J :=
  let (core, adjusted) := EngineCore.adjustLimits sequencer.core agent limits
  let sequencer := { sequencer with core := core }
  match adjusted with
  | .ok () => ⟨sequencer, [.limitsReply respond (.ok ())], .ok (.mutated [])⟩
  | .err error => ⟨sequencer, [.limitsReply respond (.error error)], .ok .nothing⟩
  | .panicked => ⟨sequencer, [], .panicked⟩

variable [LibraryText]

def handleCommand (sequencer : Sequencer C J) (command : SequencerCommand)
    (env : Environment Weather) : Handled C J :=
  match command with
  | .submitOrder order respond => sequencer.handleSubmitOrder order respond env
  | .submitSignal _ respond =>
    ⟨sequencer, [.signalReply respond (.error (.unsupportedCommand "SubmitSignal"))], .ok .nothing⟩
  | .onVenueAck orderId venueOrderId submittedAt =>
    sequencer.handleVenueAck orderId venueOrderId submittedAt
  | .onVenueSubmitFailed orderId reason => sequencer.handleVenueSubmitFailed orderId reason env.now
  | .onVenueCancelled orderId reason cancelledAt =>
    sequencer.handleVenueCancelled orderId reason cancelledAt
  | .onFill fill => sequencer.handleFill fill env.now
  | .onReconciliation report =>
    sequencer.mutatingCall (EngineCore.onReconciliation sequencer.core report env.now)
      (reconciliationEvents report)
  | .markToMarket =>
    sequencer.mutatingCall (EngineCore.markToMarket sequencer.core env.prices env.now) []
  | .adjustLimits agent limits respond => sequencer.handleAdjustLimits agent limits respond
  | .pauseAgent agent reason =>
    sequencer.mutatingCall (EngineCore.pauseAgent sequencer.core agent reason env.now)
      [.agentPaused agent reason]
  | .resumeAgent agent =>
    sequencer.mutatingCall (EngineCore.resumeAgent sequencer.core agent env.now) [.agentResumed agent]
  | .haltAll reason =>
    sequencer.mutatingCall (EngineCore.haltAll sequencer.core reason env.now) [.engineHalted reason]
  | .resetCircuitBreaker breakerId =>
    sequencer.mutatingCall (EngineCore.resetCircuitBreaker sequencer.core env.now)
      [.circuitBreakerReset breakerId]
  | .snapshot respond =>
    ⟨sequencer, [.snapshotReply respond sequencer.snapshotCache], .ok .nothing⟩
  | .shutdown respond => ⟨sequencer, [], .ok (.shutdown respond)⟩
  | .poisonPill => ⟨sequencer, [], .panicked⟩

def snapshotForCommit (sequencer : Sequencer C J) (sequenceId : SequenceId) (now : DateTime) :
    EngineStateSnapshot :=
  ⟨{ sequencer.state with lastSequenceId := sequenceId, lastUpdated := now }, sequenceId, now⟩

def updateMetadata (sequencer : Sequencer C J) (sequenceId : SequenceId) (now : DateTime) :
    Sequencer C J :=
  sequencer.writeState fun state => { state with lastSequenceId := sequenceId, lastUpdated := now }

/-- The commit and what follows it in `process_command`. -/
def finish (handled : Handled C J) (outcome : CommandOutcome) (sequenceId : SequenceId)
    (env : Environment Weather) : Processed C J :=
  let sequencer := handled.sequencer
  if outcome.shouldCommit then
    let snapshot := sequencer.snapshotForCommit sequenceId env.now
    let events := outcome.events.map fun event => ⟨sequenceId, env.now, event⟩
    let (journal, persisted) :=
      EventJournal.persistCommit sequencer.journal env.weather events (some snapshot)
    let sequencer := { sequencer with journal := journal }
    match persisted with
    | .error error => ⟨sequencer, handled.effects, .error (.journal
        ("failed to persist sequencer commit at " ++ sequenceId.toText ++ ": " ++ error.toText))⟩
    | .ok () => ⟨{ sequencer.updateMetadata sequenceId env.now with snapshotCache := snapshot },
        handled.effects, .ok outcome.shutdownReply⟩
  else ⟨sequencer, handled.effects, .ok outcome.shutdownReply⟩

def processCommand (sequencer : Sequencer C J) (command : SequencerCommand)
    (env : Environment Weather) : Processed C J :=
  let (sequenceId, sequenceGen) := sequencer.sequenceGen.nextId
  let handled := { sequencer with sequenceGen := sequenceGen }.handleCommand command env
  match handled.completion with
  | .ok outcome => finish handled outcome sequenceId env
  | .err error => ⟨handled.sequencer, handled.effects, .error error⟩
  | .panicked => ⟨handled.sequencer, handled.effects,
      .error (.internal ("sequencer panic at " ++ sequenceId.toText ++ ": Any \x7b .. \x7d"))⟩

omit [LibraryText] [EventJournal J Weather]

@[simp] theorem state_writeState (sequencer : Sequencer C J) (write : EngineState → EngineState) :
    (sequencer.writeState write).state = write sequencer.state :=
  EngineCore.state_stateMut sequencer.core write

@[simp] theorem state_putOrder (sequencer : Sequencer C J) (orderId : OrderId) (record : OrderRecord) :
    (sequencer.putOrder orderId record).state =
      { sequencer.state with orders := sequencer.state.orders.insert orderId record } :=
  state_writeState sequencer _

@[simp] theorem state_recordOrder (sequencer : Sequencer C J) (record : OrderRecord) (ack : OrderAck) :
    (sequencer.recordOrder record ack).state =
      { sequencer.state with
        orders := sequencer.state.orders.insert ack.orderId record
        idempotencyCache := sequencer.state.idempotencyCache.insert ack.clientOrderId ack } :=
  state_writeState sequencer _

@[simp] theorem state_updateMetadata (sequencer : Sequencer C J) (sequenceId : SequenceId)
    (now : DateTime) : (sequencer.updateMetadata sequenceId now).state =
      { sequencer.state with lastSequenceId := sequenceId, lastUpdated := now } :=
  state_writeState sequencer _

@[simp] theorem state_withVenueSubmitTx (sequencer : Sequencer C J) :
    sequencer.withVenueSubmitTx.state = sequencer.state := rfl

@[simp] theorem state_nextClientOrderId (sequencer : Sequencer C J) (agent : AgentId)
    (now : DateTime) : (sequencer.nextClientOrderId agent now).2.state = sequencer.state := rfl

end Sequencer

end FeynmanEngine.Sequencing
