import FeynmanEngine.CommandCases

/-! The part of the engine state that remembers submissions: which client order
id an order got, and which answer was given under it. A core that keeps this
part leaves every change of it to the acceptance of a new order. -/
namespace FeynmanEngine.OrderBookkeeping
open Ids Orders Events Tables Portfolio Engine Sequencing JournalCommits CommandCases

/-- The client order id recorded for an order. -/
def clientIdOf (state : EngineState) (orderId : OrderId) : Option ClientOrderId :=
  (state.orders.lookup orderId).map OrderRecord.clientOrderId

/-- The same orders under the same client order ids, and the same cached answers. -/
structure SameBook (before after : EngineState) : Prop where
  clientIds : ∀ orderId, clientIdOf after orderId = clientIdOf before orderId
  answers : ∀ clientOrderId,
    after.idempotencyCache.lookup clientOrderId = before.idempotencyCache.lookup clientOrderId

theorem SameBook.refl (state : EngineState) : SameBook state state := ⟨fun _ => rfl, fun _ => rfl⟩

theorem SameBook.trans (first : SameBook before middle) (second : SameBook middle after) :
    SameBook before after where
  clientIds orderId := (second.clientIds orderId).trans (first.clientIds orderId)
  answers clientOrderId := (second.answers clientOrderId).trans (first.answers clientOrderId)

/-- The answer kept for an order. -/
def answerOf (state : EngineState) (orderId : OrderId) : Option OrderAck :=
  (clientIdOf state orderId).bind state.idempotencyCache.lookup

theorem SameBook.answerOf (same : SameBook before after) (orderId : OrderId) :
    answerOf after orderId = OrderBookkeeping.answerOf before orderId := by
  unfold OrderBookkeeping.answerOf
  rw [same.clientIds]
  congr 1
  exact funext same.answers

/-- Orders and cached answers are exactly as they were. -/
structure Untouched (before after : EngineState) : Prop where
  orders : ∀ orderId, after.orders.lookup orderId = before.orders.lookup orderId
  answers : ∀ clientOrderId,
    after.idempotencyCache.lookup clientOrderId = before.idempotencyCache.lookup clientOrderId

theorem Untouched.refl (state : EngineState) : Untouched state state := ⟨fun _ => rfl, fun _ => rfl⟩

theorem Untouched.sameBook (untouched : Untouched before after) : SameBook before after where
  clientIds orderId := by rw [clientIdOf, clientIdOf, untouched.orders]
  answers := untouched.answers

/-- A rewritten record under the same client order id changes nothing here. -/
theorem sameBook_putOrder {state : EngineState} (found : state.orders.lookup orderId = some record)
    (same : after.clientOrderId = record.clientOrderId) :
    SameBook state { state with orders := state.orders.insert orderId after } where
  clientIds probe := by
    by_cases hit : probe = orderId
    · subst hit
      simp [clientIdOf, found, same]
    · simp [clientIdOf, hit]
  answers _ := rfl

/-- The same cached answers. -/
def SameAnswers (before after : EngineState) : Prop := ∀ clientOrderId,
  after.idempotencyCache.lookup clientOrderId = before.idempotencyCache.lookup clientOrderId

section Promises
variable (C : Type) [EngineCore C]

/-- The core uses the trait's own `snapshot` and `restore_snapshot`. -/
structure TraitDefaults : Prop where
  restores (core : C) (snapshot : EngineStateSnapshot) : EngineCore.restoreSnapshot core snapshot =
    (EngineCore.stateMut core fun _ => snapshot.state, .ok ())
  snapshots (core : C) (sequenceId : SequenceId) (snapshotAt : DateTime) :
    EngineCore.snapshot core sequenceId snapshotAt = ⟨EngineCore.state core, sequenceId, snapshotAt⟩

/-- A limit change that returns an error leaves the state as it was. -/
def LimitsAtomic : Prop :=
  ∀ (core after : C) (agent : AgentId) (limits : AgentRiskLimits) (error : EngineError),
    EngineCore.adjustLimits core agent limits = (after, .err error) →
      EngineCore.state after = EngineCore.state core

/-- The trait's restore puts the snapshot's state in the core's place. -/
theorem TraitDefaults.restored {C : Type} [EngineCore C] (defaults : TraitDefaults C) {core after : C}
    (called : EngineCore.restoreSnapshot core snapshot = (after, .ok ())) :
    EngineCore.state after = snapshot.state := by
  rw [defaults.restores] at called
  cases called
  exact EngineCore.state_stateMut core _

end Promises

section Runs
variable {C J Weather : Type} {ack : OrderAck}

/-- The counter the next id of an agent is drawn from. -/
def counterOf (sequencer : Sequencer C J) (agent : AgentId) : Nat :=
  (sequencer.generatorFor agent).counter

/-- A counter depends on the generators alone. -/
theorem counterOf_eq {left right : Sequencer C J}
    (same : left.clientOrderIdGenerators = right.clientOrderIdGenerators) (agent : AgentId) :
    counterOf left agent = counterOf right agent := by
  unfold counterOf Sequencer.generatorFor
  rw [same]
  cases right.clientOrderIdGenerators.lookup agent <;> rfl

/-- No counter falls from one state to the next: none has wrapped. -/
def CountersGrow (before after : Sequencer C J) : Prop :=
  ∀ agent, counterOf before agent ≤ counterOf after agent

theorem counterOf_drawn {before after : Sequencer C J}
    (generators : after.clientOrderIdGenerators = before.clientOrderIdGenerators.insert agent
      ((before.generatorFor agent).next now).2) :
    counterOf after agent = (counterOf before agent + 1) % u64Limit := by
  simp [counterOf, Sequencer.generatorFor, generators, AList.lookup_insert, ClientOrderIdGenerator.next]

/-- A counter that was drawn from and did not fall had room for the draw. -/
theorem room_of_growth {before after : Sequencer C J}
    (generators : after.clientOrderIdGenerators = before.clientOrderIdGenerators.insert agent
      ((before.generatorFor agent).next now).2)
    (bound : counterOf before agent < u64Limit) (grow : CountersGrow before after) :
    counterOf before agent + 1 < u64Limit := by
  have moved := counterOf_drawn generators
  have grown := grow agent
  by_contra full
  have last : counterOf before agent + 1 = u64Limit := by omega
  have limit : 1 < u64Limit := by decide
  rw [last, Nat.mod_self] at moved
  omega

/-- A draw with room lets no counter fall. -/
theorem growth_of_room {before after : Sequencer C J}
    (generators : after.clientOrderIdGenerators = before.clientOrderIdGenerators.insert agent
      ((before.generatorFor agent).next now).2)
    (room : counterOf before agent + 1 < u64Limit) : CountersGrow before after := by
  intro probe
  by_cases hit : probe = agent
  · rw [hit, counterOf_drawn generators, Nat.mod_eq_of_lt room]
    exact Nat.le_succ _
  · unfold counterOf Sequencer.generatorFor
    rw [generators, AList.lookup_insert_ne hit]
    cases before.clientOrderIdGenerators.lookup probe with
    | none => exact Nat.zero_le _
    | some generator => exact Nat.le_refl _

theorem drawn_generators (sequencer : Sequencer C J) (core : C) (agent : AgentId) (now : DateTime) :
    (drawn sequencer core agent now).clientOrderIdGenerators =
      sequencer.clientOrderIdGenerators.insert agent ((sequencer.generatorFor agent).next now).2 :=
  rfl

variable [EngineCore C]

theorem findExistingAck_eq (sequencer : Sequencer C J) (orderId : OrderId) :
    sequencer.findExistingAck orderId = answerOf sequencer.state orderId := by
  unfold Sequencer.findExistingAck OrderBookkeeping.answerOf clientIdOf
  cases sequencer.state.orders.lookup orderId <;> rfl

/-- The orders put on the venue channel. -/
def dispatched (effects : List Effect) : List (PipelineOrder Routed) :=
  effects.filterMap fun
    | .dispatch order => some order
    | .orderReply .. | .signalReply .. | .limitsReply .. | .snapshotReply .. => none

/-- The acknowledgements given to submitters. -/
def acknowledged (effects : List Effect) : List OrderAck :=
  effects.filterMap fun
    | .orderReply _ (.ok ack) => some ack
    | .orderReply _ (.error _) | .dispatch _ | .signalReply .. | .limitsReply .. |
      .snapshotReply .. => none

theorem dispatched_append (left right : List Effect) :
    dispatched (left ++ right) = dispatched left ++ dispatched right :=
  List.filterMap_append

theorem acknowledged_append (left right : List Effect) :
    acknowledged (left ++ right) = acknowledged left ++ acknowledged right :=
  List.filterMap_append

/-- Effects that promise nothing neither dispatch nor acknowledge. -/
theorem quiet_effects (quiet : ∀ effect ∈ effects, promised effect = none) :
    dispatched effects = [] ∧ acknowledged effects = [] := by
  constructor
  · refine List.filterMap_eq_nil_iff.mpr fun effect member => ?_
    have silent := quiet effect member
    cases effect <;> simp_all [promised]
  · refine List.filterMap_eq_nil_iff.mpr fun effect member => ?_
    have silent := quiet effect member
    cases effect with
    | orderReply respond answer => cases answer <;> simp_all [promised]
    | signalReply => rfl
    | limitsReply => rfl
    | snapshotReply => rfl
    | dispatch => rfl

/-- Acceptance of a new order: what it adds and what it shows. -/
structure Acceptance (before after : Sequencer C J) (agent : AgentId) (now : DateTime)
    (effects : List Effect) (ack : OrderAck) : Prop where
  fresh : answerOf before.state ack.orderId = none
  minted : ack.clientOrderId = ((before.generatorFor agent).next now).1
  generators : after.clientOrderIdGenerators = before.clientOrderIdGenerators.insert agent
    ((before.generatorFor agent).next now).2
  clientIds : ∀ orderId, clientIdOf after.state orderId =
    if orderId = ack.orderId then some ack.clientOrderId else clientIdOf before.state orderId
  answers : ∀ clientOrderId, after.state.idempotencyCache.lookup clientOrderId =
    if clientOrderId = ack.clientOrderId then some ack
    else before.state.idempotencyCache.lookup clientOrderId
  acknowledged : OrderBookkeeping.acknowledged effects = [ack]
  dispatched : ∃ order, order.core.id = ack.orderId ∧ order.clientOrderId = ack.clientOrderId ∧
    OrderBookkeeping.dispatched effects = if before.venueSubmitTx then [order] else []

/-- The generators after a command: as they were, or with one id drawn. -/
def Drawn (before after : Sequencer C J) : Prop :=
  after.clientOrderIdGenerators = before.clientOrderIdGenerators ∨
    ∃ agent now, after.clientOrderIdGenerators = before.clientOrderIdGenerators.insert agent
      ((before.generatorFor agent).next now).2

/-- A snapshot differs from the state it is taken of in metadata only. -/
theorem commitOf_untouched (sequencer : Sequencer C J) (outcome : CommandOutcome)
    (sequenceId : SequenceId) (now : DateTime) :
    Untouched sequencer.state (commitOf sequencer outcome sequenceId now).snapshot.state :=
  ⟨fun _ => rfl, fun _ => rfl⟩

/-- A commit writes metadata only. -/
theorem settled_untouched (sequencer : Sequencer C J) (commit : Commit) (journal : J) :
    Untouched sequencer.state (settled sequencer commit journal).state := by
  have written : (settled sequencer commit journal).state = { sequencer.state with
      lastSequenceId := commit.sequenceId, lastUpdated := commit.snapshot.snapshotAt } :=
    Sequencer.state_updateMetadata { sequencer with journal := journal } _ _
  rw [written]
  exact ⟨fun _ => rfl, fun _ => rfl⟩

/-- `Acceptance` reads orders, answers and generators only. -/
theorem Acceptance.frame {before after other : Sequencer C J}
    (acceptance : Acceptance before after agent now effects ack)
    (same : SameBook after.state other.state)
    (generators : other.clientOrderIdGenerators = after.clientOrderIdGenerators) :
    Acceptance before other agent now effects ack :=
  { acceptance with
    generators := generators.trans acceptance.generators
    clientIds := fun orderId => (same.clientIds orderId).trans (acceptance.clientIds orderId)
    answers := fun clientOrderId =>
      (same.answers clientOrderId).trans (acceptance.answers clientOrderId) }

theorem Acceptance.answered {before after : Sequencer C J}
    (acceptance : Acceptance before after agent now effects ack) :
    answerOf after.state ack.orderId = some ack := by
  simp [answerOf, acceptance.clientIds, acceptance.answers]

/-- Acceptance under an unseen id forgets no answer. -/
theorem Acceptance.answers_kept {before after : Sequencer C J}
    (acceptance : Acceptance before after agent now effects ack)
    (unseen : before.state.idempotencyCache.lookup ack.clientOrderId = none)
    (found : answerOf before.state orderId = some earlier) :
    answerOf after.state orderId = some earlier := by
  obtain ⟨clientOrderId, known, cached⟩ := Option.bind_eq_some_iff.mp found
  have other : orderId ≠ ack.orderId := by
    rintro rfl
    rw [acceptance.fresh] at found
    cases found
  have elsewhere : clientOrderId ≠ ack.clientOrderId := by
    rintro rfl
    rw [unseen] at cached
    cases cached
  unfold answerOf
  rw [acceptance.clientIds, if_neg other, known, Option.bind_some, acceptance.answers,
    if_neg elsewhere]
  exact cached

/-- Taking a number is no part of an acceptance. -/
theorem Acceptance.unnumbered {sequencer after : Sequencer C J}
    (acceptance : Acceptance (numbered sequencer) after agent now effects ack) :
    Acceptance sequencer after agent now effects ack :=
  ⟨acceptance.fresh, acceptance.minted, acceptance.generators, acceptance.clientIds,
    acceptance.answers, acceptance.acknowledged, acceptance.dispatched⟩

/-- The command is a submission that will be accepted: its id is unknown, the
core approves it and the venue channel, if there is one, takes it. -/
def Accepts (sequencer : Sequencer C J) (command : SequencerCommand) (env : Environment Weather) :
    Prop :=
  ∃ order respond core checked, command = .submitOrder order respond ∧
    sequencer.findExistingAck order.core.id = none ∧
    EngineCore.evaluateOrder sequencer.core order env.now = (core, .ok checked) ∧
    (sequencer.venueSubmitTx = true → env.submitChannel = .ready)

variable [LibraryText]

omit [LibraryText] in
/-- An approved order that was routed is recorded, answered and sent under a fresh id. -/
theorem acceptance_of_approved (contract : CoreContract C SameBook fun _ => SameBook) {before : Sequencer C J}
    {core : C} {env : Environment Weather} {order : PipelineOrder Validated} {checked : PipelineOrder RiskChecked}
    {sent : List Effect} (respond : ReplyTo) (unknown : before.findExistingAck order.core.id = none)
    (evaluated : EngineCore.evaluateOrder before.core order env.now = (core, .ok checked))
    (routed : sent = if before.venueSubmitTx then
      [.dispatch (checked.intoRouted ⟨order.core.venueId, freshId before order.core.agentId env.now, env.now⟩)]
      else []) :
    Acceptance before ((drawn before core order.core.agentId env.now).recordOrder
        (pendingRecord checked.core (freshId before order.core.agentId env.now) env.now)
        ⟨order.core.id, freshId before order.core.agentId env.now, env.now⟩)
      order.core.agentId env.now
      (sent ++ [.orderReply respond (.ok ⟨order.core.id, freshId before order.core.agentId env.now, env.now⟩)])
      ⟨order.core.id, freshId before order.core.agentId env.now, env.now⟩ := by
  have kept : SameBook before.state (EngineCore.state core) := contract.evaluate_keeps evaluated
  rw [findExistingAck_eq] at unknown
  have moved : (drawn before core order.core.agentId env.now).state = EngineCore.state core := rfl
  refine ⟨unknown, rfl, rfl, fun probe => ?_, fun probe => ?_, ?_, ?_⟩
  · by_cases hit : probe = order.core.id
    · simp [clientIdOf, lookup_insert_if, hit, pendingRecord]
    · have same := kept.clientIds probe
      simpa [clientIdOf, lookup_insert_if, hit, moved] using same
  · by_cases hit : probe = freshId before order.core.agentId env.now
    · simp [lookup_insert_if, hit]
    · have same := kept.answers probe
      simpa [lookup_insert_if, hit, moved] using same
  · subst routed
    by_cases wired : before.venueSubmitTx = true <;> simp [acknowledged, wired]
  · refine ⟨checked.intoRouted ⟨order.core.venueId, freshId before order.core.agentId env.now, env.now⟩,
      contract.evaluated evaluated, rfl, ?_⟩
    subst routed
    by_cases wired : before.venueSubmitTx = true <;> simp [dispatched, wired]

/-- What one handled command does to the book: nothing, while it shows at most
an answer it had, or it accepts one new order. -/
theorem Handling.book (contract : CoreContract C SameBook fun _ => SameBook)
    {before after : Sequencer C J} {env : Environment Weather}
    (handling : Handling before env command after effects outcome) :
    (SameBook before.state after.state ∧ dispatched effects = [] ∧ Drawn before after ∧
      (acknowledged effects = [] ∨ ∃ ack, acknowledged effects = [ack] ∧
        ∃ orderId, answerOf before.state orderId = some ack)) ∨
      Accepts before command env ∧ outcome.shouldCommit = true ∧
        ∃ agent ack, Acceptance before after agent env.now effects ack := by
  cases handling with
  | @answered order ack respond known =>
    rw [findExistingAck_eq] at known
    exact Or.inl ⟨.refl _, rfl, Or.inl rfl, Or.inr ⟨ack, rfl, order.core.id, known⟩⟩
  | @refused order core error respond unknown evaluated =>
    have kept := contract.evaluate_keeps evaluated
    exact Or.inl ⟨kept, rfl, Or.inl rfl, Or.inl rfl⟩
  | @unroutable order core checked reason respond unknown evaluated =>
    have kept := contract.evaluate_keeps evaluated
    exact Or.inl ⟨kept, rfl, Or.inr ⟨order.core.agentId, env.now, rfl⟩, Or.inl rfl⟩
  | @accepted order core checked sent respond unknown evaluated ready routed =>
    exact Or.inr ⟨⟨order, respond, core, checked, rfl, unknown, evaluated, ready⟩, rfl, order.core.agentId, _,
      acceptance_of_approved contract respond unknown evaluated routed⟩
  | @reported orderId record rewritten command event found report =>
    have same := report.clientOrderId
    refine Or.inl ⟨?_, rfl, Or.inl rfl, Or.inl rfl⟩
    rw [Sequencer.state_putOrder]
    exact sameBook_putOrder found same
  | filled called found left emitted =>
    exact Or.inl ⟨contract.fills called, rfl, Or.inl rfl, Or.inl rfl⟩
  | called own quiet unrelated =>
    obtain ⟨undispatched, unacknowledged⟩ := quiet_effects quiet
    exact Or.inl ⟨contract.keeps own, undispatched, Or.inl rfl, Or.inl unacknowledged⟩
  | @limitsRefused agent limits core error respond failed =>
    exact Or.inl ⟨contract.limits_keep failed, rfl, Or.inl rfl, Or.inl rfl⟩
  | silent reply quiet =>
    obtain ⟨undispatched, unacknowledged⟩ := quiet_effects quiet
    exact Or.inl ⟨.refl _, undispatched, Or.inl rfl, Or.inl unacknowledged⟩

/-- An order with an answer gets it again; the command only takes a number. -/
theorem answered_again [EventJournal J Weather] (sequencer : Sequencer C J) (respond : ReplyTo)
    (env : Environment Weather) (known : answerOf sequencer.state order.core.id = some ack) :
    sequencer.processCommand (.submitOrder order respond) env =
      ⟨numbered sequencer, [.orderReply respond (.ok ack)], .ok none⟩ := by
  have found : (numbered sequencer).findExistingAck order.core.id = some ack := by
    rw [findExistingAck_eq]
    exact known
  have handled : (numbered sequencer).handleCommand (.submitOrder order respond) env =
      ⟨numbered sequencer, [.orderReply respond (.ok ack)], .ok .nothing⟩ := by
    simp only [Sequencer.handleCommand, Sequencer.handleSubmitOrder, found]
  rw [processCommand_eq, handled]
  rfl

omit [LibraryText] [EngineCore C] in
/-- What draws no id after a draw changes nothing about it. -/
theorem Drawn.framed {before middle after : Sequencer C J} (drawn : Drawn before middle)
    (generators : after.clientOrderIdGenerators = middle.clientOrderIdGenerators) : Drawn before after := by
  unfold Drawn
  rw [generators]
  exact drawn

/-- A processed command is a handled one; a commit that follows leaves orders,
answers and generators alone. -/
theorem Processing.handled [EventJournal J Weather] {sequencer after : Sequencer C J} {env : Environment Weather}
    (processing : Processing sequencer command env effects commit after) :
    ∃ handled outcome, Handling (numbered sequencer) env command handled effects outcome ∧
      Untouched handled.state after.state ∧ after.clientOrderIdGenerators = handled.clientOrderIdGenerators := by
  cases processing with
  | idle handling quiet => exact ⟨after, _, handling, .refl _, rfl⟩
  | @committed handled effects outcome commit journal handling commits asked persisted =>
    exact ⟨handled, outcome, handling, settled_untouched handled commit journal, rfl⟩

/-- What one processed command does to the book. -/
theorem Processing.book [EventJournal J Weather] (contract : CoreContract C SameBook fun _ => SameBook)
    {sequencer after : Sequencer C J} {env : Environment Weather}
    (processing : Processing sequencer command env effects commit after) :
    (SameBook sequencer.state after.state ∧ dispatched effects = [] ∧ Drawn sequencer after ∧
      (acknowledged effects = [] ∨ ∃ ack, acknowledged effects = [ack] ∧
        ∃ orderId, answerOf sequencer.state orderId = some ack)) ∨
      ∃ agent ack, Acceptance sequencer after agent env.now effects ack := by
  obtain ⟨handled, outcome, handling, untouched, generators⟩ := Processing.handled processing
  rcases Handling.book contract handling with ⟨kept, undispatched, drawn, shown⟩ | ⟨-, -, agent, ack, acceptance⟩
  · exact Or.inl ⟨SameBook.trans kept untouched.sameBook, undispatched, drawn.framed generators, shown⟩
  · exact Or.inr ⟨agent, ack, acceptance.unnumbered.frame untouched.sameBook generators⟩

end Runs

end FeynmanEngine.OrderBookkeeping
