import Mathlib.Data.List.Induction
import FeynmanEngine.IdempotentSubmission
import FeynmanEngine.SignalBridge

/-! Signals of many agents, bridged into orders and submitted to one sequencer.
An order takes its id from the signal, which takes it from the agent, and the
sequencer knows a submission by that id alone. So every ack belongs to the agent
whose signal came first under the id, which is the submitter's own exactly as
long as no agent uses an id under which another agent's signal was accepted. -/
namespace FeynmanEngine.SignalAcks
open Ids Orders Portfolio Engine Tables Sequencing CommandCases OrderBookkeeping SequencerFixtures
open SequencerStart IdempotentSubmission SignalBridge Traces VenueOrders

variable {C J Weather : Type} [EngineCore C] {ack : OrderAck}

/-- Every generator prints its own agent. -/
def PrintsAgents (sequencer : Sequencer C J) : Prop :=
  ∀ agent, (sequencer.generatorFor agent).agentPrefix = agent.value

omit [EngineCore C] in
/-- The epoch of a restart is no part of the prefix. -/
theorem PrintsAgents.of_lookup {before after : Sequencer C J} (prints : PrintsAgents before) {agent : AgentId}
    (same : after.clientOrderIdGenerators.lookup agent = before.clientOrderIdGenerators.lookup agent) :
    (after.generatorFor agent).agentPrefix = agent.value := by
  have own := prints agent
  unfold Sequencer.generatorFor at own ⊢
  rw [same]
  cases found : before.clientOrderIdGenerators.lookup agent with
  | none => rfl
  | some generator =>
    rw [found] at own
    exact own

omit [EngineCore C] in
theorem PrintsAgents.drawn {before after : Sequencer C J} (prints : PrintsAgents before)
    (drawn : Drawn before after) : PrintsAgents after := by
  intro probe
  rcases drawn with same | ⟨agent, now, generators⟩
  · apply prints.of_lookup
    rw [same]
  · by_cases hit : probe = agent
    · unfold Sequencer.generatorFor
      rw [generators, lookup_insert_if, if_pos hit, hit]
      exact prints agent
    · apply prints.of_lookup
      rw [generators, lookup_insert_if, if_neg hit]

omit [EngineCore C] in
/-- A fresh id reads back as the agent it was drawn for. -/
theorem PrintsAgents.parse {sequencer : Sequencer C J} (prints : PrintsAgents sequencer) (since : now.SinceEpoch)
    (minted : clientOrderId = ((sequencer.generatorFor agent).next now).1) :
    clientOrderId.parseAgent = some agent := by
  rw [minted]
  have printed := ClientOrderId.format_agent (sequencer.generatorFor agent).agentPrefix
    (sequencer.generatorFor agent).counter (sequencer.generatorFor agent).restartEpoch since.millis
  rw [prints agent] at printed
  unfold ClientOrderIdGenerator.next
  rw [prints agent]
  exact printed

section Submissions
variable [LibraryText]

/-- A submission shows the answer kept for its order, or its order is accepted. -/
theorem Handling.submission (contract : CoreContract C SameBook fun _ => SameBook) {before after : Sequencer C J}
    {env : Environment Weather}
    (handling : Handling before env (.submitOrder order respond) after effects outcome) :
    (SameBook before.state after.state ∧ dispatched effects = [] ∧ Drawn before after ∧
      ∀ ack ∈ acknowledged effects, answerOf before.state order.core.id = some ack) ∨
    ∃ ack, ack.orderId = order.core.id ∧ Acceptance before after order.core.agentId env.now effects ack := by
  cases handling with
  | answered respond known =>
    rw [findExistingAck_eq] at known
    exact Or.inl ⟨.refl _, rfl, Or.inl rfl, List.forall_mem_singleton.mpr known⟩
  | refused respond unknown evaluated =>
    exact Or.inl ⟨contract.evaluate_keeps evaluated, rfl, Or.inl rfl, List.forall_mem_nil _⟩
  | unroutable respond unknown evaluated =>
    exact Or.inl ⟨contract.evaluate_keeps evaluated, rfl, Or.inr ⟨order.core.agentId, env.now, rfl⟩,
      List.forall_mem_nil _⟩
  | accepted respond unknown evaluated ready routed =>
    exact Or.inr ⟨_, rfl, acceptance_of_approved contract respond unknown evaluated routed⟩
  | reported found report => cases report
  | called own quiet unrelated =>
    obtain ⟨undispatched, unacknowledged⟩ := quiet_effects quiet
    rw [unacknowledged]
    exact Or.inl ⟨contract.keeps own, undispatched, Or.inl rfl, List.forall_mem_nil _⟩
  | silent reply quiet =>
    obtain ⟨undispatched, unacknowledged⟩ := quiet_effects quiet
    rw [unacknowledged]
    exact Or.inl ⟨.refl _, undispatched, Or.inl rfl, List.forall_mem_nil _⟩

variable [EventJournal J Weather]

/-- What is acknowledged to a submission, whether or not its commit is stored. -/
theorem acknowledged_submission (contract : CoreContract C SameBook fun _ => SameBook)
    (sequencer : Sequencer C J) (order : PipelineOrder Validated) (respond : ReplyTo)
    (env : Environment Weather)
    (shown : ack ∈ acknowledged (sequencer.processCommand (.submitOrder order respond) env).effects) :
    answerOf sequencer.state order.core.id = some ack ∨
      ack.clientOrderId = ((sequencer.generatorFor order.core.agentId).next env.now).1 := by
  rw [processCommand_effects] at shown
  cases completion : ((numbered sequencer).handleCommand (.submitOrder order respond) env).completion with
  | ok outcome =>
    rcases Handling.submission contract (handleCommand_handling _ _ env completion) with
      ⟨-, -, -, kept⟩ | ⟨fresh, -, acceptance⟩
    · exact Or.inl (kept ack shown)
    · rw [acceptance.acknowledged, List.mem_singleton] at shown
      rw [shown]
      exact Or.inr acceptance.minted
  | err error =>
    rw [(handleCommand_failed (numbered sequencer) (.submitOrder order respond) env (by simp [completion])).2]
      at shown
    cases shown
  | panicked =>
    rw [(handleCommand_failed (numbered sequencer) (.submitOrder order respond) env (by simp [completion])).2]
      at shown
    cases shown

/-- What a processed submission does to the book. -/
theorem Processing.submission (contract : CoreContract C SameBook fun _ => SameBook)
    {sequencer after : Sequencer C J} {env : Environment Weather}
    (processing : Processing sequencer (.submitOrder order respond) env effects commit after) :
    (SameBook sequencer.state after.state ∧ dispatched effects = [] ∧ Drawn sequencer after ∧
      ∀ ack ∈ acknowledged effects, answerOf sequencer.state order.core.id = some ack) ∨
    ∃ ack, ack.orderId = order.core.id ∧
      Acceptance sequencer after order.core.agentId env.now effects ack := by
  obtain ⟨handled, outcome, handling, untouched, generators⟩ := Processing.handled processing
  rcases Handling.submission contract handling with ⟨kept, undispatched, drawn, shown⟩ | ⟨ack, own, acceptance⟩
  · exact Or.inl ⟨SameBook.trans kept untouched.sameBook, undispatched, drawn.framed generators, shown⟩
  · exact Or.inr ⟨ack, own, acceptance.unnumbered.frame untouched.sameBook generators⟩

/-- Any other command leaves the book alone. -/
theorem Processing.unrelated (contract : CoreContract C SameBook fun _ => SameBook)
    (unrelated : ∀ order respond, command ≠ .submitOrder order respond)
    {sequencer after : Sequencer C J} {env : Environment Weather}
    (processing : Processing sequencer command env effects commit after) :
    SameBook sequencer.state after.state ∧ dispatched effects = [] ∧ Drawn sequencer after := by
  obtain ⟨handled, outcome, handling, untouched, generators⟩ := Processing.handled processing
  rcases Handling.book contract handling with ⟨same, undispatched, drawn, -⟩ | ⟨accepts, -⟩
  · exact ⟨SameBook.trans same untouched.sameBook, undispatched, drawn.framed generators⟩
  · obtain ⟨order, respond, -, -, submission, -⟩ := accepts
    exact absurd submission (unrelated order respond)

end Submissions

/-- A turn of the loop, and the signal it was on behalf of. -/
structure SignalTurn where
  submitted : Option Signal
  turn : Turn

/-- The acks given in a turn, each with the signal it was given for. -/
def SignalTurn.acked (label : SignalTurn) : List (Signal × OrderAck) :=
  match label.submitted with
  | none => []
  | some signal => (acknowledged label.turn.effects).map fun ack => (signal, ack)

/-- The signals accepted in a run, with their acks. -/
def accepted (labels : List SignalTurn) : List (Signal × OrderAck) := labels.flatMap SignalTurn.acked

/-- The orders a run put on the venue channel. -/
def sent (labels : List SignalTurn) : List (PipelineOrder Routed) :=
  labels.flatMap fun label => dispatched label.turn.effects

theorem accepted_snoc (labels : List SignalTurn) (label : SignalTurn) :
    accepted (labels ++ [label]) = accepted labels ++ label.acked := by simp [accepted]

theorem sent_snoc (labels : List SignalTurn) (label : SignalTurn) :
    sent (labels ++ [label]) = sent labels ++ dispatched label.turn.effects := by simp [sent]

/-- The orders sent under an order's id. -/
def sentAs (orderId : OrderId) (routed : List (PipelineOrder Routed)) : List (PipelineOrder Routed) :=
  routed.filter fun order => order.core.id = orderId

/-- Where the acks of an order id come from: from no one yet, or from the signal
that was first accepted under it, whose order alone was sent. -/
inductive Origin (pairs : List (Signal × OrderAck)) (routed : List (PipelineOrder Routed)) (state : EngineState)
    (orderId : OrderId) : Prop
  | unclaimed (unrecorded : clientIdOf state orderId = none) (unsent : sentAs orderId routed = [])
      (fresh : ∀ pair ∈ pairs, orderIdForSignal pair.1.id ≠ orderId)
  | claimed {signal : Signal} {ack : OrderAck} {order : PipelineOrder Routed} (first : (signal, ack) ∈ pairs)
      (own : orderIdForSignal signal.id = orderId)
      (recorded : clientIdOf state orderId = some order.clientOrderId)
      (cached : (state.idempotencyCache.lookup order.clientOrderId).isSome)
      (once : sentAs orderId routed = [order])
      (owner : order.clientOrderId.parseAgent = some signal.agent)
      (shared : ∀ pair ∈ pairs, orderIdForSignal pair.1.id = orderId → pair.2.clientOrderId = order.clientOrderId)

/-- Every answer is kept under the id it carries. -/
def Keyed (state : EngineState) : Prop :=
  ∀ clientOrderId ack, state.idempotencyCache.lookup clientOrderId = some ack → ack.clientOrderId = clientOrderId

/-- An answer kept for an order carries the client id recorded for it. -/
theorem Keyed.recorded {state : EngineState} (keyed : Keyed state) (known : answerOf state orderId = some ack) :
    clientIdOf state orderId = some ack.clientOrderId := by
  obtain ⟨clientOrderId, recorded, cached⟩ := Option.bind_eq_some_iff.mp known
  rw [keyed clientOrderId ack cached]
  exact recorded

/-- A step that leaves the book alone shows answers kept for their orders. -/
theorem Origin.kept {before after : EngineState} (origin : Origin pairs routed before orderId)
    (keyed : Keyed before) (same : SameBook before after)
    (answers : ∀ pair ∈ newer, answerOf before (orderIdForSignal (Prod.fst pair).id) = some pair.2) :
    Origin (pairs ++ newer) routed after orderId := by
  cases origin with
  | unclaimed unrecorded unsent fresh =>
    refine .unclaimed ((same.clientIds orderId).trans unrecorded) unsent fun pair member => ?_
    rcases List.mem_append.mp member with earlier | now
    · exact fresh pair earlier
    · rintro rfl
      rw [keyed.recorded (answers pair now)] at unrecorded
      cases unrecorded
  | @claimed signal ack order first own recorded cached once owner shared =>
    refine .claimed (List.mem_append_left _ first) own ((same.clientIds orderId).trans recorded) ?_ once owner
      fun pair member hit => ?_
    · rw [same.answers]
      exact cached
    · rcases List.mem_append.mp member with earlier | now
      · exact shared pair earlier hit
      · have known := keyed.recorded (answers pair now)
        rw [hit, recorded] at known
        exact (Option.some.inj known).symm

section Acceptances
variable {before after : Sequencer C J}

/-- An accepted order is the first under its id. -/
theorem Origin.unanswered (origin : Origin pairs routed before.state orderId)
    (fresh : answerOf before.state orderId = none) :
    sentAs orderId routed = [] ∧ ∀ pair ∈ pairs, orderIdForSignal (Prod.fst pair).id ≠ orderId := by
  cases origin with
  | unclaimed unrecorded unsent unclaimed => exact ⟨unsent, unclaimed⟩
  | claimed first own recorded cached once owner shared =>
    rw [answerOf, recorded, Option.bind_some] at fresh
    rw [fresh] at cached
    cases cached

/-- It claims its id, and concerns no other. -/
theorem Origin.accepted (origin : Origin pairs routed before.state orderId)
    (acceptance : Acceptance before after signal.agent now effects ack)
    (own : ack.orderId = orderIdForSignal (Signal.id signal)) (prints : PrintsAgents before) (since : now.SinceEpoch)
    (wired : before.venueSubmitTx = true) :
    Origin (pairs ++ [(signal, ack)]) (routed ++ dispatched effects) after.state orderId := by
  obtain ⟨order, identity, named, put⟩ := acceptance.dispatched
  rw [if_pos wired] at put
  rw [put]
  by_cases hit : orderId = ack.orderId
  · subst hit
    obtain ⟨unsent, unclaimed⟩ := origin.unanswered acceptance.fresh
    have once : sentAs ack.orderId (routed ++ [order]) = [order] := by
      rw [sentAs, List.filter_append, ← sentAs, unsent, List.nil_append, List.filter_singleton, identity]
      simp
    refine .claimed (List.mem_append_right _ (List.mem_singleton.mpr rfl)) own.symm ?_ ?_ once ?_ ?_
    · rw [acceptance.clientIds, if_pos rfl, named]
    · rw [acceptance.answers, if_pos named]
      rfl
    · rw [named]
      exact prints.parse since acceptance.minted
    · intro pair member same
      rcases List.mem_append.mp member with earlier | now
      · exact absurd same (unclaimed pair earlier)
      · rw [List.mem_singleton.mp now]
        exact named.symm
  · have unsent : sentAs orderId (routed ++ [order]) = sentAs orderId routed := by
      rw [sentAs, List.filter_append, List.filter_singleton, identity]
      simp [sentAs, Ne.symm hit]
    cases origin with
    | unclaimed unrecorded none fresh =>
      refine .unclaimed ?_ (unsent.trans none) fun pair member => ?_
      · rw [acceptance.clientIds, if_neg hit]
        exact unrecorded
      · rcases List.mem_append.mp member with earlier | now
        · exact fresh pair earlier
        · rw [List.mem_singleton.mp now, ← own]
          exact Ne.symm hit
    | claimed first mine recorded cached once owner shared =>
      refine .claimed (List.mem_append_left _ first) mine ?_ ?_ (unsent.trans once) owner fun pair member same => ?_
      · rw [acceptance.clientIds, if_neg hit]
        exact recorded
      · rw [acceptance.answers]
        split
        · rfl
        · exact cached
      · rcases List.mem_append.mp member with earlier | now
        · exact shared pair earlier same
        · rw [List.mem_singleton.mp now, ← own] at same
          exact absurd same.symm hit

theorem Keyed.accepted (keyed : Keyed before.state)
    (acceptance : Acceptance before after agent now effects ack) : Keyed after.state := by
  intro clientOrderId stored found
  rw [acceptance.answers] at found
  split at found
  · next hit =>
    cases found
    exact hit.symm
  · exact keyed clientOrderId stored found

end Acceptances

section Runs
variable [LibraryText] [EventJournal J Weather]

/-- The submission of an order the bridge made of a signal, or another command. -/
inductive Bridged : Option Signal → SequencerCommand → Prop
  | submission {bridge : SignalOrderBridge} {signal : Signal} {firmBook : FirmBook}
      {agentLimits : Option AgentRiskLimits} {prices : PriceSource} {venueStates : List VenueRouteState}
      {madeAt : DateTime} {orders : List (PipelineOrder Draft)} {draft : PipelineOrder Draft}
      (made : signalToOrders bridge signal firmBook agentLimits prices venueStates madeAt = .ok orders)
      (member : draft ∈ orders) (validatedAt : DateTime) (respond : ReplyTo) :
      Bridged (some signal) (.submitOrder (draft.intoValidated validatedAt) respond)
  | other {command : SequencerCommand} (unrelated : ∀ order respond, command ≠ .submitOrder order respond) :
      Bridged none command

/-- A turn of the loop at a time since the epoch. -/
def Takes (sequencer : Sequencer C J) (label : SignalTurn) (next : Sequencer C J) : Prop :=
  ∃ (command : SequencerCommand) (env : Environment Weather), Bridged label.submitted command ∧
    env.now.SinceEpoch ∧ Processes sequencer command env label.turn next

/-- The runs of a sequencer wired to a venue that starts without orders. -/
inductive SignalRun (core : C) (journal : J) (epoch : Nat) : List SignalTurn → Sequencer C J → Prop
  | of {first sequencer : Sequencer C J} {labels : List SignalTurn}
      (started : Sequencer.new core journal epoch = .ok first)
      (orders : first.state.orders = ∅) (answers : first.state.idempotencyCache = ∅)
      (path : Path Takes first.withVenueSubmitTx labels sequencer) : SignalRun core journal epoch labels sequencer

/-- A turn shows answers kept for its signal's order, or accepts it. -/
theorem Takes.cases (contract : CoreContract C SameBook fun _ => SameBook) {sequencer next : Sequencer C J}
    (takes : Takes sequencer label next) :
    (SameBook sequencer.state next.state ∧ dispatched label.turn.effects = [] ∧ Drawn sequencer next ∧
      ∀ pair ∈ label.acked, answerOf sequencer.state (orderIdForSignal pair.1.id) = some pair.2) ∨
    ∃ signal ack now, now.SinceEpoch ∧ label.acked = [(signal, ack)] ∧
      ack.orderId = orderIdForSignal signal.id ∧
      Acceptance sequencer next signal.agent now label.turn.effects ack := by
  obtain ⟨command, env, bridged, since, processes⟩ := takes
  have processing := processes.processing
  obtain ⟨submitted, turn⟩ := label
  cases bridged with
  | other unrelated =>
    obtain ⟨same, undispatched, drawn⟩ := Processing.unrelated contract unrelated processing
    exact Or.inl ⟨same, undispatched, drawn, List.forall_mem_nil _⟩
  | @submission bridge signal _ _ _ _ _ _ draft made member validatedAt respond =>
    have drafted := (signalToOrders_ok made).2 draft member
    have named : (draft.intoValidated validatedAt).core.id = orderIdForSignal signal.id := drafted.id
    have owned : (draft.intoValidated validatedAt).core.agentId = signal.agent := drafted.agentId
    rcases Processing.submission contract processing with ⟨same, undispatched, drawn, kept⟩ |
      ⟨ack, own, acceptance⟩
    · refine Or.inl ⟨same, undispatched, drawn, fun pair shown => ?_⟩
      obtain ⟨ack, acked, rfl⟩ := List.mem_map.mp shown
      rw [← named]
      exact kept ack acked
    · rw [owned] at acceptance
      refine Or.inr ⟨signal, ack, env.now, since, ?_, own.trans named, acceptance⟩
      unfold SignalTurn.acked
      rw [acceptance.acknowledged]
      rfl

/-- What every run keeps. -/
structure Attributed (labels : List SignalTurn) (sequencer : Sequencer C J) : Prop where
  wired : sequencer.venueSubmitTx = true
  prints : PrintsAgents sequencer
  keyed : Keyed sequencer.state
  origins : ∀ orderId, Origin (accepted labels) (sent labels) sequencer.state orderId

omit [LibraryText] in
theorem attributed_start {core : C} {journal : J} {first : Sequencer C J}
    (started : Sequencer.new core journal epoch = .ok first)
    (orders : first.state.orders = ∅) (answers : first.state.idempotencyCache = ∅) :
    Attributed [] first.withVenueSubmitTx where
  wired := rfl
  prints agent := by
    have unnumbered := unnumbered_start started answers agent
    unfold Sequencer.generatorFor
    rw [show first.withVenueSubmitTx.clientOrderIdGenerators = first.clientOrderIdGenerators from rfl, unnumbered]
    rfl
  keyed clientOrderId ack found := by
    simp [answers] at found
  origins orderId := .unclaimed (by simp [clientIdOf, orders]) rfl (List.forall_mem_nil _)

theorem attributed_step (contract : CoreContract C SameBook fun _ => SameBook) {sequencer next : Sequencer C J}
    (held : Attributed labels sequencer) (takes : Takes sequencer label next) :
    Attributed (labels ++ [label]) next := by
  have wired : next.venueSubmitTx = true := by
    obtain ⟨command, env, -, -, processes⟩ := takes
    exact processes.processing.venueSubmitTx.trans held.wired
  rcases takes.cases contract with ⟨same, undispatched, drawn, kept⟩ |
    ⟨signal, ack, now, since, acked, own, acceptance⟩
  · refine ⟨wired, held.prints.drawn drawn, fun clientOrderId ack found => ?_, fun orderId => ?_⟩
    · rw [same.answers] at found
      exact held.keyed clientOrderId ack found
    · rw [accepted_snoc, sent_snoc, undispatched, List.append_nil]
      exact (held.origins orderId).kept held.keyed same kept
  · refine ⟨wired, held.prints.drawn (Or.inr ⟨_, _, acceptance.generators⟩), held.keyed.accepted acceptance,
      fun orderId => ?_⟩
    rw [accepted_snoc, sent_snoc, acked]
    exact (held.origins orderId).accepted acceptance own held.prints since held.wired

theorem attributed_of_run (contract : CoreContract C SameBook fun _ => SameBook) {core : C} {journal : J}
    (run : SignalRun core journal epoch labels sequencer) : Attributed labels sequencer := by
  obtain ⟨started, orders, answers, path⟩ := run
  exact path.invariant (attributed_start started orders answers)
    fun _ _ _ _ held takes => attributed_step contract held takes

end Runs

/-- No other agent's signal was accepted under the signal's id. -/
def Unclaimed (labels : List SignalTurn) (signal : Signal) : Prop :=
  ∀ pair ∈ accepted labels, pair.1.id = signal.id → pair.1.agent = signal.agent

/-- No signal is submitted under an id of another agent's accepted signal. -/
def Distinct (labels : List SignalTurn) : Prop :=
  ∀ before label after signal, labels = before ++ label :: after → label.submitted = some signal →
    Unclaimed before signal

theorem SignalTurn.submitted_of_acked (member : pair ∈ SignalTurn.acked label) :
    label.submitted = some (Prod.fst pair) := by
  unfold SignalTurn.acked at member
  split at member
  · cases member
  · next signal submitted =>
    obtain ⟨ack, -, rfl⟩ := List.mem_map.mp member
    exact submitted

/-- Signals accepted under one id are then of one agent. -/
theorem Distinct.agree (distinct : Distinct labels) : ∀ pair ∈ accepted labels, ∀ other ∈ accepted labels,
    pair.1.id = other.1.id → pair.1.agent = other.1.agent := by
  induction labels using List.reverseRecOn with
  | nil => exact List.forall_mem_nil _
  | append_singleton labels label ih =>
    have earlier : Distinct labels := by
      intro before middle after signal shape submitted
      refine distinct before middle (after ++ [label]) signal ?_ submitted
      rw [shape, List.append_assoc, List.cons_append]
    have newest : ∀ pair ∈ label.acked, Unclaimed labels pair.1 := fun pair member =>
      distinct labels label [] pair.1 rfl (SignalTurn.submitted_of_acked member)
    intro pair member other shown same
    rw [accepted_snoc] at member shown
    rcases List.mem_append.mp member with before | now <;> rcases List.mem_append.mp shown with past | present
    · exact ih earlier pair before other past same
    · exact newest other present pair before same
    · exact (newest pair now other past same.symm).symm
    · have one := SignalTurn.submitted_of_acked now
      rw [SignalTurn.submitted_of_acked present] at one
      rw [Option.some.inj one]

/-- Every ack names the agent it was given to. -/
def Belongs (labels : List SignalTurn) : Prop :=
  ∀ pair ∈ accepted labels, pair.2.clientOrderId.parseAgent = some pair.1.agent

/-- Accepted signals of different agents are sent as two orders. -/
def SentApart (labels : List SignalTurn) : Prop :=
  ∀ pair ∈ accepted labels, ∀ other ∈ accepted labels, pair.1.agent ≠ other.1.agent →
    ∃ order another, order.core.id ≠ another.core.id ∧
      sentAs (orderIdForSignal pair.1.id) (sent labels) = [order] ∧
      sentAs (orderIdForSignal other.1.id) (sent labels) = [another]

theorem mem_sentAs (once : sentAs orderId routed = [order]) : order.core.id = orderId := by
  have member : order ∈ sentAs orderId routed := by
    rw [once]
    exact List.mem_singleton.mpr rfl
  exact of_decide_eq_true (List.mem_filter.mp member).2

/-- An accepted signal's id is claimed: one order was sent, and the ack is its owner's. -/
theorem Attributed.of_accepted {sequencer : Sequencer C J} (held : Attributed labels sequencer)
    (member : pair ∈ accepted labels) :
    ∃ first ∈ accepted labels, ∃ order, first.1.id = pair.1.id ∧
      sentAs (orderIdForSignal pair.1.id) (sent labels) = [order] ∧
      pair.2.clientOrderId = order.clientOrderId ∧ order.clientOrderId.parseAgent = some first.1.agent ∧
      clientIdOf sequencer.state (orderIdForSignal pair.1.id) = some order.clientOrderId ∧
      (answerOf sequencer.state (orderIdForSignal pair.1.id)).isSome := by
  cases held.origins (orderIdForSignal pair.1.id) with
  | unclaimed unrecorded unsent fresh => exact absurd rfl (fresh pair member)
  | @claimed signal ack order first own recorded cached once owner shared =>
    refine ⟨(signal, ack), first, order, orderIdForSignal_injective own, once, shared pair member rfl, owner,
      recorded, ?_⟩
    rw [answerOf, recorded, Option.bind_some]
    exact cached

/-- Without a clash every ack is its submitter's, and no two agents share an order. -/
theorem Attributed.belongs {sequencer : Sequencer C J} (held : Attributed labels sequencer)
    (distinct : Distinct labels) : Belongs labels ∧ SentApart labels := by
  constructor
  · intro pair member
    obtain ⟨first, claimed, order, same, -, shared, owner, -⟩ := held.of_accepted member
    rw [shared, owner, distinct.agree first claimed pair member same]
  · intro pair member other shown apart
    obtain ⟨-, -, order, -, once, -⟩ := held.of_accepted member
    obtain ⟨-, -, another, -, again, -⟩ := held.of_accepted shown
    refine ⟨order, another, fun same => ?_, once, again⟩
    rw [mem_sentAs once, mem_sentAs again] at same
    exact apart (distinct.agree pair member other shown (orderIdForSignal_injective same))

section Exactness
variable [LibraryText] [EventJournal J Weather]

/-- What a next submission is told, whether or not its commit is stored. -/
theorem Attributed.next_belongs_iff (contract : CoreContract C SameBook fun _ => SameBook)
    {sequencer : Sequencer C J} {env : Environment Weather} (held : Attributed labels sequencer)
    (distinct : Distinct labels) (bridged : Bridged (some signal) command) (since : env.now.SinceEpoch) :
    (∀ ack ∈ acknowledged (sequencer.processCommand command env).effects,
      ack.clientOrderId.parseAgent = some signal.agent) ↔ Unclaimed labels signal := by
  cases bridged with
  | @submission bridge _ _ _ _ _ _ _ draft made member validatedAt respond =>
    have drafted := (signalToOrders_ok made).2 draft member
    have named : (draft.intoValidated validatedAt).core.id = orderIdForSignal signal.id := drafted.id
    have owned : (draft.intoValidated validatedAt).core.agentId = signal.agent := drafted.agentId
    constructor
    · intro own pair claimed same
      obtain ⟨first, earlier, order, agree, -, -, owner, recorded, answered⟩ := held.of_accepted claimed
      obtain ⟨ack, known⟩ := Option.isSome_iff_exists.mp answered
      rw [same] at known
      have given : ack ∈ acknowledged (sequencer.processCommand
          (.submitOrder (draft.intoValidated validatedAt) respond) env).effects := by
        rw [← named] at known
        rw [answered_again sequencer respond env known]
        exact List.mem_singleton.mpr rfl
      have mine := own ack given
      rw [same, held.keyed.recorded known, Option.some.injEq] at recorded
      rw [recorded, owner, Option.some.injEq] at mine
      rw [← mine]
      exact distinct.agree pair claimed first earlier agree.symm
    · intro unclaimed ack shown
      rcases acknowledged_submission contract sequencer _ respond env shown with known | minted
      · rw [named] at known
        cases held.origins (orderIdForSignal signal.id) with
        | unclaimed unrecorded unsent fresh =>
          rw [held.keyed.recorded known] at unrecorded
          cases unrecorded
        | claimed first own recorded cached once owner shared =>
          rw [held.keyed.recorded known, Option.some.injEq] at recorded
          rw [recorded, owner, unclaimed _ first (orderIdForSignal_injective own)]
      · rw [owned] at minted
        exact held.prints.parse since minted

/-- An ack that answers a clash names the agent that was there first. -/
theorem Takes.clash {sequencer next : Sequencer C J}
    (held : Attributed labels sequencer) (takes : Takes sequencer label next)
    (submitted : label.submitted = some signal) (claimed : pair ∈ accepted labels)
    (same : (Prod.fst pair).id = signal.id) :
    ∃ ack, (signal, ack) ∈ label.acked ∧ ack.clientOrderId = pair.2.clientOrderId := by
  obtain ⟨command, env, bridged, since, processes⟩ := takes
  obtain ⟨-, -, order, -, -, shared, -, recorded, answered⟩ := held.of_accepted claimed
  obtain ⟨ack, known⟩ := Option.isSome_iff_exists.mp answered
  rw [held.keyed.recorded known, Option.some.injEq] at recorded
  refine ⟨ack, ?_, recorded.trans shared.symm⟩
  obtain ⟨submitter, turn⟩ := label
  cases submitted
  cases bridged with
  | @submission bridge _ _ _ _ _ _ _ draft made member validatedAt respond =>
    have named : (draft.intoValidated validatedAt).core.id = orderIdForSignal signal.id :=
      ((signalToOrders_ok made).2 draft member).id
    rw [same, ← named] at known
    have shown : turn.effects = [.orderReply respond (.ok ack)] := by
      rw [show turn = _ from processes.turn, turnOf, answered_again sequencer respond env known]
    unfold SignalTurn.acked
    rw [show (SignalTurn.mk (some signal) turn).turn.effects = _ from shown]
    exact List.mem_singleton.mpr rfl

/-- Acks belong to their submitters and agents' orders are sent apart in exactly
the runs that never submit a signal under an id of another agent's accepted one;
after such a run the same holds of the next submission, stored or not. -/
theorem acks_belong_to_submitters (contract : CoreContract C SameBook fun _ => SameBook) {core : C} {journal : J}
    (run : SignalRun core journal epoch labels sequencer) :
    (Belongs labels ∧ SentApart labels ↔ Distinct labels) ∧
    (Distinct labels → ∀ signal command (env : Environment Weather), Bridged (some signal) command →
      env.now.SinceEpoch →
      ((∀ ack ∈ acknowledged (sequencer.processCommand command env).effects,
        ack.clientOrderId.parseAgent = some signal.agent) ↔ Unclaimed labels signal)) := by
  have held := attributed_of_run contract run
  refine ⟨⟨?_, held.belongs⟩, fun distinct signal command env bridged since =>
    held.next_belongs_iff contract distinct bridged since⟩
  rintro ⟨belongs, -⟩ before label after signal rfl submitted pair claimed same
  obtain ⟨started, orders, answers, path⟩ := run
  obtain ⟨middle, next, past, takes, -⟩ := path.at_label
  have then_held := attributed_of_run contract (.of started orders answers past)
  obtain ⟨ack, given, shared⟩ := takes.clash then_held submitted claimed same
  have mine := belongs (signal, ack) (by simp [accepted, given])
  have theirs := belongs pair (by
    rw [accepted, List.flatMap_append]
    exact List.mem_append_left _ claimed)
  rw [shared, theirs, Option.some.injEq] at mine
  exact mine

end Exactness

section Clash
open Journal Plain

/-- The symbol map of the bridge's tests. -/
def sampleSymbolMap : SymbolMap :=
  match SymbolMap.default.insert ⟨"bybit"⟩ "BTCUSDT" ⟨"BTC"⟩ with
  | .ok map => map
  | .error _ => .default

/-- Their signal, of any agent and under any id. -/
def sampleSignal (agent id : String) : Signal where
  id := ⟨id⟩
  basketId := some ⟨"basket-1"⟩
  agent := ⟨agent⟩
  instrument := ⟨"BTC"⟩
  direction := .buy
  conviction := 1 / 2
  sizingHint := none
  arbType := "directional"
  stopLoss := 9900
  takeProfit := some 10250
  thesis := "follow breakout"
  urgency := .high
  metadata := "{}"
  createdAt := ⟨0⟩

def activeAllocation : AgentAllocation := ⟨20000, 0, 20000, 0, 0, 0, 15 / 100, .active⟩

/-- Their firm book, with a second agent. -/
def bridgeBook : FirmBook :=
  { emptyBook ⟨0⟩ with
    agentAllocations := ((∅ : Table AgentId AgentAllocation).insert ⟨"athena"⟩ activeAllocation).insert
      ⟨"satoshi"⟩ activeAllocation }

def bridgePrices : PriceSource where
  latestPrice _ := some ⟨⟨"BTC"⟩, 9995, 10005, 10000, 10001, ⟨0⟩, ⟨0⟩⟩
  isStale _ _ := false

def bybitRoute : VenueRouteState := ⟨⟨⟨"bybit"⟩, .connected, none, none, none, 0, none⟩, 30000⟩

def bridgedOrders (signal : Signal) : Except GatewayError (List (PipelineOrder Draft)) :=
  signalToOrders ⟨.default, sampleSymbolMap⟩ signal bridgeBook none bridgePrices [bybitRoute] ⟨0⟩

/-- The order made of a signal, if one is made. -/
def draftOf (signal : Signal) : PipelineOrder Draft :=
  match bridgedOrders signal with
  | .ok (draft :: _) => draft
  | _ => .new (draftCore ⟨.default, sampleSymbolMap⟩ signal ⟨⟨"bybit"⟩, "BTCUSDT"⟩ 0 0 ⟨0⟩)

def submitSignal (signal : Signal) : SequencerCommand := .submitOrder ((draftOf signal).intoValidated ⟨0⟩) 0

/-- The bridge makes an order of the signal. -/
def makesOrder (signal : Signal) : Bool :=
  match bridgedOrders signal with
  | .ok (_ :: _) => true
  | _ => false

theorem bridged_submit (makes : makesOrder signal = true) : Bridged (some signal) (submitSignal signal) := by
  unfold makesOrder at makes
  split at makes
  · next draft drafts made =>
    have own : draftOf signal = draft := by
      unfold draftOf
      rw [made]
    refine .submission made ?_ ⟨0⟩ 0
    rw [own]
    exact List.mem_cons_self
  · cases makes

/-- A turn with the signal's submission. -/
def signalTurn (sequencer : Sequencer TestCore (SqliteJournal PlainBlob)) (signal : Signal) : SignalTurn :=
  ⟨some signal, turnOf sequencer (submitSignal signal) calm⟩

def afterSignal (sequencer : Sequencer TestCore (SqliteJournal PlainBlob)) (signal : Signal) :
    Sequencer TestCore (SqliteJournal PlainBlob) :=
  (sequencer.processCommand (submitSignal signal) calm).sequencer

theorem takes_signal {sequencer : Sequencer TestCore (SqliteJournal PlainBlob)} (makes : makesOrder signal = true)
    (succeeds : (sequencer.processCommand (submitSignal signal) calm).result.toBool = true) :
    Takes sequencer (signalTurn sequencer signal) (afterSignal sequencer signal) :=
  ⟨_, calm, bridged_submit makes, le_refl _, exists_ok succeeds, rfl, rfl⟩

/-- A first signal of one agent, then one of another. -/
def twoSignals (first second : Signal) : List SignalTurn :=
  [signalTurn booted first, signalTurn (afterSignal booted first) second]

def afterBoth (first second : Signal) : Sequencer TestCore (SqliteJournal PlainBlob) :=
  afterSignal (afterSignal booted first) second

/-- The agents of the accepted signals, and the client ids in their acks. -/
def acksGiven (labels : List SignalTurn) : List (AgentId × ClientOrderId) :=
  (accepted labels).map fun pair => (pair.1.agent, pair.2.clientOrderId)

def athenaSignal : Signal := sampleSignal "athena" "sig-1"

theorem athena_taken : Takes booted (signalTurn booted athenaSignal) (afterSignal booted athenaSignal) :=
  takes_signal (by decide +kernel) (by decide +kernel)

theorem two_run (taken : Takes (afterSignal booted athenaSignal)
      (signalTurn (afterSignal booted athenaSignal) second) (afterBoth athenaSignal second)) :
    SignalRun freshCore freshJournal 0 (twoSignals athenaSignal second) (afterBoth athenaSignal second) := by
  have fresh : Path Takes booted [] booted := .start
  exact .of rfl rfl rfl ((fresh.step athena_taken).step taken)

/-- Two agents under two ids. -/
def separate : List SignalTurn := twoSignals athenaSignal (sampleSignal "satoshi" "sig-2")

/-- Two agents under one id. -/
def clashing : List SignalTurn := twoSignals athenaSignal (sampleSignal "satoshi" "sig-1")

theorem separate_distinct : Distinct separate := by
  rintro before label after signal shape submitted
  match before with
  | [] => exact List.forall_mem_nil _
  | [first] =>
    obtain ⟨same, shape⟩ := List.cons.inj shape
    obtain ⟨rfl, -⟩ := List.cons.inj shape
    cases submitted
    rw [← same]
    intro pair member same
    have known : ∀ agent ∈ (accepted [signalTurn booted athenaSignal]).map fun pair => pair.1.id,
        agent ≠ ⟨"sig-2"⟩ := by decide +kernel
    exact absurd same (known _ (List.mem_map_of_mem member))
  | _ :: _ :: before =>
    have lengths := congrArg List.length shape
    simp [separate, twoSignals] at lengths

/-- Under two ids both agents get their own acks and two orders are sent. -/
theorem acks_belong_to_submitters_apart :
    acksGiven separate = [(⟨"athena"⟩, ⟨"athena-0-000000-r00"⟩), (⟨"satoshi"⟩, ⟨"satoshi-0-000000-r00"⟩)] ∧
      Belongs separate ∧ SentApart separate := by
  have run : SignalRun freshCore freshJournal 0 separate _ :=
    two_run (takes_signal (by decide +kernel) (by decide +kernel))
  exact ⟨by decide +kernel, (acks_belong_to_submitters TestCore.sameBook_contract run).1.mpr separate_distinct⟩

/-- A lone sent order is no two orders. -/
theorem not_sentApart (lone : (sent labels).length = 1) (member : pair ∈ accepted labels)
    (shown : other ∈ accepted labels) (apart : (Prod.fst pair).agent ≠ (Prod.fst other).agent) :
    ¬ SentApart labels := by
  intro claimed
  obtain ⟨order, another, differ, once, again⟩ := claimed pair member other shown apart
  obtain ⟨only, whole⟩ := List.length_eq_one_iff.mp lone
  have first : order ∈ sent labels := List.mem_of_mem_filter (by
    rw [← sentAs, once]
    exact List.mem_singleton.mpr rfl)
  have second : another ∈ sent labels := List.mem_of_mem_filter (by
    rw [← sentAs, again]
    exact List.mem_singleton.mpr rfl)
  rw [whole, List.mem_singleton] at first second
  rw [first, second] at differ
  exact differ rfl

/-- Under one id the second agent is told of the first one's order, and nothing
is sent for it. -/
theorem second_agent_gets_first_ack : CoreContract TestCore SameBook (fun _ => SameBook) ∧
    (∃ sequencer : Sequencer TestCore (SqliteJournal PlainBlob),
      SignalRun freshCore freshJournal 0 clashing sequencer) ∧
    acksGiven clashing = [(⟨"athena"⟩, ⟨"athena-0-000000-r00"⟩), (⟨"satoshi"⟩, ⟨"athena-0-000000-r00"⟩)] ∧
    ¬ Belongs clashing ∧ ¬ SentApart clashing := by
  have given : acksGiven clashing =
      [(⟨"athena"⟩, ⟨"athena-0-000000-r00"⟩), (⟨"satoshi"⟩, ⟨"athena-0-000000-r00"⟩)] := by decide +kernel
  have athena : (⟨"athena"⟩, ⟨"athena-0-000000-r00"⟩) ∈ acksGiven clashing := by simp [given]
  have satoshi : (⟨"satoshi"⟩, ⟨"athena-0-000000-r00"⟩) ∈ acksGiven clashing := by simp [given]
  obtain ⟨own, accepted, first⟩ := List.mem_map.mp athena
  obtain ⟨other, shown, second⟩ := List.mem_map.mp satoshi
  obtain ⟨ownAgent, -⟩ := Prod.mk.inj first
  obtain ⟨otherAgent, told⟩ := Prod.mk.inj second
  refine ⟨TestCore.sameBook_contract, ⟨_, two_run (takes_signal (by decide +kernel) (by decide +kernel))⟩, given, ?_, ?_⟩
  · intro belongs
    have parsed := belongs other shown
    rw [told, otherAgent] at parsed
    revert parsed
    decide +kernel
  · refine not_sentApart (by decide +kernel) accepted shown ?_
    rw [ownAgent, otherAgent]
    decide

end Clash

end FeynmanEngine.SignalAcks
