import FeynmanEngine.OrderBookkeeping
import FeynmanEngine.SequencerFixtures
import FeynmanEngine.SequencerStart
import FeynmanEngine.Traces

/-! One submission is recorded once, cached once and sent once, over whole runs
of one sequencer. Three stores must agree: the orders, the cached answers and
what the venue channel was given; they meet in the client order id, so the
argument rests on ids being printed from counters that only grow. -/
namespace FeynmanEngine.IdempotentSubmission
open Ids Orders Events Tables Portfolio Engine Sequencing JournalCommits CommandCases
open OrderBookkeeping SequencerFixtures SequencerStart Traces

variable {C J Weather : Type} [EngineCore C] {ack : OrderAck}

/-! ### Fresh client order ids -/

/-- Every generator prints its own agent and counts below the limit; every
cached id was printed for a counter value that its agent has left behind. -/
structure Minted (sequencer : Sequencer C J) : Prop where
  generators : ∀ agent generator,
    sequencer.clientOrderIdGenerators.lookup agent = some generator →
      generator.agentPrefix = agent.value ∧ generator.counter < u64Limit
  answers : ∀ clientOrderId ack, sequencer.state.idempotencyCache.lookup clientOrderId = some ack →
    ∃ agent millis sequence epoch, 0 ≤ millis ∧ sequence < counterOf sequencer agent ∧
      clientOrderId = .format agent.value millis sequence epoch

theorem Minted.generatorFor {sequencer : Sequencer C J} (minted : Minted sequencer)
    (agent : AgentId) : (sequencer.generatorFor agent).agentPrefix = agent.value ∧
      counterOf sequencer agent < u64Limit := by
  unfold counterOf Sequencer.generatorFor
  cases found : sequencer.clientOrderIdGenerators.lookup agent with
  | none => exact ⟨rfl, Nat.two_pow_pos 64⟩
  | some generator => exact minted.generators agent generator found

/-- Drawing an id keeps every generator in shape. -/
theorem Minted.drawn {before after : Sequencer C J} (minted : Minted before)
    (generators : after.clientOrderIdGenerators = before.clientOrderIdGenerators.insert agent
      ((before.generatorFor agent).next now).2) (probe : AgentId)
    (found : after.clientOrderIdGenerators.lookup probe = some generator) :
    generator.agentPrefix = probe.value ∧ generator.counter < u64Limit := by
  rw [generators, lookup_insert_if] at found
  by_cases hit : probe = agent
  · rw [if_pos hit] at found
    cases found
    subst hit
    exact ⟨(minted.generatorFor probe).1, Nat.mod_lt _ (by decide)⟩
  · rw [if_neg hit] at found
    exact minted.generators probe generator found

theorem Minted.of_sameAnswers {before after : Sequencer C J} (minted : Minted before)
    (same : SameAnswers before.state after.state) (drawn : Drawn before after)
    (grow : CountersGrow before after) : Minted after where
  generators := by
    intro agent generator found
    rcases drawn with unchanged | ⟨drawer, now, generators⟩
    · rw [unchanged] at found
      exact minted.generators agent generator found
    · exact minted.drawn generators agent found
  answers := by
    intro clientOrderId ack found
    rw [same] at found
    obtain ⟨agent, millis, sequence, epoch, since, below, shape⟩ := minted.answers clientOrderId ack found
    have grown := grow agent
    exact ⟨agent, millis, sequence, epoch, since, by omega, shape⟩

/-- A drawn id is the text its agent's counter stands at. -/
theorem Minted.printed {sequencer : Sequencer C J} (minted : Minted sequencer)
    (drawn : clientOrderId = ((sequencer.generatorFor agent).next now).1) :
    clientOrderId = .format agent.value now.timestampMillis (counterOf sequencer agent)
      (sequencer.generatorFor agent).restartEpoch := by
  rw [drawn, ← (minted.generatorFor agent).1]
  rfl

/-- The counter behind a drawn id has moved on. -/
theorem Minted.counterOf_drawn {before after : Sequencer C J} (minted : Minted before)
    (generators : after.clientOrderIdGenerators = before.clientOrderIdGenerators.insert agent
      ((before.generatorFor agent).next now).2) (grow : CountersGrow before after) :
    counterOf before agent < counterOf after agent := by
  have room := room_of_growth generators (minted.generatorFor agent).2 grow
  rw [OrderBookkeeping.counterOf_drawn generators, Nat.mod_eq_of_lt room]
  exact Nat.lt_succ_self _

/-- An answer under the drawn id. -/
theorem Minted.answered {before after : Sequencer C J} (minted : Minted before)
    (drawn : clientOrderId = ((before.generatorFor agent).next now).1)
    (generators : after.clientOrderIdGenerators = before.clientOrderIdGenerators.insert agent
      ((before.generatorFor agent).next now).2)
    (answers : ∀ probe, after.state.idempotencyCache.lookup probe =
      if probe = clientOrderId then some ack else before.state.idempotencyCache.lookup probe)
    (since : now.SinceEpoch) (grow : CountersGrow before after) : Minted after where
  generators _ _ := minted.drawn generators _
  answers := by
    intro probe stored found
    rw [answers] at found
    by_cases hit : probe = clientOrderId
    · rw [hit, minted.printed drawn]
      exact ⟨agent, _, _, _, since.millis, minted.counterOf_drawn generators grow, rfl⟩
    · rw [if_neg hit] at found
      obtain ⟨owner, millis, sequence, epoch, since, below, shape⟩ := minted.answers probe stored found
      have grown := grow owner
      exact ⟨owner, millis, sequence, epoch, since, by omega, shape⟩

/-- A drawn id was not in the cache. -/
theorem Minted.unseen {sequencer : Sequencer C J} (minted : Minted sequencer)
    (drawn : clientOrderId = ((sequencer.generatorFor agent).next now).1) (since : now.SinceEpoch) :
    sequencer.state.idempotencyCache.lookup clientOrderId = none := by
  by_contra cached
  obtain ⟨stored, found⟩ := Option.ne_none_iff_exists'.mp cached
  obtain ⟨owner, millis, sequence, epoch, past, below, shape⟩ := minted.answers clientOrderId stored found
  have bound := (minted.generatorFor agent).2
  have limit := (minted.generatorFor owner).2
  obtain ⟨names, sequences⟩ := ClientOrderId.format_injective past since.millis (by omega) bound
    (shape.symm.trans (minted.printed drawn))
  obtain rfl : owner = agent := by
    obtain ⟨name⟩ := owner
    exact congrArg AgentId.mk names
  omega

/-! ### One order, one record, one answer, one dispatch -/

/-- Recorded orders, cached answers and sent orders are in one-to-one
correspondence, through the client order id. -/
structure Correspondence (state : EngineState) (routed : List (PipelineOrder Routed)) : Prop where
  cached : ∀ orderId clientOrderId, clientIdOf state orderId = some clientOrderId ↔
    ∃ ack, state.idempotencyCache.lookup clientOrderId = some ack ∧ ack.orderId = orderId
  sent : ∀ orderId clientOrderId, clientIdOf state orderId = some clientOrderId ↔
    ∃ order, routed.filter (fun order => order.core.id = orderId) = [order] ∧
      order.clientOrderId = clientOrderId
  recorded : ∀ order ∈ routed, (clientIdOf state order.core.id).isSome

theorem Correspondence.of_sameBook (correspond : Correspondence before routed)
    (same : SameBook before after) : Correspondence after routed where
  cached orderId clientOrderId := by
    rw [same.clientIds, same.answers]
    exact correspond.cached orderId clientOrderId
  sent orderId clientOrderId := by
    rw [same.clientIds]
    exact correspond.sent orderId clientOrderId
  recorded order member := by
    rw [same.clientIds]
    exact correspond.recorded order member

/-- A recorded order has its own answer. -/
theorem Correspondence.answerOf_own (correspond : Correspondence state routed)
    (found : answerOf state orderId = some ack) : ack.orderId = orderId := by
  obtain ⟨clientOrderId, known, cached⟩ := Option.bind_eq_some_iff.mp found
  obtain ⟨own, stored, same⟩ := (correspond.cached orderId clientOrderId).mp known
  rw [stored] at cached
  cases cached
  exact same

/-- An order without an answer has no record either. -/
theorem Correspondence.unrecorded (correspond : Correspondence state routed)
    (fresh : answerOf state orderId = none) : clientIdOf state orderId = none := by
  by_contra known
  obtain ⟨clientOrderId, recorded⟩ := Option.ne_none_iff_exists'.mp known
  obtain ⟨ack, cached, -⟩ := (correspond.cached orderId clientOrderId).mp recorded
  simp [answerOf, recorded, cached] at fresh

/-- Accepting an order under an unseen id adds one entry to each store. -/
theorem Correspondence.accepted {before after : Sequencer C J}
    (correspond : Correspondence before.state routed)
    (acceptance : Acceptance before after agent now effects ack)
    (unseen : before.state.idempotencyCache.lookup ack.clientOrderId = none)
    (identity : order.core.id = ack.orderId) (named : order.clientOrderId = ack.clientOrderId) :
    Correspondence after.state (routed ++ [order]) := by
  have unrecorded := correspond.unrecorded acceptance.fresh
  have unsent : routed.filter (fun other => other.core.id = ack.orderId) = [] := by
    refine List.filter_eq_nil_iff.mpr fun other member same => ?_
    have known := correspond.recorded other member
    rw [of_decide_eq_true same, unrecorded] at known
    cases known
  constructor
  · intro orderId clientOrderId
    rw [acceptance.clientIds, acceptance.answers]
    by_cases own : orderId = ack.orderId <;> by_cases hit : clientOrderId = ack.clientOrderId
    · simp [own, hit]
    · simp only [own, hit, if_true, if_false, Option.some.injEq, Ne.symm hit, false_iff]
      rintro ⟨other, cached, same⟩
      have known := (correspond.cached ack.orderId clientOrderId).mpr ⟨other, cached, same⟩
      rw [unrecorded] at known
      cases known
    · simp only [own, hit, if_true, if_false, Option.some.injEq]
      constructor
      · intro known
        obtain ⟨other, cached, -⟩ := (correspond.cached orderId ack.clientOrderId).mp known
        rw [unseen] at cached
        cases cached
      · rintro ⟨other, rfl, same⟩
        exact absurd same.symm own
    · simp only [own, hit, if_false]
      exact correspond.cached orderId clientOrderId
  · intro orderId clientOrderId
    rw [acceptance.clientIds, List.filter_append]
    by_cases own : orderId = ack.orderId
    · rw [if_pos own, own, unsent, List.nil_append, List.filter_singleton, identity]
      simp [named]
    · rw [if_neg own, List.filter_singleton, identity]
      simpa [Ne.symm own] using correspond.sent orderId clientOrderId
  · intro other member
    rw [acceptance.clientIds]
    rcases List.mem_append.mp member with earlier | newest
    · split
      · rfl
      · exact correspond.recorded other earlier
    · obtain rfl := List.mem_singleton.mp newest
      simp [identity]

/-! ### The ids inside the records -/

/-- Every record names the order it is stored for. -/
def OwnIds (state : EngineState) : Prop :=
  ∀ orderId record, state.orders.lookup orderId = some record → record.core.id = orderId

/-- The same orders under the same names. -/
def SameIds (before after : EngineState) : Prop :=
  ∀ orderId, (after.orders.lookup orderId).map (fun record => record.core.id) =
    (before.orders.lookup orderId).map fun record => record.core.id

theorem OwnIds.of_sameIds (own : OwnIds before) (same : SameIds before after) : OwnIds after := by
  intro orderId record found
  have named := same orderId
  rw [found] at named
  obtain ⟨earlier, stored, equal⟩ := Option.map_eq_some_iff.mp named.symm
  exact equal.symm.trans (own orderId earlier stored)

theorem OwnIds.insert {state : EngineState} (own : OwnIds state) (named : record.core.id = orderId)
    (found : (state.orders.insert orderId record).lookup probe = some stored) :
    stored.core.id = probe := by
  rw [lookup_insert_if] at found
  by_cases hit : probe = orderId
  · rw [if_pos hit] at found
    cases found
    rw [named, hit]
  · rw [if_neg hit] at found
    exact own probe stored found

theorem Untouched.sameIds (untouched : Untouched before after) : SameIds before after := by
  intro orderId
  rw [untouched.orders]

theorem Handling.ownIds [LibraryText] (contract : CoreContract C SameIds fun _ => SameIds)
    {before after : Sequencer C J} {env : Environment Weather}
    (handling : Handling before env command after effects outcome) (own : OwnIds before.state) :
    OwnIds after.state := by
  cases handling with
  | answered respond known => exact own
  | refused respond unknown evaluated => exact own.of_sameIds (contract.evaluate_keeps evaluated)
  | unroutable respond unknown evaluated => exact own.of_sameIds (contract.evaluate_keeps evaluated)
  | @accepted order core checked sent respond unknown evaluated ready routed =>
    have kept : OwnIds (EngineCore.state core) := own.of_sameIds (contract.evaluate_keeps evaluated)
    have named := contract.evaluated evaluated
    intro orderId record found
    rw [Sequencer.state_recordOrder] at found
    exact kept.insert named found
  | @reported orderId record rewritten command event known report =>
    have named : rewritten.core.id = orderId := by
      have same := own orderId record known
      cases report <;> exact same
    intro probe stored found
    rw [Sequencer.state_putOrder] at found
    exact own.insert named found
  | filled called found left emitted => exact own.of_sameIds (contract.fills called)
  | called made quiet unrelated => exact own.of_sameIds (contract.keeps made)
  | limitsRefused respond failed => exact own.of_sameIds (contract.limits_keep failed)
  | silent reply quiet => exact own

/-! ### Runs -/

section Runs
variable [EventJournal J Weather]

/-- The effects of a run, in order. -/
def shown (turns : List Turn) : List Effect := turns.flatMap Turn.effects

/-- What every run keeps. -/
structure Idempotent (turns : List Turn) (sequencer : Sequencer C J) : Prop where
  wired : sequencer.venueSubmitTx = true
  minted : Minted sequencer
  correspond : Correspondence sequencer.state (dispatched (shown turns))
  answered : ∀ ack ∈ acknowledged (shown turns), answerOf sequencer.state ack.orderId = some ack

theorem idempotent_start {core : C} {journal : J} {first : Sequencer C J}
    (started : Sequencer.new core journal epoch = .ok first)
    (orders : first.state.orders = ∅) (answers : first.state.idempotencyCache = ∅) :
    Idempotent [] first.withVenueSubmitTx := by
  have unknown : ∀ orderId, clientIdOf first.state orderId = none := by
    intro orderId
    simp [clientIdOf, orders]
  have generators := unnumbered_start started answers
  refine ⟨rfl, ⟨?_, ?_⟩, ⟨?_, ?_, by simp [shown, dispatched]⟩, by simp [shown, acknowledged]⟩
  · intro agent generator found
    rw [show first.withVenueSubmitTx.clientOrderIdGenerators = first.clientOrderIdGenerators from rfl,
      generators] at found
    cases found
  · intro clientOrderId ack found
    simp [answers] at found
  · intro orderId clientOrderId
    simp [unknown, answers]
  · intro orderId clientOrderId
    simp [unknown, shown, dispatched]

variable [LibraryText]

/-- A turn of the loop at a time since the epoch, with no counter wrapping. -/
def Submits (sequencer : Sequencer C J) (turn : Turn) (next : Sequencer C J) : Prop :=
  ∃ (command : SequencerCommand) (env : Environment Weather), env.now.SinceEpoch ∧
    CountersGrow sequencer next ∧ Processes sequencer command env turn next

/-- The runs of a sequencer wired to a venue that starts without orders. -/
inductive SubmissionRun (core : C) (journal : J) (epoch : Nat) :
    List Turn → Sequencer C J → Prop
  | of {first sequencer : Sequencer C J} {turns : List Turn}
      (started : Sequencer.new core journal epoch = .ok first)
      (orders : first.state.orders = ∅) (answers : first.state.idempotencyCache = ∅)
      (path : Path Submits first.withVenueSubmitTx turns sequencer) :
      SubmissionRun core journal epoch turns sequencer

theorem idempotent_step (contract : CoreContract C SameBook fun _ => SameBook)
    {sequencer next : Sequencer C J} (held : Idempotent turns sequencer)
    (move : Submits sequencer turn next) : Idempotent (turns ++ [turn]) next := by
  obtain ⟨command, env, since, grow, processes⟩ := move
  have processing := processes.processing
  have wired : next.venueSubmitTx = true := by
    rw [processing.venueSubmitTx]
    exact held.wired
  have extended : shown (turns ++ [turn]) = shown turns ++ turn.effects := by simp [shown]
  rcases Processing.book contract processing with ⟨same, undispatched, drawn, replies⟩ |
    ⟨agent, ack, acceptance⟩
  · refine ⟨wired, held.minted.of_sameAnswers same.answers drawn grow, ?_, ?_⟩
    · rw [extended, dispatched_append, undispatched, List.append_nil]
      exact held.correspond.of_sameBook same
    · intro ack member
      rw [same.answerOf]
      rw [extended, acknowledged_append] at member
      rcases List.mem_append.mp member with earlier | now
      · exact held.answered ack earlier
      · rcases replies with silent | ⟨again, only, orderId, known⟩
        · rw [silent] at now
          cases now
        · rw [only, List.mem_singleton] at now
          rw [now, held.correspond.answerOf_own known]
          exact known
  · have unseen := held.minted.unseen acceptance.minted since
    obtain ⟨order, identity, named, sent⟩ := acceptance.dispatched
    rw [if_pos held.wired] at sent
    refine ⟨wired, held.minted.answered acceptance.minted acceptance.generators acceptance.answers since grow, ?_, ?_⟩
    · rw [extended, dispatched_append, sent]
      exact held.correspond.accepted acceptance unseen identity named
    · intro other member
      rw [extended, acknowledged_append, acceptance.acknowledged] at member
      rcases List.mem_append.mp member with earlier | now
      · exact acceptance.answers_kept unseen (held.answered other earlier)
      · rw [List.mem_singleton.mp now]
        exact acceptance.answered

theorem Processing.ownIds (contract : CoreContract C SameIds fun _ => SameIds)
    {sequencer after : Sequencer C J} {env : Environment Weather}
    (processing : Processing sequencer command env effects commit after)
    (own : OwnIds sequencer.state) : OwnIds after.state := by
  obtain ⟨handled, outcome, handling, untouched, -⟩ := Processing.handled processing
  have kept : OwnIds handled.state := Handling.ownIds contract handling own
  exact kept.of_sameIds (Untouched.sameIds untouched)

theorem SubmissionRun.idempotent (contract : CoreContract C SameBook fun _ => SameBook)
    {core : C} {journal : J} (run : SubmissionRun core journal epoch turns sequencer) :
    Idempotent turns sequencer := by
  obtain ⟨started, orders, answers, path⟩ := run
  exact path.invariant (idempotent_start started orders answers)
    fun _ _ _ _ held move => idempotent_step contract held move

/-- Records keep naming their orders as long as the core does not rename them. -/
theorem SubmissionRun.ownIds (contract : CoreContract C SameIds fun _ => SameIds)
    {core : C} {journal : J} (run : SubmissionRun core journal epoch turns sequencer) :
    OwnIds sequencer.state := by
  obtain ⟨started, orders, answers, path⟩ := run
  induction path with
  | start =>
    intro orderId record found
    simp [orders] at found
  | step _ move own =>
    obtain ⟨command, env, -, -, processes⟩ := move
    exact Processing.ownIds contract processes.processing own

/-- Idempotent submission over every run of a core that leaves the book to the
sequencer: the three stores correspond, the records name their orders if the
core never renames them, and a retry of an accepted order gets the first answer
while nothing is sent and only a number is taken. -/
theorem submissions_idempotent (contract : CoreContract C SameBook fun _ => SameBook)
    {core : C} {journal : J} (run : SubmissionRun core journal epoch turns sequencer) :
    Correspondence sequencer.state (dispatched (shown turns)) ∧
    (CoreContract C SameIds (fun _ => SameIds) → OwnIds sequencer.state) ∧
    ∀ ack ∈ acknowledged (shown turns), ∀ order respond (env : Environment Weather),
      order.core.id = ack.orderId →
      sequencer.processCommand (.submitOrder order respond) env =
        ⟨numbered sequencer, [.orderReply respond (.ok ack)], .ok none⟩ := by
  have held := run.idempotent contract
  refine ⟨held.correspond, fun ids => run.ownIds ids, ?_⟩
  intro ack given order respond env same
  refine answered_again sequencer respond env ?_
  rw [same]
  exact held.answered ack given

end Runs

/-! ### A first order and its retry -/

section Retry
open Journal Plain

/-- The test core on an empty journal, wired to a venue. -/
def booted : Sequencer TestCore (SqliteJournal PlainBlob) := firstBoot.withVenueSubmitTx

def submittedOnce : Sequencer TestCore (SqliteJournal PlainBlob) :=
  (booted.processCommand submit calm).sequencer

theorem submittedOnce_run : SubmissionRun freshCore freshJournal 0 [turnOf booted submit calm] submittedOnce := by
  have fresh : Path Submits booted [] booted := .start
  have move : Submits booted (turnOf booted submit calm) submittedOnce :=
    ⟨_, calm, le_refl _, fun _ => Nat.zero_le _, ⟨none, rfl⟩, rfl, rfl⟩
  exact .of rfl rfl rfl (fresh.step move)

/-- The retried order gets its first answer again. -/
theorem submissions_idempotent_retry :
    submittedOnce.processCommand (.submitOrder (sampleOrder "order-1" ⟨0⟩) 1) calm =
      ⟨numbered submittedOnce,
        [.orderReply 1 (.ok ⟨⟨"order-1"⟩, ⟨"athena-0-000000-r00"⟩, ⟨0⟩⟩)], .ok none⟩ :=
  (submissions_idempotent TestCore.sameBook_contract submittedOnce_run).2.2 _
    (List.mem_singleton.mpr rfl) _ 1 calm rfl

/-! ### A core that renames -/

/-- A core that approves everything and gives a filled order's record a new name. -/
structure RenamingCore where
  state : EngineState

/-- The record after a fill, under its new name. -/
def renamedRecord (record : OrderRecord) (fill : Fill) : OrderRecord :=
  { record with
    core := { record.core with id := ⟨"renamed"⟩ }
    state := .filled
    fills := record.fills ++ [fill] }

instance : EngineCore RenamingCore where
  state := RenamingCore.state
  stateMut core write := ⟨write core.state⟩
  state_stateMut _ _ := rfl
  evaluateOrder core order now := (core, .ok (order.intoRiskChecked ⟨now, [], []⟩))
  onFill core fill _ := match core.state.orders.lookup fill.orderId with
    | none => (core, .err (.orderNotFound fill.orderId.value))
    | some record => (⟨{ core.state with
        orders := core.state.orders.insert fill.orderId (renamedRecord record fill) }⟩, .ok ())
  onReconciliation core _ _ := (core, .ok ())
  markToMarket core _ _ := (core, .ok ())
  pauseAgent core _ _ _ := (core, .ok ())
  resumeAgent core _ _ := (core, .ok ())
  adjustLimits core _ _ := (core, .ok ())
  haltAll core _ _ := (core, .ok ())
  resetCircuitBreaker core _ := (core, .ok ())

/-- It leaves the book to the sequencer: ids inside records are no part of it. -/
theorem renaming_contract : CoreContract RenamingCore SameBook fun _ => SameBook where
  keeps own := by cases own <;> exact .refl _
  evaluated evaluated := by
    cases evaluated
    rfl
  fills {core after fill now} filled := by
    simp only [EngineCore.onFill] at filled
    split at filled
    · cases filled
    · next record found =>
      cases filled
      exact sameBook_putOrder found rfl

def renamingBooted : Sequencer RenamingCore (SqliteJournal PlainBlob) :=
  ⟨⟨emptyState ⟨0⟩⟩, freshJournal, ⟨⟨1⟩⟩, ⟨emptyState ⟨0⟩, ⟨0⟩, ⟨0⟩⟩, ∅, 0, true⟩

def renamingSubmitted : Sequencer RenamingCore (SqliteJournal PlainBlob) :=
  (renamingBooted.processCommand submit calm).sequencer

def renamingFilled : Sequencer RenamingCore (SqliteJournal PlainBlob) :=
  (renamingSubmitted.processCommand (.onFill (sampleFill "order-1" 10)) calm).sequencer

/-- After a fill by this core the record stored for the order names another one. -/
theorem renamed_record : CoreContract RenamingCore SameBook (fun _ => SameBook) ∧
    (∃ turns, SubmissionRun (⟨emptyState ⟨0⟩⟩ : RenamingCore) freshJournal 0 turns renamingFilled) ∧
    ¬ OwnIds renamingFilled.state := by
  refine ⟨renaming_contract, ?_, ?_⟩
  · have fresh : Path Submits renamingBooted [] renamingBooted := .start
    have submitted : Submits renamingBooted
        (turnOf renamingBooted submit calm) renamingSubmitted :=
      ⟨_, calm, le_refl _, fun _ => Nat.zero_le _, ⟨none, rfl⟩, rfl, rfl⟩
    have filled : Submits renamingSubmitted
        (turnOf renamingSubmitted (.onFill (sampleFill "order-1" 10)) calm) renamingFilled := by
      have kept : renamingFilled.clientOrderIdGenerators = renamingSubmitted.clientOrderIdGenerators :=
        AList.ext (by decide +kernel)
      refine ⟨_, calm, le_refl _, fun agent => ?_, exists_ok (by decide +kernel), rfl, rfl⟩
      have epoch : renamingFilled.restartEpoch = renamingSubmitted.restartEpoch := by decide +kernel
      rw [counterOf, counterOf, Sequencer.generatorFor, Sequencer.generatorFor, kept, epoch]
    exact ⟨_, .of rfl rfl rfl ((fresh.step submitted).step filled)⟩
  · intro own
    have renamed : (renamingFilled.state.orders.lookup ⟨"order-1"⟩).map (fun record => record.core.id) =
        some ⟨"renamed"⟩ := by decide +kernel
    obtain ⟨record, found, other⟩ := Option.map_eq_some_iff.mp renamed
    have named := own ⟨"order-1"⟩ record found
    rw [named] at other
    revert other
    decide

end Retry

end FeynmanEngine.IdempotentSubmission
