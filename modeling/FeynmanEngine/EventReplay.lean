import FeynmanEngine.OrderBookkeeping
import FeynmanEngine.SequencerFixtures
import FeynmanEngine.Traces

/-! The event log and the orders. The log is read by itself, as a fold over
events that knows nothing of the sequencer; the handlers write log and orders
separately. At every commit the two tell the same story. -/
namespace FeynmanEngine.EventReplay
open Ids Orders Events Tables Portfolio Engine Sequencing JournalCommits CommandCases
open OrderBookkeeping SequencerFixtures Traces

/-- What the log says of one order. -/
structure OrderView where
  state : OrderState
  venueOrderId : Option VenueOrderId
  deriving DecidableEq

/-- What the log says of all orders. -/
abbrev View := OrderId → Option OrderView

/-- An order the log already knows moves to another state. -/
def View.move (view : View) (orderId : OrderId) (state : OrderState) : View :=
  Function.update view orderId ((view orderId).map fun entry => { entry with state := state })

/-- One event read. Routing creates an order; a rejection counts only when the
venue refused the submission. -/
def applyEvent (view : View) : EngineEvent → View
  | .orderRouted orderId _ => Function.update view orderId (some ⟨.pending, none⟩)
  | .orderSubmitted orderId venueOrderId =>
    Function.update view orderId ((view orderId).map fun _ => ⟨.submitted, some venueOrderId⟩)
  | .orderPartiallyFilled orderId .. => view.move orderId .partiallyFilled
  | .orderFilled orderId .. => view.move orderId .filled
  | .orderCancelled orderId _ => view.move orderId .cancelled
  | .orderRejected orderId stage _ => if stage = "venue_submit" then view.move orderId .rejected else view
  | _ => view

def replay (events : List EngineEvent) : View := events.foldl applyEvent fun _ => none

/-- What one event fills of an order. -/
def fillOf (orderId : OrderId) : EngineEvent → Decimal
  | .orderPartiallyFilled filled filledQty .. => if filled = orderId then filledQty else 0
  | .orderFilled filled filledQty .. => if filled = orderId then filledQty else 0
  | _ => 0

/-- The filled quantity of an order over a log. -/
def filledIn (orderId : OrderId) (events : List EngineEvent) : Decimal :=
  (events.map (fillOf orderId)).sum

theorem replay_append (events news : List EngineEvent) :
    replay (events ++ news) = news.foldl applyEvent (replay events) :=
  List.foldl_append

theorem filledIn_append (orderId : OrderId) (events news : List EngineEvent) :
    filledIn orderId (events ++ news) = filledIn orderId events + filledIn orderId news := by
  simp [filledIn]

/-- Events about no order change nothing. -/
theorem applyEvent_unrelated (view : View) (unrelated : event.order? = none) :
    applyEvent view event = view ∧ ∀ orderId, fillOf orderId event = 0 := by
  cases event <;> simp_all [EngineEvent.order?, applyEvent, fillOf]

theorem unrelated_events (view : View) (unrelated : ∀ event ∈ events, event.order? = none) :
    events.foldl applyEvent view = view ∧ ∀ orderId, filledIn orderId events = 0 := by
  induction events generalizing view with
  | nil => exact ⟨rfl, fun _ => rfl⟩
  | cons event rest ih =>
    obtain ⟨same, nothing⟩ := applyEvent_unrelated view (unrelated event (by simp))
    obtain ⟨rested, empty⟩ := ih view fun other member => unrelated other (by simp [member])
    refine ⟨by rw [List.foldl_cons, same, rested], fun orderId => ?_⟩
    have tail := empty orderId
    simp only [filledIn, List.map_cons, List.sum_cons, nothing] at tail ⊢
    rw [tail, add_zero]

def viewOf (record : OrderRecord) : OrderView := ⟨record.state, record.venueOrderId⟩

/-- The log yields exactly the orders, their states and venue ids, and fills
that add up to the recorded ones. -/
structure Matches (events : List EngineEvent) (state : EngineState) : Prop where
  views : ∀ orderId, replay events orderId = (state.orders.lookup orderId).map viewOf
  fills : ∀ orderId record, state.orders.lookup orderId = some record →
    filledIn orderId events = (record.fills.map Fill.qty).sum

/-- With what the next command needs: no fills of unknown orders, and an answer
for every known one. -/
structure Logged (events : List EngineEvent) (state : EngineState) : Prop
    extends Matches events state where
  unknown : ∀ orderId, state.orders.lookup orderId = none → filledIn orderId events = 0
  answered : ∀ orderId record, state.orders.lookup orderId = some record →
    (state.idempotencyCache.lookup record.clientOrderId).isSome

theorem Logged.of_untouched (logged : Logged events before) (untouched : Untouched before after) :
    Logged events after where
  views orderId := by
    rw [untouched.orders]
    exact logged.views orderId
  fills orderId record found := by
    rw [untouched.orders] at found
    exact logged.fills orderId record found
  unknown orderId missing := by
    rw [untouched.orders] at missing
    exact logged.unknown orderId missing
  answered orderId record found := by
    rw [untouched.orders] at found
    rw [untouched.answers]
    exact logged.answered orderId record found

/-- Events that say nothing leave log and orders in line. -/
theorem Logged.silent (logged : Logged events state)
    (still : news.foldl applyEvent (replay events) = replay events)
    (nothing : ∀ orderId, filledIn orderId news = 0) : Logged (events ++ news) state where
  views orderId := by
    rw [replay_append, still]
    exact logged.views orderId
  fills orderId record found := by
    rw [filledIn_append, nothing, add_zero]
    exact logged.fills orderId record found
  unknown orderId missing := by
    rw [filledIn_append, nothing, add_zero]
    exact logged.unknown orderId missing
  answered := logged.answered

/-- One record written together with the events that tell of it. -/
theorem Logged.put (logged : Logged events before) (orderId : OrderId) (record : OrderRecord)
    (orders : ∀ probe, after.orders.lookup probe =
      if probe = orderId then some record else before.orders.lookup probe)
    (kept : ∀ clientOrderId, (before.idempotencyCache.lookup clientOrderId).isSome →
      (after.idempotencyCache.lookup clientOrderId).isSome)
    (cached : (after.idempotencyCache.lookup record.clientOrderId).isSome)
    (told : news.foldl applyEvent (replay events) =
      Function.update (replay events) orderId (some (viewOf record)))
    (others : ∀ probe, probe ≠ orderId → filledIn probe news = 0)
    (total : filledIn orderId events + filledIn orderId news = (record.fills.map Fill.qty).sum) :
    Logged (events ++ news) after where
  views probe := by
    rw [replay_append, told, orders]
    by_cases own : probe = orderId
    · subst own
      simp
    · simp [own, logged.views probe]
  fills probe stored found := by
    rw [orders] at found
    rw [filledIn_append]
    by_cases own : probe = orderId
    · rw [if_pos own] at found
      cases found
      rw [own, total]
    · rw [if_neg own] at found
      rw [others probe own, add_zero]
      exact logged.fills probe stored found
  unknown probe missing := by
    rw [orders] at missing
    by_cases own : probe = orderId
    · rw [if_pos own] at missing
      cases missing
    · rw [if_neg own] at missing
      rw [filledIn_append, others probe own, add_zero]
      exact logged.unknown probe missing
  answered probe stored found := by
    rw [orders] at found
    by_cases own : probe = orderId
    · rw [if_pos own] at found
      cases found
      exact cached
    · rw [if_neg own] at found
      exact kept _ (logged.answered probe stored found)

/-- A successful fill appends itself to the record of its order and leaves the
order filled in part or in whole; nothing else of orders and answers moves. -/
inductive RecordsFill (fill : Fill) (before after : EngineState) : Prop
  | of {record rewritten : OrderRecord} (found : before.orders.lookup fill.orderId = some record)
      (fills : rewritten.fills = record.fills ++ [fill])
      (state : rewritten.state = .partiallyFilled ∨ rewritten.state = .filled)
      (clientOrderId : rewritten.clientOrderId = record.clientOrderId)
      (venueOrderId : rewritten.venueOrderId = record.venueOrderId)
      (orders : ∀ probe, after.orders.lookup probe =
        if probe = fill.orderId then some rewritten else before.orders.lookup probe)
      (answers : ∀ clientOrderId, after.idempotencyCache.lookup clientOrderId =
        before.idempotencyCache.lookup clientOrderId)

/-- The event of a fill repeats the state of the record it left. -/
theorem fillEvent_some {record : OrderRecord}
    (emitted : Sequencer.fillEvent fill record remaining = some event) :
    (∀ view : View, applyEvent view event = view.move fill.orderId record.state) ∧
      ∀ orderId, fillOf orderId event = if fill.orderId = orderId then fill.qty else 0 := by
  unfold Sequencer.fillEvent at emitted
  split at emitted
  · next state =>
    cases emitted
    exact ⟨fun view => by rw [state]; rfl, fun _ => rfl⟩
  · next state =>
    cases emitted
    exact ⟨fun view => by rw [state]; rfl, fun _ => rfl⟩
  · cases emitted

section Runs
variable {C J Weather : Type} [EngineCore C]

/-- An unanswered order has no record. -/
theorem Logged.unrecorded {sequencer : Sequencer C J} (logged : Logged events sequencer.state)
    (unknown : sequencer.findExistingAck orderId = none) :
    sequencer.state.orders.lookup orderId = none := by
  by_contra known
  obtain ⟨record, found⟩ := Option.ne_none_iff_exists'.mp known
  have answered := logged.answered orderId record found
  rw [Sequencer.findExistingAck, found] at unknown
  simp [unknown] at answered

/-- A report of the venue and its event tell the same. -/
theorem logged_report {sequencer : Sequencer C J} (logged : Logged events sequencer.state)
    (found : sequencer.state.orders.lookup orderId = some record)
    (report : VenueReport now orderId record command rewritten event) :
    Logged (events ++ [event]) (sequencer.putOrder orderId rewritten).state := by
  have view := logged.views orderId
  rw [found] at view
  have same : rewritten.clientOrderId = record.clientOrderId ∧ rewritten.fills = record.fills := by
    cases report <;> exact ⟨rfl, rfl⟩
  have told : applyEvent (replay events) event =
      Function.update (replay events) orderId (some (viewOf rewritten)) := by
    cases report <;> simp [applyEvent, View.move, view, viewOf]
  have nothing : ∀ probe, filledIn probe [event] = 0 := by
    intro probe
    cases report <;> simp [filledIn, fillOf]
  refine logged.put orderId rewritten (fun probe => ?_) (fun _ kept => ?_) ?_ told
    (fun probe _ => nothing probe) ?_
  · rw [Sequencer.state_putOrder]
    exact lookup_insert_if _ _ _ _
  · rw [Sequencer.state_putOrder]
    exact kept
  · rw [Sequencer.state_putOrder, same.1]
    exact logged.answered orderId record found
  · rw [nothing, add_zero, same.2]
    exact logged.fills orderId record found

variable [LibraryText]

/-- Each handled command keeps log and orders in line. -/
theorem Handling.logged (contract : CoreContract C Untouched RecordsFill)
    {before after : Sequencer C J} {env : Environment Weather}
    (handling : Handling before env command after effects outcome)
    (logged : Logged events before.state) : Logged (events ++ outcome.events) after.state := by
  cases handling with
  | answered respond known => simpa [CommandOutcome.nothing] using logged
  | refused respond unknown evaluated =>
    have kept := logged.of_untouched (contract.evaluate_keeps evaluated)
    exact kept.silent (by simp [CommandOutcome.ofEvents, applyEvent])
      (by simp [CommandOutcome.ofEvents, filledIn, fillOf])
  | @unroutable order core checked reason respond unknown evaluated =>
    have kept : Logged events (EngineCore.state core) :=
      logged.of_untouched (contract.evaluate_keeps evaluated)
    exact kept.silent (by simp [CommandOutcome.ofEvents, applyEvent])
      (by simp [CommandOutcome.ofEvents, filledIn, fillOf])
  | @accepted order core checked sent respond unknown evaluated ready routed =>
    have untouched := contract.evaluate_keeps evaluated
    have kept : Logged events (EngineCore.state core) := logged.of_untouched untouched
    have missing := logged.unrecorded unknown
    refine logged.put order.core.id (pendingRecord checked.core
      (freshId before order.core.agentId env.now) env.now) ?_ ?_ ?_ ?_ ?_ ?_
    · intro probe
      rw [Sequencer.state_recordOrder, lookup_insert_if]
      split
      · rfl
      · exact untouched.orders probe
    · intro clientOrderId cached
      rw [Sequencer.state_recordOrder, lookup_insert_if]
      split
      · rfl
      · exact (congrArg Option.isSome (untouched.answers clientOrderId)).trans cached
    · rw [Sequencer.state_recordOrder, lookup_insert_if]
      simp [pendingRecord]
    · simp [CommandOutcome.mutated, applyEvent, viewOf, pendingRecord]
    · simp [CommandOutcome.mutated, filledIn, fillOf]
    · rw [logged.unknown order.core.id missing]
      simp [CommandOutcome.mutated, filledIn, fillOf, pendingRecord]
  | reported found report => exact logged_report logged found report
  | @filled fill core record remaining event called found left emitted =>
    obtain ⟨stored, fills, state, clientOrderId, venueOrderId, orders, answers⟩ := contract.fills called
    rename_i earlier rewritten
    obtain rfl : rewritten = record := by
      rw [orders, if_pos rfl] at found
      exact Option.some.inj found
    obtain ⟨told, filled⟩ := fillEvent_some emitted
    have view := logged.views fill.orderId
    rw [show before.state.orders.lookup fill.orderId = some earlier from stored] at view
    refine logged.put fill.orderId rewritten orders (fun probe cached => ?_) ?_ ?_ ?_ ?_
    · exact (congrArg Option.isSome (answers probe)).trans cached
    · rw [clientOrderId]
      exact (congrArg Option.isSome (answers _)).trans (logged.answered fill.orderId earlier stored)
    · simp [CommandOutcome.mutated, told, View.move, view, viewOf, venueOrderId]
    · intro probe other
      simp [CommandOutcome.mutated, filledIn, filled, Ne.symm other]
    · rw [logged.fills fill.orderId earlier stored, fills]
      simp [CommandOutcome.mutated, filledIn, filled]
  | @called command core effects events' own quiet unrelated =>
    have kept : Logged events (EngineCore.state core) := logged.of_untouched (contract.keeps own)
    obtain ⟨still, nothing⟩ := unrelated_events (replay events) unrelated
    exact kept.silent still nothing
  | @limitsRefused agent limits core error respond failed =>
    have kept : Logged events (EngineCore.state core) :=
      logged.of_untouched (contract.limits_keep failed)
    rw [CommandOutcome.nothing, List.append_nil]
    exact kept
  | silent reply quiet => simpa using logged

/-- The events of a commit, out of their envelopes. -/
def happened (commit : Commit) : List EngineEvent := commit.events.map SequencedEvent.event

/-- Everything a run has journaled, in order. -/
def journaled (turns : List Turn) : List EngineEvent :=
  turns.flatMap fun turn => turn.commit.elim [] happened

omit [EngineCore C] [LibraryText] in
theorem happened_commitOf (sequencer : Sequencer C J) [EngineCore C] (outcome : CommandOutcome)
    (sequenceId : SequenceId) (now : DateTime) :
    happened (commitOf sequencer outcome sequenceId now) = outcome.events := by
  simp [happened, commitOf, Function.comp_def]

variable [EventJournal J Weather]

/-- A command after which the loop goes on. -/
def Goes (sequencer : Sequencer C J) (turn : Turn) (next : Sequencer C J) : Prop :=
  ∃ (command : SequencerCommand) (env : Environment Weather),
    Processes sequencer command env turn next

/-- The runs of a sequencer that starts without orders, on a journal without events. -/
inductive EventRun (core : C) (journal : J) (epoch : Nat) : List Turn → Sequencer C J → Prop
  | of {first boot sequencer : Sequencer C J} {turns : List Turn}
      (started : Sequencer.new core journal epoch = .ok first)
      (unwritten : EventJournal.replayFrom journal .zero = .ok [])
      (orders : first.state.orders = ∅) (answers : first.state.idempotencyCache = ∅)
      (wiring : boot = first ∨ boot = first.withVenueSubmitTx) (path : Path Goes boot turns sequencer) :
      EventRun core journal epoch turns sequencer

theorem processing_logged (contract : CoreContract C Untouched RecordsFill)
    {sequencer after : Sequencer C J} {env : Environment Weather}
    (processing : Processing sequencer command env effects commit after)
    (logged : Logged events sequencer.state) :
    Logged (events ++ commit.elim [] happened) after.state := by
  cases processing with
  | @idle _ _ outcome handling quiet =>
    have kept := Handling.logged contract handling logged
    have nothing : outcome.events = [] := by
      simp only [CommandOutcome.shouldCommit, Bool.or_eq_false_iff, Bool.not_eq_false'] at quiet
      exact List.isEmpty_iff.mp quiet.2
    rw [nothing] at kept
    exact kept
  | @committed handled _ outcome commit journal handling commits asked persisted =>
    have kept := Handling.logged contract handling logged
    rw [Option.elim_some, asked, happened_commitOf, ← asked]
    exact kept.of_untouched (settled_untouched handled commit journal)

theorem EventRun.logged (contract : CoreContract C Untouched RecordsFill) {core : C} {journal : J}
    (run : EventRun core journal epoch turns sequencer) : Logged (journaled turns) sequencer.state := by
  obtain ⟨started, unwritten, orders, answers, wiring, path⟩ := run
  rename_i first boot
  have same : boot.state = first.state := by
    rcases wiring with rfl | rfl <;> rfl
  induction path with
  | start =>
    rw [same]
    refine ⟨⟨?_, ?_⟩, ?_, ?_⟩
    · intro orderId
      simp [journaled, replay, orders]
    · intro orderId record found
      simp [orders] at found
    · intro orderId missing
      rfl
    · intro orderId record found
      simp [orders] at found
  | step _ move ih =>
    obtain ⟨command, env, processes⟩ := move
    have extended := processing_logged contract processes.processing ih
    simpa [journaled] using extended

/-- The event log determines the orders: at every commit a run asks the journal
for, whether it is known to be durable (a turn of the run) or its report is
still out, the events journaled up to and with it replay to exactly the orders
of its snapshot. -/
theorem log_determines_orders (contract : CoreContract C Untouched RecordsFill) {core : C}
    {journal : J} (run : EventRun core journal epoch turns sequencer) :
    (∀ (command : SequencerCommand) (env : Environment Weather) commit,
      requestedCommit sequencer command env = some commit →
        Matches (journaled turns ++ happened commit) commit.snapshot.state) ∧
    ∀ before turn after commit, turns = before ++ turn :: after → turn.commit = some commit →
      Matches (journaled (before ++ [turn])) commit.snapshot.state := by
  have asked : ∀ {turns : List Turn} {sequencer : Sequencer C J},
      Logged (journaled turns) sequencer.state →
      ∀ (command : SequencerCommand) (env : Environment Weather) commit,
        requestedCommit sequencer command env = some commit →
          Matches (journaled turns ++ happened commit) commit.snapshot.state := by
    intro turns sequencer logged command env commit requested
    obtain ⟨outcome, completion, -, rfl⟩ := requestedCommit_some requested
    have handling := handleCommand_handling (numbered sequencer) command env completion
    have kept := Handling.logged contract handling logged
    rw [happened_commitOf]
    exact (kept.of_untouched (commitOf_untouched _ outcome _ env.now)).toMatches
  refine ⟨asked (run.logged contract), ?_⟩
  rintro before turn after commit rfl made
  obtain ⟨started, unwritten, orders, answers, wiring, path⟩ := run
  obtain ⟨earlier, next, prior, ⟨command, env, processes⟩, -⟩ := path.at_label
  have logged := (EventRun.of started unwritten orders answers wiring prior).logged contract
  have requested : requestedCommit earlier command env = some commit := by
    rw [← made, processes.turn]
    rfl
  have matched := asked logged command env commit requested
  simpa [journaled, made] using matched

end Runs

section Acked
open Journal Plain

theorem testCore_contract : CoreContract TestCore Untouched RecordsFill where
  keeps own := TestCore.ownCall_untouched own
  evaluated := TestCore.evaluateOrder_id
  fills {core after fill now} filled := by
    obtain ⟨record, found, -, -, moved⟩ := TestCore.onFill_ok filled
    have written : EngineCore.state after = _ := moved
    refine .of found rfl (TestCore.filledRecord_state record fill now) rfl rfl (fun probe => ?_)
      (fun _ => ?_)
    · rw [written]
      exact lookup_insert_if _ _ _ _
    · rw [written]
      rfl

def submitted : Sequencer TestCore (SqliteJournal PlainBlob) :=
  (firstBoot.processCommand submit calm).sequencer

def ack : SequencerCommand := .onVenueAck ⟨"order-1"⟩ ⟨"venue-1"⟩ ⟨0⟩

/-- The log of a submission and its ack replays to the snapshot with the ack. -/
theorem log_determines_acked_order : ∃ commit, requestedCommit submitted ack calm = some commit ∧
    Matches (journaled [turnOf firstBoot submit calm] ++ happened commit) commit.snapshot.state := by
  have fresh : Path Goes firstBoot [] firstBoot := .start
  have path := fresh.step (⟨submit, calm, ⟨none, rfl⟩, rfl, rfl⟩ :
    Goes firstBoot (turnOf firstBoot submit calm) submitted)
  have run : EventRun freshCore freshJournal 0 [turnOf firstBoot submit calm] submitted :=
    .of rfl rfl rfl rfl (Or.inl rfl) path
  exact ⟨_, rfl, (log_determines_orders testCore_contract run).1 ack calm _ rfl⟩

end Acked

end FeynmanEngine.EventReplay
