import FeynmanEngine.EventReplay

/-! The life of an order record. A record is written by the acceptance of its
order, by the venue's reports, each guarded by the state it finds, and by a core
whose fills move active records only; so its states follow one of two paths. -/
namespace FeynmanEngine.OrderLifeCycle
open Ids Orders Events Tables Portfolio Engine Sequencing CommandCases OrderBookkeeping EventReplay Traces

/-- The whole lives an order can have. -/
inductive LifePath : List OrderState → Prop
  | refused : LifePath [.pending, .rejected]
  | traded (partials : Nat) {last : OrderState} (closed : last = .filled ∨ last = .cancelled) :
      LifePath ([.pending, .submitted] ++ List.replicate partials .partiallyFilled ++ [last])

/-- The states a life has gone through, and the state it is in. -/
inductive Reached : List OrderState → OrderState → Prop
  | pending : Reached [.pending] .pending
  | rejected : Reached [.pending, .rejected] .rejected
  | submitted : Reached [.pending, .submitted] .submitted
  | partlyFilled (partials : Nat) :
      Reached ([.pending, .submitted] ++ List.replicate (partials + 1) .partiallyFilled) .partiallyFilled
  | closed (partials : Nat) {last : OrderState} (closed : last = .filled ∨ last = .cancelled) :
      Reached ([.pending, .submitted] ++ List.replicate partials .partiallyFilled ++ [last]) last

/-- What may follow a state. -/
inductive Advances : OrderState → OrderState → Prop
  | acked : Advances .pending .submitted
  | submitFailed : Advances .pending .rejected
  | cancelled {state : OrderState} (live : state = .submitted ∨ state = .partiallyFilled) :
      Advances state .cancelled
  | filled {state after : OrderState} (active : state.isActive = true)
      (moved : after = .partiallyFilled ∨ after = .filled) : Advances state after

theorem Reached.lifePath (reached : Reached states state) : ∃ path, LifePath path ∧ states <+: path := by
  cases reached with
  | pending => exact ⟨_, .refused, ⟨[.rejected], rfl⟩⟩
  | rejected => exact ⟨_, .refused, List.prefix_refl _⟩
  | submitted => exact ⟨_, .traded 0 (Or.inl rfl), ⟨[.filled], rfl⟩⟩
  | partlyFilled partials => exact ⟨_, .traded (partials + 1) (Or.inl rfl), ⟨[.filled], rfl⟩⟩
  | closed partials closed => exact ⟨_, .traded partials closed, List.prefix_refl _⟩

/-- An active state has been reached through `Submitted`. -/
theorem Reached.ofActive (reached : Reached states state) (active : state.isActive = true) :
    ∃ partials, states = [.pending, .submitted] ++ List.replicate partials .partiallyFilled := by
  cases reached with
  | pending => cases active
  | rejected => cases active
  | submitted => exact ⟨0, rfl⟩
  | partlyFilled partials => exact ⟨partials + 1, rfl⟩
  | closed partials closed => rcases closed with rfl | rfl <;> cases active

theorem Reached.advance (reached : Reached states state) (advances : Advances state next) :
    Reached (states ++ [next]) next := by
  cases advances with
  | acked =>
    cases reached with
    | pending => exact .submitted
    | closed partials closed => rcases closed with closed | closed <;> cases closed
  | submitFailed =>
    cases reached with
    | pending => exact .rejected
    | closed partials closed => rcases closed with closed | closed <;> cases closed
  | cancelled live =>
    have active : state.isActive = true := by rcases live with rfl | rfl <;> rfl
    obtain ⟨partials, rfl⟩ := reached.ofActive active
    exact .closed partials (Or.inr rfl)
  | filled active moved =>
    obtain ⟨partials, rfl⟩ := reached.ofActive active
    rcases moved with rfl | rfl
    · rw [List.append_assoc, ← List.replicate_succ']
      exact .partlyFilled partials
    · exact .closed partials (Or.inl rfl)

theorem Advances.not_terminal (advances : Advances state next) : state.isTerminal = false := by
  cases advances with
  | acked => rfl
  | submitFailed => rfl
  | cancelled live => rcases live with rfl | rfl <;> rfl
  | filled active moved => cases state <;> first | rfl | cases active

/-- A venue id is known from the ack on. -/
def Identified (record : OrderRecord) : Prop :=
  record.venueOrderId = none ↔ record.state = .pending ∨ record.state = .rejected

/-- A venue id once known stays, and is known from the ack on. -/
structure KeepsVenueId (record after : OrderRecord) : Prop where
  identified : Identified after
  known : ∀ venueOrderId, record.venueOrderId = some venueOrderId → after.venueOrderId = some venueOrderId

/-- What may become of the record of one order. -/
inductive Touched : Option OrderRecord → Option OrderRecord → Prop
  | kept {slot : Option OrderRecord} : Touched slot slot
  | created {record : OrderRecord} (pending : record.state = .pending) (unnamed : record.venueOrderId = none) :
      Touched none (some record)
  | changed {record after : OrderRecord} (advances : Advances record.state after.state)
      (named : Identified record → KeepsVenueId record after)
      (same : after.clientOrderId = record.clientOrderId) : Touched (some record) (some after)

/-- A fill of the core: the record as it was, or an active one with new fills. -/
inductive Refilled : Option OrderRecord → Option OrderRecord → Prop
  | kept {slot : Option OrderRecord} : Refilled slot slot
  | moved {record : OrderRecord} {state : OrderState} (active : record.state.isActive = true)
      (filled : state = .partiallyFilled ∨ state = .filled) (fills : List Fill) (filledAt : DateTime) :
      Refilled (some record) (some { record with fills := fills, state := state, lastUpdated := filledAt })

/-- Fills move active records only; the cached answers stay. -/
structure FillsActive (before after : EngineState) : Prop where
  orders : ∀ orderId, Refilled (before.orders.lookup orderId) (after.orders.lookup orderId)
  answers : SameAnswers before after

/-- An identified record that has been acked has its venue id. -/
theorem Identified.past {record : OrderRecord} (identified : Identified record)
    (past : record.state ≠ .pending ∧ record.state ≠ .rejected) : record.venueOrderId ≠ none := by
  intro unnamed
  rcases identified.mp unnamed with same | same
  · exact past.1 same
  · exact past.2 same

theorem Refilled.touched (refilled : Refilled before after) : Touched before after := by
  cases refilled with
  | kept => exact .kept
  | @moved record state active filled fills filledAt =>
    refine .changed (.filled active filled) (fun identified => ⟨?_, fun _ known => known⟩) rfl
    have named : record.venueOrderId ≠ none := by
      apply identified.past
      constructor <;> intro same <;> rw [same] at active <;> cases active
    rcases filled with rfl | rfl <;> simp [Identified, named]

/-- A report of the venue, as a step of the record's life. -/
theorem VenueReport.touched (report : VenueReport now orderId record command after event) :
    Touched (some record) (some after) := by
  cases report with
  | acked pending venueOrderId submittedAt =>
    refine .changed (by rw [pending]; exact .acked) (fun identified => ⟨by simp [Identified], ?_⟩) rfl
    intro known named
    rw [identified.mpr (Or.inl pending)] at named
    cases named
  | submitFailed pending reason =>
    refine .changed (by rw [pending]; exact .submitFailed) (fun identified => ⟨?_, fun _ known => known⟩) rfl
    simp [Identified, identified.mpr (Or.inl pending)]
  | cancelled live reason cancelledAt =>
    refine .changed (.cancelled live) (fun identified => ⟨?_, fun _ known => known⟩) rfl
    have named : record.venueOrderId ≠ none := by
      apply identified.past
      rcases live with same | same <;> rw [same] <;> simp
    simp [Identified, named]

/-- Every record finds its answer in the cache. -/
def Answered (state : EngineState) : Prop :=
  ∀ orderId record, state.orders.lookup orderId = some record →
    (state.idempotencyCache.lookup record.clientOrderId).isSome

/-- A step of the whole book. -/
structure LifeStep (before after : EngineState) : Prop where
  orders : ∀ orderId, Touched (before.orders.lookup orderId) (after.orders.lookup orderId)
  answered : Answered after

theorem Answered.of_untouched (answered : Answered before) (untouched : Untouched before after) : Answered after := by
  intro orderId record found
  rw [untouched.orders] at found
  rw [untouched.answers]
  exact answered orderId record found

theorem LifeStep.of_untouched (answered : Answered before) (untouched : Untouched before after) :
    LifeStep before after where
  orders orderId := by
    rw [untouched.orders]
    exact .kept
  answered := answered.of_untouched untouched

theorem LifeStep.then_untouched (step : LifeStep before middle) (untouched : Untouched middle after) :
    LifeStep before after where
  orders orderId := by
    rw [untouched.orders]
    exact step.orders orderId
  answered := step.answered.of_untouched untouched

section Commands
variable {C J Weather : Type} [EngineCore C]

/-- Records are answered, so an unanswered order has none: a known order is never recorded anew. -/
theorem Answered.unrecorded {sequencer : Sequencer C J} (answered : Answered sequencer.state)
    (unknown : sequencer.findExistingAck orderId = none) : sequencer.state.orders.lookup orderId = none := by
  by_contra known
  obtain ⟨record, found⟩ := Option.ne_none_iff_exists'.mp known
  have cached := answered orderId record found
  rw [Sequencer.findExistingAck, found] at unknown
  simp [unknown] at cached

variable [LibraryText]

theorem Handling.life (calls : CoreCalls C Untouched fun _ => FillsActive) {before after : Sequencer C J}
    {env : Environment Weather} (handling : Handling before env command after effects outcome)
    (answered : Answered before.state) : LifeStep before.state after.state := by
  cases handling with
  | answered respond known => exact .of_untouched answered (.refl _)
  | refused respond unknown evaluated => exact .of_untouched answered (calls.evaluate_keeps evaluated)
  | unroutable respond unknown evaluated => exact .of_untouched answered (calls.evaluate_keeps evaluated)
  | @accepted order core checked sent respond unknown evaluated ready routed =>
    have untouched := calls.evaluate_keeps evaluated
    have missing := answered.unrecorded unknown
    have kept : Answered (EngineCore.state core) := answered.of_untouched untouched
    have orders : ∀ probe, (drawn before core order.core.agentId env.now).state.orders.lookup probe =
        before.state.orders.lookup probe := untouched.orders
    rw [Sequencer.state_recordOrder]
    constructor
    · intro probe
      rw [lookup_insert_if]
      split
      · next own =>
        rw [own, missing]
        exact .created rfl rfl
      · rw [orders]
        exact .kept
    · intro probe record found
      rw [lookup_insert_if] at found ⊢
      split
      · rfl
      · next other =>
        split at found
        · cases found
          exact absurd rfl other
        · exact kept probe record found
  | @reported orderId record rewritten command event found report =>
    have touched := VenueReport.touched report
    rw [Sequencer.state_putOrder]
    constructor
    · intro probe
      rw [lookup_insert_if]
      split
      · next own =>
        rw [own, show before.state.orders.lookup orderId = some record from found]
        exact touched
      · exact .kept
    · intro probe stored seen
      rw [lookup_insert_if] at seen
      split at seen
      · cases seen
        have same := report.clientOrderId
        rw [same]
        exact answered orderId record found
      · exact answered probe stored seen
  | @filled fill core record remaining event called found left emitted =>
    have moved := calls.fills called
    constructor
    · intro probe
      exact (moved.orders probe).touched
    · intro probe stored seen
      have refilled := moved.orders probe
      rw [show (EngineCore.state core).orders.lookup probe = some stored from seen] at refilled
      rw [show ({ before with core := core } : Sequencer C J).state = EngineCore.state core from rfl, moved.answers]
      generalize earlier : (EngineCore.state before.core).orders.lookup probe = slot at refilled
      cases refilled with
      | kept => exact answered probe stored earlier
      | moved active filled fills filledAt =>
        have cached := answered probe _ earlier
        exact cached
  | called own quiet unrelated => exact .of_untouched answered (calls.keeps own)
  | limitsRefused respond failed => exact .of_untouched answered (calls.limits_keep failed)
  | silent reply quiet => exact .of_untouched answered (.refl _)

theorem Processing.life [EventJournal J Weather] (calls : CoreCalls C Untouched fun _ => FillsActive)
    {sequencer after : Sequencer C J} {env : Environment Weather}
    (processing : Processing sequencer command env effects commit after) (answered : Answered sequencer.state) :
    LifeStep sequencer.state after.state := by
  obtain ⟨handled, outcome, handling, untouched, -⟩ := Processing.handled processing
  have step : LifeStep (numbered sequencer).state handled.state := Handling.life calls handling answered
  exact LifeStep.then_untouched step untouched

end Commands

/-- The state before and after a command. -/
structure Change where
  before : EngineState
  after : EngineState

/-- The state written to a record, if the record is not what it was. -/
def written (before : Option OrderRecord) : Option OrderRecord → List OrderState
  | none => []
  | some record => if before = some record then [] else [record.state]

/-- The history of states of an order's record, one for each time it was written. -/
def history (orderId : OrderId) (changes : List Change) : List OrderState :=
  changes.flatMap fun change => written (change.before.orders.lookup orderId) (change.after.orders.lookup orderId)

theorem history_snoc (orderId : OrderId) (changes : List Change) (change : Change) :
    history orderId (changes ++ [change]) = history orderId changes ++
      written (change.before.orders.lookup orderId) (change.after.orders.lookup orderId) := by
  simp [history]

theorem written_same (slot : Option OrderRecord) : written slot slot = [] := by
  cases slot with
  | none => rfl
  | some record => exact if_pos rfl

theorem written_other {record : OrderRecord} (other : before ≠ some record) :
    written before (some record) = [record.state] :=
  if_neg other

/-- The record at hand and the life behind it. -/
inductive Living (states : List OrderState) : Option OrderRecord → Prop
  | unborn (nothing : states = []) : Living states none
  | alive {record : OrderRecord} (reached : Reached states record.state) (identified : Identified record) :
      Living states (some record)

theorem Living.touched (living : Living states before) (touched : Touched before after) :
    Living (states ++ written before after) after := by
  cases touched with
  | kept => rwa [written_same, List.append_nil]
  | @created record pending unnamed =>
    cases living with
    | unborn nothing =>
      have fresh : (none : Option OrderRecord) ≠ some record := nofun
      rw [nothing, List.nil_append, written_other fresh, pending]
      refine .alive (by rw [pending]; exact .pending) ?_
      simp [Identified, pending, unnamed]
  | @changed record after advances named same =>
    cases living with
    | alive reached identified =>
      by_cases unchanged : record = after
      · rw [← unchanged, written_same, List.append_nil]
        exact .alive reached identified
      · rw [written_other (by simpa using unchanged)]
        exact .alive (reached.advance advances) (named identified).identified

/-- What stays of a record from one moment to a later one. -/
inductive Stays : Option OrderRecord → Option OrderRecord → Prop
  | unborn {slot : Option OrderRecord} : Stays none slot
  | lasting {record later : OrderRecord} (terminal : record.state.isTerminal = true → later = record)
      (named : ∀ venueOrderId, record.venueOrderId = some venueOrderId → later.venueOrderId = some venueOrderId) :
      Stays (some record) (some later)

theorem Stays.refl (slot : Option OrderRecord) : Stays slot slot := by
  cases slot with
  | none => exact .unborn
  | some record => exact .lasting (fun _ => rfl) (fun _ named => named)

theorem Stays.touched (stays : Stays first before) (living : Living states before) (touched : Touched before after) :
    Stays first after := by
  cases stays with
  | unborn => exact .unborn
  | @lasting record later terminal named =>
    cases touched with
    | kept => exact .lasting terminal named
    | changed advances renamed same =>
      cases living with
      | alive reached identified =>
        refine .lasting (fun final => ?_) (fun known seen => (renamed identified).known known (named known seen))
        rw [← terminal final, advances.not_terminal] at final
        cases final

section Runs
variable {C J Weather : Type} [EngineCore C] [LibraryText] [EventJournal J Weather]

/-- A command after which the loop goes on, with what it did to the state. -/
def Writes (sequencer : Sequencer C J) (change : Change) (next : Sequencer C J) : Prop :=
  change = ⟨sequencer.state, next.state⟩ ∧ ∃ turn, Goes sequencer turn next

/-- What every run keeps. -/
structure Alive (changes : List Change) (sequencer : Sequencer C J) : Prop where
  living : ∀ orderId, Living (history orderId changes) (sequencer.state.orders.lookup orderId)
  answered : Answered sequencer.state

theorem Writes.life (calls : CoreCalls C Untouched fun _ => FillsActive) {sequencer next : Sequencer C J}
    (writes : Writes sequencer change next) (answered : Answered sequencer.state) :
    LifeStep sequencer.state next.state := by
  obtain ⟨-, turn, command, env, processes⟩ := writes
  exact Processing.life calls processes.processing answered

theorem alive_step (calls : CoreCalls C Untouched fun _ => FillsActive) {sequencer next : Sequencer C J}
    (alive : Alive changes sequencer) (writes : Writes sequencer change next) :
    Alive (changes ++ [change]) next := by
  have step := writes.life calls alive.answered
  refine ⟨fun orderId => ?_, step.answered⟩
  have living := (alive.living orderId).touched (step.orders orderId)
  rw [history_snoc, writes.1]
  exact living

theorem alive_of_run (calls : CoreCalls C Untouched fun _ => FillsActive) {first sequencer : Sequencer C J}
    (orders : first.state.orders = ∅) (run : Path Writes first changes sequencer) : Alive changes sequencer := by
  refine run.invariant ⟨fun orderId => ?_, fun orderId record found => ?_⟩
    fun _ _ _ _ alive writes => alive_step calls alive writes
  · rw [orders, AList.lookup_empty]
    exact .unborn rfl
  · rw [orders, AList.lookup_empty] at found
    cases found

theorem stays_of_run (calls : CoreCalls C Untouched fun _ => FillsActive) {sequencer last : Sequencer C J}
    (alive : Alive changes sequencer) (run : Path Writes sequencer later last) (orderId : OrderId) :
    Stays (sequencer.state.orders.lookup orderId) (last.state.orders.lookup orderId) := by
  have kept : Alive (changes ++ later) last ∧
      Stays (sequencer.state.orders.lookup orderId) (last.state.orders.lookup orderId) := by
    induction run with
    | start => exact ⟨by rwa [List.append_nil], .refl _⟩
    | step path writes ih =>
      obtain ⟨still, stays⟩ := ih
      have step := writes.life calls still.answered
      rw [← List.append_assoc]
      exact ⟨alive_step calls still writes, stays.touched (still.living orderId) (step.orders orderId)⟩
  exact kept.2

/-- The order a venue command is about. -/
def aboutOrder : SequencerCommand → Option OrderId
  | .onVenueAck orderId _ _ | .onVenueSubmitFailed orderId _ | .onVenueCancelled orderId _ _ => some orderId
  | .onFill fill => some fill.orderId
  | .submitOrder .. | .submitSignal .. | .onReconciliation _ | .markToMarket | .adjustLimits .. | .pauseAgent ..
  | .resumeAgent _ | .haltAll _ | .resetCircuitBreaker _ | .snapshot _ | .shutdown _ | .poisonPill => none

/-- The states of a record in which a venue command has its place. -/
def allows (state : OrderState) : SequencerCommand → Bool
  | .onVenueAck .. | .onVenueSubmitFailed .. => state = .pending
  | .onVenueCancelled .. => state = .submitted || state = .partiallyFilled
  | .onFill _ => state.isActive
  | .submitOrder .. | .submitSignal .. | .onReconciliation _ | .markToMarket | .adjustLimits .. | .pauseAgent ..
  | .resumeAgent _ | .haltAll _ | .resetCircuitBreaker _ | .snapshot _ | .shutdown _ | .poisonPill => true

/-- The command ends the run and leaves the journal alone. -/
def EndsRun (sequencer : Sequencer C J) (command : SequencerCommand) (env : Environment Weather) : Prop :=
  (∃ error, (sequencer.processCommand command env).result = .error error) ∧
    (sequencer.processCommand command env).sequencer.journal = sequencer.journal

theorem endsRun_of_failed {sequencer : Sequencer C J} {command : SequencerCommand} {env : Environment Weather}
    (failed : ∀ outcome, ((numbered sequencer).handleCommand command env).completion ≠ .ok outcome) :
    EndsRun sequencer command env := by
  have kept := (handleCommand_failed (numbered sequencer) command env failed).1
  unfold EndsRun
  rw [processCommand_eq]
  cases completion : ((numbered sequencer).handleCommand command env).completion with
  | ok outcome => exact absurd completion (failed outcome)
  | err error => exact ⟨⟨_, rfl⟩, kept⟩
  | panicked => exact ⟨⟨_, rfl⟩, kept⟩

omit [LibraryText] [EventJournal J Weather] in
private theorem updateOrder_out_of_place {sequencer : Sequencer C J} {accepts : OrderState → Bool}
    (found : sequencer.state.orders.lookup orderId = some record) (misplaced : accepts record.state = false)
    (outcome : CommandOutcome) :
    (sequencer.updateOrder orderId subject accepts update event).completion ≠ .ok outcome := by
  intro ok
  rw [Sequencer.updateOrder, found] at ok
  simp [misplaced] at ok

omit [EventJournal J Weather] in
/-- A fill of a record that takes none: the core leaves the record, and only a filled one passes. -/
private theorem handleFill_out_of_place (calls : CoreCalls C Untouched fun _ => FillsActive)
    {sequencer : Sequencer C J} {fill : Fill} (found : sequencer.state.orders.lookup fill.orderId = some record)
    (inactive : record.state.isActive = false)
    (refused : record.state = .filled → (EngineCore.onFill sequencer.core fill now).2 ≠ .ok ())
    (outcome : CommandOutcome) : (sequencer.handleFill fill now).completion ≠ .ok outcome := by
  intro ok
  obtain ⟨core, completion, called⟩ : ∃ core completion,
      EngineCore.onFill sequencer.core fill now = (core, completion) := ⟨_, _, rfl⟩
  rw [called] at refused
  unfold Sequencer.handleFill Sequencer.afterCore at ok
  rw [called] at ok
  cases completion with
  | panicked => cases ok
  | err error => cases ok
  | ok value =>
    have slot := (calls.fills called).orders fill.orderId
    rw [show (EngineCore.state sequencer.core).orders.lookup fill.orderId = some record from found] at slot
    have left : (EngineCore.state core).orders.lookup fill.orderId = some record := by
      generalize (EngineCore.state core).orders.lookup fill.orderId = after at slot
      cases slot with
      | kept => rfl
      | moved active filled fills filledAt => cases inactive.symm.trans active
    have unfilled : record.state ≠ .filled := fun filled => refused filled rfl
    have silent : ∀ remaining, Sequencer.fillEvent fill record remaining = none := by
      intro remaining
      unfold Sequencer.fillEvent
      cases state : record.state with
      | partiallyFilled =>
        rw [state] at inactive
        cases inactive
      | filled => exact absurd state unfilled
      | _ => rfl
    dsimp only at ok
    rw [show ({ sequencer with core := core } : Sequencer C J).state = EngineCore.state core from rfl, left] at ok
    dsimp only at ok
    split at ok
    · cases ok
    · rw [silent] at ok
      cases ok

/-- A venue command out of place ends the run and leaves the journal alone; only
a fill of a filled order is left to the core. -/
theorem endsRun_out_of_place (calls : CoreCalls C Untouched fun _ => FillsActive) {sequencer : Sequencer C J}
    {command : SequencerCommand} {env : Environment Weather} (about : aboutOrder command = some orderId)
    (found : sequencer.state.orders.lookup orderId = some record) (misplaced : allows record.state command = false)
    (refused : ∀ fill, command = .onFill fill → record.state = .filled →
      (EngineCore.onFill sequencer.core fill env.now).2 ≠ .ok ()) : EndsRun sequencer command env := by
  apply endsRun_of_failed
  have numberedFound : (numbered sequencer).state.orders.lookup orderId = some record := found
  cases command with
  | onVenueAck _ venueOrderId submittedAt =>
    cases about
    exact updateOrder_out_of_place numberedFound (by simpa [allows] using misplaced)
  | onVenueSubmitFailed _ reason =>
    cases about
    exact updateOrder_out_of_place numberedFound (by simpa [allows] using misplaced)
  | onVenueCancelled _ reason cancelledAt =>
    cases about
    exact updateOrder_out_of_place numberedFound (by simpa [allows] using misplaced)
  | onFill fill =>
    cases about
    exact handleFill_out_of_place calls numberedFound misplaced (refused fill rfl)
  | _ => cases about

/-- The life cycle of every order, over every run from a state without orders:
its history is a beginning of a path; a terminal record never changes; the venue
id is none exactly while the record is pending or rejected and never changes; a
venue command that the record's state does not allow ends the run without a
durable change, where a fill of a filled record is up to the core. -/
theorem life_cycle (calls : CoreCalls C Untouched fun _ => FillsActive) {first sequencer : Sequencer C J}
    (orders : first.state.orders = ∅) (run : Path Writes first changes sequencer) :
    (∀ orderId, ∃ path, LifePath path ∧ history orderId changes <+: path) ∧
    (∀ orderId record, sequencer.state.orders.lookup orderId = some record →
      (record.venueOrderId = none ↔ record.state = .pending ∨ record.state = .rejected)) ∧
    (∀ later last, Path Writes sequencer later last → ∀ orderId,
      Stays (sequencer.state.orders.lookup orderId) (last.state.orders.lookup orderId)) ∧
    ∀ (command : SequencerCommand) (env : Environment Weather) orderId record,
      aboutOrder command = some orderId → sequencer.state.orders.lookup orderId = some record →
      allows record.state command = false →
      (∀ fill, command = .onFill fill → record.state = .filled →
        (EngineCore.onFill sequencer.core fill env.now).2 ≠ .ok ()) →
      EndsRun sequencer command env := by
  have alive := alive_of_run calls orders run
  refine ⟨fun orderId => ?_, fun orderId record found => ?_, ?_, ?_⟩
  · have living := alive.living orderId
    generalize sequencer.state.orders.lookup orderId = slot at living
    cases living with
    | unborn nothing =>
      rw [nothing]
      exact ⟨_, .refused, List.nil_prefix⟩
    | alive reached identified => exact reached.lifePath
  · have living := alive.living orderId
    rw [found] at living
    cases living with
    | alive reached identified => exact identified
  · exact fun later last onwards orderId => stays_of_run calls alive onwards orderId
  · exact fun command env orderId record about found misplaced refused =>
      endsRun_out_of_place calls about found misplaced refused

end Runs

section SeenFills
open Journal SequencerFixtures SequencerFixtures.Plain

/-- The test core asked for fills of active orders only; of any other recorded order it takes a fill as seen. -/
structure SeenFills where
  inner : TestCore

namespace SeenFills

/-- The inner core's answer. -/
def wrap (called : TestCore × Completion α) : SeenFills × Completion α := (⟨called.1⟩, called.2)

def onFill (core : SeenFills) (fill : Fill) (now : DateTime) : SeenFills × Completion Unit :=
  match core.inner.state.orders.lookup fill.orderId with
  | none => (core, .err (.orderNotFound fill.orderId.value))
  | some record => if record.state.isActive then wrap (core.inner.onFill fill now) else (core, .ok ())

instance : EngineCore SeenFills where
  state core := core.inner.state
  stateMut core write := ⟨EngineCore.stateMut core.inner write⟩
  state_stateMut _ _ := rfl
  evaluateOrder core order now := wrap (EngineCore.evaluateOrder core.inner order now)
  onFill := onFill
  onReconciliation core report now := wrap (EngineCore.onReconciliation core.inner report now)
  markToMarket core prices now := wrap (EngineCore.markToMarket core.inner prices now)
  pauseAgent core agent reason now := wrap (EngineCore.pauseAgent core.inner agent reason now)
  resumeAgent core agent now := wrap (EngineCore.resumeAgent core.inner agent now)
  adjustLimits core agent limits := wrap (EngineCore.adjustLimits core.inner agent limits)
  haltAll core reason now := wrap (EngineCore.haltAll core.inner reason now)
  resetCircuitBreaker core now := wrap (EngineCore.resetCircuitBreaker core.inner now)

theorem keeps_calls : CoreCalls SeenFills Untouched fun _ => FillsActive where
  keeps {core after} own := by
    cases own with
    | evaluateOrder order now => exact TestCore.ownCall_untouched (.evaluateOrder order now)
    | onReconciliation report now => exact TestCore.ownCall_untouched (.onReconciliation report now)
    | markToMarket prices now => exact TestCore.ownCall_untouched (.markToMarket prices now)
    | pauseAgent agent reason now => exact TestCore.ownCall_untouched (.pauseAgent agent reason now)
    | resumeAgent agent now => exact TestCore.ownCall_untouched (.resumeAgent agent now)
    | adjustLimits agent limits => exact TestCore.ownCall_untouched (.adjustLimits agent limits)
    | haltAll reason now => exact TestCore.ownCall_untouched (.haltAll reason now)
    | resetCircuitBreaker now => exact TestCore.ownCall_untouched (.resetCircuitBreaker now)
  fills {core after fill now} filled := by
    have called : core.onFill fill now = (after, .ok ()) := filled
    unfold onFill at called
    split at called
    · cases called
    · next record found =>
      split at called
      · next active =>
        obtain ⟨core', completion, inner⟩ : ∃ core' completion,
            core.inner.onFill fill now = (core', completion) := ⟨_, _, rfl⟩
        rw [inner] at called
        cases called
        obtain ⟨stored, known, -, -, moved⟩ := TestCore.onFill_ok inner
        cases found.symm.trans known
        have orders : (EngineCore.state (⟨core'⟩ : SeenFills)).orders =
            core.inner.state.orders.insert fill.orderId (TestCore.filledRecord record fill now) :=
          congrArg EngineState.orders moved
        refine ⟨fun probe => ?_, fun clientOrderId => ?_⟩
        · rw [orders, lookup_insert_if]
          split
          · next own =>
            rw [own, show (EngineCore.state core).orders.lookup fill.orderId = some record from found]
            exact .moved active (TestCore.filledRecord_state record fill now) _ _
          · exact .kept
        · exact congrArg (fun state => state.idempotencyCache.lookup clientOrderId) moved
      · cases called
        exact ⟨fun _ => .kept, fun _ => rfl⟩

end SeenFills

/-- A sequencer over that core on an empty journal. -/
def seenBoot : Sequencer SeenFills (SqliteJournal PlainBlob) :=
  ⟨⟨freshCore⟩, freshJournal, ⟨⟨1⟩⟩, emptySnapshot 0, ∅, 0, false⟩

def seenSubmitted : Sequencer SeenFills (SqliteJournal PlainBlob) :=
  (seenBoot.processCommand submit calm).sequencer

def seenAcked : Sequencer SeenFills (SqliteJournal PlainBlob) :=
  (seenSubmitted.processCommand ack calm).sequencer

/-- The whole order, filled. -/
def wholeFill : SequencerCommand := .onFill (sampleFill "order-1" 10)

def seenFilled : Sequencer SeenFills (SqliteJournal PlainBlob) :=
  (seenAcked.processCommand wholeFill calm).sequencer

private theorem writes_next {sequencer : Sequencer SeenFills (SqliteJournal PlainBlob)} (command : SequencerCommand)
    (ok : (sequencer.processCommand command calm).result.toBool = true) :
    Writes sequencer ⟨sequencer.state, (sequencer.processCommand command calm).sequencer.state⟩
      (sequencer.processCommand command calm).sequencer :=
  ⟨rfl, turnOf sequencer command calm, command, calm, exists_ok ok, rfl, rfl⟩

/-- Submitted, acked and filled. -/
def wholeLife : List Change :=
  [⟨seenBoot.state, seenSubmitted.state⟩, ⟨seenSubmitted.state, seenAcked.state⟩,
    ⟨seenAcked.state, seenFilled.state⟩]

private theorem whole_run : Path Writes seenBoot wholeLife seenFilled := by
  have submitted : Path Writes seenBoot (wholeLife.take 1) seenSubmitted :=
    Path.start.step (writes_next submit (by decide +kernel))
  have acked : Path Writes seenBoot (wholeLife.take 2) seenAcked :=
    submitted.step (writes_next ack (by decide +kernel))
  exact acked.step (writes_next wholeFill (by decide +kernel))

/-- The filled order's life is one of the paths. -/
theorem whole_life_traced : history ⟨"order-1"⟩ wholeLife = [.pending, .submitted, .filled] ∧
    ∃ path, LifePath path ∧ history ⟨"order-1"⟩ wholeLife <+: path := by
  refine ⟨by decide +kernel, ?_⟩
  exact (life_cycle SeenFills.keeps_calls rfl whole_run).1 ⟨"order-1"⟩

/-- A further fill of the filled order. -/
def repeatedFill : SequencerCommand := .onFill (sampleFill "order-1" 4)

/-- The core takes the further fill as seen and moves no record; the sequencer
goes on and journals one more event of a filled order. -/
theorem repeated_fill_journaled :
    CoreCalls SeenFills Untouched (fun _ => FillsActive) ∧
    seenBoot.state.orders = ∅ ∧ seenBoot.state.idempotencyCache = ∅ ∧ Path Writes seenBoot wholeLife seenFilled ∧
    (∃ record, seenFilled.state.orders.lookup ⟨"order-1"⟩ = some record ∧
      allows record.state repeatedFill = false) ∧
    aboutOrder repeatedFill = some ⟨"order-1"⟩ ∧ ¬ EndsRun seenFilled repeatedFill calm ∧
    (seenFilled.processCommand repeatedFill calm).sequencer.journal.events.length =
      seenFilled.journal.events.length + 1 := by
  have goesOn : (seenFilled.processCommand repeatedFill calm).result.toBool = true := by decide +kernel
  have filled : (seenFilled.state.orders.lookup ⟨"order-1"⟩).map OrderRecord.state = some .filled := by
    decide +kernel
  obtain ⟨record, found, state⟩ := Option.map_eq_some_iff.mp filled
  refine ⟨SeenFills.keeps_calls, rfl, rfl, whole_run, ⟨record, found, by rw [state]; rfl⟩, rfl, ?_, by decide +kernel⟩
  rintro ⟨⟨error, ended⟩, -⟩
  rw [ended] at goesOn
  cases goesOn

end SeenFills

end FeynmanEngine.OrderLifeCycle
