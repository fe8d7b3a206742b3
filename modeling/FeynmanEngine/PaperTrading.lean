import FeynmanEngine.PaperExecutions
import FeynmanEngine.VenueAgreement

/-! Paper trading: the sequencer, the venue submit task and the paper adapter
together. The task waits for each of its calls of the adapter, while books are
replaced and orders cancelled between any two of their sections. What the task
assumes of its adapters is what the paper adapter does. -/
namespace FeynmanEngine.PaperTrading
open Ids Orders Orderbooks Tables Engine Sequencing CommandCases OrderBookkeeping VenueOrders OrderStandings Traces
open VenueTask VenueAgreement PaperVenue PaperExecutions

/-! ### The task at the adapter -/

/-- Where the task is with the adapter: not there, in `submit_order`, with its
answer, with an ack whose actions it is to take, or at the end of
`take_post_ack_actions` with fills still to broadcast. -/
inductive Visit where
  | absent
  | submitting (order : PipelineOrder Routed) (call : PaperVenue.Call)
  | answered (order : PipelineOrder Routed) (answer : Except GatewayError VenueOrderAck)
  | acked (order : PipelineOrder Routed) (venueOrderId : VenueOrderId)
  | returning (order : PipelineOrder Routed) (fills : List VenueFill) (answer : Except GatewayError PostAckActions)

/-- All three, and the calls of others that have not returned. -/
structure Shop (C J : Type) where
  system : VenueTask.System C J
  paper : PaperAdapterState
  visit : Visit
  calls : List PaperVenue.Call

inductive Label where
  | task (label : VenueTask.Label)
  | paper (label : PaperVenue.Label)

/-- The steps of task and sequencer. -/
def taskLabels (labels : List Label) : List VenueTask.Label :=
  labels.flatMap fun
    | .task label => [label]
    | .paper _ => []

/-- An order that comes out of `recv` for the adapter starts a call of `submit_order`. -/
def visitOf : TaskState → Visit
  | .submitting order => .submitting order (.submitting (.fromRouted order))
  | .waiting | .sending .. => .absent

/-- An ack leaves its actions to be taken. -/
def afterAnswer (order : PipelineOrder Routed) : Except GatewayError VenueOrderAck → Visit
  | .ok ack => .acked order ack.venueOrderId
  | .error _ => .absent

/-- The fills to broadcast after a section. -/
def leftFills (next : Option PaperVenue.Call) : List VenueFill := (next.map PaperVenue.Call.inFlight).getD []

/-- A call of anyone but the task. -/
def Foreign : PaperVenue.Call → Prop
  | .replacing _ | .cancelling _ | .broadcasting _ => True
  | .submitting _ | .pricing _ | .inserting .. | .taking _ => False

/-- A step of task and sequencer in which the adapter has no part. -/
def Alone : VenueTask.Label → Prop
  | .commanded _ | .sent _ | .finished | .delivered _ => True
  | .received | .submitted _ | .collected _ => False

section Shops
variable {C J Weather : Type} [EngineCore C] [LibraryText] [EventJournal J Weather]

/-- The steps of all of them. The task's own collection is the adapter's answer,
so that none is allowed for in the steps it takes alone. -/
inductive Moves (adapters : Table VenueId VenueAdapter) (adapter : PaperAdapter) (shop : Shop C J) :
    Label → Shop C J → Prop
  | alone {label : VenueTask.Label} {next : VenueTask.System C J}
      (moves : VenueTask.Moves adapters (fun _ _ => False) shop.system label next) (own : Alone label) :
      Moves adapters adapter shop (.task label) { shop with system := next }
  | received {next : VenueTask.System C J}
      (moves : VenueTask.Moves adapters (fun _ _ => False) shop.system .received next) :
      Moves adapters adapter shop (.task .received) { shop with system := next, visit := visitOf next.task }
  | locked {order : PipelineOrder Routed} {call later : PaperVenue.Call} {state : PaperAdapterState}
      {label : PaperVenue.Label} (holds : shop.visit = .submitting order call)
      (ran : call.run adapter [] shop.paper = ⟨state, label, some later⟩) :
      Moves adapters adapter shop (.paper label) { shop with paper := state, visit := .submitting order later }
  | refused {order : PipelineOrder Routed} {call : PaperVenue.Call} {state : PaperAdapterState}
      {submission : OrderSubmission} {answer : Except GatewayError VenueOrderAck}
      (holds : shop.visit = .submitting order call)
      (ran : call.run adapter [] shop.paper = ⟨state, .answered submission answer, none⟩) :
      Moves adapters adapter shop (.paper (.answered submission answer))
        { shop with paper := state, visit := .answered order answer }
  | inserted {order : PipelineOrder Routed} {call : PaperVenue.Call} {state : PaperAdapterState}
      {submission : OrderSubmission} {insertion : Insertion} (holds : shop.visit = .submitting order call)
      (ran : call.run adapter [] shop.paper = ⟨state, .inserted submission insertion, none⟩) :
      Moves adapters adapter shop (.paper (.inserted submission insertion))
        { shop with paper := state, visit := .answered order insertion.answer }
  | submitted {order : PipelineOrder Routed} {answer : Except GatewayError VenueOrderAck}
      (holds : shop.visit = .answered order answer) {next : VenueTask.System C J}
      (moves : VenueTask.Moves adapters (fun _ _ => False) shop.system (.submitted answer) next) :
      Moves adapters adapter shop (.task (.submitted answer))
        { shop with system := next, visit := afterAnswer order answer }
  | taken {order : PipelineOrder Routed} {venueOrderId : VenueOrderId} {state : PaperAdapterState}
      {answer : Except GatewayError PostAckActions} {later : Option PaperVenue.Call}
      (holds : shop.visit = .acked order venueOrderId) (sent : shop.system.task = .sending [] (some order))
      (ran : (PaperVenue.Call.taking venueOrderId).run adapter [] shop.paper =
        ⟨state, .taken venueOrderId answer, later⟩) :
      Moves adapters adapter shop (.paper (.taken venueOrderId answer))
        { shop with paper := state, visit := .returning order (leftFills later) answer }
  | broadcast {order : PipelineOrder Routed} {fill : VenueFill} {rest : List VenueFill}
      {answer : Except GatewayError PostAckActions} (holds : shop.visit = .returning order (fill :: rest) answer) :
      Moves adapters adapter shop (.paper (.broadcast fill)) { shop with visit := .returning order rest answer }
  | collected {order : PipelineOrder Routed} {answer : Except GatewayError PostAckActions}
      (holds : shop.visit = .returning order [] answer) (sent : shop.system.task = .sending [] (some order))
      (now : DateTime) :
      Moves adapters adapter shop (.task (.collected answer))
        { shop with system := { shop.system with task := afterCollect order now answer }, visit := .absent }
  | called (call : PaperVenue.Call) (entry : call.IsEntry) (foreign : Foreign call) :
      Moves adapters adapter shop (.paper (.called call)) { shop with calls := shop.calls ++ [call] }
  | ran {before after : List PaperVenue.Call} {call : PaperVenue.Call} (iteration : List VenueOrderId)
      (running : shop.calls = before ++ call :: after) (visits : Visits shop.paper iteration call) :
      Moves adapters adapter shop (.paper (call.run adapter iteration shop.paper).label)
        { shop with
          paper := (call.run adapter iteration shop.paper).state
          calls := before ++ (call.run adapter iteration shop.paper).next.toList ++ after }

/-! ### The adapter between visits -/

/-- Nothing is queued for after an ack. -/
def NothingHeld (paper : PaperAdapterState) : Prop := ∀ venueOrderId, paper.postAckActions.lookup venueOrderId = none

/-- An order was acknowledged, and only what settles it may be queued. -/
structure Held (paper : PaperAdapterState) (order : PipelineOrder Routed) (venueOrderId : VenueOrderId) : Prop where
  acknowledged : venueOrderId ∈ paper.acknowledgedOrders
  settles : ∀ probe actions, paper.postAckActions.lookup probe = some actions →
    probe = venueOrderId ∧ actions.Settles order.core.id order.core.qty

/-- Every cached ack is of an order that was acknowledged. -/
def Known (paper : PaperAdapterState) : Prop := ∀ clientOrderId ack,
  paper.idempotencyCache.lookup clientOrderId = some ack → ack.venueOrderId ∈ paper.acknowledgedOrders

/-- A call of `submit_order` for an order. -/
def SubmitsFor (order : PipelineOrder Routed) : PaperVenue.Call → Prop
  | .submitting submission | .pricing submission | .inserting submission _ => submission = .fromRouted order
  | .taking _ | .replacing _ | .cancelling _ | .broadcasting _ => False

/-- The task and its visit belong together, and the queue to the visit. -/
inductive Fits (paper : PaperAdapterState) : TaskState → Visit → Prop
  | waiting (nothing : NothingHeld paper) : Fits paper .waiting .absent
  | sending (nothing : NothingHeld paper) : Fits paper (.sending commands none) .absent
  | submitting (nothing : NothingHeld paper) (submits : SubmitsFor order call) :
      Fits paper (.submitting order) (.submitting order call)
  | accepted {ack : VenueOrderAck} (held : Held paper order ack.venueOrderId) :
      Fits paper (.submitting order) (.answered order (.ok ack))
  | rejected (nothing : NothingHeld paper) : Fits paper (.submitting order) (.answered order (.error error))
  | acked (held : Held paper order venueOrderId) :
      Fits paper (.sending commands (some order)) (.acked order venueOrderId)
  | returning (nothing : NothingHeld paper) (settles : actions.Settles order.core.id order.core.qty) :
      Fits paper (.sending [] (some order)) (.returning order fills (.ok actions))

omit [LibraryText] in
/-- Only the queue and what was acknowledged count. -/
theorem Fits.frame (fits : Fits paper task visit) (queue : after.postAckActions = paper.postAckActions)
    (acknowledged : after.acknowledgedOrders = paper.acknowledgedOrders) : Fits after task visit := by
  have nothing : NothingHeld paper → NothingHeld after := fun nothing venueOrderId => by
    rw [queue]
    exact nothing venueOrderId
  have held : ∀ {order venueOrderId}, Held paper order venueOrderId → Held after order venueOrderId := by
    intro order venueOrderId held
    refine ⟨acknowledged ▸ held.acknowledged, fun probe actions => ?_⟩
    rw [queue]
    exact held.settles probe actions
  cases fits with
  | waiting free => exact .waiting (nothing free)
  | sending free => exact .sending (nothing free)
  | submitting free submits => exact .submitting (nothing free) submits
  | accepted queued => exact .accepted (held queued)
  | rejected free => exact .rejected (nothing free)
  | acked queued => exact .acked (held queued)
  | returning free settles => exact .returning (nothing free) settles

/-- What holds between any two steps. -/
structure Keeps (shop : Shop C J) : Prop where
  fits : Fits shop.paper shop.system.task shop.visit
  known : Known shop.paper
  foreign : ∀ call ∈ shop.calls, Foreign call

/-! ### Calls of others -/

omit [LibraryText] in
theorem collectRepricedFills_acknowledged (adapter : PaperAdapter) (snapshot : OrderbookSnapshot)
    (state : PaperAdapterState) (iteration : List VenueOrderId) :
    (collectRepricedFills adapter snapshot state iteration).state.acknowledgedOrders = state.acknowledgedOrders := by
  induction iteration generalizing state with
  | nil => rfl
  | cons venueOrderId rest ih =>
    unfold collectRepricedFills
    split
    · rfl
    · next next fills repriced =>
      refine (ih next).trans ?_
      unfold repriceOrder at repriced
      split at repriced
      · cases repriced
        rfl
      · split at repriced
        · cases repriced
          rfl
        · split at repriced <;> cases repriced <;> rfl

/-- They leave alone what the task has to do with. -/
theorem foreign_frame {adapter : PaperAdapter} {call : PaperVenue.Call} (foreign : Foreign call)
    (ran : Ran adapter iteration state call outcome) :
    outcome.state.postAckActions = state.postAckActions ∧ outcome.state.idempotencyCache = state.idempotencyCache ∧
      outcome.state.acknowledgedOrders = state.acknowledgedOrders ∧ ∀ later ∈ outcome.next, Foreign later := by
  cases ran with
  | answered landed cached => exact ⟨rfl, rfl, rfl, fun _ next => absurd next (Option.not_mem_none _)⟩
  | passed | priced | inserted | taken | retaken | missed => exact foreign.elim
  | refused | cancelled | unknown | returned => exact ⟨rfl, rfl, rfl, fun _ next => absurd next (Option.not_mem_none _)⟩
  | broadcast =>
    refine ⟨rfl, rfl, rfl, fun later next => ?_⟩
    cases next
    trivial
  | @replaced snapshot collected home valid repriced =>
    have kept := collectRepricedFills_frame adapter snapshot (withOrderbook state snapshot) iteration
    have acknowledged := collectRepricedFills_acknowledged adapter snapshot (withOrderbook state snapshot) iteration
    rw [repriced] at kept acknowledged
    refine ⟨kept.1, kept.2, acknowledged, fun later next => ?_⟩
    split at next
    · cases next
    · cases next
      trivial

/-! ### The task's own calls -/

/-- A submission that is refused after all queues nothing. -/
theorem unqueued_of_prepare (prepared : prepare adapter submission book = .ok insertion)
    (refused : insertion.answer = .error error) : insertion.actions = none := by
  unfold prepare at prepared
  dsimp only at prepared
  split at prepared
  · cases prepared
  · unfold settle at prepared
    dsimp only at prepared
    split at prepared <;> cases prepared <;> first | rfl | cases refused
  · split at prepared
    · cases prepared
    · unfold settle at prepared
      dsimp only at prepared
      split at prepared
      · cases prepared
        cases refused
      · split at prepared
        · split at prepared
          · cases prepared
            cases refused
          · cases prepared
        · cases prepared
          cases refused
        · cases prepared
        · cases prepared

omit [LibraryText] in
/-- An insertion is the adapter's only queued order, or nothing is queued. -/
theorem fits_inserted (nothing : NothingHeld paper) (known : Known paper)
    (prepared : InsertionOf (.fromRouted order) insertion)
    (unqueued : ∀ error, insertion.answer = .error error → insertion.actions = none) :
    Fits (insert paper insertion) (.submitting order) (.answered order insertion.answer) ∧
      Known (insert paper insertion) := by
  have queued : ∀ probe actions, (insert paper insertion).postAckActions.lookup probe = some actions →
      probe = insertion.ack.venueOrderId ∧ insertion.actions = some actions := by
    intro probe actions found
    rcases lookup_of_insertIfSome found with own | old
    · exact own
    · rw [nothing probe] at old
      cases old
  constructor
  · cases answered : insertion.answer with
    | ok ack =>
      rw [prepared.answer ack answered]
      refine .accepted ⟨Finset.mem_insert_self _ _, fun probe actions found => ?_⟩
      obtain ⟨own, written⟩ := queued probe actions found
      exact ⟨own, prepared.actions actions written⟩
    | error error =>
      refine .rejected fun probe => ?_
      cases found : (insert paper insertion).postAckActions.lookup probe with
      | none => rfl
      | some actions =>
        have written := (queued probe actions found).2
        rw [unqueued error answered] at written
        cases written
  · intro clientOrderId ack cached
    have cached : (paper.idempotencyCache.insert insertion.ack.clientOrderId insertion.ack).lookup clientOrderId =
        some ack := cached
    rw [lookup_insert_if] at cached
    split at cached
    · cases cached
      exact Finset.mem_insert_self _ _
    · exact Finset.mem_insert_of_mem (known clientOrderId ack cached)

omit [LibraryText] in
/-- An ack that was cached is of an order acknowledged before. -/
theorem fits_answered {answer : Except GatewayError VenueOrderAck} (nothing : NothingHeld paper) (known : Known paper)
    (cached : ∀ ack, answer = .ok ack → paper.idempotencyCache.lookup clientOrderId = some ack) :
    Fits paper (.submitting order) (.answered order answer) := by
  cases answer with
  | error error => exact .rejected nothing
  | ok ack =>
    refine .accepted ⟨known _ ack (cached ack rfl), fun probe actions found => ?_⟩
    rw [nothing probe] at found
    cases found

/-- What a section of `submit_order` leaves of the visit. -/
theorem fits_submitting {adapter : PaperAdapter} (nothing : NothingHeld paper) (known : Known paper)
    (submits : SubmitsFor order call) (ran : Ran adapter [] paper call outcome) :
    (∀ later ∈ outcome.next, Fits outcome.state (.submitting order) (.submitting order later)) ∧
    (∀ submission answer, outcome.label = .answered submission answer →
      Fits outcome.state (.submitting order) (.answered order answer)) ∧
    (∀ submission insertion, outcome.label = .inserted submission insertion →
      Fits outcome.state (.submitting order) (.answered order insertion.answer)) ∧ Known outcome.state := by
  cases ran with
  | answered landed cached =>
    refine ⟨fun _ next => absurd next (Option.not_mem_none _), fun other given same => ?_,
      fun _ _ same => PaperVenue.Label.noConfusion same, known⟩
    obtain ⟨rfl, rfl⟩ := PaperVenue.Label.answered.inj same
    exact fits_answered nothing known cached
  | @passed submission connected valid unseen =>
    refine ⟨fun later next => ?_, fun _ _ same => PaperVenue.Label.noConfusion same,
      fun _ _ same => PaperVenue.Label.noConfusion same, known⟩
    cases next
    exact .submitting nothing submits
  | @priced submission book found =>
    refine ⟨fun later next => ?_, fun _ _ same => PaperVenue.Label.noConfusion same,
      fun _ _ same => PaperVenue.Label.noConfusion same, known⟩
    cases next
    exact .submitting nothing submits
  | @inserted submission book insertion prepared =>
    obtain rfl : submission = .fromRouted order := submits
    have landed := fits_inserted nothing known (prepare_ok prepared)
      fun error refused => unqueued_of_prepare prepared refused
    refine ⟨fun _ next => absurd next (Option.not_mem_none _), fun _ _ same => PaperVenue.Label.noConfusion same,
      fun other given same => ?_, landed.2⟩
    cases same
    exact landed.1
  | taken | retaken | missed | refused | replaced | cancelled | unknown | broadcast | returned => exact submits.elim

omit [LibraryText] in
theorem nothingHeld_erase (held : Held paper order venueOrderId) :
    NothingHeld { paper with postAckActions := paper.postAckActions.erase venueOrderId } := by
  intro probe
  show (paper.postAckActions.erase venueOrderId).lookup probe = none
  rw [lookup_erase_if]
  split
  · rfl
  · next other =>
    cases found : paper.postAckActions.lookup probe with
    | none => rfl
    | some actions => exact absurd (held.settles probe actions found).1 other

/-- What the task takes settles its order, and the queue is empty again. -/
theorem fits_taken {adapter : PaperAdapter} (held : Held paper order venueOrderId)
    (ran : (PaperVenue.Call.taking venueOrderId).run adapter [] paper = ⟨state, .taken venueOrderId answer, later⟩) :
    Fits state (.sending [] (some order)) (.returning order (leftFills later) answer) ∧
      state.idempotencyCache = paper.idempotencyCache ∧ state.acknowledgedOrders = paper.acknowledgedOrders := by
  have possible : takeActions paper venueOrderId = ⟨state, .taken venueOrderId answer, later⟩ := ran
  unfold takeActions at possible
  split at possible
  · next actions found =>
    cases possible
    exact ⟨.returning (nothingHeld_erase held) (held.settles venueOrderId actions found).2, rfl, rfl⟩
  · next free =>
    rw [if_pos held.acknowledged] at possible
    cases possible
    refine ⟨.returning (fun probe => ?_) (PostAckActions.default_settles _ _), rfl, rfl⟩
    cases found : paper.postAckActions.lookup probe with
    | none => rfl
    | some actions =>
      rw [(held.settles probe actions found).1, free] at found
      cases found

/-! ### One step -/

omit [LibraryText] in
theorem taskLabels_snoc (labels : List Label) (label : Label) :
    taskLabels (labels ++ [label]) = taskLabels labels ++ taskLabels [label] := List.flatMap_append

/-- Where no collection is allowed, any may be. -/
theorem moves_atWill {system next : VenueTask.System C J} {label : VenueTask.Label}
    (moves : VenueTask.Moves adapters (fun _ _ => False) system label next) :
    VenueTask.Moves adapters AtWill system label next ∧ ∀ answer, label ≠ .collected answer := by
  cases moves with
  | commanded foreign processes => exact ⟨.commanded foreign processes, fun _ same => VenueTask.Label.noConfusion same⟩
  | received waits head now => exact ⟨.received waits head now, fun _ same => VenueTask.Label.noConfusion same⟩
  | submitted holds answer => exact ⟨.submitted holds answer, fun _ same => VenueTask.Label.noConfusion same⟩
  | sent holds => exact ⟨.sent holds, fun _ same => VenueTask.Label.noConfusion same⟩
  | collected holds allowed now => exact allowed.elim
  | finished holds => exact ⟨.finished holds, fun _ same => VenueTask.Label.noConfusion same⟩
  | delivered head processes => exact ⟨.delivered head processes, fun _ same => VenueTask.Label.noConfusion same⟩

/-- A step the task and the sequencer take by themselves leaves the task with its visit. -/
theorem fits_alone {system next : VenueTask.System C J} {label : VenueTask.Label}
    (fits : Fits paper system.task visit) (moves : VenueTask.Moves adapters (fun _ _ => False) system label next)
    (own : Alone label) : Fits paper next.task visit := by
  cases moves with
  | commanded foreign processes => exact fits
  | received waits head now => exact own.elim
  | submitted holds answer => exact own.elim
  | sent holds =>
    rw [holds] at fits
    cases fits with
    | sending nothing => exact .sending nothing
    | acked held => exact .acked held
  | collected holds allowed now => exact allowed.elim
  | finished holds =>
    rw [holds] at fits
    cases fits with
    | sending nothing => exact .waiting nothing
  | delivered head processes => exact fits

/-- An order that is received starts its visit, or is answered without the adapter. -/
theorem fits_received {system next : VenueTask.System C J} (fits : Fits paper system.task visit)
    (moves : VenueTask.Moves adapters (fun _ _ => False) system .received next) :
    Fits paper next.task (visitOf next.task) := by
  cases moves with
  | received waits head now =>
    rw [waits] at fits
    cases fits with
    | waiting nothing =>
      unfold afterRecv
      dsimp only
      split
      · exact .sending nothing
      · split
        · exact .sending nothing
        · exact .submitting nothing rfl

theorem fits_submitted {system next : VenueTask.System C J} (fits : Fits paper system.task (.answered order answer))
    (moves : VenueTask.Moves adapters (fun _ _ => False) system (.submitted answer) next) :
    Fits paper next.task (afterAnswer order answer) := by
  cases moves with
  | submitted holds answer =>
    rw [holds] at fits
    cases fits with
    | accepted held => exact .acked held
    | rejected nothing => exact .sending nothing

omit [LibraryText] in
theorem submits_of_fits (fits : Fits paper task (.submitting order call)) :
    NothingHeld paper ∧ SubmitsFor order call ∧ task = .submitting order := by
  cases fits with
  | submitting nothing submits => exact ⟨nothing, submits, rfl⟩

/-- Every step keeps the task and its visit together. -/
theorem Keeps.step {adapter : PaperAdapter} {shop next : Shop C J} (keeps : Keeps shop)
    (moves : Moves adapters adapter shop label next) : Keeps next := by
  obtain ⟨fits, known, foreign⟩ := keeps
  cases moves with
  | alone moves own => exact ⟨fits_alone fits moves own, known, foreign⟩
  | received moves => exact ⟨fits_received fits moves, known, foreign⟩
  | submitted holds moves =>
    rw [holds] at fits
    exact ⟨fits_submitted fits moves, known, foreign⟩
  | @locked order call later state label holds went =>
    rw [holds] at fits
    have before := submits_of_fits fits
    obtain ⟨goes, -, -, knows⟩ := fits_submitting before.1 known before.2.1 (PaperVenue.ran adapter [] shop.paper call)
    rw [went] at goes knows
    exact ⟨before.2.2 ▸ goes later rfl, knows, foreign⟩
  | @refused order call state submission answer holds went =>
    rw [holds] at fits
    have before := submits_of_fits fits
    obtain ⟨-, told, -, knows⟩ := fits_submitting before.1 known before.2.1 (PaperVenue.ran adapter [] shop.paper call)
    rw [went] at told knows
    exact ⟨before.2.2 ▸ told submission answer rfl, knows, foreign⟩
  | @inserted order call state submission insertion holds went =>
    rw [holds] at fits
    have before := submits_of_fits fits
    obtain ⟨-, -, landed, knows⟩ :=
      fits_submitting before.1 known before.2.1 (PaperVenue.ran adapter [] shop.paper call)
    rw [went] at landed knows
    exact ⟨before.2.2 ▸ landed submission insertion rfl, knows, foreign⟩
  | @taken order venueOrderId state answer later holds sent went =>
    rw [holds, sent] at fits
    cases fits with
    | acked held =>
      obtain ⟨returns, cache, acknowledged⟩ := fits_taken held went
      refine ⟨sent ▸ returns, fun clientOrderId ack cached => ?_, foreign⟩
      rw [acknowledged]
      exact known clientOrderId ack (cache ▸ cached)
  | @broadcast order fill rest answer holds =>
    rw [holds] at fits
    refine ⟨?_, known, foreign⟩
    generalize shop.system.task = task at fits ⊢
    cases fits with
    | returning nothing settles => exact .returning nothing settles
  | @collected order answer holds sent now =>
    rw [holds, sent] at fits
    cases fits with
    | returning nothing settles => exact ⟨.sending nothing, known, foreign⟩
  | called call entry own =>
    refine ⟨fits, known, fun running member => ?_⟩
    rcases List.mem_append.mp member with old | new
    · exact foreign running old
    · exact List.mem_singleton.mp new ▸ own
  | @ran before after call iteration running visits =>
    obtain ⟨queue, cache, acknowledged, goes⟩ := foreign_frame
      (foreign call (running ▸ List.mem_append_right _ List.mem_cons_self))
      (PaperVenue.ran adapter iteration shop.paper call)
    refine ⟨fits.frame queue acknowledged, fun clientOrderId ack cached => ?_, fun other member => ?_⟩
    · show ack.venueOrderId ∈ (call.run adapter iteration shop.paper).state.acknowledgedOrders
      rw [acknowledged]
      exact known clientOrderId ack (cache ▸ cached)
    · rcases List.mem_append.mp member with earlier | later
      · rcases List.mem_append.mp earlier with old | new
        · exact foreign other (running ▸ List.mem_append_left _ old)
        · exact goes other (Option.mem_toList.mp new)
      · exact foreign other (running ▸ List.mem_append_right _ (List.mem_cons_of_mem _ later))

/-! ### Runs as the task sees them -/

/-- A step of the task is one of its own model, and its collections succeed. -/
theorem Keeps.task {adapter : PaperAdapter} {shop next : Shop C J} {label : VenueTask.Label} (keeps : Keeps shop)
    (moves : Moves adapters adapter shop (.task label) next) :
    VenueTask.Moves adapters AtWill shop.system label next.system ∧ ∀ error, label ≠ .collected (.error error) := by
  cases moves with
  | alone moves own => exact ⟨(moves_atWill moves).1, fun _ => (moves_atWill moves).2 _⟩
  | received moves => exact ⟨(moves_atWill moves).1, fun _ => (moves_atWill moves).2 _⟩
  | submitted holds moves => exact ⟨(moves_atWill moves).1, fun _ => (moves_atWill moves).2 _⟩
  | @collected order answer holds sent now =>
    have fits := keeps.fits
    rw [holds, sent] at fits
    cases fits with
    | returning nothing settles =>
      refine ⟨.collected sent (fun actions same => ?_) now, fun _ same => ?_⟩
      · cases same
        exact settles
      · cases same

theorem paper_step {adapter : PaperAdapter} {shop next : Shop C J} {label : PaperVenue.Label}
    (moves : Moves adapters adapter shop (.paper label) next) : next.system = shop.system := by
  cases moves <;> rfl

/-- Seen by the task, a run is one of its own in which every collection succeeds. -/
theorem projected {adapter : PaperAdapter} {start shop : Shop C J} (keeps : Keeps start)
    (run : Path (Moves adapters adapter) start labels shop) :
    Keeps shop ∧ Path (VenueTask.Moves adapters AtWill) start.system (taskLabels labels) shop.system ∧
      Collects (taskLabels labels) := by
  induction run with
  | start => exact ⟨keeps, .start, fun _ => List.not_mem_nil⟩
  | @step labels shop label next run moves ih =>
    obtain ⟨keeps, path, collects⟩ := ih
    rw [taskLabels_snoc]
    refine ⟨keeps.step moves, ?_⟩
    cases label with
    | task label =>
      obtain ⟨goes, succeeds⟩ := keeps.task moves
      refine ⟨path.step goes, fun error member => ?_⟩
      rcases List.mem_append.mp member with old | new
      · exact collects error old
      · exact succeeds error (List.mem_singleton.mp new).symm
    | paper label =>
      rw [paper_step moves, show taskLabels [Label.paper label] = [] from rfl, List.append_nil]
      exact ⟨path, collects⟩

/-! ### The task is never stuck -/

section Progress
variable {adapter : PaperAdapter} {shop next : Shop C J}

/-- The task and the adapter get there while everyone else does nothing. -/
structure Reaches (adapters : Table VenueId VenueAdapter) (adapter : PaperAdapter) (shop final : Shop C J) : Prop where
  run : ∃ labels, Path (Moves adapters adapter) shop labels final
  sequencer : final.system.sequencer = shop.system.sequencer
  calls : final.calls = shop.calls

/-- They get to the task's next `recv`. -/
def Idles (adapters : Table VenueId VenueAdapter) (adapter : PaperAdapter) (shop : Shop C J) : Prop :=
  ∃ final, Reaches adapters adapter shop final ∧ final.system.task = .waiting ∧
    final.system.submitQueue = shop.system.submitQueue

theorem Reaches.refl (shop : Shop C J) : Reaches adapters adapter shop shop := ⟨⟨[], .start⟩, rfl, rfl⟩

theorem Reaches.trans {middle final : Shop C J} (first : Reaches adapters adapter shop middle)
    (second : Reaches adapters adapter middle final) : Reaches adapters adapter shop final := by
  obtain ⟨⟨labels, path⟩, sequencer, calls⟩ := first
  obtain ⟨⟨more, onward⟩, same, kept⟩ := second
  exact ⟨⟨labels ++ more, path.append onward⟩, same.trans sequencer, kept.trans calls⟩

theorem Reaches.of_move (move : Moves adapters adapter shop label next)
    (sequencer : next.system.sequencer = shop.system.sequencer) (calls : next.calls = shop.calls) :
    Reaches adapters adapter shop next := ⟨⟨[label], Path.start.step move⟩, sequencer, calls⟩

/-- It is enough to get there after a step. -/
theorem Idles.of_move (move : Moves adapters adapter shop label next)
    (sequencer : next.system.sequencer = shop.system.sequencer) (calls : next.calls = shop.calls)
    (queue : next.system.submitQueue = shop.system.submitQueue) (idles : Idles adapters adapter next) :
    Idles adapters adapter shop := by
  obtain ⟨final, reaches, waits, same⟩ := idles
  exact ⟨final, (Reaches.of_move move sequencer calls).trans reaches, waits, same.trans queue⟩

/-- With nothing to take, the last commands are sent. -/
theorem idles_sending (holds : shop.system.task = .sending commands none) : Idles adapters adapter shop := by
  induction commands generalizing shop with
  | nil =>
    exact Idles.of_move (.alone (.finished holds) trivial) rfl rfl rfl ⟨_, .refl _, rfl, rfl⟩
  | cons command rest ih =>
    exact Idles.of_move (.alone (.sent holds) trivial) rfl rfl rfl (ih rfl)

/-- What is taken is broadcast and collected. -/
theorem idles_returning (holds : shop.visit = .returning order fills answer)
    (sent : shop.system.task = .sending [] (some order)) : Idles adapters adapter shop := by
  induction fills generalizing shop with
  | nil =>
    refine Idles.of_move (.collected holds sent ⟨0⟩) rfl rfl rfl ?_
    cases answer with
    | ok actions => exact idles_sending rfl
    | error error => exact idles_sending rfl
  | cons fill rest ih => exact Idles.of_move (.broadcast holds) rfl rfl rfl (ih rfl sent)

/-- The ack is sent and its actions are taken. -/
theorem idles_acked (holds : shop.visit = .acked order venueOrderId)
    (sending : shop.system.task = .sending commands (some order)) : Idles adapters adapter shop := by
  induction commands generalizing shop with
  | nil =>
    obtain ⟨state, answer, later, ran⟩ : ∃ state answer later,
        (PaperVenue.Call.taking venueOrderId).run adapter [] shop.paper =
          ⟨state, .taken venueOrderId answer, later⟩ := by
      simp only [PaperVenue.Call.run, takeActions]
      split
      · exact ⟨_, _, _, rfl⟩
      · split <;> exact ⟨_, _, _, rfl⟩
    exact Idles.of_move (.taken holds sending ran) rfl rfl rfl (idles_returning rfl sending)
  | cons command rest ih =>
    exact Idles.of_move (.alone (.sent sending) trivial) rfl rfl rfl (ih holds rfl)

theorem idles_answered (holds : shop.visit = .answered order answer) (task : shop.system.task = .submitting order) :
    Idles adapters adapter shop := by
  refine Idles.of_move (.submitted holds (.submitted task answer)) rfl rfl rfl ?_
  cases answer with
  | ok ack => exact idles_acked rfl rfl
  | error error => exact idles_sending rfl

/-- A section that ends the submission leaves its answer. -/
theorem idles_ended (holds : shop.visit = .submitting order call) (task : shop.system.task = .submitting order)
    (submits : SubmitsFor order call) (ended : (call.run adapter [] shop.paper).next = none) :
    Idles adapters adapter shop := by
  have ran := PaperVenue.ran adapter [] shop.paper call
  generalize went : call.run adapter [] shop.paper = outcome at ran ended
  cases ran with
  | answered landed cached => exact Idles.of_move (.refused holds went) rfl rfl rfl (idles_answered rfl task)
  | inserted prepared => exact Idles.of_move (.inserted holds went) rfl rfl rfl (idles_answered rfl task)
  | passed | priced => cases ended
  | taken | retaken | missed | refused | replaced | cancelled | unknown | broadcast | returned => exact submits.elim

/-- The sections a submission has before it. -/
def sectionsLeft : PaperVenue.Call → Nat
  | .submitting _ => 2
  | .pricing _ => 1
  | .inserting .. | .taking _ | .replacing _ | .cancelling _ | .broadcasting _ => 0

theorem idles_submitting (holds : shop.visit = .submitting order call) (task : shop.system.task = .submitting order)
    (submits : SubmitsFor order call) : Idles adapters adapter shop := by
  induction left : sectionsLeft call generalizing shop call with
  | zero =>
    refine idles_ended holds task submits ?_
    cases call with
    | inserting submission book =>
      simp only [PaperVenue.Call.run, insertOrder]
      split <;> rfl
    | submitting submission => cases left
    | pricing submission => cases left
    | taking venueOrderId => exact submits.elim
    | replacing snapshot => exact submits.elim
    | cancelling venueOrderId => exact submits.elim
    | broadcasting fills => exact submits.elim
  | succ sections ih =>
    have ran := PaperVenue.ran adapter [] shop.paper call
    generalize went : call.run adapter [] shop.paper = outcome at ran
    cases ran with
    | answered landed cached => exact idles_ended holds task submits (by rw [went])
    | inserted prepared => exact idles_ended holds task submits (by rw [went])
    | passed connected valid unseen =>
      have one : sections = 1 := (Nat.succ.inj left).symm
      exact Idles.of_move (.locked holds went) rfl rfl rfl (ih rfl task submits one.symm)
    | priced found =>
      have one : sections = 0 := (Nat.succ.inj left).symm
      exact Idles.of_move (.locked holds went) rfl rfl rfl (ih rfl task submits one.symm)
    | taken | retaken | missed | refused | replaced | cancelled | unknown | broadcast | returned => exact submits.elim

theorem Keeps.idles (keeps : Keeps shop) : Idles adapters adapter shop := by
  have fits := keeps.fits
  generalize at_task : shop.system.task = task at fits
  generalize at_visit : shop.visit = visit at fits
  cases fits with
  | waiting nothing => exact ⟨shop, .refl shop, at_task, rfl⟩
  | sending nothing => exact idles_sending at_task
  | submitting nothing submits => exact idles_submitting at_visit at_task submits
  | accepted held => exact idles_answered at_visit at_task
  | rejected nothing => exact idles_answered at_visit at_task
  | acked held => exact idles_acked at_visit at_task
  | returning nothing settles => exact idles_returning at_visit at_task

/-- The task and the adapter bring every order to its verdict. -/
theorem Keeps.reaches_outstanding (keeps : Keeps shop) :
    ∃ final, Reaches adapters adapter shop final ∧ final.system.outstanding = [] := by
  induction queue : shop.system.submitQueue generalizing shop with
  | nil =>
    obtain ⟨final, reaches, waits, same⟩ : Idles adapters adapter shop := keeps.idles
    rw [queue] at same
    refine ⟨final, reaches, ?_⟩
    rw [VenueTask.System.outstanding, VenueTask.System.ahead, waits, same]
    rfl
  | cons order rest ih =>
    obtain ⟨idle, reaches, waits, same⟩ : Idles adapters adapter shop := keeps.idles
    obtain ⟨labels, run⟩ := reaches.run
    rw [queue] at same
    have received : Moves adapters adapter idle (.task .received)
        { idle with
          system := { idle.system with submitQueue := rest, task := afterRecv adapters order ⟨0⟩ }
          visit := visitOf (afterRecv adapters order ⟨0⟩) } := .received (.received waits same ⟨0⟩)
    obtain ⟨final, onward, done⟩ := ih ((projected keeps run).1.step received) rfl
    exact ⟨final, (reaches.trans (.of_move received rfl rfl)).trans onward, done⟩

end Progress

/-! ### Paper trading -/

/-- Before the first order, at a new adapter. -/
def Shop.start (system : VenueTask.System C J) : Shop C J := ⟨system, .default, .absent, []⟩

omit [EngineCore C] [LibraryText] in
theorem Keeps.start {system : VenueTask.System C J} (waits : system.task = .waiting) : Keeps (Shop.start system) where
  fits := by
    show Fits PaperAdapterState.default system.task .absent
    rw [waits]
    exact .waiting fun _ => rfl
  known _ _ cached := by cases cached
  foreign _ member := by cases member

/-- Sequencer, venue task and paper adapter agree in every run, whatever books come
and whatever orders are cancelled between the sections of a submission: every
dispatched order has exactly one of ack and failure sent, or is still to get it and
does, from task and adapter alone; and every ack, failure, fill and cancellation on
the way finds its order where the sequencer takes it. -/
theorem paper_trading_agrees (contract : KeepsStandings C) (books : BooksFills C) {adapter : PaperAdapter}
    {system : VenueTask.System C J} (starts : Starts system) {shop : Shop C J}
    (run : Path (Moves adapters adapter) (.start system) labels shop) :
    (∀ order ∈ dispatchedBy (taskLabels labels),
      ((sentBy (taskLabels labels)).filterMap verdict).count order.core.id =
        if order.core.id ∈ shop.system.outstanding then 0 else 1) ∧
    (∃ final, Reaches adapters adapter shop final ∧ final.system.outstanding = []) ∧
    ∀ command rest, shop.system.commands = command :: rest →
      Awaited shop.system.sequencer.state command ∧
      ∀ env : Environment Weather, Persists shop.system.sequencer command env →
        ∃ reply, (shop.system.sequencer.processCommand command env).result = .ok reply := by
  obtain ⟨keeps, path, collects⟩ := projected (Keeps.start starts.task) run
  have agrees := agrees_of_run contract books starts path collects
  refine ⟨fun order dispatched => agrees.verdict_count dispatched, keeps.reaches_outstanding, ?_⟩
  intro command rest head
  unfold Agrees VenueTask.System.pending at agrees
  rw [head] at agrees
  obtain ⟨orderId, place, stand, named, found, takes⟩ := Agreement.awaited agrees
  constructor
  · obtain ⟨record, recorded, rfl⟩ := Option.map_eq_some_iff.mp found
    exact ⟨orderId, record, named, recorded, by rw [takes]; rfl⟩
  · intro env persists
    exact (processCommand_told books found named takes env).2.2 persists

end Shops

/-! ### One order at a partly filling book -/

section OneOrder
open SequencerFixtures Journal Plain

/-- The paper adapter of the sample order's venue. -/
def bybitPaper : PaperAdapter := { paperAdapter with venueId := ⟨"bybit"⟩ }

def bybitBook : OrderbookSnapshot :=
  { sampleOrderbook ⟨0⟩ with venueId := ⟨"bybit"⟩, instrumentId := ⟨"BTCUSDT"⟩ }

/-- With the book, before any order. -/
def stocked : PaperAdapterState := withOrderbook .default bybitBook

theorem replaced_bybitBook : (PaperVenue.Call.replacing bybitBook).run bybitPaper [] .default =
    ⟨stocked, .replaced bybitBook [] none, some (.broadcasting [])⟩ := rfl

/-- What the adapter answers for the sample order. -/
def paperAck : VenueOrderAck := ⟨⟨"paper-athena-0-000000-r00"⟩, ⟨"athena-0-000000-r00"⟩, ⟨0⟩⟩

/-- The sample order is accepted, and filled in part. -/
theorem prepared_routed : ∃ insertion, prepare bybitPaper (.fromRouted routed) bybitBook = .ok insertion ∧
    insertion.answer = .ok paperAck ∧ insertion.fills.map VenueFill.qty = [4] := by
  have ran : (prepare bybitPaper (.fromRouted routed) bybitBook).toOption.map (fun insertion =>
      (insertion.answer.toOption, insertion.fills.map VenueFill.qty)) = some (some paperAck, [4]) := by
    decide +kernel
  obtain ⟨insertion, prepared, same⟩ := Option.map_eq_some_iff.mp ran
  obtain ⟨answered, filled⟩ := Prod.mk.inj same
  refine ⟨insertion, ?_, ?_, filled⟩
  · cases reply : prepare bybitPaper (.fromRouted routed) bybitBook with
    | error error =>
      rw [reply] at prepared
      cases prepared
    | ok other =>
      rw [reply] at prepared
      cases prepared
      rfl
  · cases reply : insertion.answer with
    | error error =>
      rw [reply] at answered
      cases answered
    | ok ack =>
      rw [reply] at answered
      cases answered
      rfl

/-- The ack of the paper adapter, on its way to the sequencer. -/
def paperAckCommand : SequencerCommand := .onVenueAck ⟨"order-1"⟩ ⟨"paper-athena-0-000000-r00"⟩ ⟨0⟩

/-- A book comes; the order is dispatched, received, submitted, accepted and its ack sent. -/
theorem run_to_paper_ack : ∃ labels shop, Path (Moves bybitAdapters bybitPaper) (Shop.start atStart) labels shop ∧
    dispatchedBy (taskLabels labels) = [routed] ∧ shop.system.commands = [paperAckCommand] ∧
    queuedFills shop.paper ≠ [] := by
  obtain ⟨insertion, prepared, answered, filled⟩ := prepared_routed
  have processes : Processes atStart.sequencer submit calm (turnOf atStart.sequencer submit calm)
      afterSubmission := ⟨⟨none, rfl⟩, rfl, rfl⟩
  have called : Moves bybitAdapters bybitPaper (Shop.start atStart) (.paper (.called (.replacing bybitBook)))
      ⟨atStart, .default, .absent, [.replacing bybitBook]⟩ := .called _ trivial trivial
  have running : [PaperVenue.Call.replacing bybitBook] = [] ++ .replacing bybitBook :: [] := rfl
  have visits : Visits .default [] (.replacing bybitBook) := List.Perm.refl []
  have replaced : Moves bybitAdapters bybitPaper ⟨atStart, .default, .absent, [.replacing bybitBook]⟩
      (.paper ((PaperVenue.Call.replacing bybitBook).run bybitPaper [] .default).label)
      ⟨atStart, ((PaperVenue.Call.replacing bybitBook).run bybitPaper [] .default).state, .absent,
        [] ++ ((PaperVenue.Call.replacing bybitBook).run bybitPaper [] .default).next.toList ++ []⟩ :=
    .ran [] running visits
  rw [replaced_bybitBook] at replaced
  have submitted : Moves bybitAdapters bybitPaper ⟨atStart, stocked, .absent, [.broadcasting []]⟩
      (.task (.commanded [routed]))
      ⟨⟨afterSubmission, [routed], .waiting, []⟩, stocked, .absent, [.broadcasting []]⟩ :=
    .alone (.commanded rfl processes) trivial
  have arrived : VenueTask.Moves bybitAdapters (fun _ _ => False) ⟨afterSubmission, [routed], .waiting, []⟩
      .received ⟨afterSubmission, [], afterRecv bybitAdapters routed ⟨0⟩, []⟩ := .received rfl rfl ⟨0⟩
  have simulated : afterRecv bybitAdapters routed ⟨0⟩ = .submitting routed := rfl
  rw [simulated] at arrived
  have received : Moves bybitAdapters bybitPaper
      ⟨⟨afterSubmission, [routed], .waiting, []⟩, stocked, .absent, [.broadcasting []]⟩ (.task .received)
      ⟨⟨afterSubmission, [], .submitting routed, []⟩, stocked, .submitting routed (.submitting (.fromRouted routed)),
        [.broadcasting []]⟩ := .received arrived
  have passed : Moves bybitAdapters bybitPaper
      ⟨⟨afterSubmission, [], .submitting routed, []⟩, stocked, .submitting routed (.submitting (.fromRouted routed)),
        [.broadcasting []]⟩ (.paper .passed)
      ⟨⟨afterSubmission, [], .submitting routed, []⟩, stocked, .submitting routed (.pricing (.fromRouted routed)),
        [.broadcasting []]⟩ := .locked rfl rfl
  have priced : Moves bybitAdapters bybitPaper
      ⟨⟨afterSubmission, [], .submitting routed, []⟩, stocked, .submitting routed (.pricing (.fromRouted routed)),
        [.broadcasting []]⟩ (.paper .passed)
      ⟨⟨afterSubmission, [], .submitting routed, []⟩, stocked,
        .submitting routed (.inserting (.fromRouted routed) bybitBook), [.broadcasting []]⟩ := .locked rfl rfl
  have inserts : (PaperVenue.Call.inserting (.fromRouted routed) bybitBook).run bybitPaper [] stocked =
      ⟨insert stocked insertion, .inserted (.fromRouted routed) insertion, none⟩ := by
    rw [PaperVenue.Call.run, insertOrder, prepared]
  have inserted : Moves bybitAdapters bybitPaper
      ⟨⟨afterSubmission, [], .submitting routed, []⟩, stocked,
        .submitting routed (.inserting (.fromRouted routed) bybitBook), [.broadcasting []]⟩
      (.paper (.inserted (.fromRouted routed) insertion))
      ⟨⟨afterSubmission, [], .submitting routed, []⟩, insert stocked insertion, .answered routed insertion.answer,
        [.broadcasting []]⟩ := .inserted rfl inserts
  rw [answered] at inserted
  have tells : VenueTask.Moves bybitAdapters (fun _ _ => False) ⟨afterSubmission, [], .submitting routed, []⟩
      (.submitted (.ok paperAck)) ⟨afterSubmission, [], afterSubmit routed (.ok paperAck), []⟩ :=
    .submitted rfl (.ok paperAck)
  have told : afterSubmit routed (.ok paperAck) = .sending [paperAckCommand] (some routed) := rfl
  rw [told] at tells
  have acked : Moves bybitAdapters bybitPaper
      ⟨⟨afterSubmission, [], .submitting routed, []⟩, insert stocked insertion, .answered routed (.ok paperAck),
        [.broadcasting []]⟩ (.task (.submitted (.ok paperAck)))
      ⟨⟨afterSubmission, [], .sending [paperAckCommand] (some routed), []⟩, insert stocked insertion,
        .acked routed ⟨"paper-athena-0-000000-r00"⟩, [.broadcasting []]⟩ :=
    .submitted rfl tells
  have sends : VenueTask.Moves bybitAdapters (fun _ _ => False)
      ⟨afterSubmission, [], .sending [paperAckCommand] (some routed), []⟩ (.sent paperAckCommand)
      ⟨afterSubmission, [], .sending [] (some routed), [paperAckCommand]⟩ := .sent rfl
  have sent : Moves bybitAdapters bybitPaper
      ⟨⟨afterSubmission, [], .sending [paperAckCommand] (some routed), []⟩, insert stocked insertion,
        .acked routed ⟨"paper-athena-0-000000-r00"⟩, [.broadcasting []]⟩ (.task (.sent paperAckCommand))
      ⟨⟨afterSubmission, [], .sending [] (some routed), [paperAckCommand]⟩, insert stocked insertion,
        .acked routed ⟨"paper-athena-0-000000-r00"⟩, [.broadcasting []]⟩ :=
    .alone sends trivial
  refine ⟨_, _, ((((((((Path.start.step called).step replaced).step submitted).step received).step passed).step
    priced).step inserted).step acked).step sent, rfl, rfl, ?_⟩
  rw [queuedFills_insert _ _ rfl]
  intro none
  have nothing := congrArg (List.map VenueFill.qty) none
  rw [List.map_append, filled] at nothing
  cases nothing

/-- The order the ack is about is awaited. -/
theorem paper_trading_agrees_on_ack : ∃ shop : Shop TestCore (SqliteJournal PlainBlob),
    queuedFills shop.paper ≠ [] ∧ Awaited shop.system.sequencer.state paperAckCommand := by
  obtain ⟨labels, shop, run, -, head, queued⟩ := run_to_paper_ack
  have agrees := paper_trading_agrees testCore_keepsStandings testCore_booksFills atStart_starts run
  exact ⟨shop, queued, (agrees.2.2 paperAckCommand [] head).1⟩

end OneOrder

end FeynmanEngine.PaperTrading
