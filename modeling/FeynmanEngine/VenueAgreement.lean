import FeynmanEngine.OrderStandings
import FeynmanEngine.SequencerFixtures

/-! The task and the sequencer agree on every order. An order is followed
through both of them by what it can still be told: where its record stands
once the commands on the way to the sequencer have been taken, in order. Each
process only has to keep that sequence possible. -/
namespace FeynmanEngine.VenueAgreement
open Ids Orders Tables Engine Sequencing CommandCases OrderBookkeeping VenueOrders VenueTask
open OrderStandings Traces

def about (orderId : OrderId) (commands : List SequencerCommand) : List SequencerCommand :=
  commands.filter fun command => subject command = some orderId

theorem about_append (orderId : OrderId) (first last : List SequencerCommand) :
    about orderId (first ++ last) = about orderId first ++ about orderId last :=
  List.filter_append ..

theorem about_all (every : ∀ command ∈ commands, subject command = some orderId) :
    about orderId commands = commands :=
  List.filter_eq_self.mpr fun command member => decide_eq_true (every command member)

/-- Commands about one order change nothing for another. -/
theorem about_append_other (every : ∀ command ∈ commands, subject command = some orderId)
    (other : probe ≠ orderId) : about probe (pending ++ commands) = about probe pending := by
  have silent : about probe commands = [] := by
    refine List.filter_eq_nil_iff.mpr fun command member same => other ?_
    have named := every command member
    rw [of_decide_eq_true same] at named
    exact Option.some.inj named
  rw [about_append, silent, List.append_nil]

/-- The actions an adapter may hold back speak of the acknowledged order. -/
theorem actionCommands_subject (settles : actions.Settles orderId qty) (now : DateTime) :
    ∀ command ∈ actionCommands orderId actions now, subject command = some orderId := by
  intro command member
  rcases List.mem_append.mp member with filled | cancelled
  · obtain ⟨queued, inside, rfl⟩ := List.mem_map.mp filled
    exact congrArg some (settles.fills queued inside).1
  · obtain ⟨reason, -, rfl⟩ := Option.map_eq_some_iff.mp (Option.mem_toList.mp cancelled)
    rfl

/-- None of them is a verdict. -/
theorem actionCommands_verdict (orderId : OrderId) (actions : PostAckActions) (now : DateTime) :
    (actionCommands orderId actions now).filterMap verdict = [] := by
  refine List.filterMap_eq_nil_iff.mpr fun command member => ?_
  rcases List.mem_append.mp member with filled | cancelled
  · obtain ⟨queued, -, rfl⟩ := List.mem_map.mp filled
    rfl
  · obtain ⟨reason, -, rfl⟩ := Option.map_eq_some_iff.mp (Option.mem_toList.mp cancelled)
    rfl

/-- An order that is submitted and unfilled can be told all of them. -/
theorem actionCommands_taken (settles : actions.Settles orderId qty) (now : DateTime) :
    ((⟨.submitted, qty⟩ : Stand).takes (actionCommands orderId actions now)).isSome := by
  obtain ⟨fills, cancellationReason⟩ := actions
  have single := settles.single
  match fills with
  | [] => cases cancellationReason <;> rfl
  | [queued] =>
    obtain ⟨-, positive, within⟩ := settles.fills queued (List.mem_singleton.mpr rfl)
    cases cancellationReason with
    | none => simp [actionCommands, Stand.takes, Stand.take, OrderState.isActive, positive, within]
    | some reason =>
      have partly := (settles.cancels rfl queued (List.mem_singleton.mpr rfl)).ne
      simp [actionCommands, Stand.takes, Stand.take, OrderState.isActive, positive, within, partly]
  | _ :: _ :: _ => simp at single

/-- What holds of the orders, the commands on the way, the orders the task has
no answer on yet, the acknowledged order whose actions are not collected, and
the orders told and dispatched so far. -/
structure Agreement (state : EngineState) (pending : List SequencerCommand)
    (ahead : List (PipelineOrder Routed)) (acked : Option (PipelineOrder Routed))
    (verdicts dispatches : List OrderId) : Prop where
  answered : ∀ orderId place, standing state orderId = some place →
    (state.idempotencyCache.lookup place.2).isSome
  recorded : ∀ orderId ∈ dispatches, (standing state orderId).isSome
  subjects : ∀ command ∈ pending, ∃ orderId ∈ dispatches, subject command = some orderId
  taken : ∀ orderId place, standing state orderId = some place →
    (place.1.takes (about orderId pending)).isSome
  waiting : ∀ order ∈ ahead, about order.core.id pending = [] ∧
    ∃ clientOrderId, standing state order.core.id = some (⟨.pending, order.core.qty⟩, clientOrderId)
  held : ∀ order, acked = some order → order.core.id ∈ verdicts ∧
    ∃ place, standing state order.core.id = some place ∧
      place.1.takes (about order.core.id pending) = some ⟨.submitted, order.core.qty⟩
  inTurn : verdicts ++ ahead.map (fun order => order.core.id) = dispatches
  distinct : dispatches.Nodup

namespace Agreement

/-- The orders ahead differ from those told, and from one another. -/
theorem apart (agree : Agreement state pending ahead acked verdicts dispatches) :
    (ahead.map fun order => order.core.id).Nodup ∧
      ∀ order ∈ ahead, order.core.id ∉ verdicts := by
  have distinct := agree.distinct
  rw [← agree.inTurn] at distinct
  obtain ⟨-, ids, disjoint⟩ := List.nodup_append'.mp distinct
  exact ⟨ids, fun order member told => disjoint told (List.mem_map_of_mem member)⟩

/-- No command is on the way about an order that is not recorded. -/
theorem about_unrecorded (agree : Agreement state pending ahead acked verdicts dispatches)
    (unrecorded : standing state orderId = none) : about orderId pending = [] := by
  refine List.filter_eq_nil_iff.mpr fun command member same => ?_
  obtain ⟨named, dispatched, subject⟩ := agree.subjects command member
  rw [of_decide_eq_true same] at subject
  obtain rfl := Option.some.inj subject
  have known := agree.recorded _ dispatched
  rw [unrecorded] at known
  cases known

/-- An order without an answer is not recorded. -/
theorem unrecorded (agree : Agreement state pending ahead acked verdicts dispatches)
    (unknown : answerOf state orderId = none) : standing state orderId = none := by
  cases found : standing state orderId with
  | none => rfl
  | some place =>
    have cached := agree.answered orderId place found
    obtain ⟨record, recorded, rfl⟩ := Option.map_eq_some_iff.mp found
    rw [answerOf, clientIdOf, recorded, Option.map_some, Option.bind_some] at unknown
    rw [unknown] at cached
    cases cached

theorem sameStandings (agree : Agreement before pending ahead acked verdicts dispatches)
    (same : SameStandings before after) :
    Agreement after pending ahead acked verdicts dispatches where
  answered orderId place := by
    rw [same.standings, same.answers]
    exact agree.answered orderId place
  recorded orderId := by
    rw [same.standings]
    exact agree.recorded orderId
  subjects := agree.subjects
  taken orderId place := by
    rw [same.standings]
    exact agree.taken orderId place
  waiting order := by
    rw [same.standings]
    exact agree.waiting order
  held order := by
    rw [same.standings]
    exact agree.held order
  inTurn := agree.inTurn
  distinct := agree.distinct

/-- A new order enters. -/
theorem entered (agree : Agreement before pending ahead acked verdicts dispatches)
    (enters : Enters before after effects order) :
    Agreement after pending ahead acked verdicts dispatches := by
  have fresh := agree.unrecorded enters.unknown
  have other : ∀ probe, (standing before probe).isSome → probe ≠ order.core.id := by
    rintro probe known rfl
    rw [fresh] at known
    cases known
  have elsewhere : ∀ probe, (standing before probe).isSome → standing after probe = standing before probe :=
    fun probe known => by rw [enters.standings, if_neg (other probe known)]
  refine ⟨fun orderId place found => ?_, fun orderId member => ?_, agree.subjects,
    fun orderId place found => ?_, fun ahead member => ?_, fun acked holds => ?_, agree.inTurn,
    agree.distinct⟩
  · rw [enters.standings] at found
    split at found
    · cases found
      exact enters.answered
    · exact enters.answers _ (agree.answered orderId place found)
  · have known := agree.recorded orderId member
    rw [elsewhere orderId known]
    exact known
  · rw [enters.standings] at found
    split at found
    · next hit =>
      cases found
      rw [hit, agree.about_unrecorded fresh]
      rfl
    · exact agree.taken orderId place found
  · obtain ⟨silent, clientOrderId, found⟩ := agree.waiting ahead member
    exact ⟨silent, clientOrderId, by rw [elsewhere _ (by rw [found]; rfl), found]⟩
  · obtain ⟨told, place, found, submitted⟩ := agree.held acked holds
    exact ⟨told, place, by rw [elsewhere _ (by rw [found]; rfl), found], submitted⟩

/-- A new order enters and is put on the submit channel: last in turn. -/
theorem dispatched (agree : Agreement before pending ahead acked verdicts dispatches)
    (enters : Enters before after effects order) :
    Agreement after pending (ahead ++ [order]) acked verdicts (dispatches ++ [order.core.id]) := by
  have fresh := agree.unrecorded enters.unknown
  have known : standing after order.core.id = some (⟨.pending, order.core.qty⟩, order.clientOrderId) := by
    rw [enters.standings, if_pos rfl]
  have entered := agree.entered enters
  refine { entered with
    recorded := fun orderId member => ?_
    subjects := fun command member => ?_
    waiting := fun waiting member => ?_
    inTurn := ?_
    distinct := ?_ }
  · rcases List.mem_append.mp member with old | new
    · exact entered.recorded orderId old
    · obtain rfl := List.mem_singleton.mp new
      rw [known]
      rfl
  · obtain ⟨orderId, dispatched, named⟩ := entered.subjects command member
    exact ⟨orderId, List.mem_append_left _ dispatched, named⟩
  · rcases List.mem_append.mp member with old | new
    · exact entered.waiting waiting old
    · rw [List.mem_singleton.mp new]
      exact ⟨agree.about_unrecorded fresh, order.clientOrderId, known⟩
  · simp [← agree.inTurn]
  · refine List.nodup_append'.mpr ⟨agree.distinct, List.nodup_singleton _, ?_⟩
    intro orderId old new
    obtain rfl := List.mem_singleton.mp new
    have recorded := agree.recorded _ old
    rw [fresh] at recorded
    cases recorded

/-- The task has an answer on the first order ahead. -/
theorem told (agree : Agreement state pending (order :: rest) none verdicts dispatches)
    (named : subject command = some order.core.id)
    (moves : (⟨.pending, order.core.qty⟩ : Stand).take command = some next)
    (acks : ∀ later, acked = some later → later = order ∧ next = ⟨.submitted, order.core.qty⟩) :
    Agreement state (pending ++ [command]) rest acked (verdicts ++ [order.core.id]) dispatches := by
  obtain ⟨silent, clientOrderId, found⟩ := agree.waiting order (List.mem_cons_self ..)
  have apart : order.core.id ∉ rest.map fun order => order.core.id :=
    (List.nodup_cons.mp agree.apart.1).1
  have only : ∀ last ∈ [command], subject last = some order.core.id := by
    intro last member
    rw [List.mem_singleton.mp member]
    exact named
  have itself : about order.core.id (pending ++ [command]) = [command] := by
    rw [about_append, silent, about_all only]
    rfl
  refine { agree with
    subjects := fun last member => ?_
    taken := fun orderId place stands => ?_
    waiting := fun waiting member => ?_
    held := fun later holds => ?_
    inTurn := ?_ }
  · rcases List.mem_append.mp member with old | new
    · exact agree.subjects last old
    · refine ⟨order.core.id, ?_, only last new⟩
      rw [← agree.inTurn]
      exact List.mem_append_right _ (List.mem_cons_self ..)
  · by_cases hit : orderId = order.core.id
    · rw [hit, found] at stands
      cases stands
      rw [hit, itself, Stand.takes, moves]
      rfl
    · rw [about_append_other only hit]
      exact agree.taken orderId place stands
  · have other : waiting.core.id ≠ order.core.id := by
      intro same
      rw [← same] at apart
      exact apart (List.mem_map_of_mem member)
    rw [about_append_other only other]
    exact agree.waiting waiting (List.mem_cons_of_mem _ member)
  · obtain ⟨rfl, rfl⟩ := acks later holds
    refine ⟨List.mem_append_right _ (List.mem_singleton.mpr rfl), _, found, ?_⟩
    rw [itself, Stand.takes, moves]
    rfl
  · simp [← agree.inTurn]

/-- The actions of the acknowledged order are collected. -/
theorem collected (agree : Agreement state pending ahead (some order) verdicts dispatches)
    (only : ∀ command ∈ commands, subject command = some order.core.id)
    (possible : ((⟨.submitted, order.core.qty⟩ : Stand).takes commands).isSome) :
    Agreement state (pending ++ commands) ahead none verdicts dispatches := by
  obtain ⟨told, held, found, submitted⟩ := agree.held order rfl
  refine { agree with
    subjects := fun command member => ?_
    taken := fun orderId place stands => ?_
    waiting := fun waiting member => ?_
    held := fun later holds => by cases holds }
  · rcases List.mem_append.mp member with old | new
    · exact agree.subjects command old
    · refine ⟨order.core.id, ?_, only command new⟩
      rw [← agree.inTurn]
      exact List.mem_append_left _ told
  · by_cases hit : orderId = order.core.id
    · rw [hit, found] at stands
      cases stands
      rw [hit, about_append, about_all only, Stand.takes_append, submitted]
      exact possible
    · rw [about_append_other only hit]
      exact agree.taken orderId place stands
  · have other : waiting.core.id ≠ order.core.id := by
      intro same
      have unseen := agree.apart.2 waiting member
      rw [same] at unseen
      exact unseen told
    rw [about_append_other only other]
    exact agree.waiting waiting member

/-- The oldest command on the way finds its order where it can take it. -/
theorem awaited (agree : Agreement state (command :: rest) ahead acked verdicts dispatches) :
    ∃ orderId place next, subject command = some orderId ∧ standing state orderId = some place ∧
      place.1.take command = some next := by
  obtain ⟨orderId, dispatched, named⟩ := agree.subjects command (List.mem_cons_self ..)
  obtain ⟨place, found⟩ := Option.isSome_iff_exists.mp (agree.recorded orderId dispatched)
  have taken := agree.taken orderId place found
  have shape : about orderId (command :: rest) = command :: about orderId rest := by
    simp [about, named]
  rw [shape, Stand.takes] at taken
  cases moves : place.1.take command with
  | none =>
    rw [moves] at taken
    cases taken
  | some next => exact ⟨orderId, place, next, named, found, moves⟩

/-- It is taken. -/
theorem delivered (agree : Agreement before (command :: rest) ahead acked verdicts dispatches)
    (named : subject command = some orderId) (found : standing before orderId = some place)
    (moves : place.1.take command = some next) (told : Told before after orderId next) :
    Agreement after rest ahead acked verdicts dispatches := by
  have itself : about orderId (command :: rest) = command :: about orderId rest := by
    simp [about, named]
  have elsewhere : ∀ probe, probe ≠ orderId → about probe (command :: rest) = about probe rest := by
    intro probe other
    simp [about, named, Ne.symm other]
  have moved : standing after orderId = some (next, place.2) := by
    rw [told.standings, if_pos rfl, found]
    rfl
  have kept : ∀ probe, probe ≠ orderId → standing after probe = standing before probe := by
    intro probe other
    rw [told.standings, if_neg other]
  refine { agree with
    answered := fun probe stands at_probe => ?_
    recorded := fun probe member => ?_
    subjects := fun later member => agree.subjects later (List.mem_cons_of_mem _ member)
    taken := fun probe stands at_probe => ?_
    waiting := fun waiting member => ?_
    held := fun later holds => ?_ }
  · rw [told.answers]
    by_cases hit : probe = orderId
    · rw [hit, moved] at at_probe
      cases at_probe
      exact agree.answered orderId place found
    · rw [kept probe hit] at at_probe
      exact agree.answered probe stands at_probe
  · by_cases hit : probe = orderId
    · rw [hit, moved]
      rfl
    · rw [kept probe hit]
      exact agree.recorded probe member
  · by_cases hit : probe = orderId
    · rw [hit, moved] at at_probe
      cases at_probe
      have taken := agree.taken orderId place found
      rw [itself, Stand.takes, moves] at taken
      rw [hit]
      exact taken
    · rw [kept probe hit] at at_probe
      have taken := agree.taken probe stands at_probe
      rw [elsewhere probe hit] at taken
      exact taken
  · obtain ⟨silent, clientOrderId, stands⟩ := agree.waiting waiting member
    have other : waiting.core.id ≠ orderId := by
      intro hit
      rw [hit, itself] at silent
      cases silent
    rw [elsewhere _ other] at silent
    exact ⟨silent, clientOrderId, by rw [kept _ other, stands]⟩
  · obtain ⟨verdict, stood, stands, submitted⟩ := agree.held later holds
    refine ⟨verdict, ?_⟩
    by_cases hit : later.core.id = orderId
    · rw [hit, found] at stands
      cases stands
      rw [hit, itself, Stand.takes, moves] at submitted
      rw [hit]
      exact ⟨_, moved, submitted⟩
    · rw [elsewhere _ hit] at submitted
      exact ⟨stood, by rw [kept _ hit, stands], submitted⟩

end Agreement

/-- Adapters answer as they like; the actions they return settle the order. -/
def AtWill (order : PipelineOrder Routed) (answer : Except GatewayError PostAckActions) : Prop :=
  ∀ actions, answer = .ok actions → actions.Settles order.core.id order.core.qty

/-- No collection of post-ack actions returned an error. -/
def Collects (labels : List Label) : Prop := ∀ error, Label.collected (.error error) ∉ labels

theorem Collects.of_snoc (collects : Collects (labels ++ [label])) :
    Collects labels ∧ ∀ error, label ≠ .collected (.error error) :=
  ⟨fun error member => collects error (List.mem_append_left _ member),
    fun error same => collects error (List.mem_append_right _ (List.mem_singleton.mpr same.symm))⟩

section Runs
variable {C J Weather : Type} [EngineCore C]

/-- Both processes at their start: nothing is queued, and every order the
sequencer brings with it has its answer. -/
structure Starts (system : System C J) : Prop where
  submitQueue : system.submitQueue = []
  task : system.task = .waiting
  commands : system.commands = []
  answered : ∀ orderId record, system.sequencer.state.orders.lookup orderId = some record →
    (system.sequencer.state.idempotencyCache.lookup record.clientOrderId).isSome

/-- The agreement as a run reaches it. -/
def Agrees (labels : List Label) (system : System C J) : Prop :=
  Agreement system.sequencer.state system.pending system.ahead system.task.acked
    ((sentBy labels ++ system.task.toSend).filterMap verdict)
    ((dispatchedBy labels).map fun order => order.core.id)

theorem Starts.agrees {system : System C J} (starts : Starts system) : Agrees [] system := by
  have silent : system.pending = [] := by
    rw [System.pending, starts.commands, starts.task]
    rfl
  have idle : system.ahead = [] := by
    rw [System.ahead, starts.submitQueue, starts.task]
    rfl
  unfold Agrees
  rw [silent, idle, starts.task]
  refine ⟨fun orderId place found => ?_, List.forall_mem_nil _, List.forall_mem_nil _,
    fun _ _ _ => rfl, List.forall_mem_nil _, fun _ holds => ?_, rfl, List.nodup_nil⟩
  · obtain ⟨record, recorded, rfl⟩ := Option.map_eq_some_iff.mp found
    exact starts.answered orderId record recorded
  · cases holds

/-- A step that shows neither side anything new. -/
private theorem Agrees.unseen {system next : System C J} (agrees : Agrees labels system)
    (sequencer : next.sequencer = system.sequencer) (pending : next.pending = system.pending)
    (ahead : next.ahead = system.ahead) (acked : next.task.acked = system.task.acked)
    (sent : sentBy (labels ++ [label]) ++ next.task.toSend = sentBy labels ++ system.task.toSend)
    (dispatched : dispatchedBy [label] = []) : Agrees (labels ++ [label]) next := by
  unfold Agrees at agrees ⊢
  rw [dispatchedBy_snoc, dispatched, List.append_nil, sequencer, pending, ahead, acked, sent]
  exact agrees

/-- A command of another sender. -/
private theorem Agrees.commanded {system : System C J} (agrees : Agrees labels system) {turn : Turn}
    {next : Sequencer C J}
    (moves : (SameStandings system.sequencer.state next.state ∧ dispatched turn.effects = []) ∨
      ∃ order, Enters system.sequencer.state next.state turn.effects order) :
    Agrees (labels ++ [.commanded (dispatched turn.effects)]) (system.turned turn next) := by
  have sent : sentBy (labels ++ [.commanded (dispatched turn.effects)]) = sentBy labels := by
    simp [sentBy]
  have grown : dispatchedBy (labels ++ [.commanded (dispatched turn.effects)]) =
      dispatchedBy labels ++ dispatched turn.effects := by
    simp [dispatchedBy]
  have ahead : (system.turned turn next).ahead = system.ahead ++ dispatched turn.effects := by
    simp [System.ahead, System.turned]
  unfold Agrees
  rw [sent, grown, ahead]
  rcases moves with ⟨same, quiet⟩ | ⟨order, enters⟩
  · rw [quiet, List.append_nil, List.append_nil]
    exact agrees.sameStandings same
  · rcases enters.dispatched with quiet | dispatch
    · rw [quiet, List.append_nil, List.append_nil]
      exact agrees.entered enters
    · rw [dispatch, List.map_append]
      exact agrees.dispatched enters

/-- An answer on the first order ahead that is ready to be sent. -/
private theorem Agrees.told {system next : System C J} (agrees : Agrees labels system)
    (silent : system.task.toSend = []) (unacked : system.task.acked = none)
    (ahead : system.ahead = order :: next.ahead) (sequencer : next.sequencer = system.sequencer)
    (commands : next.commands = system.commands) (sending : next.task = .sending [command] acked)
    (tells : verdict command = some order.core.id)
    (moves : (⟨.pending, order.core.qty⟩ : Stand).take command = some stand)
    (acks : ∀ later, acked = some later → later = order ∧ stand = ⟨.submitted, order.core.qty⟩)
    (sent : sentBy [label] = []) (dispatched : dispatchedBy [label] = []) :
    Agrees (labels ++ [label]) next := by
  have named : subject command = some order.core.id := by
    cases command <;> first | exact tells | cases tells
  unfold Agrees System.pending at agrees ⊢
  rw [sentBy_snoc, dispatchedBy_snoc, sent, dispatched, sequencer, commands, sending]
  rw [silent, unacked, ahead] at agrees
  simp only [List.append_nil, TaskState.toSend, TaskState.acked, List.filterMap_append,
    List.filterMap_cons, tells, List.filterMap_nil] at agrees ⊢
  exact agrees.told named moves acks

/-- What one step keeps. -/
theorem Agrees.step [LibraryText] [EventJournal J Weather] (contract : KeepsStandings C)
    (books : BooksFills C) {adapters : Table VenueId VenueAdapter} {system next : System C J}
    (agrees : Agrees labels system) (moves : Moves adapters AtWill system label next)
    (collects : ∀ error, label ≠ .collected (.error error)) : Agrees (labels ++ [label]) next := by
  cases moves with
  | commanded foreign processes =>
    exact agrees.commanded (Processing.standings contract foreign processes.processing)
  | @received order rest waits head now =>
    obtain ⟨sequencer, submitQueue, task, commands⟩ := system
    obtain rfl : task = .waiting := waits
    obtain rfl : submitQueue = order :: rest := head
    unfold afterRecv
    split
    · exact agrees.told rfl rfl rfl rfl rfl rfl rfl rfl (fun later acked => by cases acked) rfl rfl
    · split
      · exact agrees.told rfl rfl rfl rfl rfl rfl rfl rfl (fun later acked => by cases acked) rfl rfl
      · exact agrees.unseen rfl rfl rfl rfl (by simp [sentBy, TaskState.toSend]) rfl
  | @submitted order holds answer =>
    obtain ⟨sequencer, submitQueue, task, commands⟩ := system
    obtain rfl : task = .submitting order := holds
    cases answer with
    | ok ack =>
      refine agrees.told rfl rfl rfl rfl rfl rfl rfl rfl (fun later acked => ?_) rfl rfl
      cases acked
      exact ⟨rfl, rfl⟩
    | error error =>
      exact agrees.told rfl rfl rfl rfl rfl rfl rfl rfl (fun later acked => by cases acked) rfl rfl
  | @sent command rest acked holds =>
    obtain ⟨sequencer, submitQueue, task, commands⟩ := system
    obtain rfl : task = .sending (command :: rest) acked := holds
    exact agrees.unseen rfl (by simp [System.pending, TaskState.toSend]) rfl rfl
      (by simp [sentBy, TaskState.toSend]) rfl
  | @collected order answer holds allowed now =>
    obtain ⟨sequencer, submitQueue, task, commands⟩ := system
    obtain rfl : task = .sending [] (some order) := holds
    cases answer with
    | error error => exact absurd rfl (collects error)
    | ok actions =>
      have settles := allowed actions rfl
      have sent : sentBy [Label.collected (.ok actions)] = [] := rfl
      have dispatched : dispatchedBy [Label.collected (.ok actions)] = [] := rfl
      unfold Agrees System.pending at agrees ⊢
      rw [sentBy_snoc, dispatchedBy_snoc, sent, dispatched]
      simp only [afterCollect, TaskState.toSend, TaskState.acked, List.append_nil,
        List.filterMap_append, actionCommands_verdict] at agrees ⊢
      exact agrees.collected (actionCommands_subject settles now) (actionCommands_taken settles now)
  | finished holds =>
    obtain ⟨sequencer, submitQueue, task, commands⟩ := system
    obtain rfl : task = .sending [] none := holds
    exact agrees.unseen rfl rfl rfl rfl (by simp [sentBy, TaskState.toSend]) rfl
  | @delivered command rest env turn after head processes =>
    obtain ⟨sequencer, submitQueue, task, commands⟩ := system
    obtain rfl : commands = command :: rest := head
    obtain ⟨orderId, place, stand, named, found, takes⟩ := Agreement.awaited agrees
    obtain ⟨told, quiet, -⟩ := processCommand_told books found named takes env
    obtain ⟨-, rfl, rfl⟩ := processes
    have undispatched : dispatched (turnOf sequencer command env).effects = [] := quiet
    have sent : sentBy [Label.delivered command] = [] := rfl
    have unseen : dispatchedBy [Label.delivered command] = [] := rfl
    unfold Agrees System.turned
    rw [sentBy_snoc, dispatchedBy_snoc, sent, unseen, undispatched, List.append_nil, List.append_nil,
      List.append_nil]
    exact Agreement.delivered agrees named found takes told

/-- The agreement wherever a run without a failed collection ends. -/
theorem agrees_of_run [LibraryText] [EventJournal J Weather] (contract : KeepsStandings C)
    (books : BooksFills C) {adapters : Table VenueId VenueAdapter} {start system : System C J}
    (starts : Starts start) (run : Path (Moves adapters AtWill) start labels system)
    (collects : Collects labels) : Agrees labels system := by
  induction run with
  | start => exact starts.agrees
  | step _ move ih =>
    obtain ⟨before, last⟩ := collects.of_snoc
    exact (ih before).step contract books move last

/-- A dispatched order has its verdict sent once, or is still to get it. -/
theorem Agrees.verdict_count {system : System C J} (agrees : Agrees labels system)
    (dispatched : order ∈ dispatchedBy labels) :
    ((sentBy labels).filterMap verdict).count order.core.id =
      if order.core.id ∈ system.outstanding then 0 else 1 := by
  have inTurn : (sentBy labels).filterMap verdict ++ system.outstanding =
      (dispatchedBy labels).map fun order => order.core.id := by
    rw [← agrees.inTurn, List.filterMap_append, List.append_assoc]
    rfl
  have distinct := agrees.distinct
  rw [← inTurn] at distinct
  obtain ⟨once, -, disjoint⟩ := List.nodup_append'.mp distinct
  by_cases still : order.core.id ∈ system.outstanding
  · rw [if_pos still, List.count_eq_zero]
    exact fun sent => disjoint sent still
  · have member : order.core.id ∈ (dispatchedBy labels).map fun order => order.core.id :=
      List.mem_map_of_mem dispatched
    rw [← inTurn] at member
    rw [if_neg still]
    exact List.count_eq_one_of_mem once ((List.mem_append.mp member).resolve_right still)

section Progress
variable [LibraryText] [EventJournal J Weather] {adapters : Table VenueId VenueAdapter}

/-- The task gets there while the sequencer does nothing. -/
structure Reaches (adapters : Table VenueId VenueAdapter) (system final : System C J) : Prop where
  run : ∃ labels, Path (Moves adapters AtWill) system labels final ∧ Collects labels
  sequencer : final.sequencer = system.sequencer

theorem Reaches.refl (system : System C J) : Reaches adapters system system :=
  ⟨⟨[], .start, fun _ => List.not_mem_nil⟩, rfl⟩

theorem Reaches.trans {system middle final : System C J} (first : Reaches adapters system middle)
    (second : Reaches adapters middle final) : Reaches adapters system final := by
  obtain ⟨⟨labels, path, collects⟩, kept⟩ := first
  obtain ⟨⟨more, onward, collectsMore⟩, same⟩ := second
  refine ⟨⟨labels ++ more, path.append onward, fun error member => ?_⟩, same.trans kept⟩
  rcases List.mem_append.mp member with old | new
  · exact collects error old
  · exact collectsMore error new

theorem Reaches.of_move {system next : System C J} (move : Moves adapters AtWill system label next)
    (collects : ∀ error, label ≠ .collected (.error error)) (kept : next.sequencer = system.sequencer) :
    Reaches adapters system next :=
  ⟨⟨[label], Path.step .start move, fun error member => collects error (List.mem_singleton.mp member).symm⟩,
    kept⟩

variable (adapters)

/-- All commands in hand are sent. -/
theorem reaches_sent (system : System C J) (holds : system.task = .sending commands acked) :
    Reaches adapters system
      { system with task := .sending [] acked, commands := system.commands ++ commands } := by
  induction commands generalizing system with
  | nil =>
    obtain ⟨sequencer, submitQueue, task, queued⟩ := system
    obtain rfl : task = .sending [] acked := holds
    simpa using Reaches.refl _
  | cons command rest ih =>
    have first : Reaches adapters system
        { system with task := .sending rest acked, commands := system.commands ++ [command] } :=
      .of_move (.sent holds) (fun _ same => by cases same) rfl
    have onward := ih { system with
      task := .sending rest acked, commands := system.commands ++ [command] } rfl
    simpa using first.trans onward

/-- And the task goes back to `recv`. -/
theorem reaches_waiting_of_sending (system : System C J) (holds : system.task = .sending commands acked) :
    ∃ final, Reaches adapters system final ∧ final.task = .waiting ∧
      final.submitQueue = system.submitQueue := by
  have sent := reaches_sent adapters system holds
  cases acked with
  | none => exact ⟨_, sent.trans (.of_move (.finished rfl) (fun _ same => by cases same) rfl), rfl, rfl⟩
  | some order =>
    have allowed : AtWill order (.ok .default) := by
      rintro actions ⟨⟩
      exact PostAckActions.default_settles _ _
    have collected := sent.trans
      (.of_move (.collected rfl allowed ⟨0⟩) (fun _ same => by cases same) rfl)
    exact ⟨_, collected.trans (.of_move (.finished rfl) (fun _ same => by cases same) rfl), rfl, rfl⟩

theorem reaches_waiting (system : System C J) :
    ∃ final, Reaches adapters system final ∧ final.task = .waiting ∧
      final.submitQueue = system.submitQueue := by
  cases task : system.task with
  | waiting => exact ⟨system, .refl system, task, rfl⟩
  | sending commands acked => exact reaches_waiting_of_sending adapters system task
  | submitting order =>
    have refused : Reaches adapters system
        { system with task := afterSubmit order (.error (.venueRejected "")) } :=
      .of_move (.submitted task _) (fun _ same => by cases same) rfl
    obtain ⟨final, onward, waits, queue⟩ := reaches_waiting_of_sending adapters
      { system with task := afterSubmit order (.error (.venueRejected "")) } rfl
    exact ⟨final, refused.trans onward, waits, queue⟩

/-- The task can bring every order to its verdict. -/
theorem reaches_idle (system : System C J) :
    ∃ final, Reaches adapters system final ∧ final.outstanding = [] := by
  induction queue : system.submitQueue generalizing system with
  | nil =>
    obtain ⟨final, reaches, waits, same⟩ := reaches_waiting adapters system
    rw [queue] at same
    refine ⟨final, reaches, ?_⟩
    rw [System.outstanding, System.ahead, waits, same]
    rfl
  | cons order rest ih =>
    obtain ⟨idle, reaches, waits, same⟩ := reaches_waiting adapters system
    rw [queue] at same
    have received : Reaches adapters idle
        { idle with submitQueue := rest, task := afterRecv adapters order ⟨0⟩ } :=
      .of_move (.received waits same ⟨0⟩) (fun _ same => by cases same) rfl
    obtain ⟨final, onward, done⟩ := ih
      { idle with submitQueue := rest, task := afterRecv adapters order ⟨0⟩ } rfl
    exact ⟨final, (reaches.trans received).trans onward, done⟩

end Progress

/-- The command finds its order recorded, in a state that its handler takes. -/
def Awaited (state : EngineState) (command : SequencerCommand) : Prop :=
  ∃ orderId record, subject command = some orderId ∧ state.orders.lookup orderId = some record ∧
    ((standOf record).take command).isSome

/-- Task and sequencer agree in every run in which no collection of post-ack
actions returns an error: every dispatched order has exactly one of ack and
failure sent, or is still to get it and can; and every command of the task is
one the sequencer awaits, so that only the storage could stop it there. -/
theorem venue_task_agrees [LibraryText] [EventJournal J Weather] (contract : KeepsStandings C)
    (books : BooksFills C) {adapters : Table VenueId VenueAdapter} {start system : System C J}
    (starts : Starts start) (run : Path (Moves adapters AtWill) start labels system)
    (collects : Collects labels) :
    (∀ order ∈ dispatchedBy labels, ((sentBy labels).filterMap verdict).count order.core.id =
      if order.core.id ∈ system.outstanding then 0 else 1) ∧
    (∃ final, Reaches adapters system final ∧ final.outstanding = []) ∧
    ∀ command rest, system.commands = command :: rest →
      Awaited system.sequencer.state command ∧
      ∀ env : Environment Weather, Persists system.sequencer command env →
        ∃ reply, (system.sequencer.processCommand command env).result = .ok reply := by
  have agrees := agrees_of_run contract books starts run collects
  refine ⟨fun order dispatched => agrees.verdict_count dispatched, reaches_idle adapters system, ?_⟩
  intro command rest head
  unfold Agrees System.pending at agrees
  rw [head] at agrees
  obtain ⟨orderId, place, stand, named, found, takes⟩ := Agreement.awaited agrees
  constructor
  · obtain ⟨record, recorded, rfl⟩ := Option.map_eq_some_iff.mp found
    exact ⟨orderId, record, named, recorded, by rw [takes]; rfl⟩
  · intro env persists
    exact (processCommand_told books found named takes env).2.2 persists

end Runs

section OneOrder
open SequencerFixtures Journal

theorem testCore_keepsStandings : KeepsStandings TestCore where
  keeps own := sameStandings_of_untouched (TestCore.ownCall_untouched own)
  evaluated := TestCore.evaluateOrder_id
  fills _ := trivial

theorem testCore_booksFills : BooksFills TestCore := by
  intro core fill now record found active positive fits
  have within : ¬ record.core.qty < filledQty record + fill.qty := Rat.not_lt.mpr fits
  have grown : ((record.fills ++ [fill]).map Fill.qty).foldl (· + ·) 0 = filledQty record + fill.qty := by
    simp [filledQty]
  have stored : core.state.orders.lookup fill.orderId = some record := found
  have booked : TestCore.onFill core fill now = ({ core with state := { core.state with
      orders := core.state.orders.insert fill.orderId (TestCore.filledRecord record fill now) } }, .ok ()) := by
    simp only [TestCore.onFill, stored, if_neg (Rat.not_le.mpr positive), grown, if_neg within,
      TestCore.filledRecord]
  refine ⟨_, TestCore.filledRecord record fill now, booked, ⟨rfl, rfl, rfl, rfl⟩, fun probe => ?_,
    fun _ => rfl⟩
  exact lookup_insert_if core.state.orders fill.orderId probe _

open Plain

/-- An adapter for the sample order's venue that simulates fills. -/
def bybitAdapters : Table VenueId VenueAdapter := (∅ : Table VenueId VenueAdapter).insert ⟨"bybit"⟩ ⟨true⟩

/-- Both processes before the first order. -/
def atStart : System TestCore (SqliteJournal PlainBlob) := ⟨firstBoot.withVenueSubmitTx, [], .waiting, []⟩

theorem atStart_starts : Starts atStart :=
  ⟨rfl, rfl, rfl, fun orderId record found => by cases found⟩

/-- The sequencer after the sample order. -/
def afterSubmission : Sequencer TestCore (SqliteJournal PlainBlob) :=
  (atStart.sequencer.processCommand submit calm).sequencer

/-- The sample order as it was dispatched. -/
def routed : PipelineOrder Routed :=
  ⟨(sampleOrder "order-1" ⟨0⟩).core,
    ⟨⟨0⟩, ⟨⟨0⟩, [], []⟩, ⟨⟨"bybit"⟩, ⟨"athena-0-000000-r00"⟩, ⟨0⟩⟩⟩⟩

/-- What the adapter acknowledges. -/
def venueAck : VenueOrderAck := ⟨⟨"venue-1"⟩, ⟨"athena-0-000000-r00"⟩, ⟨0⟩⟩

def ackCommand : SequencerCommand := .onVenueAck ⟨"order-1"⟩ ⟨"venue-1"⟩ ⟨0⟩

/-- The ack is on its way, the post-ack actions are not collected yet. -/
def afterAck : System TestCore (SqliteJournal PlainBlob) :=
  ⟨afterSubmission, [], .sending [] (some routed), [ackCommand]⟩

def ackLabels : List Label :=
  [.commanded [routed], .received, .submitted (.ok venueAck), .sent ackCommand]

theorem run_to_ack : Path (Moves bybitAdapters AtWill) atStart ackLabels afterAck := by
  have processes : Processes atStart.sequencer submit calm (turnOf atStart.sequencer submit calm)
      afterSubmission := ⟨⟨none, rfl⟩, rfl, rfl⟩
  have submitted : Moves bybitAdapters AtWill atStart (.commanded [routed])
      ⟨afterSubmission, [routed], .waiting, []⟩ := .commanded rfl processes
  have received : Moves bybitAdapters AtWill ⟨afterSubmission, [routed], .waiting, []⟩ .received
      ⟨afterSubmission, [], afterRecv bybitAdapters routed ⟨0⟩, []⟩ := .received rfl rfl ⟨0⟩
  have passed : afterRecv bybitAdapters routed ⟨0⟩ = .submitting routed := rfl
  rw [passed] at received
  have answered : Moves bybitAdapters AtWill ⟨afterSubmission, [], .submitting routed, []⟩
      (.submitted (.ok venueAck)) ⟨afterSubmission, [], afterSubmit routed (.ok venueAck), []⟩ :=
    .submitted rfl (.ok venueAck)
  have acked : afterSubmit routed (.ok venueAck) = .sending [ackCommand] (some routed) := rfl
  rw [acked] at answered
  have sent : Moves bybitAdapters AtWill ⟨afterSubmission, [], .sending [ackCommand] (some routed), []⟩
      (.sent ackCommand) afterAck := .sent rfl
  exact (((Path.start.step submitted).step received).step answered).step sent

/-- The ack finds its order pending, and the sequencer goes on. -/
theorem venue_task_agrees_on_ack : Awaited afterAck.sequencer.state ackCommand ∧
    ∃ reply, (afterAck.sequencer.processCommand ackCommand calm).result = .ok reply := by
  have collects : Collects ackLabels := by
    intro error member
    simp [ackLabels] at member
  have agrees := (venue_task_agrees testCore_keepsStandings testCore_booksFills atStart_starts
    run_to_ack collects).2.2 ackCommand [] rfl
  refine ⟨agrees.1, agrees.2 calm fun commit requested => ?_⟩
  cases requested
  rfl

/-- What the task reports when the collection fails. -/
def failedCommand : SequencerCommand :=
  .onVenueSubmitFailed ⟨"order-1"⟩ "post-ack adapter action failed: order not found: venue-1"

/-- The sequencer has taken the ack; the failure is next. -/
def afterFailure : System TestCore (SqliteJournal PlainBlob) :=
  ⟨(afterSubmission.processCommand ackCommand calm).sequencer, [], .sending [] none, [failedCommand]⟩

def failureLabels : List Label :=
  ackLabels ++ [.collected (.error (.orderNotFound "venue-1"))] ++ [.sent failedCommand] ++
    [.delivered ackCommand]

/-- An acknowledged order whose post-ack actions cannot be collected is reported
as failed too, and that report stops the sequencer. -/
theorem failed_collection_stops_sequencer : KeepsStandings TestCore ∧ BooksFills TestCore ∧
    Starts atStart ∧ Path (Moves bybitAdapters AtWill) atStart failureLabels afterFailure ∧
    (sentBy failureLabels).filterMap verdict = [⟨"order-1"⟩, ⟨"order-1"⟩] ∧
    afterFailure.commands = [failedCommand] ∧
    (afterFailure.sequencer.processCommand failedCommand calm).result = .error (.invalidTransition
      "venue submit failed for order order-1 in unexpected state submitted") := by
  refine ⟨testCore_keepsStandings, testCore_booksFills, atStart_starts, ?_, rfl, rfl, rfl⟩
  have allowed : AtWill routed (.error (.orderNotFound "venue-1")) := by
    rintro actions ⟨⟩
  have collected : Moves bybitAdapters AtWill afterAck (.collected (.error (.orderNotFound "venue-1")))
      ⟨afterSubmission, [], afterCollect routed ⟨0⟩ (.error (.orderNotFound "venue-1")), [ackCommand]⟩ :=
    .collected rfl allowed ⟨0⟩
  have reported : afterCollect routed ⟨0⟩ (.error (.orderNotFound "venue-1")) =
      .sending [failedCommand] none := rfl
  rw [reported] at collected
  have sent : Moves bybitAdapters AtWill ⟨afterSubmission, [], .sending [failedCommand] none, [ackCommand]⟩
      (.sent failedCommand) ⟨afterSubmission, [], .sending [] none, [ackCommand, failedCommand]⟩ :=
    .sent rfl
  have processes : Processes afterSubmission ackCommand calm (turnOf afterSubmission ackCommand calm)
      (afterSubmission.processCommand ackCommand calm).sequencer := ⟨⟨none, rfl⟩, rfl, rfl⟩
  have delivered : Moves bybitAdapters AtWill
      ⟨afterSubmission, [], .sending [] none, [ackCommand, failedCommand]⟩ (.delivered ackCommand)
      (System.turned ⟨afterSubmission, [], .sending [] none, [failedCommand]⟩
        (turnOf afterSubmission ackCommand calm) _) := .delivered rfl processes
  exact ((run_to_ack.step collected).step sent).step delivered

end OneOrder

end FeynmanEngine.VenueAgreement
