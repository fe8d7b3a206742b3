import FeynmanEngine.OrderBookkeeping
import FeynmanEngine.Traces
import FeynmanEngine.VenueOrders

/-! The venue submit task of `gateway/src/lib.rs` beside the sequencer. Two
processes and two queues: the sequencer puts routed orders on the submit
channel, the task answers through the sequencer's command channel. Every
interleaving is followed for as long as the sequencer's loop goes on; a send of
the task fails only after that. -/
namespace FeynmanEngine.VenueTask
open Ids Orders Tables Engine Sequencing CommandCases OrderBookkeeping VenueOrders

/-- What the task reads of a registered adapter; its answers come with the steps. -/
structure VenueAdapter where
  simulatesFillsLocally : Bool

/-- Where `VenueSubmitTask::run` is: at `recv`, waiting for an adapter to accept
an order, or with commands to send. An order acknowledged with an adapter's own
answer has its post-ack actions collected after that. -/
inductive TaskState where
  | waiting
  | submitting (order : PipelineOrder Routed)
  | sending (commands : List SequencerCommand) (acked : Option (PipelineOrder Routed))

/-- From `recv` to the adapter: an unknown venue and a dry run that no adapter
simulates are answered at once. -/
def afterRecv [LibraryText] (adapters : Table VenueId VenueAdapter) (order : PipelineOrder Routed)
    (now : DateTime) : TaskState :=
  match adapters.lookup order.core.venueId with
  | none => .sending [.onVenueSubmitFailed order.core.id
      ("no adapter registered for venue " ++ order.core.venueId.value)] none
  | some adapter =>
    if order.core.dryRun && !adapter.simulatesFillsLocally then
      .sending [.onVenueAck order.core.id ⟨"sim-" ++ order.clientOrderId.value⟩ now] none
    else .submitting order

def afterSubmit [LibraryText] (order : PipelineOrder Routed) :
    Except GatewayError VenueOrderAck → TaskState
  | .ok ack => .sending [.onVenueAck order.core.id ack.venueOrderId ack.acceptedAt] (some order)
  | .error error => .sending [.onVenueSubmitFailed order.core.id error.toText] none

/-- The commands of the actions an adapter held back: fills, then a cancellation. -/
def actionCommands (orderId : OrderId) (actions : PostAckActions) (now : DateTime) :
    List SequencerCommand :=
  actions.fills.map (fun queued => .onFill queued.fill) ++
    (actions.cancellationReason.map fun reason => .onVenueCancelled orderId reason now).toList

def afterCollect [LibraryText] (order : PipelineOrder Routed) (now : DateTime) :
    Except GatewayError PostAckActions → TaskState
  | .ok actions => .sending (actionCommands order.core.id actions now) none
  | .error error => .sending [.onVenueSubmitFailed order.core.id
      ("post-ack adapter action failed: " ++ error.toText)] none

namespace TaskState

def toSend : TaskState → List SequencerCommand
  | .sending commands _ => commands
  | .waiting | .submitting _ => []

/-- The order whose post-ack actions are still to be collected. -/
def acked : TaskState → Option (PipelineOrder Routed)
  | .sending _ acked => acked
  | .waiting | .submitting _ => none

def submitted : TaskState → List (PipelineOrder Routed)
  | .submitting order => [order]
  | .waiting | .sending .. => []

end TaskState

/-- The order a command of the venue is about. -/
def subject : SequencerCommand → Option OrderId
  | .onVenueAck orderId _ _ | .onVenueSubmitFailed orderId _ | .onVenueCancelled orderId _ _ =>
    some orderId
  | .onFill fill => some fill.orderId
  | .submitOrder .. | .submitSignal .. | .onReconciliation .. | .markToMarket | .adjustLimits .. |
    .pauseAgent .. | .resumeAgent .. | .haltAll .. | .resetCircuitBreaker .. | .snapshot .. |
    .shutdown .. | .poisonPill => none

/-- The order a command says the venue took or refused. -/
def verdict : SequencerCommand → Option OrderId
  | .onVenueAck orderId _ _ | .onVenueSubmitFailed orderId _ => some orderId
  | .onVenueCancelled .. | .onFill .. | .submitOrder .. | .submitSignal .. | .onReconciliation .. |
    .markToMarket | .adjustLimits .. | .pauseAgent .. | .resumeAgent .. | .haltAll .. |
    .resetCircuitBreaker .. | .snapshot .. | .shutdown .. | .poisonPill => none

/-- Both processes, the submit channel and the task's part of the command channel. -/
structure System (C J : Type) where
  sequencer : Sequencer C J
  submitQueue : List (PipelineOrder Routed)
  task : TaskState
  commands : List SequencerCommand

inductive Label where
  | commanded (dispatches : List (PipelineOrder Routed))
  | received
  | submitted (answer : Except GatewayError VenueOrderAck)
  | collected (answer : Except GatewayError PostAckActions)
  | sent (command : SequencerCommand)
  | finished
  | delivered (command : SequencerCommand)

def dispatchedBy (labels : List Label) : List (PipelineOrder Routed) :=
  labels.flatMap fun
    | .commanded dispatches => dispatches
    | .received | .submitted _ | .collected _ | .sent _ | .finished | .delivered _ => []

/-- The commands the task has sent, oldest first. -/
def sentBy (labels : List Label) : List SequencerCommand :=
  labels.flatMap fun
    | .sent command => [command]
    | .commanded _ | .received | .submitted _ | .collected _ | .finished | .delivered _ => []

theorem dispatchedBy_snoc (labels : List Label) (label : Label) :
    dispatchedBy (labels ++ [label]) = dispatchedBy labels ++ dispatchedBy [label] :=
  List.flatMap_append

theorem sentBy_snoc (labels : List Label) (label : Label) :
    sentBy (labels ++ [label]) = sentBy labels ++ sentBy [label] :=
  List.flatMap_append

namespace System

variable {C J : Type}

/-- The sequencer moves on and its dispatches join the submit channel. -/
def turned (system : System C J) (turn : Turn) (next : Sequencer C J) : System C J :=
  { system with
    sequencer := next
    submitQueue := system.submitQueue ++ dispatched turn.effects }

/-- The task's commands that the sequencer has not seen. -/
def pending (system : System C J) : List SequencerCommand := system.commands ++ system.task.toSend

def ahead (system : System C J) : List (PipelineOrder Routed) :=
  system.task.submitted ++ system.submitQueue

/-- The orders whose verdict is not sent yet. -/
def outstanding (system : System C J) : List OrderId :=
  system.task.toSend.filterMap verdict ++ system.ahead.map fun order => order.core.id

end System

variable {C J Weather : Type} [EngineCore C] [LibraryText] [EventJournal J Weather]

/-- The steps of both processes. `Allowed` says which post-ack actions the
adapters may return for an order; nothing else is asked of them. -/
inductive Moves (adapters : Table VenueId VenueAdapter)
    (Allowed : PipelineOrder Routed → Except GatewayError PostAckActions → Prop)
    (system : System C J) : Label → System C J → Prop
  /-- A command of another sender: no report of the venue. -/
  | commanded {command : SequencerCommand} {env : Environment Weather} {turn : Turn}
      {next : Sequencer C J} (foreign : subject command = none)
      (processes : Processes system.sequencer command env turn next) :
      Moves adapters Allowed system (.commanded (dispatched turn.effects)) (system.turned turn next)
  | received {order : PipelineOrder Routed} {rest : List (PipelineOrder Routed)}
      (waits : system.task = .waiting) (head : system.submitQueue = order :: rest) (now : DateTime) :
      Moves adapters Allowed system .received
        { system with submitQueue := rest, task := afterRecv adapters order now }
  | submitted {order : PipelineOrder Routed} (holds : system.task = .submitting order)
      (answer : Except GatewayError VenueOrderAck) :
      Moves adapters Allowed system (.submitted answer) { system with task := afterSubmit order answer }
  | sent {command : SequencerCommand} {rest : List SequencerCommand}
      {acked : Option (PipelineOrder Routed)} (holds : system.task = .sending (command :: rest) acked) :
      Moves adapters Allowed system (.sent command)
        { system with task := .sending rest acked, commands := system.commands ++ [command] }
  | collected {order : PipelineOrder Routed} {answer : Except GatewayError PostAckActions}
      (holds : system.task = .sending [] (some order)) (allowed : Allowed order answer)
      (now : DateTime) :
      Moves adapters Allowed system (.collected answer)
        { system with task := afterCollect order now answer }
  | finished (holds : system.task = .sending [] none) :
      Moves adapters Allowed system .finished { system with task := .waiting }
  /-- The sequencer takes the task's oldest command. -/
  | delivered {command : SequencerCommand} {rest : List SequencerCommand} {env : Environment Weather}
      {turn : Turn} {next : Sequencer C J} (head : system.commands = command :: rest)
      (processes : Processes system.sequencer command env turn next) :
      Moves adapters Allowed system (.delivered command)
        ({ system with commands := rest }.turned turn next)

end FeynmanEngine.VenueTask
