import FeynmanEngine.Channels
import FeynmanEngine.Sequencing

/-! `Sequencer::run`, one poll of a channel at a time, among any number of
senders. The loop looks at the high-priority channel and then at the normal one,
first without waiting and then in a biased `select!`; after a shutdown it drains
both without waiting, replies, and drops the channels. -/
namespace FeynmanEngine.RunLoop
open Ids Orders Events Portfolio Engine Sequencing Channels Traces

def highPriorityChannelCapacity : Nat := 64

def commandChannelCapacity : Nat := 1024

inductive Lane where
  | high
  | normal
  deriving DecidableEq, Repr

def Lane.capacity : Lane → Nat
  | .high => highPriorityChannelCapacity
  | .normal => commandChannelCapacity

/-- The channel `SequencerHandle::send` sends a command on. -/
def sendLane (command : SequencerCommand) : Lane :=
  if command.isHighPriority then .high else .normal

/-- The loop of `run`, or `drain_pending_commands` with the shutdown's reply sender kept for the end. -/
inductive Mode where
  | main
  | drain (reply : ReplyTo)
  deriving DecidableEq, Repr

/-- Where `run` stands. `select!` polls the high-priority channel first; a branch
whose channel is closed is off for the rest of that `select!`. At the end the
receivers are dropped in the order of the fields. -/
inductive Phase where
  | tryHigh (mode : Mode)
  | tryNormal (mode : Mode)
  | selectHigh (normalClosed : Bool)
  | selectNormal (highClosed : Bool)
  | busy (mode : Mode) (command : SequencerCommand)
  | replying (reply : ReplyTo)
  | leaving (result : Except EngineError EngineStateSnapshot)
  | left (result : Except EngineError EngineStateSnapshot)
  | returned (result : Except EngineError EngineStateSnapshot)

/-- The channel the next poll is of. -/
def Phase.polls : Phase → Option Lane
  | .tryHigh _ | .selectHigh _ => some .high
  | .tryNormal _ | .selectNormal _ => some .normal
  | .busy _ _ | .replying _ | .leaving _ | .left _ | .returned _ => none

/-- After `try_next_pending_command` found nothing: wait, or end the drain. -/
def Mode.idle : Mode → Phase
  | .main => .selectHigh false
  | .drain reply => .replying reply

/-- After a poll. With both branches of `select!` off the loop ends. -/
def Phase.afterPoll (snapshotCache : EngineStateSnapshot) : Phase → Event SequencerCommand → Phase
  | .tryHigh mode, .took command | .tryNormal mode, .took command => .busy mode command
  | .selectHigh _, .took command | .selectNormal _, .took command => .busy .main command
  | .tryHigh mode, .foundEmpty | .tryHigh mode, .foundClosed => .tryNormal mode
  | .tryNormal mode, .foundEmpty | .tryNormal mode, .foundClosed => mode.idle
  | .selectHigh false, .foundEmpty => .selectNormal false
  | .selectHigh true, .foundEmpty => .selectHigh true
  | .selectHigh false, .foundClosed => .selectNormal true
  | .selectHigh true, .foundClosed => .leaving (.ok snapshotCache)
  | .selectNormal false, .foundEmpty => .selectHigh false
  | .selectNormal true, .foundEmpty => .selectNormal true
  | .selectNormal false, .foundClosed => .selectHigh true
  | .selectNormal true, .foundClosed => .leaving (.ok snapshotCache)
  | phase, _ => phase

/-- After `process_command`: an error ends the run, a shutdown starts the drain,
and the reply sender of a shutdown met during the drain is dropped. -/
def Mode.afterCommand : Mode → Except EngineError (Option ReplyTo) → Phase
  | _, .error error => .leaving (.error error)
  | mode, .ok none => .tryHigh mode
  | .main, .ok (some reply) => .tryHigh (.drain reply)
  | .drain first, .ok (some _) => .tryHigh (.drain first)

/-- The command in hand. -/
def Phase.inHand : Phase → List SequencerCommand
  | .busy _ command => [command]
  | _ => []

theorem Phase.inHand_of_polls {phase : Phase} (turn : phase.polls = some lane) : phase.inHand = [] := by
  cases phase with
  | busy mode command => cases turn
  | _ => rfl

theorem Mode.idle_inHand (mode : Mode) : mode.idle.inHand = [] := by
  cases mode <;> rfl

/-- After a poll the loop has in hand what the poll found. -/
theorem Phase.afterPoll_inHand {phase : Phase} {event : Event SequencerCommand} (snapshotCache : EngineStateSnapshot)
    (turn : phase.polls = some lane) (poll : event.isPoll = true) :
    (phase.afterPoll snapshotCache event).inHand = event.took?.toList := by
  cases event with
  | sent command => cases poll
  | sendersGone => cases poll
  | receiverGone => cases poll
  | took command =>
    cases phase with
    | tryHigh mode => rfl
    | tryNormal mode => rfl
    | selectHigh normalClosed => rfl
    | selectNormal highClosed => rfl
    | _ => cases turn
  | foundEmpty =>
    cases phase with
    | tryHigh mode => rfl
    | tryNormal mode => exact mode.idle_inHand
    | selectHigh normalClosed => cases normalClosed <;> rfl
    | selectNormal highClosed => cases highClosed <;> rfl
    | _ => cases turn
  | foundClosed =>
    cases phase with
    | tryHigh mode => rfl
    | tryNormal mode => exact mode.idle_inHand
    | selectHigh normalClosed => cases normalClosed <;> rfl
    | selectNormal highClosed => cases highClosed <;> rfl
    | _ => cases turn

theorem Mode.afterCommand_inHand (mode : Mode) (result : Except EngineError (Option ReplyTo)) :
    (mode.afterCommand result).inHand = [] := by
  rcases result with error | _ | reply
  · cases mode <;> rfl
  · cases mode <;> rfl
  · cases mode <;> rfl

structure World (C J : Type) where
  sequencer : Sequencer C J
  high : Channel SequencerCommand
  normal : Channel SequencerCommand
  phase : Phase

namespace World

variable {C J : Type}

def channel (world : World C J) : Lane → Channel SequencerCommand
  | .high => world.high
  | .normal => world.normal

def setChannel (world : World C J) (channel : Channel SequencerCommand) : Lane → World C J
  | .high => { world with high := channel }
  | .normal => { world with normal := channel }

/-- `run` begins with its first attempt. -/
def begin (sequencer : Sequencer C J) : World C J :=
  ⟨sequencer, .fresh highPriorityChannelCapacity, .fresh commandChannelCapacity, .tryHigh .main⟩

@[simp] theorem channel_begin (sequencer : Sequencer C J) (lane : Lane) :
    (begin sequencer).channel lane = .fresh lane.capacity := by
  cases lane <;> rfl

@[simp] theorem channel_setChannel (world : World C J) (channel : Channel SequencerCommand) (lane : Lane) :
    (world.setChannel channel lane).channel lane = channel := by
  cases lane <;> rfl

theorem channel_setChannel_other (world : World C J) (channel : Channel SequencerCommand) (apart : lane ≠ other) :
    (world.setChannel channel lane).channel other = world.channel other := by
  cases lane <;> cases other <;> first | rfl | exact absurd rfl apart

@[simp] theorem phase_setChannel (world : World C J) (channel : Channel SequencerCommand) (lane : Lane) :
    (world.setChannel channel lane).phase = world.phase := by
  cases lane <;> rfl

end World

/-- What happens: an event on a channel, a send that is refused because the
receiver is gone, a command processed with what is seen of it, the reply to the
shutdown. -/
inductive Label where
  | channel (lane : Lane) (event : Event SequencerCommand)
  | refused (lane : Lane) (command : SequencerCommand)
  | processed (command : SequencerCommand) (effects : List Effect)
  | replied (reply : ReplyTo)

/-- Events the senders cause. -/
def bySender : Event SequencerCommand → Bool
  | .sent _ | .sendersGone => true
  | .took _ | .foundEmpty | .foundClosed | .receiverGone => false

/-- The events of one channel. -/
def laneEvents (lane : Lane) (trace : List Label) : List (Event SequencerCommand) :=
  trace.filterMap fun
    | .channel at_ event => if at_ = lane then some event else none
    | _ => none

/-- The commands taken from either channel, in order. -/
def takenCommands (trace : List Label) : List SequencerCommand :=
  trace.filterMap fun
    | .channel _ event => event.took?
    | _ => none

def processedCommands (trace : List Label) : List SequencerCommand :=
  trace.filterMap fun
    | .processed command _ => some command
    | _ => none

theorem mem_laneEvents {event : Event SequencerCommand} :
    event ∈ laneEvents lane trace ↔ .channel lane event ∈ trace := by
  unfold laneEvents
  rw [List.mem_filterMap]
  constructor
  · rintro ⟨label, member, chosen⟩
    cases label with
    | channel other heard =>
      obtain ⟨rfl, rfl⟩ : other = lane ∧ heard = event := by simpa using chosen
      exact member
    | _ => cases chosen
  · intro member
    exact ⟨_, member, if_pos rfl⟩

theorem laneEvents_snoc (lane : Lane) (trace : List Label) (label : Label) :
    laneEvents lane (trace ++ [label]) = laneEvents lane trace ++ laneEvents lane [label] :=
  List.filterMap_append

theorem takenCommands_snoc (trace : List Label) (label : Label) :
    takenCommands (trace ++ [label]) = takenCommands trace ++ takenCommands [label] :=
  List.filterMap_append

theorem processedCommands_snoc (trace : List Label) (label : Label) :
    processedCommands (trace ++ [label]) = processedCommands trace ++ processedCommands [label] :=
  List.filterMap_append

variable {C J Weather : Type} [EngineCore C] [EventJournal J Weather] [LibraryText]

/-- One step of the senders or of the loop. -/
inductive Step : World C J → Label → World C J → Prop
  | sender {world : World C J} {lane : Lane} {event : Event SequencerCommand} {after : Channel SequencerCommand}
      (outside : bySender event = true) (step : Channels.Step (world.channel lane) event after) :
      Step world (.channel lane event) (world.setChannel after lane)
  | refused {world : World C J} {lane : Lane} {command : SequencerCommand}
      (gone : (world.channel lane).receiving = false) : Step world (.refused lane command) world
  | polled {world : World C J} {lane : Lane} {event : Event SequencerCommand} {after : Channel SequencerCommand}
      (turn : world.phase.polls = some lane) (poll : event.isPoll = true)
      (step : Channels.Step (world.channel lane) event after) :
      Step world (.channel lane event) { world.setChannel after lane with
        phase := world.phase.afterPoll world.sequencer.snapshotCache event }
  | processed {world : World C J} {mode : Mode} {command : SequencerCommand}
      (turn : world.phase = .busy mode command) (env : Environment Weather) :
      Step world (.processed command (world.sequencer.processCommand command env).effects) { world with
        sequencer := (world.sequencer.processCommand command env).sequencer
        phase := mode.afterCommand (world.sequencer.processCommand command env).result }
  | replied {world : World C J} {reply : ReplyTo} (turn : world.phase = .replying reply) :
      Step world (.replied reply) { world with phase := .leaving (.ok world.sequencer.snapshotCache) }
  | droppedHigh {world : World C J} {result : Except EngineError EngineStateSnapshot}
      (turn : world.phase = .leaving result) :
      Step world (.channel .high .receiverGone) { world with
        high := { world.high with receiving := false }
        phase := .left result }
  | droppedNormal {world : World C J} {result : Except EngineError EngineStateSnapshot}
      (turn : world.phase = .left result) :
      Step world (.channel .normal .receiverGone) { world with
        normal := { world.normal with receiving := false }
        phase := .returned result }

/-- Any number of steps. -/
abbrev Steps (world : World C J) : List Label → World C J → Prop := Path Step world

/-- A step is an event on a channel or leaves it alone. -/
theorem Step.lane {world after : World C J} {label : Label} (step : Step world label after) (lane : Lane) :
    (laneEvents lane [label] = [] ∧ after.channel lane = world.channel lane) ∨
      ∃ event, laneEvents lane [label] = [event] ∧ Channels.Step (world.channel lane) event (after.channel lane) := by
  cases step with
  | @sender other event channel outside step =>
    by_cases same : other = lane
    · subst same
      exact Or.inr ⟨event, by simp [laneEvents], by rwa [World.channel_setChannel]⟩
    · exact Or.inl ⟨by simp [laneEvents, same], World.channel_setChannel_other world channel same⟩
  | refused gone => exact Or.inl ⟨rfl, rfl⟩
  | @polled other event channel turn poll step =>
    by_cases same : other = lane
    · subst same
      refine Or.inr ⟨event, by simp [laneEvents], ?_⟩
      have polled := world.channel_setChannel channel other
      cases other <;> exact polled ▸ step
    · refine Or.inl ⟨by simp [laneEvents, same], ?_⟩
      have untouched := World.channel_setChannel_other world channel same
      cases lane <;> exact untouched
  | processed turn env => exact Or.inl ⟨rfl, by cases lane <;> rfl⟩
  | replied turn => exact Or.inl ⟨rfl, by cases lane <;> rfl⟩
  | droppedHigh turn =>
    cases lane with
    | high => exact Or.inr ⟨.receiverGone, rfl, .receiverGone⟩
    | normal => exact Or.inl ⟨rfl, rfl⟩
  | droppedNormal turn =>
    cases lane with
    | high => exact Or.inl ⟨rfl, rfl⟩
    | normal => exact Or.inr ⟨.receiverGone, rfl, .receiverGone⟩

/-- Each channel of a run is a run of that channel. -/
theorem Steps.lane {sequencer : Sequencer C J} {trace : List Label} {world : World C J}
    (steps : Steps (.begin sequencer) trace world) (lane : Lane) :
    Channels.Run lane.capacity (laneEvents lane trace) (world.channel lane) := by
  induction steps with
  | start =>
    rw [World.channel_begin]
    exact .start
  | step steps step ih =>
    rw [laneEvents_snoc]
    rcases step.lane lane with ⟨silent, same⟩ | ⟨event, heard, step⟩
    · rw [silent, List.append_nil, same]
      exact ih
    · rw [heard]
      exact .step ih step

/-- A step keeps the taken commands those processed and the one in hand. -/
theorem Step.in_hand {world after : World C J} {label : Label} (step : Step world label after)
    (sofar : takenCommands trace = processedCommands trace ++ world.phase.inHand) :
    takenCommands (trace ++ [label]) = processedCommands (trace ++ [label]) ++ after.phase.inHand := by
  rw [takenCommands_snoc, processedCommands_snoc, sofar]
  cases step with
  | @sender lane event channel outside step =>
    cases event with
    | sent command => cases lane <;> simp [takenCommands, processedCommands, Event.took?, World.setChannel]
    | sendersGone => cases lane <;> simp [takenCommands, processedCommands, Event.took?, World.setChannel]
    | took command => cases outside
    | foundEmpty => cases outside
    | foundClosed => cases outside
    | receiverGone => cases outside
  | refused gone => simp [takenCommands, processedCommands]
  | @polled lane event channel turn poll step =>
    rw [Phase.inHand_of_polls turn, Phase.afterPoll_inHand _ turn poll]
    cases found : event.took? <;> simp [takenCommands, processedCommands, found]
  | processed turn env =>
    rw [turn, Mode.afterCommand_inHand]
    simp [takenCommands, processedCommands, Phase.inHand]
  | replied turn => simp [takenCommands, processedCommands, turn, Phase.inHand]
  | droppedHigh turn => simp [takenCommands, processedCommands, turn, Phase.inHand, Event.took?]
  | droppedNormal turn => simp [takenCommands, processedCommands, turn, Phase.inHand, Event.took?]

/-- Commands are processed in the order in which they are taken. -/
theorem Steps.in_hand {sequencer : Sequencer C J} {trace : List Label} {world : World C J}
    (steps : Steps (.begin sequencer) trace world) :
    takenCommands trace = processedCommands trace ++ world.phase.inHand := by
  induction steps with
  | start => rfl
  | step steps step ih => exact step.in_hand ih

end FeynmanEngine.RunLoop
