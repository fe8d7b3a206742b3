import FeynmanEngine.RunLoop
import FeynmanEngine.SequencerFixtures

/-! The high-priority channel comes first, in the main loop and in the drain: a
normal command is only taken when the attempt's look at the high-priority
channel found nothing, so what was sent there before the attempt is ahead. -/
namespace FeynmanEngine.CommandPriority
open Ids Orders Events Portfolio Engine Sequencing Channels RunLoop

/-- What may come between an attempt's look at the high-priority channel and its
normal command: the senders' doing and, once `select!` has switched the
high-priority branch off because its channel is closed, looks at the normal
channel that find it empty. -/
def afterLook (look : Event SequencerCommand) : Label → Bool
  | .channel .normal .foundEmpty => match look with
    | .foundClosed => true
    | _ => false
  | .channel _ event => bySender event
  | .refused _ _ => true
  | .processed _ _ | .replied _ => false

/-- The last poll of the high-priority channel. -/
def LastLook (look : Event SequencerCommand) (trace : List Label) : Prop :=
  ∃ earlier between, trace = earlier ++ .channel .high look :: between ∧
    ∀ label ∈ between, afterLook look label = true

/-- The poll of the high-priority channel just before, in the same attempt, found nothing. -/
def HighFoundEmpty (trace : List Label) : Prop :=
  ∃ look, look.foundNothing = true ∧ LastLook look trace

theorem LastLook.here (look : Event SequencerCommand) (trace : List Label) :
    LastLook look (trace ++ [.channel .high look]) :=
  ⟨trace, [], rfl, by simp⟩

theorem LastLook.extend {look : Event SequencerCommand} {trace : List Label} {label : Label}
    (last : LastLook look trace) (within : afterLook look label = true) : LastLook look (trace ++ [label]) := by
  obtain ⟨earlier, between, rfl, others⟩ := last
  refine ⟨earlier, between ++ [label], by simp, fun other member => ?_⟩
  rcases List.mem_append.mp member with old | new
  · exact others other old
  · obtain rfl := List.mem_singleton.mp new
    exact within

theorem afterLook_of_sender (look : Event SequencerCommand) {lane : Lane} {event : Event SequencerCommand}
    (outside : bySender event = true) : afterLook look (.channel lane event) = true := by
  cases event with
  | sent command => cases lane <;> rfl
  | sendersGone => cases lane <;> rfl
  | _ => cases outside

/-- Nothing is taken from the high-priority channel after the look. -/
theorem takes_afterLook {look : Event SequencerCommand} {label : Label} (trace : List Label)
    (within : afterLook look label = true) :
    takes (laneEvents .high (trace ++ [label])) = takes (laneEvents .high trace) := by
  rw [laneEvents_snoc]
  cases label with
  | channel lane event =>
    cases lane with
    | normal => simp [laneEvents]
    | high =>
      cases event with
      | sent command => simp [laneEvents, Event.took?]
      | sendersGone => simp [laneEvents, Event.took?]
      | _ => cases within
  | refused lane command => simp [laneEvents]
  | processed command effects => cases within
  | replied reply => cases within

theorem afterCommand_polls (mode : Mode) (result : Except EngineError (Option ReplyTo)) :
    (mode.afterCommand result).polls ≠ some .normal := by
  rcases result with error | _ | reply
  · cases mode <;> simp [Mode.afterCommand, Phase.polls]
  · cases mode <;> simp [Mode.afterCommand, Phase.polls]
  · cases mode <;> simp [Mode.afterCommand, Phase.polls]

/-- From the high-priority channel the loop goes on to the normal one only when
it found nothing there; with the branch off, only when the channel is closed. -/
theorem afterPoll_high {phase : Phase} {event : Event SequencerCommand} (snapshotCache : EngineStateSnapshot)
    (turn : phase.polls = some .high) (poll : event.isPoll = true)
    (onward : (phase.afterPoll snapshotCache event).polls = some .normal) :
    event.foundNothing = true ∧
      (phase.afterPoll snapshotCache event = .selectNormal true → event = .foundClosed) := by
  cases event with
  | took command =>
    cases phase with
    | tryHigh mode => cases onward
    | selectHigh normalClosed => cases onward
    | _ => cases turn
  | foundEmpty =>
    refine ⟨rfl, fun off => ?_⟩
    cases phase with
    | tryHigh mode => cases off
    | selectHigh normalClosed => cases normalClosed <;> cases off
    | _ => cases turn
  | foundClosed => exact ⟨rfl, fun _ => rfl⟩
  | _ => cases poll

/-- The normal channel is polled again without a look at the high-priority one
only while the branch of the latter is off. -/
theorem afterPoll_normal {phase : Phase} {event : Event SequencerCommand} (snapshotCache : EngineStateSnapshot)
    (turn : phase.polls = some .normal) (poll : event.isPoll = true)
    (again : (phase.afterPoll snapshotCache event).polls = some .normal) :
    event = .foundEmpty ∧ phase = .selectNormal true := by
  cases event with
  | took command =>
    cases phase with
    | tryNormal mode => cases again
    | selectNormal highClosed => cases again
    | _ => cases turn
  | foundEmpty =>
    cases phase with
    | tryNormal mode => cases mode <;> cases again
    | selectNormal highClosed =>
      cases highClosed with
      | false => cases again
      | true => exact ⟨rfl, rfl⟩
    | _ => cases turn
  | foundClosed =>
    cases phase with
    | tryNormal mode => cases mode <;> cases again
    | selectNormal highClosed => cases highClosed <;> cases again
    | _ => cases turn
  | _ => cases poll

/-- Whenever the normal channel is next, the last look at the high-priority one
found nothing, and found it closed if its branch is off. -/
def HighFirst (phase : Phase) (trace : List Label) : Prop :=
  phase.polls = some .normal → ∃ look, look.foundNothing = true ∧ LastLook look trace ∧
    (phase = .selectNormal true → look = .foundClosed)

theorem mem_takenCommands {lane : Lane} {command : SequencerCommand}
    (taken : command ∈ takes (laneEvents lane trace)) : command ∈ takenCommands trace := by
  obtain ⟨event, heard, took⟩ := List.mem_filterMap.mp taken
  exact List.mem_filterMap.mpr ⟨_, mem_laneEvents.mp heard, took⟩

section Runs

variable {C J Weather : Type} [EngineCore C] [EventJournal J Weather] [LibraryText]

/-- How the loop comes to look at the normal channel: by a look at the
high-priority one that finds nothing, and then not leaving the attempt. -/
theorem step_toNormal {world after : World C J} {label : Label} (step : Step world label after)
    (turn : after.phase.polls = some .normal) :
    (∃ event, label = .channel .high event ∧ event.foundNothing = true ∧
        (after.phase = .selectNormal true → event = .foundClosed)) ∨
      after.phase = world.phase ∧
        ∀ look, (world.phase = .selectNormal true → look = .foundClosed) → afterLook look label = true := by
  cases step with
  | @sender lane event channel outside step =>
    exact Or.inr ⟨World.phase_setChannel .., fun look _ => afterLook_of_sender look outside⟩
  | refused gone => exact Or.inr ⟨rfl, fun _ _ => rfl⟩
  | @polled lane event channel looking poll step =>
    cases lane with
    | high =>
      obtain ⟨nothing, closed⟩ := afterPoll_high _ looking poll turn
      exact Or.inl ⟨event, rfl, nothing, closed⟩
    | normal =>
      obtain ⟨rfl, off⟩ := afterPoll_normal _ looking poll turn
      refine Or.inr ⟨?_, fun look closed => ?_⟩
      · rw [off]
        rfl
      · rw [closed off]
        rfl
  | processed busy env => exact absurd turn (afterCommand_polls _ _)
  | replied replying => cases turn
  | droppedHigh leaving => cases turn
  | droppedNormal left => cases turn

theorem HighFirst.step {world after : World C J} {label : Label} (first : HighFirst world.phase trace)
    (step : Step world label after) : HighFirst after.phase (trace ++ [label]) := by
  intro turn
  rcases step_toNormal step turn with ⟨event, rfl, nothing, closed⟩ | ⟨same, within⟩
  · exact ⟨event, nothing, .here event trace, closed⟩
  · rw [same] at turn ⊢
    obtain ⟨look, nothing, last, closed⟩ := first turn
    exact ⟨look, nothing, last.extend (within look closed), closed⟩

theorem steps_highFirst {sequencer : Sequencer C J} {trace : List Label} {world : World C J}
    (steps : Steps (.begin sequencer) trace world) : HighFirst world.phase trace := by
  induction steps with
  | start => intro turn; cases turn
  | step steps step ih => exact ih.step step

/-- Only a look at the normal channel takes a normal command. -/
theorem polls_of_took {world after : World C J} (step : Step world (.channel .normal (.took command)) after) :
    world.phase.polls = some .normal := by
  cases step with
  | sender outside step => cases outside
  | polled turn poll step => exact turn

/-- From the start of an attempt on, whenever the normal channel is next, all
that was on the high-priority channel then has been taken. -/
theorem high_taken_first {sequencer : Sequencer C J} {before after : List Label} {here world : World C J}
    (reached : Steps (.begin sequencer) before here) (attempt : here.phase.polls = some .high)
    (onwards : Steps here after world) (turn : world.phase.polls = some .normal) :
    sends (laneEvents .high before) <+: takes (laneEvents .high (before ++ after)) := by
  induction onwards with
  | start => cases attempt.symm.trans turn
  | @step trace middle label world steps step ih =>
    rw [← List.append_assoc]
    rcases step_toNormal step turn with ⟨event, rfl, nothing, -⟩ | ⟨same, within⟩
    · have total : Steps (.begin sequencer) (before ++ trace ++ [.channel .high event]) world :=
        .step (reached.append steps) step
      have empty : (world.channel .high).queue = [] := by
        rcases step.lane .high with ⟨silent, -⟩ | ⟨heard, same, polled⟩
        · cases silent
        · cases same
          exact polled.queue_of_foundNothing nothing
      have fifo := (total.lane .high).fifo
      rw [empty, List.append_nil] at fifo
      rw [← fifo, List.append_assoc]
      refine ⟨sends (laneEvents .high (trace ++ [.channel .high event])), ?_⟩
      simp [sends, laneEvents]
    · rw [takes_afterLook _ (within .foundClosed fun _ => rfl)]
      exact ih (same ▸ turn)

/-- While a channel is polled no command is in hand: what was taken has been processed. -/
theorem taken_processed {sequencer : Sequencer C J} {trace : List Label} {world : World C J}
    (steps : Steps (.begin sequencer) trace world) (turn : world.phase.polls = some lane) :
    takenCommands trace = processedCommands trace := by
  rw [steps.in_hand, Phase.inHand_of_polls turn, List.append_nil]

/-- When all senders send as `SequencerHandle` does, every command is taken from its own channel. -/
theorem taken_on_own_lane {sequencer : Sequencer C J} {trace : List Label} {world : World C J}
    (steps : Steps (.begin sequencer) trace world)
    (handled : ∀ lane command, .channel lane (.sent command) ∈ trace → lane = sendLane command) :
    ∀ lane command, .channel lane (.took command) ∈ trace → lane = sendLane command := by
  intro lane command member
  have taken : command ∈ takes (laneEvents lane trace) :=
    List.mem_filterMap.mpr ⟨_, mem_laneEvents.mpr member, rfl⟩
  have sent := (steps.lane lane).taken_in_order.subset taken
  obtain ⟨event, heard, same⟩ := List.mem_filterMap.mp sent
  cases event with
  | sent other =>
    obtain rfl : other = command := Option.some.inj same
    exact handled lane other (mem_laneEvents.mp heard)
  | _ => cases same

/-- Every run: commands leave each channel in the order of sending and are
processed in the order of taking, each at most once. A normal command is taken
only when the look at the high-priority channel just before, in the same
attempt, found nothing; and the commands the senders had put on the
high-priority channel when an attempt began, every `HaltAll` among them, are all
taken and processed by then. -/
theorem commands_in_order_of_priority (sequencer : Sequencer C J) :
    (∀ trace world, Steps (.begin sequencer) trace world →
      (∀ lane, takes (laneEvents lane trace) <+: sends (laneEvents lane trace)) ∧
        processedCommands trace <+: takenCommands trace) ∧
    (∀ trace world, Steps (.begin sequencer) trace world → ∀ before command after,
      trace = before ++ .channel .normal (.took command) :: after → HighFoundEmpty before) ∧
    (∀ before here after world, Steps (.begin sequencer) before here → here.phase.polls = some .high →
      Steps here after world → ∀ between command rest,
        after = between ++ .channel .normal (.took command) :: rest →
          sends (laneEvents .high before) <+: takes (laneEvents .high (before ++ between)) ∧
          takenCommands (before ++ between) = processedCommands (before ++ between) ∧
          ∀ urgent, urgent.isHighPriority = true → .channel (sendLane urgent) (.sent urgent) ∈ before →
            urgent ∈ processedCommands (before ++ between)) ∧
    ∀ trace world, Steps (.begin sequencer) trace world →
      (∀ lane command, .channel lane (.sent command) ∈ trace → lane = sendLane command) →
        ∀ lane command, .channel lane (.took command) ∈ trace → lane = sendLane command := by
  refine ⟨fun trace world steps => ⟨fun lane => (steps.lane lane).taken_in_order, ?_⟩, ?_, ?_,
    fun trace world steps handled => taken_on_own_lane steps handled⟩
  · exact ⟨world.phase.inHand, steps.in_hand.symm⟩
  · rintro trace world steps before command after rfl
    obtain ⟨middle, next, first, step, -⟩ := steps.at_label
    obtain ⟨look, nothing, last, -⟩ := steps_highFirst first (polls_of_took step)
    exact ⟨look, nothing, last⟩
  · rintro before here after world reached attempt onwards between command rest rfl
    obtain ⟨middle, next, first, step, -⟩ := onwards.at_label
    have turn := polls_of_took step
    have sofar := high_taken_first reached attempt first turn
    have processed := taken_processed (reached.append first) turn
    refine ⟨sofar, processed, fun urgent high sent => ?_⟩
    rw [sendLane, if_pos high] at sent
    rw [← processed]
    exact mem_takenCommands (sofar.subset (List.mem_filterMap.mpr ⟨_, mem_laneEvents.mpr sent, rfl⟩))

end Runs

open Journal SequencerFixtures SequencerFixtures.Plain

/-- A snapshot is asked for, then a shutdown; the drain takes the snapshot. -/
def snapshotInDrain : List Label :=
  [.channel .normal (.sent (.snapshot 1)), .channel .high (.sent (.shutdown 0)),
    .channel .high (.took (.shutdown 0)), .processed (.shutdown 0) [], .channel .high .foundEmpty,
    .channel .normal (.took (.snapshot 1))]

/-- Both commands are sent and the first attempt begins. -/
def bothSent : World TestCore (SqliteJournal PlainBlob) :=
  ((World.begin firstBoot).setChannel ⟨commandChannelCapacity, [.snapshot 1], true, true⟩ .normal).setChannel
    ⟨highPriorityChannelCapacity, [.shutdown 0], true, true⟩ .high

private theorem bothSent_reached : Steps (.begin firstBoot) (snapshotInDrain.take 2) bothSent := by
  have asked : Steps (.begin firstBoot) (snapshotInDrain.take 1) _ :=
    .step .start (.sender rfl (.sent rfl rfl (by decide)))
  exact .step asked (.sender rfl (.sent rfl rfl (by decide)))

private theorem snapshot_taken : ∃ world, Steps bothSent (snapshotInDrain.drop 2) world := by
  have taken : Steps bothSent [.channel .high (.took (.shutdown 0))] _ := .step .start (.polled rfl rfl (.took rfl))
  have processed : Steps bothSent [.channel .high (.took (.shutdown 0)), .processed (.shutdown 0) []] _ :=
    .step taken (.processed rfl calm)
  have high : Steps bothSent [.channel .high (.took (.shutdown 0)), .processed (.shutdown 0) [],
      .channel .high .foundEmpty] _ :=
    .step processed (.polled rfl rfl (.foundEmpty rfl rfl))
  exact ⟨_, .step high (.polled rfl rfl (.took rfl))⟩

/-- In the drain too the high-priority channel is found empty first, and the
shutdown sent there before the attempt is processed ahead of the snapshot. -/
theorem snapshot_behind_shutdown :
    HighFoundEmpty (snapshotInDrain.take 5) ∧ .shutdown 0 ∈ processedCommands (snapshotInDrain.take 5) := by
  obtain ⟨world, onwards⟩ := snapshot_taken
  have priority := commands_in_order_of_priority firstBoot
  refine ⟨priority.2.1 snapshotInDrain world (bothSent_reached.append onwards) _ (.snapshot 1) [] rfl, ?_⟩
  exact (priority.2.2.1 _ bothSent _ world bothSent_reached rfl onwards
    [.channel .high (.took (.shutdown 0)), .processed (.shutdown 0) [], .channel .high .foundEmpty]
    (.snapshot 1) [] rfl).2.2 (.shutdown 0) rfl (by simp [snapshotInDrain, sendLane, SequencerCommand.isHighPriority])

end FeynmanEngine.CommandPriority
