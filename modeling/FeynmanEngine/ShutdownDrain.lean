import FeynmanEngine.RunLoop
import FeynmanEngine.SequencerFixtures

/-! What a run that returns has processed. The receivers stay open through the
drain, so a send that completes after the last poll of its channel is accepted
and never processed; every other accepted command is. -/
namespace FeynmanEngine.ShutdownDrain
open Ids Orders Events Portfolio Engine Sequencing Channels RunLoop

/-- The commands whose send succeeded, in order. -/
def acceptedCommands (trace : List Label) : List SequencerCommand :=
  trace.filterMap fun
    | .channel _ event => event.sent?
    | _ => none

/-- The attempt has looked at the high-priority channel. -/
def highSeen : Phase → Bool
  | .tryNormal _ | .selectHigh _ | .selectNormal _ => true
  | .tryHigh _ | .busy _ _ | .replying _ | .leaving _ | .left _ | .returned _ => false

theorem highSeen_of_polls {phase : Phase} (turn : phase.polls = some .normal) : highSeen phase = true := by
  cases phase with
  | tryNormal mode => rfl
  | selectNormal highClosed => rfl
  | _ => cases turn

theorem afterCommand_highSeen (mode : Mode) (result : Except EngineError (Option ReplyTo)) :
    highSeen (mode.afterCommand result) = false := by
  rcases result with error | _ | reply
  · cases mode <;> rfl
  · cases mode <;> rfl
  · cases mode <;> rfl

/-- Both channels have been looked at, one right after the other. -/
def bothSeen : Phase → Bool
  | .selectHigh _ | .selectNormal _ | .replying _ => true
  | .leaving (.ok _) | .left (.ok _) | .returned (.ok _) => true
  | .leaving (.error _) | .left (.error _) | .returned (.error _) => false
  | .tryHigh _ | .tryNormal _ | .busy _ _ => false

/-- The last poll of this channel found nothing. -/
def Looked (trace : List Label) (lane : Lane) : Prop :=
  foundNothingLast (laneEvents lane trace) = true

theorem Looked.found {event : Event SequencerCommand} (nothing : event.foundNothing = true) :
    Looked (trace ++ [.channel lane event]) lane := by
  have poll : event.isPoll = true := by
    cases event <;> first | rfl | cases nothing
  have heard : laneEvents lane [.channel lane event] = [event] := by simp [laneEvents]
  rw [Looked, laneEvents_snoc, heard, foundNothingLast_snoc, if_pos poll, nothing]

theorem Looked.silent {lane : Lane} {label : Label} (looked : Looked trace lane)
    (nothing : laneEvents lane [label] = []) : Looked (trace ++ [label]) lane := by
  rwa [Looked, laneEvents_snoc, nothing, List.append_nil]

theorem Looked.elsewhere {lane polled : Lane} {event : Event SequencerCommand} (looked : Looked trace lane)
    (apart : polled ≠ lane) : Looked (trace ++ [.channel polled event]) lane :=
  looked.silent (by simp [laneEvents, apart])

/-- Anything but a poll leaves the last poll what it was. -/
theorem Looked.unpolled {lane place : Lane} {event : Event SequencerCommand} (looked : Looked trace lane)
    (quiet : event.isPoll = false) : Looked (trace ++ [.channel place event]) lane := by
  by_cases same : place = lane
  · subst same
    have heard : laneEvents place [.channel place event] = [event] := by simp [laneEvents]
    rw [Looked, laneEvents_snoc, heard, foundNothingLast_snoc, quiet, if_neg Bool.false_ne_true]
    exact looked
  · exact looked.elsewhere same

/-- What the phase tells about the last polls. -/
structure LookedAt (trace : List Label) (phase : Phase) : Prop where
  high : highSeen phase = true → Looked trace .high
  both : bothSeen phase = true → ∀ lane, Looked trace lane

/-- The phases of a poll that took something, and of a processed command, tell nothing. -/
theorem LookedAt.ofUnseen (high : highSeen phase = false) (both : bothSeen phase = false) : LookedAt trace phase where
  high seen := absurd (high.symm.trans seen) Bool.false_ne_true
  both seen := absurd (both.symm.trans seen) Bool.false_ne_true

theorem LookedAt.ofBoth (both : ∀ lane, Looked trace lane) : LookedAt trace phase :=
  ⟨fun _ => both .high, fun _ => both⟩

theorem LookedAt.polledHigh {phase : Phase} {event : Event SequencerCommand} (snapshotCache : EngineStateSnapshot)
    (looked : LookedAt trace phase) (turn : phase.polls = some .high) (poll : event.isPoll = true) :
    LookedAt (trace ++ [.channel .high event]) (phase.afterPoll snapshotCache event) := by
  by_cases nothing : event.foundNothing = true
  · have now := @Looked.found trace .high event nothing
    cases phase with
    | tryHigh mode =>
      have next : (Phase.tryHigh mode).afterPoll snapshotCache event = .tryNormal mode := by
        cases event <;> first | rfl | cases nothing
      rw [next]
      exact ⟨fun _ => now, fun seen => by cases seen⟩
    | selectHigh normalClosed =>
      apply LookedAt.ofBoth
      intro lane
      cases lane with
      | high => exact now
      | normal => exact (looked.both rfl .normal).elsewhere (by decide)
    | _ => cases turn
  · cases event with
    | took command =>
      cases phase with
      | tryHigh mode => exact .ofUnseen rfl rfl
      | selectHigh normalClosed => exact .ofUnseen rfl rfl
      | _ => cases turn
    | foundEmpty => exact absurd rfl nothing
    | foundClosed => exact absurd rfl nothing
    | _ => cases poll

theorem LookedAt.polledNormal {phase : Phase} {event : Event SequencerCommand} (snapshotCache : EngineStateSnapshot)
    (looked : LookedAt trace phase) (turn : phase.polls = some .normal) (poll : event.isPoll = true) :
    LookedAt (trace ++ [.channel .normal event]) (phase.afterPoll snapshotCache event) := by
  by_cases nothing : event.foundNothing = true
  · apply LookedAt.ofBoth
    intro lane
    cases lane with
    | high => exact (looked.high (highSeen_of_polls turn)).elsewhere (by decide)
    | normal => exact .found nothing
  · cases event with
    | took command =>
      cases phase with
      | tryNormal mode => exact .ofUnseen rfl rfl
      | selectNormal highClosed => exact .ofUnseen rfl rfl
      | _ => cases turn
    | foundEmpty => exact absurd rfl nothing
    | foundClosed => exact absurd rfl nothing
    | _ => cases poll

theorem afterCommand_bothSeen (mode : Mode) (result : Except EngineError (Option ReplyTo)) :
    bothSeen (mode.afterCommand result) = false := by
  rcases result with error | _ | reply
  · cases mode <;> rfl
  · cases mode <;> rfl
  · cases mode <;> rfl

/-- A command is picked from one channel or the other. -/
theorem picked_perm_lanes (pick : Event SequencerCommand → Option SequencerCommand)
    (pickLabel : Label → Option SequencerCommand) (ofChannel : ∀ lane event, pickLabel (.channel lane event) = pick event)
    (ofOthers : ∀ label, (∀ lane event, label ≠ .channel lane event) → pickLabel label = none) (trace : List Label) :
    (trace.filterMap pickLabel).Perm
      ((laneEvents .high trace).filterMap pick ++ (laneEvents .normal trace).filterMap pick) := by
  induction trace with
  | nil => exact .refl _
  | cons label rest ih =>
    cases label with
    | channel lane event =>
      have picked := ofChannel lane event
      cases found : pick event with
      | none => cases lane <;> simpa [laneEvents, picked, found] using ih
      | some command =>
        cases lane with
        | high => simpa [laneEvents, picked, found] using ih.cons command
        | normal =>
          have moved := (ih.cons command).trans List.perm_middle.symm
          simpa [laneEvents, picked, found] using moved
    | refused lane command => simpa [laneEvents, ofOthers (.refused lane command) (by simp)] using ih
    | processed command effects => simpa [laneEvents, ofOthers (.processed command effects) (by simp)] using ih
    | replied reply => simpa [laneEvents, ofOthers (.replied reply) (by simp)] using ih

theorem takenCommands_perm (trace : List Label) :
    (takenCommands trace).Perm (takes (laneEvents .high trace) ++ takes (laneEvents .normal trace)) := by
  refine picked_perm_lanes Event.took? _ (fun _ _ => rfl) (fun label others => ?_) trace
  cases label with
  | channel lane event => exact absurd rfl (others lane event)
  | _ => rfl

theorem acceptedCommands_perm (trace : List Label) :
    (acceptedCommands trace).Perm (sends (laneEvents .high trace) ++ sends (laneEvents .normal trace)) := by
  refine picked_perm_lanes Event.sent? _ (fun _ _ => rfl) (fun label others => ?_) trace
  cases label with
  | channel lane event => exact absurd rfl (others lane event)
  | _ => rfl

section Runs

variable {C J Weather : Type} [EngineCore C] [EventJournal J Weather] [LibraryText]

theorem LookedAt.step {world after : World C J} {label : Label} (looked : LookedAt trace world.phase)
    (step : Step world label after) : LookedAt (trace ++ [label]) after.phase := by
  cases step with
  | @sender lane event channel outside step =>
    have quiet : event.isPoll = false := by
      cases event <;> first | rfl | cases outside
    rw [World.phase_setChannel]
    exact ⟨fun seen => (looked.high seen).unpolled quiet, fun seen lane => (looked.both seen lane).unpolled quiet⟩
  | refused gone => exact ⟨fun seen => (looked.high seen).silent rfl, fun seen lane => (looked.both seen lane).silent rfl⟩
  | @polled lane event channel turn poll step =>
    cases lane with
    | high => exact looked.polledHigh _ turn poll
    | normal => exact looked.polledNormal _ turn poll
  | processed turn env => exact .ofUnseen (afterCommand_highSeen _ _) (afterCommand_bothSeen _ _)
  | replied turn =>
    rw [turn] at looked
    exact .ofBoth fun lane => (looked.both rfl lane).silent rfl
  | @droppedHigh result turn =>
    rw [turn] at looked
    cases result with
    | ok snapshot => exact .ofBoth fun lane => (looked.both rfl lane).unpolled rfl
    | error error => exact .ofUnseen rfl rfl
  | @droppedNormal result turn =>
    rw [turn] at looked
    cases result with
    | ok snapshot => exact .ofBoth fun lane => (looked.both rfl lane).unpolled rfl
    | error error => exact .ofUnseen rfl rfl

theorem steps_lookedAt {sequencer : Sequencer C J} {trace : List Label} {world : World C J}
    (steps : Steps (.begin sequencer) trace world) : LookedAt trace world.phase := by
  induction steps with
  | start => exact .ofUnseen rfl rfl
  | step steps step ih => exact ih.step step

/-- When `run` returns `Ok`, every command whose send succeeded has been
processed, exactly when on neither channel a send succeeded after its last poll. -/
theorem accepted_processed_iff {sequencer : Sequencer C J} {trace : List Label} {world : World C J}
    (steps : Steps (.begin sequencer) trace world) (finished : world.phase = .returned (.ok snapshot)) :
    (processedCommands trace).Perm (acceptedCommands trace) ↔ ∀ lane, unpolled (laneEvents lane trace) = [] := by
  have looked := (steps_lookedAt steps).both (by rw [finished]; rfl)
  have idle : (Phase.returned (.ok snapshot)).inHand = [] := rfl
  have processed := steps.in_hand
  rw [finished, idle, List.append_nil] at processed
  have taken := takenCommands_perm trace
  have accepted := acceptedCommands_perm trace
  have waiting : ∀ lane, (world.channel lane).queue = unpolled (laneEvents lane trace) := fun lane =>
    (steps.lane lane).queue_eq_unpolled (looked lane)
  rw [← processed]
  constructor
  · intro same
    have lengths := (taken.symm.trans (same.trans accepted)).length_eq
    rw [(steps.lane .high).fifo, (steps.lane .normal).fifo, waiting, waiting] at lengths
    simp only [List.length_append] at lengths
    intro lane
    apply List.eq_nil_of_length_eq_zero
    cases lane <;> omega
  · intro nothing
    have all : ∀ lane, takes (laneEvents lane trace) = sends (laneEvents lane trace) := fun lane =>
      ((steps.lane lane).all_taken_iff (looked lane)).mpr (nothing lane)
    rw [all, all] at taken
    exact taken.trans accepted.symm

end Runs

open SequencerFixtures SequencerFixtures.Plain

/-- A shutdown, drained and answered. -/
def quietShutdown : List Label :=
  [.channel .high (.sent (.shutdown 0)), .channel .high (.took (.shutdown 0)), .processed (.shutdown 0) [],
    .channel .high .foundEmpty, .channel .normal .foundEmpty, .replied 0, .channel .high .receiverGone,
    .channel .normal .receiverGone]

/-- The drain's last polls find nothing, then a fill comes in. -/
def lateFill : List Label :=
  [.channel .high (.sent (.shutdown 0)), .channel .high (.took (.shutdown 0)), .processed (.shutdown 0) [],
    .channel .high .foundEmpty, .channel .normal .foundEmpty,
    .channel .high (.sent (.onFill (sampleFill "order-1" 4))), .replied 0, .channel .high .receiverGone,
    .channel .normal .receiverGone]

/-- The shutdown up to the drain's last poll. -/
theorem drained : ∃ world, Steps (.begin firstBoot) (quietShutdown.take 5) world ∧
    world.phase = .replying 0 ∧ world.high = .fresh highPriorityChannelCapacity := by
  have asked : Steps (.begin firstBoot) (quietShutdown.take 1) _ :=
    .step .start (.sender rfl (.sent rfl rfl (by decide)))
  have taken : Steps (.begin firstBoot) (quietShutdown.take 2) _ := .step asked (.polled rfl rfl (.took rfl))
  have processed : Steps (.begin firstBoot) (quietShutdown.take 3) _ := .step taken (.processed rfl calm)
  have high : Steps (.begin firstBoot) (quietShutdown.take 4) _ :=
    .step processed (.polled rfl rfl (.foundEmpty rfl rfl))
  have normal : Steps (.begin firstBoot) (quietShutdown.take 5) _ :=
    .step high (.polled rfl rfl (.foundEmpty rfl rfl))
  exact ⟨_, normal, rfl, rfl⟩

/-- Reply and return. -/
theorem returns {sequencer : Sequencer TestCore (Journal.SqliteJournal PlainBlob)}
    {world : World TestCore (Journal.SqliteJournal PlainBlob)} (steps : Steps (.begin sequencer) trace world)
    (turn : world.phase = .replying reply) : ∃ last snapshot,
      Steps (.begin sequencer)
        (trace ++ [.replied reply] ++ [.channel .high .receiverGone] ++ [.channel .normal .receiverGone]) last ∧
      last.phase = .returned (.ok snapshot) :=
  ⟨_, _, .step (.step (.step steps (.replied turn)) (.droppedHigh rfl)) (.droppedNormal rfl), rfl⟩

/-- In the quiet shutdown all that was accepted is processed. -/
theorem quiet_shutdown_processed : (processedCommands quietShutdown).Perm (acceptedCommands quietShutdown) := by
  obtain ⟨world, steps, turn, -⟩ := drained
  obtain ⟨last, snapshot, ended, returned⟩ := returns steps turn
  refine (accepted_processed_iff ended returned).mpr fun lane => ?_
  cases lane <;> rfl

/-- A fill sent after the drain's last poll is accepted, `run` returns `Ok`, and the fill is lost. -/
theorem late_fill_lost : (∃ world snapshot, Steps (.begin firstBoot) lateFill world ∧
      world.phase = .returned (.ok snapshot)) ∧
    acceptedCommands lateFill = [.shutdown 0, .onFill (sampleFill "order-1" 4)] ∧
    processedCommands lateFill = [.shutdown 0] ∧
    ¬ (processedCommands lateFill).Perm (acceptedCommands lateFill) := by
  refine ⟨?_, rfl, rfl, fun same => absurd same.length_eq (by decide)⟩
  obtain ⟨world, steps, turn, fresh⟩ := drained
  have late : Channels.Step (world.channel .high) (.sent (.onFill (sampleFill "order-1" 4)))
      { world.high with queue := world.high.queue ++ [.onFill (sampleFill "order-1" 4)] } := by
    apply Channels.Step.sent
    · exact congrArg Channel.sending fresh
    · exact congrArg Channel.receiving fresh
    · rw [show world.channel .high = _ from fresh]
      decide
  obtain ⟨last, snapshot, ended, returned⟩ := returns (.step steps (.sender rfl late)) turn
  exact ⟨last, snapshot, ended, returned⟩

end FeynmanEngine.ShutdownDrain
