import FeynmanEngine.ShutdownDrain

/-! Answers to requests. Every command that carries a reply sender is answered by
its handler on every path that lets the loop go on, but a shutdown: the main
loop keeps its sender until the end of the drain, and the drain drops it. -/
namespace FeynmanEngine.RequestReplies
open Ids Orders Events Tables Portfolio Engine Sequencing CommandCases Channels RunLoop

/-- The sender a value was sent on. -/
def repliedOn : Effect → Option ReplyTo
  | .orderReply respond _ | .signalReply respond _ | .limitsReply respond _ | .snapshotReply respond _ => some respond
  | .dispatch _ => none

/-- The reply sender a command carries. -/
def senderOf : SequencerCommand → Option ReplyTo
  | .submitOrder _ respond | .submitSignal _ respond | .adjustLimits _ _ respond | .snapshot respond
  | .shutdown respond => some respond
  | .onVenueAck .. | .onVenueSubmitFailed .. | .onVenueCancelled .. | .onFill _ | .onReconciliation _
  | .markToMarket | .pauseAgent .. | .resumeAgent _ | .haltAll _ | .resetCircuitBreaker _ | .poisonPill => none

/-- The reply sender of a shutdown. -/
def shutdownOf : SequencerCommand → Option ReplyTo
  | .shutdown respond => some respond
  | _ => none

section Handlers

variable {C J Weather : Type}

/-- A handler that answers `respond` and leaves nothing to answer later. -/
structure Answers (handled : Handled C J) (outcome : CommandOutcome) (respond : Option ReplyTo) : Prop where
  sent : handled.effects.filterMap repliedOn = respond.toList
  settled : outcome.shutdownReply = none

private theorem trySend_silent {sequencer : Sequencer C J} {env : Environment Weather}
    (sending : sequencer.trySend env routed = .ok sent) : sent.filterMap repliedOn = [] := by
  unfold Sequencer.trySend at sending
  split at sending
  · split at sending
    · cases sending
      rfl
    · cases sending
    · cases sending
  · cases sending
    rfl

private theorem mutatingCall_answers {sequencer : Sequencer C J} {called : C × Completion Unit}
    (ok : (sequencer.mutatingCall called events).completion = .ok outcome) :
    Answers (sequencer.mutatingCall called events) outcome none := by
  obtain ⟨core, completion⟩ := called
  cases completion with
  | panicked => cases ok
  | err error => cases ok
  | ok value =>
    cases ok
    exact ⟨rfl, rfl⟩

variable [EngineCore C]

/-- An order is answered on every path: known, refused by risk, unroutable, accepted. -/
private theorem submitOrder_answers {sequencer : Sequencer C J} {order : PipelineOrder Validated}
    {env : Environment Weather}
    (ok : (sequencer.handleSubmitOrder order respond env).completion = .ok outcome) :
    Answers (sequencer.handleSubmitOrder order respond env) outcome (some respond) := by
  unfold Sequencer.handleSubmitOrder at ok ⊢
  dsimp only at ok ⊢
  split at ok
  · cases ok
    exact ⟨rfl, rfl⟩
  · split at ok
    · cases ok
    · cases ok
      exact ⟨rfl, rfl⟩
    · split at ok
      · cases ok
        exact ⟨rfl, rfl⟩
      · next sending =>
        cases ok
        refine ⟨?_, rfl⟩
        rw [List.filterMap_append, trySend_silent sending]
        rfl

private theorem updateOrder_answers {sequencer : Sequencer C J} {accepts : OrderState → Bool}
    (ok : (sequencer.updateOrder orderId subject accepts update event).completion = .ok outcome) :
    Answers (sequencer.updateOrder orderId subject accepts update event) outcome none := by
  unfold Sequencer.updateOrder at ok ⊢
  split at ok
  · cases ok
  · split at ok
    · next accepted =>
      cases ok
      rw [if_pos accepted]
      exact ⟨rfl, rfl⟩
    · cases ok

private theorem adjustLimits_answers {sequencer : Sequencer C J}
    (ok : (sequencer.handleAdjustLimits agent limits respond).completion = .ok outcome) :
    Answers (sequencer.handleAdjustLimits agent limits respond) outcome (some respond) := by
  unfold Sequencer.handleAdjustLimits at ok ⊢
  dsimp only at ok ⊢
  split at ok
  · cases ok
    exact ⟨rfl, rfl⟩
  · cases ok
    exact ⟨rfl, rfl⟩
  · cases ok

variable [LibraryText]

private theorem fill_answers {sequencer : Sequencer C J}
    (ok : (sequencer.handleFill fill now).completion = .ok outcome) :
    Answers (sequencer.handleFill fill now) outcome none := by
  unfold Sequencer.handleFill Sequencer.afterCore at ok ⊢
  dsimp only at ok ⊢
  split at ok
  · split at ok
    · cases ok
    · split at ok
      · cases ok
      · split at ok
        · cases ok
          exact ⟨rfl, rfl⟩
        · cases ok
  · cases ok
  · cases ok

/-- What a handled command answers, and the shutdown it leaves to be answered. -/
theorem handleCommand_answers {sequencer : Sequencer C J} {command : SequencerCommand} {env : Environment Weather}
    (ok : (sequencer.handleCommand command env).completion = .ok outcome) :
    outcome.shutdownReply = shutdownOf command ∧
      (sequencer.handleCommand command env).effects.filterMap repliedOn ++ (shutdownOf command).toList =
        (senderOf command).toList := by
  have answered : ∀ respond, shutdownOf command = none → senderOf command = respond →
      Answers (sequencer.handleCommand command env) outcome respond →
        outcome.shutdownReply = shutdownOf command ∧
          (sequencer.handleCommand command env).effects.filterMap repliedOn ++ (shutdownOf command).toList =
            (senderOf command).toList := by
    intro respond other carried answers
    rw [other, carried, answers.sent]
    exact ⟨answers.settled, List.append_nil _⟩
  cases command with
  | submitOrder order respond => exact answered _ rfl rfl (submitOrder_answers ok)
  | submitSignal signal respond =>
    cases ok
    exact answered _ rfl rfl ⟨rfl, rfl⟩
  | onVenueAck orderId venueOrderId submittedAt => exact answered _ rfl rfl (updateOrder_answers ok)
  | onVenueSubmitFailed orderId reason => exact answered _ rfl rfl (updateOrder_answers ok)
  | onVenueCancelled orderId reason cancelledAt => exact answered _ rfl rfl (updateOrder_answers ok)
  | onFill fill => exact answered _ rfl rfl (fill_answers ok)
  | onReconciliation report => exact answered _ rfl rfl (mutatingCall_answers ok)
  | markToMarket => exact answered _ rfl rfl (mutatingCall_answers ok)
  | adjustLimits agent limits respond => exact answered _ rfl rfl (adjustLimits_answers ok)
  | pauseAgent agent reason => exact answered _ rfl rfl (mutatingCall_answers ok)
  | resumeAgent agent => exact answered _ rfl rfl (mutatingCall_answers ok)
  | haltAll reason => exact answered _ rfl rfl (mutatingCall_answers ok)
  | resetCircuitBreaker breakerId => exact answered _ rfl rfl (mutatingCall_answers ok)
  | snapshot respond =>
    cases ok
    exact answered _ rfl rfl ⟨rfl, rfl⟩
  | shutdown respond =>
    cases ok
    exact ⟨rfl, rfl⟩
  | poisonPill => cases ok

variable [EventJournal J Weather]

/-- A processed command after which the loop goes on: what it sent, and the shutdown to be answered. -/
theorem processCommand_answers {sequencer : Sequencer C J} {command : SequencerCommand} {env : Environment Weather}
    (ok : (sequencer.processCommand command env).result = .ok later) :
    later = shutdownOf command ∧
      (sequencer.processCommand command env).effects.filterMap repliedOn ++ (shutdownOf command).toList =
        (senderOf command).toList := by
  have shape := processCommand_eq sequencer command env
  rw [processCommand_effects]
  cases completion : ((numbered sequencer).handleCommand command env).completion with
  | err error =>
    rw [completion] at shape
    rw [shape] at ok
    cases ok
  | panicked =>
    rw [completion] at shape
    rw [shape] at ok
    cases ok
  | ok outcome =>
    obtain ⟨kept, sent⟩ := handleCommand_answers completion
    refine ⟨?_, sent⟩
    rw [completion] at shape
    rw [shape] at ok
    unfold Sequencer.finish at ok
    dsimp only at ok
    split at ok
    · split at ok
      · cases ok
      · cases ok
        exact kept
    · cases ok
      exact kept

end Handlers

/-- The senders a value was sent on, one for each value. -/
def answers (trace : List Label) : List ReplyTo :=
  trace.flatMap fun
    | .processed _ effects => effects.filterMap repliedOn
    | .replied reply => [reply]
    | .channel _ _ | .refused _ _ => []

/-- The reply senders of the commands taken. -/
def requests (trace : List Label) : List ReplyTo :=
  (takenCommands trace).filterMap senderOf

/-- The reply senders of the shutdowns among some commands. -/
def shutdowns (commands : List SequencerCommand) : List ReplyTo :=
  commands.filterMap shutdownOf

/-- The shutdown a mode keeps for the end. -/
def keeps : Mode → List ReplyTo
  | .main => []
  | .drain reply => [reply]

/-- The shutdown still to be answered. -/
def held : Phase → List ReplyTo
  | .tryHigh mode | .tryNormal mode | .busy mode _ => keeps mode
  | .replying reply => [reply]
  | .selectHigh _ | .selectNormal _ | .leaving _ | .left _ | .returned _ => []

/-- The loop, the drain or the reply is going on. -/
def running : Phase → Bool
  | .tryHigh _ | .tryNormal _ | .selectHigh _ | .selectNormal _ | .busy _ _ | .replying _ => true
  | .leaving _ | .left _ | .returned _ => false

/-- `run` is ending or has ended with an error. -/
def failed : Phase → Bool
  | .leaving (.error _) | .left (.error _) | .returned (.error _) => true
  | .leaving (.ok _) | .left (.ok _) | .returned (.ok _) => false
  | .tryHigh _ | .tryNormal _ | .selectHigh _ | .selectNormal _ | .busy _ _ | .replying _ => false

theorem answers_snoc (trace : List Label) (label : Label) :
    answers (trace ++ [label]) = answers trace ++ answers [label] :=
  List.flatMap_append

/-- The senders of the processed commands: answered, kept for the end, or dropped
with a shutdown behind the first. The first is the one kept. -/
structure Accounted (trace : List Label) (phase : Phase) : Prop where
  senders : ((processedCommands trace).filterMap senderOf).Perm
    (answers trace ++ held phase ++ (shutdowns (processedCommands trace)).tail)
  first : running phase = true → (shutdowns (processedCommands trace)).take 1 = held phase

/-- A label that neither processes nor replies, into a phase that holds the same. -/
theorem Accounted.silent {label : Label} (accounted : Accounted trace phase)
    (unprocessed : processedCommands [label] = []) (unanswered : answers [label] = [])
    (same : held after = held phase) (still : running after = true → running phase = true) :
    Accounted (trace ++ [label]) after := by
  constructor
  · rw [processedCommands_snoc, answers_snoc, unprocessed, unanswered, List.append_nil, List.append_nil, same]
    exact accounted.senders
  · intro going
    rw [processedCommands_snoc, unprocessed, List.append_nil, same]
    exact accounted.first (still going)

theorem running_of_polls {phase : Phase} (turn : phase.polls = some lane) : running phase = true := by
  cases phase <;> first | rfl | cases turn

/-- A poll lets go of no shutdown. -/
theorem held_afterPoll {phase : Phase} {event : Event SequencerCommand} (snapshotCache : EngineStateSnapshot)
    (turn : phase.polls = some lane) (poll : event.isPoll = true) :
    held (phase.afterPoll snapshotCache event) = held phase := by
  have idle : ∀ mode : Mode, held mode.idle = keeps mode := fun mode => by cases mode <;> rfl
  cases event with
  | took command =>
    cases phase with
    | tryHigh mode => rfl
    | tryNormal mode => rfl
    | selectHigh normalClosed => rfl
    | selectNormal highClosed => rfl
    | _ => cases turn
  | foundEmpty =>
    cases phase with
    | tryHigh mode => rfl
    | tryNormal mode => exact idle mode
    | selectHigh normalClosed => cases normalClosed <;> rfl
    | selectNormal highClosed => cases highClosed <;> rfl
    | _ => cases turn
  | foundClosed =>
    cases phase with
    | tryHigh mode => rfl
    | tryNormal mode => exact idle mode
    | selectHigh normalClosed => cases normalClosed <;> rfl
    | selectNormal highClosed => cases highClosed <;> rfl
    | _ => cases turn
  | _ => cases poll

/-- An account that balances still does when what comes in balances with what it moves. -/
private theorem account_grown {senders told kept dropped arrived sent keptAfter droppedAfter : List ReplyTo}
    (balance : senders.Perm (told ++ kept ++ dropped))
    (moved : (arrived ++ kept ++ dropped).Perm (sent ++ keptAfter ++ droppedAfter)) :
    (senders ++ arrived).Perm (told ++ sent ++ keptAfter ++ droppedAfter) := by
  apply List.perm_iff_count.mpr
  intro respond
  have before := balance.count_eq respond
  have step := moved.count_eq respond
  simp only [List.count_append] at before step ⊢
  omega

section Runs

variable {C J Weather : Type} [EngineCore C] [EventJournal J Weather] [LibraryText]

/-- A processed command: its sender is answered, or it is the shutdown now kept, or dropped behind it. -/
private theorem accounted_processed {sequencer : Sequencer C J} {env : Environment Weather} {mode : Mode}
    {command : SequencerCommand} (accounted : Accounted trace (.busy mode command))
    (ok : (sequencer.processCommand command env).result = .ok later) :
    Accounted (trace ++ [.processed command (sequencer.processCommand command env).effects])
      (mode.afterCommand (.ok later)) := by
  obtain ⟨senders, first⟩ := accounted
  obtain ⟨kept, sent⟩ := processCommand_answers ok
  have first := first rfl
  generalize (sequencer.processCommand command env).effects = effects at sent
  have answered : answers (trace ++ [.processed command effects]) =
      answers trace ++ effects.filterMap repliedOn := by simp [answers]
  have processed : processedCommands (trace ++ [.processed command effects]) =
      processedCommands trace ++ [command] := processedCommands_snoc _ _
  have carried : (processedCommands trace ++ [command]).filterMap senderOf =
      (processedCommands trace).filterMap senderOf ++ (senderOf command).toList := by
    cases found : senderOf command <;> simp [found]
  have shut : shutdowns (processedCommands trace ++ [command]) =
      shutdowns (processedCommands trace) ++ (shutdownOf command).toList := by
    cases found : shutdownOf command <;> simp [shutdowns, found]
  generalize shutdowns (processedCommands trace) = earlier at senders first shut
  subst kept
  cases found : shutdownOf command with
  | none =>
    have next : mode.afterCommand (.ok none) = .tryHigh mode := by cases mode <;> rfl
    rw [found, Option.toList_none, List.append_nil] at sent shut
    rw [next]
    constructor
    · rw [processed, carried, ← sent, answered, shut]
      exact account_grown senders (.refl _)
    · intro going
      rw [processed, shut]
      exact first
  | some reply =>
    rw [found, Option.toList_some] at sent shut
    cases mode with
    | main =>
      obtain rfl : earlier = [] := by
        cases earlier with
        | nil => rfl
        | cons head rest => cases first
      constructor
      · rw [processed, carried, ← sent, answered, shut]
        apply account_grown senders
        simp [held, keeps, Mode.afterCommand]
      · intro going
        rw [processed, shut]
        rfl
    | drain keptReply =>
      obtain ⟨rest, rfl⟩ : ∃ rest, earlier = keptReply :: rest := by
        cases earlier with
        | nil => cases first
        | cons head rest =>
          cases first
          exact ⟨rest, rfl⟩
      constructor
      · rw [processed, carried, ← sent, answered, shut]
        apply account_grown senders
        simp only [held, keeps, Mode.afterCommand, List.cons_append, List.tail_cons, List.append_assoc]
        refine .append_left _ ?_
        exact (List.perm_append_singleton reply (keptReply :: rest)).symm
      · intro going
        rw [processed, shut]
        rfl

theorem Accounted.step {world after : World C J} {label : Label}
    (accounted : failed world.phase = false → Accounted trace world.phase) (step : Step world label after)
    (fine : failed after.phase = false) : Accounted (trace ++ [label]) after.phase := by
  cases step with
  | @sender lane event channel outside step =>
    rw [World.phase_setChannel] at fine ⊢
    exact (accounted fine).silent rfl rfl rfl id
  | refused gone => exact (accounted fine).silent rfl rfl rfl id
  | @polled lane event channel turn poll step =>
    have running := running_of_polls turn
    have unfailed : failed world.phase = false := by
      cases shape : world.phase <;> first | rfl | (rw [shape] at turn; cases turn)
    exact (accounted unfailed).silent rfl rfl (held_afterPoll _ turn poll) (fun _ => running)
  | @processed mode command turn env =>
    rw [turn] at accounted
    cases ended : (world.sequencer.processCommand command env).result with
    | error error =>
      rw [ended] at fine
      cases mode <;> cases fine
    | ok later => exact accounted_processed (accounted rfl) ended
  | @replied reply turn =>
    rw [turn] at accounted
    obtain ⟨senders, first⟩ := accounted rfl
    refine ⟨?_, fun going => by cases going⟩
    have unprocessed : processedCommands (trace ++ [.replied reply]) = processedCommands trace := by
      simp [processedCommands]
    rw [unprocessed, answers_snoc, List.append_assoc (answers trace)]
    simpa [answers, held] using senders
  | @droppedHigh result turn =>
    rw [turn] at accounted
    exact (accounted (by cases result <;> first | rfl | cases fine)).silent rfl rfl rfl (fun going => by cases going)
  | @droppedNormal result turn =>
    rw [turn] at accounted
    exact (accounted (by cases result <;> first | rfl | cases fine)).silent rfl rfl rfl (fun going => by cases going)

theorem steps_accounted {sequencer : Sequencer C J} {trace : List Label} {world : World C J}
    (steps : Steps (.begin sequencer) trace world) (fine : failed world.phase = false) :
    Accounted trace world.phase := by
  induction steps with
  | start => exact ⟨.refl _, fun _ => rfl⟩
  | step steps step ih => exact Accounted.step ih step fine

/-- When `run` returns `Ok`, every reply sender of the commands it took had
exactly one value sent on it exactly when it took at most one shutdown. -/
theorem requests_answered_iff {sequencer : Sequencer C J} {trace : List Label} {world : World C J}
    (steps : Steps (.begin sequencer) trace world) (finished : world.phase = .returned (.ok snapshot)) :
    (answers trace).Perm (requests trace) ↔ (shutdowns (takenCommands trace)).length ≤ 1 := by
  have accounted := (steps_accounted steps (by rw [finished]; rfl)).senders
  have idle : (Phase.returned (.ok snapshot)).inHand = [] := rfl
  have nothing : held (.returned (.ok snapshot)) = [] := rfl
  have taken := steps.in_hand
  rw [finished, idle, List.append_nil] at taken
  rw [finished, nothing, List.append_nil, ← taken] at accounted
  constructor
  · intro same
    have lengths := (accounted.trans (same.append_right _)).length_eq
    simp only [requests, List.length_append, List.length_tail] at lengths
    omega
  · intro few
    have dropped : (shutdowns (takenCommands trace)).tail = [] := by
      apply List.eq_nil_of_length_eq_zero
      rw [List.length_tail]
      omega
    rw [dropped, List.append_nil] at accounted
    exact accounted.symm

end Runs

open SequencerFixtures SequencerFixtures.Plain

/-- Two shutdowns are queued; the drain takes the second. -/
def twoShutdowns : List Label :=
  [.channel .high (.sent (.shutdown 0)), .channel .high (.sent (.shutdown 1)), .channel .high (.took (.shutdown 0)),
    .processed (.shutdown 0) [], .channel .high (.took (.shutdown 1)), .processed (.shutdown 1) [],
    .channel .high .foundEmpty, .channel .normal .foundEmpty, .replied 0, .channel .high .receiverGone,
    .channel .normal .receiverGone]

private theorem both_taken : ∃ world, Steps (.begin firstBoot) (twoShutdowns.take 8) world ∧
    world.phase = .replying 0 := by
  have asked : Steps (.begin firstBoot) (twoShutdowns.take 1) _ :=
    .step .start (.sender rfl (.sent rfl rfl (by decide)))
  have again : Steps (.begin firstBoot) (twoShutdowns.take 2) _ :=
    .step asked (.sender rfl (.sent rfl rfl (by decide)))
  have taken : Steps (.begin firstBoot) (twoShutdowns.take 3) _ := .step again (.polled rfl rfl (.took rfl))
  have processed : Steps (.begin firstBoot) (twoShutdowns.take 4) _ := .step taken (.processed rfl calm)
  have second : Steps (.begin firstBoot) (twoShutdowns.take 5) _ := .step processed (.polled rfl rfl (.took rfl))
  have dropped : Steps (.begin firstBoot) (twoShutdowns.take 6) _ := .step second (.processed rfl calm)
  have high : Steps (.begin firstBoot) (twoShutdowns.take 7) _ :=
    .step dropped (.polled rfl rfl (.foundEmpty rfl rfl))
  have normal : Steps (.begin firstBoot) (twoShutdowns.take 8) _ :=
    .step high (.polled rfl rfl (.foundEmpty rfl rfl))
  exact ⟨_, normal, rfl⟩

/-- In the quiet shutdown the one request is answered. -/
theorem quiet_shutdown_answered : (answers ShutdownDrain.quietShutdown).Perm (requests ShutdownDrain.quietShutdown) := by
  obtain ⟨world, steps, turn, -⟩ := ShutdownDrain.drained
  obtain ⟨last, snapshot, ended, returned⟩ := ShutdownDrain.returns steps turn
  exact (requests_answered_iff ended returned).mpr (by decide)

/-- `run` takes both shutdowns, returns `Ok`, and sends nothing to the second. -/
theorem second_shutdown_unanswered : (∃ world snapshot, Steps (.begin firstBoot) twoShutdowns world ∧
      world.phase = .returned (.ok snapshot)) ∧
    requests twoShutdowns = [0, 1] ∧ answers twoShutdowns = [0] ∧
    ¬ (answers twoShutdowns).Perm (requests twoShutdowns) := by
  refine ⟨?_, rfl, rfl, fun same => absurd same.length_eq (by decide)⟩
  obtain ⟨world, steps, turn⟩ := both_taken
  obtain ⟨last, snapshot, ended, returned⟩ := ShutdownDrain.returns steps turn
  exact ⟨last, snapshot, ended, returned⟩

end FeynmanEngine.RequestReplies
