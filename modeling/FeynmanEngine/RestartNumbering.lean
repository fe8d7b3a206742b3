import Mathlib.Logic.Relation
import FeynmanEngine.IdempotentSubmission

/-! Client order ids across restarts. The generators are not stored: a start
rebuilds them from the ids in the cached answers of the last durable commit. Since
each recorded order has its answer cached, a rebuilt counter stands above every
number that a recorded order of its agent carries, and ids stay distinct. -/
namespace FeynmanEngine.RestartNumbering
open Ids Orders Events Tables Portfolio Engine Sequencing JournalCommits CommandCases
open OrderBookkeeping IdempotentSubmission SequencerStart HighWater

/-- No order gets an id it did not have, and the cached answers stay. -/
structure NoNewIds (before after : EngineState) : Prop where
  orders : ∀ orderId clientOrderId,
    clientIdOf after orderId = some clientOrderId → clientIdOf before orderId = some clientOrderId
  answers : SameAnswers before after

theorem SameBook.noNewIds (same : SameBook before after) : NoNewIds before after where
  orders orderId _ known := (same.clientIds orderId).symm.trans known
  answers := same.answers

/-- Every answer is cached under its own id, and every recorded order's id leads to its own answer. -/
structure Distinct (state : EngineState) : Prop where
  keyed : ∀ clientOrderId ack, state.idempotencyCache.lookup clientOrderId = some ack →
    ack.clientOrderId = clientOrderId
  owned : ∀ orderId clientOrderId, clientIdOf state orderId = some clientOrderId →
    ∃ ack, state.idempotencyCache.lookup clientOrderId = some ack ∧ ack.orderId = orderId

theorem Distinct.of_noNewIds (distinct : Distinct before) (quiet : NoNewIds before after) : Distinct after where
  keyed clientOrderId ack cached := by
    rw [quiet.answers] at cached
    exact distinct.keyed clientOrderId ack cached
  owned orderId clientOrderId known := by
    rw [quiet.answers]
    exact distinct.owned orderId clientOrderId (quiet.orders orderId clientOrderId known)

/-- No two recorded orders share an id. -/
theorem Distinct.orders_apart (distinct : Distinct state) (known : clientIdOf state first = some clientOrderId)
    (shared : clientIdOf state second = some clientOrderId) : first = second := by
  obtain ⟨ack, cached, rfl⟩ := distinct.owned first clientOrderId known
  obtain ⟨other, stored, rfl⟩ := distinct.owned second clientOrderId shared
  cases cached.symm.trans stored
  rfl

/-- A new order with its answer, under an id not in the cache. -/
theorem Distinct.recorded {state : EngineState} {record : OrderRecord} {ack : OrderAck} (distinct : Distinct state)
    (unseen : state.idempotencyCache.lookup ack.clientOrderId = none) (named : record.clientOrderId = ack.clientOrderId) :
    Distinct { state with
      orders := state.orders.insert ack.orderId record
      idempotencyCache := state.idempotencyCache.insert ack.clientOrderId ack } where
  keyed clientOrderId stored cached := by
    rw [lookup_insert_if] at cached
    split at cached
    · next own =>
      cases cached
      exact own.symm
    · exact distinct.keyed clientOrderId stored cached
  owned orderId clientOrderId known := by
    rw [clientIdOf, lookup_insert_if] at known
    rw [lookup_insert_if]
    split at known
    · next own =>
      rw [Option.map_some, named] at known
      cases known
      exact ⟨ack, if_pos rfl, own.symm⟩
    · obtain ⟨stored, cached, same⟩ := distinct.owned orderId clientOrderId known
      have other : clientOrderId ≠ ack.clientOrderId := by
        rintro rfl
        rw [unseen] at cached
        cases cached
      exact ⟨stored, (if_neg other).trans cached, same⟩

/-- What a start can rely on: the cached ids can be read back with room for the next. -/
structure Restorable (state : EngineState) : Prop where
  distinct : Distinct state
  printed : ∀ clientOrderId ack, state.idempotencyCache.lookup clientOrderId = some ack →
    ∃ agent millis sequence epoch, 0 ≤ millis ∧ sequence + 1 < u64Limit ∧
      clientOrderId = .format agent millis sequence epoch

theorem Restorable.of_noNewIds (restorable : Restorable before) (quiet : NoNewIds before after) : Restorable after where
  distinct := restorable.distinct.of_noNewIds quiet
  printed clientOrderId ack cached := by
    rw [quiet.answers] at cached
    exact restorable.printed clientOrderId ack cached

/-- What a commit leaves for the next start. -/
def stored (commit : Commit) : SequenceId × EngineStateSnapshot := (commit.sequenceId, commit.snapshot)

/-- What is durable can be started from. -/
def DurableRestorable (durable : Option (SequenceId × EngineStateSnapshot)) : Prop :=
  ∀ sequenceId snapshot, durable = some (sequenceId, snapshot) → Restorable snapshot.state

theorem nothing_restorable : DurableRestorable none := by
  intro sequenceId snapshot found
  cases found

theorem stored_restorable (restorable : Restorable commit.snapshot.state) :
    DurableRestorable (some (stored commit)) := by
  rintro _ _ ⟨⟩
  exact restorable

section Counters
variable {C J Weather : Type} [EngineCore C]

/-- A running sequencer: ids are distinct and lie behind the counters. -/
structure WellNumbered (sequencer : Sequencer C J) : Prop where
  minted : Minted sequencer
  distinct : Distinct sequencer.state

theorem WellNumbered.of_noNewIds {before after : Sequencer C J} (held : WellNumbered before)
    (quiet : NoNewIds before.state after.state) (drawn : Drawn before after) (grow : CountersGrow before after) :
    WellNumbered after :=
  ⟨held.minted.of_sameAnswers quiet.answers drawn grow, held.distinct.of_noNewIds quiet⟩

theorem WellNumbered.restorable {sequencer : Sequencer C J} (held : WellNumbered sequencer) :
    Restorable sequencer.state where
  distinct := held.distinct
  printed clientOrderId ack cached := by
    obtain ⟨agent, millis, sequence, epoch, since, below, shape⟩ := held.minted.answers clientOrderId ack cached
    have bound := (held.minted.generatorFor agent).2
    exact ⟨agent.value, millis, sequence, epoch, since, by omega, shape⟩

/-- The next command begins from the same ids. -/
theorem WellNumbered.numbered {sequencer : Sequencer C J} (held : WellNumbered sequencer) :
    WellNumbered (CommandCases.numbered sequencer) :=
  ⟨⟨held.minted.generators, held.minted.answers⟩, held.distinct⟩

theorem commitOf_restorable {sequencer : Sequencer C J} (held : WellNumbered sequencer) (outcome : CommandOutcome)
    (sequenceId : SequenceId) (now : DateTime) :
    Restorable (commitOf sequencer outcome sequenceId now).snapshot.state :=
  held.restorable.of_noNewIds (SameBook.noNewIds (commitOf_untouched sequencer outcome sequenceId now).sameBook)

/-- A printed id puts its number among those read for its agent. -/
theorem mem_sequencesOf {state : EngineState} {ack : OrderAck} {sequence : Nat} (distinct : Distinct state)
    (cached : state.idempotencyCache.lookup clientOrderId = some ack) (since : 0 ≤ millis) (bound : sequence < u64Limit)
    (shape : clientOrderId = .format agent millis sequence epoch) :
    sequence ∈ sequencesOf ⟨agent⟩ (values state.idempotencyCache) := by
  have stored : ack ∈ values state.idempotencyCache := (mem_values _ _).mpr ⟨clientOrderId, cached⟩
  have own := (distinct.keyed clientOrderId ack cached).trans shape
  refine List.mem_filterMap.mpr ⟨ack, stored, ?_⟩
  rw [own, ClientOrderId.format_agent agent sequence epoch since, if_pos rfl]
  exact ClientOrderId.format_sequence agent millis epoch bound

/-- Restored generators stand above every number in the cache they were read from. -/
theorem wellNumbered_restored {sequencer : Sequencer C J} (restorable : Restorable sequencer.state)
    (numbering : restoreClientOrderGenerators sequencer.state epoch = .ok sequencer.clientOrderIdGenerators) :
    WellNumbered sequencer := by
  refine ⟨⟨fun agent generator found => ?_, fun clientOrderId ack cached => ?_⟩, restorable.distinct⟩
  · refine ⟨?_, restoreClientOrderGenerators_bounded numbering found⟩
    rw [restoreClientOrderGenerators_lookup numbering] at found
    obtain ⟨counter, -, rfl⟩ := Option.map_eq_some_iff.mp found
    rfl
  · obtain ⟨agent, millis, sequence, printed, since, room, shape⟩ := restorable.printed clientOrderId ack cached
    have read := mem_sequencesOf restorable.distinct cached since (by omega) shape
    obtain ⟨counter, raised, above⟩ := lt_raiseAll none read
    refine ⟨⟨agent⟩, millis, sequence, printed, since, ?_, shape⟩
    unfold counterOf Sequencer.generatorFor
    rw [restoreClientOrderGenerators_lookup numbering, raised]
    exact above

section Boots
variable [EventJournal J Weather]

/-- A start from the last durable commit; without one, with a core that has no orders. -/
structure Boots (durable : Option (SequenceId × EngineStateSnapshot)) (core : C) (journal : J) (epoch : Nat)
    (sequencer : Sequencer C J) : Prop where
  blank : durable = none → (EngineCore.state core).orders = ∅ ∧ (EngineCore.state core).idempotencyCache = ∅
  latest : EventJournal.loadLatestSnapshot journal = .ok durable
  started : Sequencer.new core journal epoch = .ok sequencer

/-- A restore that succeeds puts the snapshot's state in place. -/
def RestoresState (C : Type) [EngineCore C] : Prop :=
  ∀ (core after : C) (snapshot : EngineStateSnapshot),
    EngineCore.restoreSnapshot core snapshot = (after, .ok ()) → EngineCore.state after = snapshot.state

/-- What a start begins with: the durable state or none, and the generators read from its answers. -/
theorem Boots.begins (restores : RestoresState C) {core : C} {journal : J} {sequencer : Sequencer C J}
    (boots : Boots durable core journal epoch sequencer) :
    restoreClientOrderGenerators sequencer.state epoch = .ok sequencer.clientOrderIdGenerators ∧
      (durable = none → sequencer.state = EngineCore.state core) ∧
      ∀ sequenceId snapshot, durable = some (sequenceId, snapshot) → sequencer.state = snapshot.state := by
  cases (new_ok_iff core journal epoch sequencer).mp boots.started with
  | fresh latest tail applied numbering =>
    obtain rfl : durable = none := by simpa using boots.latest.symm.trans latest
    exact ⟨numbering, fun _ => rfl, fun sequenceId snapshot => nofun⟩
  | @restored after generators newest sequenceId snapshot latest tail applied called numbering =>
    obtain rfl : durable = some (sequenceId, snapshot) := by simpa using boots.latest.symm.trans latest
    refine ⟨numbering, nofun, ?_⟩
    rintro _ _ ⟨⟩
    exact restores core after snapshot called

theorem Boots.restorable (restores : RestoresState C) {core : C} {journal : J} {sequencer : Sequencer C J}
    (boots : Boots durable core journal epoch sequencer) (restorable : DurableRestorable durable) :
    Restorable sequencer.state := by
  obtain ⟨-, fresh, restored⟩ := boots.begins restores
  cases durable with
  | none =>
    obtain ⟨orders, answers⟩ := boots.blank rfl
    rw [fresh rfl]
    refine ⟨⟨fun clientOrderId ack cached => ?_, fun orderId clientOrderId known => ?_⟩,
      fun clientOrderId ack cached => ?_⟩
    · simp [answers] at cached
    · simp [clientIdOf, orders] at known
    · simp [answers] at cached
  | some entry =>
    rw [restored entry.1 entry.2 rfl]
    exact restorable entry.1 entry.2 rfl

end Boots

variable [LibraryText]

theorem Handling.wellNumbered (calls : CoreCalls C NoNewIds fun _ => NoNewIds) {before after : Sequencer C J}
    {env : Environment Weather} (handling : Handling before env command after effects outcome)
    (held : WellNumbered before) (since : env.now.SinceEpoch) (grow : CountersGrow before after) :
    WellNumbered after := by
  cases handling with
  | answered respond known => exact held
  | refused respond unknown evaluated =>
    exact held.of_noNewIds (calls.evaluate_keeps evaluated) (Or.inl rfl) grow
  | @unroutable order core checked reason respond unknown evaluated =>
    have quiet : NoNewIds before.state (drawn before core order.core.agentId env.now).state :=
      calls.evaluate_keeps evaluated
    exact held.of_noNewIds quiet (Or.inr ⟨order.core.agentId, env.now, rfl⟩) grow
  | @accepted order core checked sent respond unknown evaluated ready routed =>
    have quiet : NoNewIds before.state (drawn before core order.core.agentId env.now).state :=
      calls.evaluate_keeps evaluated
    have unseen : before.state.idempotencyCache.lookup (freshId before order.core.agentId env.now) = none :=
      held.minted.unseen rfl since
    have unseenStill : (drawn before core order.core.agentId env.now).state.idempotencyCache.lookup
        (freshId before order.core.agentId env.now) = none := (quiet.answers _).trans unseen
    have minted : freshId before order.core.agentId env.now =
        ((before.generatorFor order.core.agentId).next env.now).1 := rfl
    have answers : ∀ probe, ((drawn before core order.core.agentId env.now).recordOrder
        (pendingRecord checked.core (freshId before order.core.agentId env.now) env.now)
        ⟨order.core.id, freshId before order.core.agentId env.now, env.now⟩).state.idempotencyCache.lookup probe =
          if probe = freshId before order.core.agentId env.now then
            some ⟨order.core.id, freshId before order.core.agentId env.now, env.now⟩
          else before.state.idempotencyCache.lookup probe := by
      intro probe
      rw [Sequencer.state_recordOrder, lookup_insert_if, quiet.answers]
    refine ⟨held.minted.answered minted rfl answers since grow, ?_⟩
    have kept : Distinct (drawn before core order.core.agentId env.now).state := held.distinct.of_noNewIds quiet
    rw [Sequencer.state_recordOrder]
    exact kept.recorded unseenStill rfl
  | @reported orderId record rewritten command event found report =>
    have same := report.clientOrderId
    have quiet : NoNewIds before.state (before.putOrder orderId rewritten).state := by
      rw [Sequencer.state_putOrder]
      exact SameBook.noNewIds (sameBook_putOrder found same)
    exact held.of_noNewIds quiet (Or.inl rfl) grow
  | filled called found left emitted => exact held.of_noNewIds (calls.fills called) (Or.inl rfl) grow
  | called own quiet unrelated => exact held.of_noNewIds (calls.keeps own) (Or.inl rfl) grow
  | limitsRefused respond failed => exact held.of_noNewIds (calls.limits_keep failed) (Or.inl rfl) grow
  | silent reply quiet => exact held

variable [EventJournal J Weather]

/-- What a command asks to be made durable can be started from. -/
theorem requested_restorable (calls : CoreCalls C NoNewIds fun _ => NoNewIds) {sequencer : Sequencer C J}
    {env : Environment Weather} (held : WellNumbered sequencer) (since : env.now.SinceEpoch)
    (grow : CountersGrow sequencer (sequencer.processCommand command env).sequencer)
    (requested : requestedCommit sequencer command env = some commit) : Restorable commit.snapshot.state := by
  obtain ⟨outcome, completion, -, rfl⟩ := requestedCommit_some requested
  have handling := handleCommand_handling (numbered sequencer) command env completion
  refine commitOf_restorable (Handling.wellNumbered calls handling held.numbered since fun agent => ?_) _ _ _
  have grown := grow agent
  rwa [counterOf_eq (processCommand_generators sequencer command env) agent] at grown

/-- A command after which the loop goes on. -/
theorem Processing.wellNumbered (calls : CoreCalls C NoNewIds fun _ => NoNewIds) {sequencer after : Sequencer C J}
    {env : Environment Weather} (processing : Processing sequencer command env effects commit after)
    (held : WellNumbered sequencer) (since : env.now.SinceEpoch) (grow : CountersGrow sequencer after) :
    WellNumbered after := by
  cases processing with
  | idle handling quiet => exact Handling.wellNumbered calls handling held.numbered since grow
  | @committed handled effects outcome commit journal handling commits asked persisted =>
    have growth : CountersGrow (numbered sequencer) handled := grow
    have kept := Handling.wellNumbered calls handling held.numbered since growth
    have quiet := SameBook.noNewIds (settled_untouched handled commit journal).sameBook
    exact kept.of_noNewIds quiet (Or.inl rfl) fun _ => Nat.le_refl _

/-- The process, gone or running, and the last durable commit. -/
inductive World (C J : Type) where
  | down (durable : Option (SequenceId × EngineStateSnapshot))
  | up (durable : Option (SequenceId × EngineStateSnapshot)) (sequencer : Sequencer C J)

/-- One step. A process can end at any point, before the commit of the command at
hand is durable or behind it; the next start finds what is durable, on whatever
journal value that leaves. The clock is at or after the epoch, otherwise free; no
counter wraps. -/
inductive Step : World C J → World C J → Prop
  | booted {durable : Option (SequenceId × EngineStateSnapshot)} {core : C} {journal : J} {epoch : Nat}
      {sequencer : Sequencer C J} (boots : Boots durable core journal epoch sequencer) :
      Step (.down durable) (.up durable sequencer)
  | wired {durable : Option (SequenceId × EngineStateSnapshot)} {sequencer : Sequencer C J} :
      Step (.up durable sequencer) (.up durable sequencer.withVenueSubmitTx)
  | processed {durable : Option (SequenceId × EngineStateSnapshot)} {sequencer next : Sequencer C J}
      {command : SequencerCommand} {env : Environment Weather} {turn : Turn} (since : env.now.SinceEpoch)
      (grow : CountersGrow sequencer next) (processes : Processes sequencer command env turn next) :
      Step (.up durable sequencer) (.up ((turn.commit.map stored).or durable) next)
  | ended {durable : Option (SequenceId × EngineStateSnapshot)} {sequencer : Sequencer C J} :
      Step (.up durable sequencer) (.down durable)
  | endedCommitted {durable : Option (SequenceId × EngineStateSnapshot)} {sequencer : Sequencer C J}
      {command : SequencerCommand} {env : Environment Weather} {commit : Commit} (since : env.now.SinceEpoch)
      (grow : CountersGrow sequencer (sequencer.processCommand command env).sequencer)
      (requested : requestedCommit sequencer command env = some commit) :
      Step (.up durable sequencer) (.down (some (stored commit)))

/-- What every run keeps. -/
inductive Kept : World C J → Prop
  | down {durable : Option (SequenceId × EngineStateSnapshot)} (restorable : DurableRestorable durable) :
      Kept (.down durable)
  | up {durable : Option (SequenceId × EngineStateSnapshot)} {sequencer : Sequencer C J}
      (restorable : DurableRestorable durable) (held : WellNumbered sequencer) : Kept (.up durable sequencer)

theorem Kept.step (calls : CoreCalls C NoNewIds fun _ => NoNewIds) (restores : RestoresState C)
    {world next : World C J} (kept : Kept world) (step : Step world next) : Kept next := by
  cases step with
  | booted boots =>
    cases kept with
    | down restorable =>
      obtain ⟨numbering, -, -⟩ := boots.begins restores
      exact .up restorable (wellNumbered_restored (boots.restorable restores restorable) numbering)
  | wired =>
    cases kept with
    | up restorable held => exact .up restorable ⟨⟨held.minted.generators, held.minted.answers⟩, held.distinct⟩
  | @processed durable sequencer next command env turn since grow processes =>
    cases kept with
    | up restorable held =>
      refine .up ?_ (Processing.wellNumbered calls processes.processing held since grow)
      cases asked : turn.commit with
      | none => exact restorable
      | some commit =>
        have requested : requestedCommit sequencer command env = some commit := by
          rw [← asked, processes.turn]
          rfl
        rw [processes.next] at grow
        exact stored_restorable (requested_restorable calls held since grow requested)
  | ended =>
    cases kept with
    | up restorable held => exact .down restorable
  | endedCommitted since grow requested =>
    cases kept with
    | up restorable held => exact .down (stored_restorable (requested_restorable calls held since grow requested))

theorem kept_of_run (calls : CoreCalls C NoNewIds fun _ => NoNewIds) (restores : RestoresState C)
    {world : World C J} (run : Relation.ReflTransGen Step (.down none) world) : Kept world := by
  induction run with
  | refl => exact .down nothing_restorable
  | tail _ step ih => exact ih.step calls restores step

/-- The ids across any number of restarts: no two orders of a running sequencer
share a client order id; and after a start from the durable state every cached id
is one printed for some agent, whose restored generator stands above its number,
whatever the order in which the cache is read. -/
theorem client_order_ids_unique (calls : CoreCalls C NoNewIds fun _ => NoNewIds) (restores : RestoresState C)
    {world : World C J} (run : Relation.ReflTransGen Step (.down none) world) :
    (∀ durable sequencer, world = .up durable sequencer → ∀ first second clientOrderId,
      clientIdOf sequencer.state first = some clientOrderId →
      clientIdOf sequencer.state second = some clientOrderId → first = second) ∧
    ∀ durable, world = .down durable → ∀ core journal epoch (sequencer : Sequencer C J),
      Boots durable core journal epoch sequencer →
        (∀ sequenceId snapshot, durable = some (sequenceId, snapshot) → sequencer.state = snapshot.state) ∧
        (∀ clientOrderId ack, sequencer.state.idempotencyCache.lookup clientOrderId = some ack →
          ∃ agent millis sequence printedEpoch, 0 ≤ millis ∧ sequence < u64Limit ∧
            ack.clientOrderId = .format agent millis sequence printedEpoch ∧
            ∃ generator, sequencer.clientOrderIdGenerators.lookup ⟨agent⟩ = some generator ∧
              sequence < generator.counter) ∧
        ∀ iteration, iteration.Perm (values sequencer.state.idempotencyCache) →
          ∃ counters, nextSequences iteration ∅ = .ok counters ∧ ∀ agent,
            sequencer.clientOrderIdGenerators.lookup agent =
              (counters.lookup agent).map (.withStartSeq agent epoch) := by
  have kept := kept_of_run calls restores run
  constructor
  · rintro durable sequencer rfl first second clientOrderId known shared
    cases kept with
    | up restorable held => exact held.distinct.orders_apart known shared
  · rintro durable rfl core journal epoch sequencer boots
    cases kept with
    | down restorable =>
      obtain ⟨numbering, -, restored⟩ := boots.begins restores
      have begun := boots.restorable restores restorable
      refine ⟨restored, fun clientOrderId ack cached => ?_, fun iteration same => ?_⟩
      · obtain ⟨agent, millis, sequence, printed, since, room, shape⟩ := begun.printed clientOrderId ack cached
        have bound : sequence < u64Limit := by omega
        have read := mem_sequencesOf begun.distinct cached since bound shape
        obtain ⟨counter, raised, above⟩ := lt_raiseAll none read
        refine ⟨agent, millis, sequence, printed, since, bound,
          (begun.distinct.keyed clientOrderId ack cached).trans shape, .withStartSeq ⟨agent⟩ epoch counter, ?_, above⟩
        rw [restoreClientOrderGenerators_lookup numbering, raised]
        rfl
      · have printed : ∀ ack ∈ iteration, Printed ack.clientOrderId := by
          intro ack member
          obtain ⟨clientOrderId, cached⟩ := (mem_values _ _).mp (same.mem_iff.mp member)
          obtain ⟨agent, millis, sequence, printed, since, room, shape⟩ := begun.printed clientOrderId ack cached
          exact ⟨agent, millis, sequence, printed, room, (begun.distinct.keyed clientOrderId ack cached).trans shape⟩
        obtain ⟨counters, read⟩ := nextSequences_printed printed ∅
        refine ⟨counters, read, fun agent => ?_⟩
        have numbers : (sequencesOf agent iteration).Perm
            (sequencesOf agent (values sequencer.state.idempotencyCache)) := same.filterMap _
        rw [restoreClientOrderGenerators_lookup numbering, nextSequences_lookup read, AList.lookup_empty,
          raiseAll_perm numbers]

end Counters

section TwoLives
open Journal SequencerFixtures SequencerFixtures.Plain

theorem testCore_calls : CoreCalls TestCore NoNewIds fun _ => NoNewIds where
  keeps own := SameBook.noNewIds (TestCore.sameBook_contract.keeps own)
  fills filled := SameBook.noNewIds (TestCore.sameBook_contract.fills filled)

theorem testCore_restores : RestoresState TestCore := fun _ _ _ called => TestCore.trait_defaults.restored called

/-- The start after it, with the same restart epoch. -/
def secondBoot : Sequencer TestCore (SqliteJournal PlainBlob) :=
  match Sequencer.new freshCore firstLife.journal 0 with
  | .ok sequencer => sequencer
  | _ => firstBoot

/-- Another order of the same agent at the same time. -/
def submitAnother : SequencerCommand := .submitOrder (sampleOrder "order-2" ⟨0⟩) 1

def secondLife : Sequencer TestCore (SqliteJournal PlainBlob) :=
  (secondBoot.processCommand submitAnother calm).sequencer

/-- What is durable after a first order. -/
def firstDurable : Option (SequenceId × EngineStateSnapshot) :=
  ((turnOf firstBoot submit calm).commit.map stored).or none

private theorem second_life : ∃ durable,
    Relation.ReflTransGen Step (.down none : World TestCore (SqliteJournal PlainBlob)) (.up durable secondLife) := by
  have since : calm.now.SinceEpoch := Int.le_refl 0
  have booted : Step (.down none) (.up none firstBoot) :=
    .booted ⟨fun _ => ⟨rfl, rfl⟩, rfl, (rfl : Sequencer.new freshCore freshJournal 0 = .ok firstBoot)⟩
  have submitted : Step (.up none firstBoot) (.up firstDurable firstLife) :=
    .processed since (fun _ => Nat.zero_le _) ⟨⟨none, rfl⟩, rfl, rfl⟩
  have again : Step (.down firstDurable) (.up firstDurable secondBoot) :=
    .booted ⟨nofun, rfl, (rfl : Sequencer.new freshCore firstLife.journal 0 = .ok secondBoot)⟩
  have room : counterOf secondBoot ⟨"athena"⟩ + 1 < u64Limit := by decide +kernel
  have grow : CountersGrow secondBoot secondLife := by
    apply growth_of_room _ room
    · exact calm.now
    · rfl
  have another : Step (.up firstDurable secondBoot)
      (.up (((turnOf secondBoot submitAnother calm).commit.map stored).or firstDurable) secondLife) :=
    .processed since grow ⟨⟨none, rfl⟩, rfl, rfl⟩
  exact ⟨_, .tail (.tail (.tail (.tail (.tail .refl booted) submitted) .ended) again) another⟩

/-- The two lives' orders have ids, and not the same one. -/
theorem restart_keeps_ids_apart : ∃ first second,
    clientIdOf secondLife.state ⟨"order-1"⟩ = some first ∧ clientIdOf secondLife.state ⟨"order-2"⟩ = some second ∧
      first ≠ second := by
  obtain ⟨durable, run⟩ := second_life
  have unique := (client_order_ids_unique testCore_calls testCore_restores run).1 durable secondLife rfl
  have first : (clientIdOf secondLife.state ⟨"order-1"⟩).isSome = true := by decide +kernel
  have second : (clientIdOf secondLife.state ⟨"order-2"⟩).isSome = true := by decide +kernel
  obtain ⟨one, known⟩ := Option.isSome_iff_exists.mp first
  obtain ⟨other, shared⟩ := Option.isSome_iff_exists.mp second
  refine ⟨one, other, known, shared, ?_⟩
  rintro rfl
  exact absurd (unique ⟨"order-1"⟩ ⟨"order-2"⟩ one known shared) (by decide)

end TwoLives

end FeynmanEngine.RestartNumbering
