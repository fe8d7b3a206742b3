import FeynmanEngine.CommandCases
import FeynmanEngine.HighWater

/-! What `Sequencer::new` starts from: an empty journal and the core as it is,
or the latest snapshot. The generators are rebuilt from the cached answers. -/
namespace FeynmanEngine.SequencerStart
open Ids Orders Events Tables Portfolio Engine Sequencing JournalCommits CommandCases HighWater

/-- A client order id the generators print with room for the next one. -/
def Printed (clientOrderId : ClientOrderId) : Prop :=
  ∃ agent millis sequence epoch, sequence + 1 < u64Limit ∧
    clientOrderId = .format agent millis sequence epoch

/-- Printed ids are always read back, into any table of counters. -/
theorem nextSequences_printed {acks : List OrderAck}
    (printed : ∀ ack ∈ acks, Printed ack.clientOrderId) (counters : Table AgentId Nat) :
    ∃ result, nextSequences acks counters = .ok result := by
  induction acks generalizing counters with
  | nil => exact ⟨counters, rfl⟩
  | cons ack rest ih =>
    obtain ⟨agent, millis, sequence, epoch, room, shape⟩ := printed ack (by simp)
    have later : ∀ other ∈ rest, Printed other.clientOrderId :=
      fun other member => printed other (by simp [member])
    obtain ⟨owner, parsed⟩ := Option.isSome_iff_exists.mp
      (ClientOrderId.format_agent_isSome agent millis sequence epoch)
    have bound : sequence < u64Limit := by omega
    have number := ClientOrderId.format_sequence agent millis epoch bound
    rw [← shape] at parsed number
    simp only [nextSequences, parsed, number, Option.filter, room, decide_true, if_true]
    exact ih later _

/-- A state whose cached answers carry printed ids always gets its generators. -/
theorem restoreClientOrderGenerators_printed {state : EngineState}
    (printed : ∀ clientOrderId ack, state.idempotencyCache.lookup clientOrderId = some ack →
      Printed ack.clientOrderId) (epoch : Nat) :
    ∃ generators, restoreClientOrderGenerators state epoch = .ok generators := by
  have readable : ∀ ack ∈ values state.idempotencyCache, Printed ack.clientOrderId := by
    intro ack member
    obtain ⟨clientOrderId, found⟩ := (mem_values _ _).mp member
    exact printed clientOrderId ack found
  obtain ⟨counters, restored⟩ := nextSequences_printed readable ∅
  exact ⟨_, by rw [restoreClientOrderGenerators, restored]⟩

def sequencesOf (agent : AgentId) (acks : List OrderAck) : List Nat :=
  acks.filterMap fun ack =>
    if ack.clientOrderId.parseAgent = some agent then ack.clientOrderId.parseSequence else none

/-- What the pass over the answers leaves for an agent: its mark above the values read. -/
theorem nextSequences_lookup {acks : List OrderAck} {counters : Table AgentId Nat}
    (restored : nextSequences acks counters = .ok result) (agent : AgentId) :
    result.lookup agent = raiseAll (counters.lookup agent) (sequencesOf agent acks) := by
  induction acks generalizing counters with
  | nil =>
    cases restored
    rfl
  | cons ack rest ih =>
    unfold nextSequences at restored
    split at restored
    · cases restored
    · next owner parsed =>
      split at restored
      · cases restored
      · next sequence number =>
        have read := (Option.filter_eq_some_iff.mp number).1
        rw [ih restored, lookup_insert_if]
        by_cases hit : agent = owner
        · subst hit
          have first : sequencesOf agent (ack :: rest) = sequence :: sequencesOf agent rest := by
            simp [sequencesOf, parsed, read]
          rw [if_pos rfl, first]
          cases counters.lookup agent <;> rfl
        · have other : sequencesOf agent (ack :: rest) = sequencesOf agent rest := by
            simp [sequencesOf, parsed, Ne.symm hit]
          rw [if_neg hit, other]

theorem nextSequences_bounded {acks : List OrderAck} {counters : Table AgentId Nat}
    (bounded : ∀ agent next, counters.lookup agent = some next → next < u64Limit)
    (restored : nextSequences acks counters = .ok result) (found : result.lookup agent = some next) :
    next < u64Limit := by
  induction acks generalizing counters with
  | nil =>
    cases restored
    exact bounded agent next found
  | cons ack rest ih =>
    unfold nextSequences at restored
    split at restored
    · cases restored
    · next owner parsed =>
      split at restored
      · cases restored
      · next sequence number =>
        refine ih ?_ restored
        intro probe value stored
        have room : sequence + 1 < u64Limit := by
          simpa using (Option.filter_eq_some_iff.mp number).2
        rw [lookup_insert_if] at stored
        by_cases hit : probe = owner
        · rw [if_pos hit] at stored
          cases known : counters.lookup owner with
          | none =>
            rw [known] at stored
            cases stored
            exact room
          | some current =>
            have below := bounded owner current known
            rw [known] at stored
            cases stored
            exact max_lt below room
        · rw [if_neg hit] at stored
          exact bounded probe value stored

theorem restoreClientOrderGenerators_bounded
    (restored : restoreClientOrderGenerators state epoch = .ok generators)
    (found : generators.lookup agent = some generator) : generator.counter < u64Limit := by
  unfold restoreClientOrderGenerators at restored
  split at restored
  · cases restored
  · next counters numbered =>
    cases restored
    rw [lookup_mapValues] at found
    obtain ⟨next, stored, rfl⟩ := Option.map_eq_some_iff.mp found
    exact nextSequences_bounded (by simp) numbered stored

/-- A restored generator counts on from the mark above the values read. -/
theorem restoreClientOrderGenerators_lookup
    (restored : restoreClientOrderGenerators state epoch = .ok generators) (agent : AgentId) :
    generators.lookup agent = (raiseAll none (sequencesOf agent (values state.idempotencyCache))).map
      (.withStartSeq agent epoch) := by
  unfold restoreClientOrderGenerators at restored
  split at restored
  · cases restored
  · next counters numbered =>
    cases restored
    rw [lookup_mapValues, nextSequences_lookup numbered, AList.lookup_empty]

theorem restoreClientOrderGenerators_empty {state : EngineState} (empty : state.idempotencyCache = ∅)
    (restored : restoreClientOrderGenerators state epoch = .ok generators) (agent : AgentId) :
    generators.lookup agent = none := by
  have nothing : values state.idempotencyCache = [] := by
    rw [empty]
    rfl
  rw [restoreClientOrderGenerators, nothing, nextSequences] at restored
  cases restored
  rw [lookup_mapValues, AList.lookup_empty]
  rfl

section Startup
variable {C J Weather : Type} [EngineCore C] [EventJournal J Weather]

/-- The sequencers that can start from a core and a journal. -/
inductive Startup (core : C) (journal : J) (epoch : Nat) : Sequencer C J → Prop
  | fresh {generators : Table AgentId ClientOrderIdGenerator} {newest : SequenceId}
      (latest : EventJournal.loadLatestSnapshot journal = .ok none)
      (tail : EventJournal.latestSequenceId journal = .ok newest)
      (applied : Sequencer.hasUnappliedTail journal none newest = .ok false)
      (numbering : restoreClientOrderGenerators (EngineCore.state core) epoch = .ok generators) :
      Startup core journal epoch ⟨core, journal, .new (EngineCore.state core).lastSequenceId.next,
        EngineCore.snapshot core (EngineCore.state core).lastSequenceId
          (EngineCore.state core).lastUpdated, generators, epoch, false⟩
  | restored {after : C} {generators : Table AgentId ClientOrderIdGenerator} {newest : SequenceId}
      {sequenceId : SequenceId} {snapshot : EngineStateSnapshot}
      (latest : EventJournal.loadLatestSnapshot journal = .ok (some (sequenceId, snapshot)))
      (tail : EventJournal.latestSequenceId journal = .ok newest)
      (applied : Sequencer.hasUnappliedTail journal (some (sequenceId, snapshot)) newest = .ok false)
      (called : EngineCore.restoreSnapshot core snapshot = (after, .ok ()))
      (numbering : restoreClientOrderGenerators (EngineCore.state after) epoch = .ok generators) :
      Startup core journal epoch
        ⟨after, journal, .new sequenceId.next, snapshot, generators, epoch, false⟩

/-- `Sequencer::new` starts in one of these ways or not at all. -/
theorem new_ok_iff (core : C) (journal : J) (epoch : Nat) (sequencer : Sequencer C J) :
    Sequencer.new core journal epoch = .ok sequencer ↔ Startup core journal epoch sequencer := by
  constructor
  · intro started
    unfold Sequencer.new at started
    split at started
    · cases started
    · cases started
    · next latest newest loaded tail =>
      dsimp only at started
      cases latest with
      | none =>
        dsimp only at started
        split at started
        · cases started
        · cases started
        · next applied =>
          unfold Sequencer.assemble at started
          dsimp only at started
          split at started
          · cases started
          · next generators numbering =>
            cases started
            exact .fresh loaded tail applied numbering
      | some found =>
        obtain ⟨sequenceId, snapshot⟩ := found
        obtain ⟨after, completion, called⟩ : ∃ after completion,
            EngineCore.restoreSnapshot core snapshot = (after, completion) := ⟨_, _, rfl⟩
        dsimp only at started
        rw [called] at started
        cases completion with
        | err error => cases started
        | panicked => cases started
        | ok value =>
          dsimp only at started
          split at started
          · cases started
          · cases started
          · next applied =>
            unfold Sequencer.assemble at started
            dsimp only at started
            split at started
            · cases started
            · next generators numbering =>
              cases started
              exact .restored loaded tail applied called numbering
  · intro startup
    cases startup with
    | fresh latest tail applied numbering =>
      simp [Sequencer.new, latest, tail, applied, Sequencer.assemble, numbering]
    | restored latest tail applied called numbering =>
      simp [Sequencer.new, latest, tail, applied, called, Sequencer.assemble, numbering]

/-- A sequencer that starts without answers has drawn no ids. -/
theorem unnumbered_start {core : C} {journal : J} {first : Sequencer C J}
    (started : Sequencer.new core journal epoch = .ok first) (answers : first.state.idempotencyCache = ∅)
    (agent : AgentId) : first.clientOrderIdGenerators.lookup agent = none := by
  cases (new_ok_iff core journal epoch first).mp started with
  | fresh latest tail applied numbering => exact restoreClientOrderGenerators_empty answers numbering agent
  | restored latest tail applied called numbering =>
    exact restoreClientOrderGenerators_empty answers numbering agent

end Startup

end FeynmanEngine.SequencerStart
