import FeynmanEngine.Lifetimes
import FeynmanEngine.OrderBookkeeping
import FeynmanEngine.SequencerFixtures

/-! Crash recovery. Between commands the running core, the cached snapshot and
the latest stored snapshot are one state, whatever ended the earlier lives; and
the journal they leave can always be started from. The second half rests on the
cached answers: the generators are rebuilt from the ids in them. -/
namespace FeynmanEngine.CrashRecovery
open Ids Orders Events Tables Portfolio Engine Journal Sequencing JournalCommits CommandCases
open OrderBookkeeping SequencerFixtures SequencerStart Lifetimes Traces

/-- Every cached answer carries an id that can be read back. -/
def PrintedAnswers (state : EngineState) : Prop :=
  ∀ clientOrderId ack, state.idempotencyCache.lookup clientOrderId = some ack →
    Printed ack.clientOrderId

theorem PrintedAnswers.of_sameAnswers (printed : PrintedAnswers before)
    (same : SameAnswers before after) : PrintedAnswers after := by
  intro clientOrderId ack found
  rw [same] at found
  exact printed clientOrderId ack found

section Counters
variable {C J Weather : Type}

/-- Every counter is a `u64`. -/
def CountersBounded (sequencer : Sequencer C J) : Prop :=
  ∀ agent generator, sequencer.clientOrderIdGenerators.lookup agent = some generator →
    generator.counter < u64Limit

theorem CountersBounded.counterOf {sequencer : Sequencer C J} (bounded : CountersBounded sequencer)
    (agent : AgentId) : OrderBookkeeping.counterOf sequencer agent < u64Limit := by
  unfold OrderBookkeeping.counterOf Sequencer.generatorFor
  cases found : sequencer.clientOrderIdGenerators.lookup agent with
  | none => exact Nat.two_pow_pos 64
  | some generator => exact bounded agent generator found

theorem CountersBounded.drawn {before after : Sequencer C J} (bounded : CountersBounded before)
    (generators : after.clientOrderIdGenerators = before.clientOrderIdGenerators.insert agent
      ((before.generatorFor agent).next now).2) : CountersBounded after := by
  intro probe generator found
  rw [generators, lookup_insert_if] at found
  by_cases hit : probe = agent
  · rw [if_pos hit] at found
    cases found
    exact Nat.mod_lt _ (Nat.two_pow_pos 64)
  · rw [if_neg hit] at found
    exact bounded probe generator found

variable [EngineCore C] [LibraryText]

/-- A handled command leaves counters in range and answers readable. -/
theorem Handling.readable (calls : CoreCalls C SameAnswers fun _ => SameAnswers)
    {before after : Sequencer C J} {env : Environment Weather}
    (handling : Handling before env command after effects outcome) (bounded : CountersBounded before)
    (printed : PrintedAnswers before.state) (grow : CountersGrow before after) :
    CountersBounded after ∧ PrintedAnswers after.state := by
  cases handling with
  | answered respond known => exact ⟨bounded, printed⟩
  | refused respond unknown evaluated =>
    exact ⟨bounded, printed.of_sameAnswers (calls.evaluate_keeps evaluated)⟩
  | @unroutable order core checked reason respond unknown evaluated =>
    have kept := calls.evaluate_keeps evaluated
    exact ⟨bounded.drawn (drawn_generators before core order.core.agentId env.now),
      printed.of_sameAnswers kept⟩
  | @accepted order core checked sent respond unknown evaluated ready routed =>
    have kept : PrintedAnswers (EngineCore.state core) :=
      printed.of_sameAnswers (calls.evaluate_keeps evaluated)
    have moved := drawn_generators before core order.core.agentId env.now
    have room := room_of_growth moved (bounded.counterOf order.core.agentId) grow
    refine ⟨bounded.drawn moved, ?_⟩
    intro clientOrderId ack found
    rw [Sequencer.state_recordOrder] at found
    simp only [lookup_insert_if] at found
    split at found
    · cases found
      exact ⟨_, _, _, _, room, rfl⟩
    · exact kept clientOrderId ack found
  | reported found report =>
    refine ⟨bounded, ?_⟩
    rw [Sequencer.state_putOrder]
    exact printed
  | filled called found left emitted => exact ⟨bounded, printed.of_sameAnswers (calls.fills called)⟩
  | called own quiet unrelated => exact ⟨bounded, printed.of_sameAnswers (calls.keeps own)⟩
  | limitsRefused respond failed =>
    exact ⟨bounded, printed.of_sameAnswers (calls.limits_keep failed)⟩
  | silent reply quiet => exact ⟨bounded, printed⟩

/-- A handled command that asks for no commit has changed no state. -/
theorem Handling.unchanged (atomic : LimitsAtomic C) {before after : Sequencer C J}
    {env : Environment Weather} (handling : Handling before env command after effects outcome)
    (quiet : outcome.shouldCommit = false) : after.state = before.state := by
  cases handling with
  | answered respond known => rfl
  | refused respond unknown evaluated => cases quiet
  | unroutable respond unknown evaluated => cases quiet
  | accepted respond unknown evaluated ready routed => cases quiet
  | reported found report => cases quiet
  | filled called found left emitted => cases quiet
  | called own silent unrelated => cases quiet
  | @limitsRefused agent limits core error respond failed =>
    exact atomic before.core core agent limits error failed
  | silent reply none => rfl

end Counters

section Histories
variable {C Blob : Type} [EngineCore C] [MessagePack Blob]

/-- A core that brings no cached answers of its own. -/
def NothingCached (core : C) : Prop := (EngineCore.state core).idempotencyCache = ∅

/-- `Sequencer::new` on a journal of commits succeeds, and where there is a
commit it starts from the latest one. -/
theorem new_succeeds (defaults : TraitDefaults C) {journal : SqliteJournal Blob}
    (held : Holds journal commits)
    (printed : ∀ commit, commits.getLast? = some commit → PrintedAnswers commit.snapshot.state)
    {core : C} (uncached : NothingCached core) (epoch : Nat) :
    ∃ sequencer, Sequencer.new core journal epoch = .ok sequencer ∧
      ∀ commit, commits.getLast? = some commit →
        sequencer.state = commit.snapshot.state ∧ sequencer.snapshotCache = commit.snapshot := by
  have loaded := held.loadLatestSnapshot
  obtain ⟨newest, tail, among⟩ := held.latestSequenceId
  cases last : commits.getLast? with
  | none =>
    have empty := List.getLast?_eq_none_iff.mp last
    subst empty
    have applied : Sequencer.hasUnappliedTail journal none newest = .ok false := by
      have replayed : EventJournal.replayFrom journal .zero = .ok [] := held.replay_all
      simp only [Sequencer.hasUnappliedTail, replayed]
      rfl
    have nothing : PrintedAnswers (EngineCore.state core) := by
      intro clientOrderId ack found
      rw [show (EngineCore.state core).idempotencyCache = ∅ from uncached] at found
      simp at found
    obtain ⟨generators, numbering⟩ := restoreClientOrderGenerators_printed nothing epoch
    exact ⟨_, (new_ok_iff core journal epoch _).mpr (.fresh loaded tail applied numbering), by simp⟩
  | some commit =>
    rw [last] at loaded
    have called := defaults.restores core commit.snapshot
    have restored := EngineCore.state_stateMut core fun _ => commit.snapshot.state
    have applied : Sequencer.hasUnappliedTail journal (some (commit.sequenceId, commit.snapshot)) newest =
        .ok false := by
      have reached : newest.val ≤ commit.sequenceId.val := by
        obtain ⟨earlier, rfl⟩ := List.getLast?_eq_some_iff.mp last
        rcases among with rfl | ⟨owner, member, rfl⟩
        · exact Nat.zero_le _
        · rcases List.mem_append.mp member with old | same
          · exact ((List.pairwise_append.mp held.increasing).2.2 owner old commit (by simp)).le
          · rw [List.mem_singleton.mp same]
      simp [Sequencer.hasUnappliedTail, reached]
    have readable := printed commit last
    rw [← restored] at readable
    obtain ⟨generators, numbering⟩ := restoreClientOrderGenerators_printed readable epoch
    refine ⟨_, (new_ok_iff core journal epoch _).mpr (.restored loaded tail applied called numbering), ?_⟩
    rintro other ⟨⟩
    exact ⟨restored, rfl⟩

/-- What crash recovery rests on: the running state, the cached snapshot and the
latest commit are one, and the ids in it can be read back. -/
structure Recoverable (commits : List Commit) (world : World C Blob) : Prop where
  latest : ∀ commit, commits.getLast? = some commit → PrintedAnswers commit.snapshot.state
  readable : ∀ sequencer, world = .up sequencer →
    CountersBounded sequencer ∧ PrintedAnswers sequencer.state
  agrees : ∀ sequencer, world = .up sequencer → sequencer.snapshotCache.state = sequencer.state ∧
    ∀ commit, commits.getLast? = some commit → sequencer.snapshotCache = commit.snapshot

omit [MessagePack Blob] in
/-- Nothing runs while the process is down. -/
theorem Recoverable.down
    (latest : ∀ commit, commits.getLast? = some commit → PrintedAnswers commit.snapshot.state)
    (journal : SqliteJournal Blob) : Recoverable commits (.down journal : World C Blob) := by
  refine ⟨latest, ?_, ?_⟩
  · rintro sequencer ⟨⟩
  · rintro sequencer ⟨⟩

theorem recoverable_boot (defaults : TraitDefaults C) {journal : SqliteJournal Blob}
    {sequencer : Sequencer C (SqliteJournal Blob)} (held : Holds journal commits)
    (latest : ∀ commit, commits.getLast? = some commit → PrintedAnswers commit.snapshot.state)
    {core : C} (uncached : NothingCached core)
    (started : Sequencer.new core journal epoch = .ok sequencer) :
    Recoverable commits (.up sequencer) := by
  obtain ⟨numbering, source⟩ := started_from held started
  have inRange : CountersBounded sequencer :=
    fun _ _ found => restoreClientOrderGenerators_bounded numbering found
  rcases source with ⟨none, same, cache⟩ | ⟨commit, last, called, cache, -⟩
  · refine ⟨latest, ?_, ?_⟩
    · rintro running ⟨⟩
      refine ⟨inRange, fun clientOrderId ack found => ?_⟩
      have empty : (EngineCore.state core).idempotencyCache = ∅ := uncached
      rw [Sequencer.state, same, empty] at found
      simp at found
    · rintro running ⟨⟩
      refine ⟨by rw [cache, defaults.snapshots, Sequencer.state, same], fun commit last => ?_⟩
      rw [none] at last
      cases last
  · have restored : sequencer.state = commit.snapshot.state := defaults.restored called
    refine ⟨latest, ?_, ?_⟩
    · rintro running ⟨⟩
      rw [restored]
      exact ⟨inRange, latest commit last⟩
    · rintro running ⟨⟩
      refine ⟨by rw [cache, restored], fun other found => ?_⟩
      rw [last] at found
      cases found
      exact cache

variable [LibraryText]

/-- Numbers stay in the column's range and no counter wraps. -/
def WellCounted (sequencer : Sequencer C (SqliteJournal Blob)) (command : SequencerCommand)
    (env : Environment Weather) (_ : Ending) : Prop :=
  sequencer.sequenceGen.next.val < i64Limit ∧
    CountersGrow sequencer (sequencer.processCommand command env).sequencer

/-- A state asked to be made durable is readable. -/
theorem requested_printed (calls : CoreCalls C SameAnswers fun _ => SameAnswers)
    {sequencer : Sequencer C (SqliteJournal Blob)} (bounded : CountersBounded sequencer)
    (printed : PrintedAnswers sequencer.state)
    (grow : CountersGrow sequencer (sequencer.processCommand command env).sequencer)
    (requested : requestedCommit sequencer command env = some commit) :
    CountersBounded ((numbered sequencer).handleCommand command env).sequencer ∧
      PrintedAnswers commit.snapshot.state := by
  obtain ⟨outcome, completion, -, rfl⟩ := requestedCommit_some requested
  have handling := handleCommand_handling (numbered sequencer) command env completion
  refine Handling.readable calls handling bounded printed fun agent => ?_
  have grown := grow agent
  rwa [counterOf_eq (processCommand_generators sequencer command env) agent] at grown

/-- A command after which the loop goes on. -/
theorem recoverable_processed (atomic : LimitsAtomic C)
    (calls : CoreCalls C SameAnswers fun _ => SameAnswers)
    {sequencer next : Sequencer C (SqliteJournal Blob)} (held : Recoverable commits (.up sequencer))
    (grow : CountersGrow sequencer (sequencer.processCommand command env).sequencer)
    (processes : Processes sequencer command env turn next) :
    Recoverable (commits ++ turn.commit.toList) (.up next) := by
  obtain ⟨bounded, printed⟩ := held.readable sequencer rfl
  obtain ⟨same, cached⟩ := held.agrees sequencer rfl
  have processing := processes.processing
  have grown : CountersGrow sequencer next := by rwa [processes.next]
  generalize turn.commit = requested at processing
  cases processing with
  | idle handling quiet =>
    have kept : next.state = (numbered sequencer).state := Handling.unchanged atomic handling quiet
    have cache : next.snapshotCache = sequencer.snapshotCache := handling.frame.snapshotCache
    simp only [Option.toList, List.append_nil]
    refine ⟨held.latest, ?_, ?_⟩
    · rintro running ⟨⟩
      exact Handling.readable calls handling bounded printed grown
    · rintro running ⟨⟩
      rw [cache, kept]
      exact ⟨same, cached⟩
  | @committed handled _ outcome commit journal handling commits asked persisted =>
    have growth : CountersGrow (numbered sequencer) handled := grown
    obtain ⟨inRange, readable⟩ := Handling.readable calls handling bounded printed growth
    have stored : PrintedAnswers commit.snapshot.state := by
      rw [asked]
      exact readable
    have written : (settled handled commit journal).state = commit.snapshot.state := by
      rw [asked]
      exact Sequencer.state_updateMetadata _ _ _
    refine ⟨?_, ?_, ?_⟩
    · intro other found
      obtain rfl : commit = other := by simpa using found
      exact stored
    · rintro running ⟨⟩
      rw [written]
      exact ⟨inRange, stored⟩
    · rintro running ⟨⟩
      refine ⟨written.symm, fun other found => ?_⟩
      obtain rfl : commit = other := by simpa using found
      rfl

theorem recoverable_step (defaults : TraitDefaults C) (atomic : LimitsAtomic C)
    (calls : CoreCalls C SameAnswers fun _ => SameAnswers) {world next : World C Blob}
    (chronicle : Chronicle commits world) (held : Recoverable commits world)
    (move : Lives NothingCached WellCounted world moment next) :
    Recoverable (commits ++ moment.commit.toList) next := by
  cases move with
  | booted permitted started =>
    simp only [Moment.quiet, Option.toList, List.append_nil]
    exact recoverable_boot defaults chronicle.held held.latest permitted started
  | @wired sequencer =>
    simp only [Moment.quiet, Option.toList, List.append_nil]
    refine ⟨held.latest, ?_, ?_⟩
    · rintro running ⟨⟩
      exact held.readable sequencer rfl
    · rintro running ⟨⟩
      exact held.agrees sequencer rfl
  | killed =>
    simp only [Moment.quiet, Option.toList, List.append_nil]
    exact .down held.latest _
  | processed permitted processes => exact recoverable_processed atomic calls held permitted.2 processes
  | @stopped sequencer command env permitted =>
    obtain ⟨bounded, printed⟩ := held.readable sequencer rfl
    refine .down ?_ _
    cases durable : durableCommit sequencer command env with
    | none => simpa using held.latest
    | some commit =>
      intro other found
      obtain rfl : commit = other := by simpa using found
      have requested := (Option.filter_eq_some_iff.mp durable).1
      exact (requested_printed calls bounded printed permitted.2 requested).2
  | crashed permitted =>
    simp only [Option.toList, List.append_nil]
    exact .down held.latest _

theorem life_recoverable (defaults : TraitDefaults C) (atomic : LimitsAtomic C)
    (calls : CoreCalls C SameAnswers fun _ => SameAnswers) {world : World C Blob}
    (life : Life NothingCached WellCounted moments world) :
    Recoverable (commitsOf moments) world := by
  induction life with
  | start =>
    exact .down (fun commit found => by simp [commitsOf] at found) _
  | @step moments world moment next path move ih =>
    have earlier : Life NothingCached WellCounted moments world := path
    have chronicle := earlier.chronicle fun _ _ _ _ counted => counted.1
    rw [commitsOf_snoc]
    exact recoverable_step defaults atomic calls chronicle ih move

/-- Crash recovery: while the process runs, core and cached snapshot agree, with
the latest durable commit once there is one, and that is what a snapshot command
reports; every durable snapshot is the state a successful handler made of the
durable state before it, whole; and the journal can always be started from,
which restores the latest durable state. -/
theorem crash_recovery (defaults : TraitDefaults C) (atomic : LimitsAtomic C)
    (calls : CoreCalls C SameAnswers fun _ => SameAnswers) {world : World C Blob}
    (life : Life NothingCached WellCounted moments world) :
    (∀ sequencer, world = .up sequencer → sequencer.snapshotCache.state = sequencer.state ∧
      (∀ respond (env : Environment Weather),
        (sequencer.processCommand (.snapshot respond) env).effects =
          [.snapshotReply respond sequencer.snapshotCache]) ∧
      ∀ commit, (commitsOf moments).getLast? = some commit →
        sequencer.state = commit.snapshot.state ∧ sequencer.snapshotCache = commit.snapshot ∧
        sequencer.journal.loadLatestSnapshot = .ok (some (commit.sequenceId, commit.snapshot))) ∧
    (∀ before moment after commit, moments = before ++ moment :: after →
      moment.commit = some commit →
      ∃ sequencer command, ∃ env : Environment Weather, ∃ outcome,
        Life NothingCached WellCounted before (.up sequencer : World C Blob) ∧
        (∀ earlier, (commitsOf before).getLast? = some earlier →
          sequencer.state = earlier.snapshot.state) ∧
        ((numbered sequencer).handleCommand command env).completion = .ok outcome ∧
        commit.snapshot.state =
          { ((numbered sequencer).handleCommand command env).sequencer.state with
            lastSequenceId := sequencer.sequenceGen.next, lastUpdated := env.now }) ∧
    ∀ (core : C) (epoch : Nat), NothingCached core →
      ∃ sequencer, Sequencer.new core world.journal epoch = .ok sequencer ∧
        ∀ commit, (commitsOf moments).getLast? = some commit →
          sequencer.state = commit.snapshot.state ∧ sequencer.snapshotCache = commit.snapshot := by
  have chronicle := life.chronicle fun _ _ _ _ counted => counted.1
  have recoverable := life_recoverable defaults atomic calls life
  refine ⟨?_, ?_, ?_⟩
  · rintro sequencer rfl
    obtain ⟨same, cached⟩ := recoverable.agrees sequencer rfl
    refine ⟨same, fun _ _ => rfl, fun commit last => ?_⟩
    have stored : sequencer.journal.loadLatestSnapshot = _ := chronicle.held.loadLatestSnapshot
    rw [last] at stored
    refine ⟨?_, cached commit last, stored⟩
    rw [← same, cached commit last]
  · rintro before moment after commit rfl made
    obtain ⟨world', next, earlier, move, -⟩ := life.at_label
    have prior : Life NothingCached WellCounted before world' := earlier
    have agreed := life_recoverable defaults atomic calls prior
    obtain ⟨sequencer, command, env, rfl, -, requested⟩ := lives_requested move made
    obtain ⟨outcome, completion, -, rfl⟩ := requestedCommit_some requested
    refine ⟨sequencer, command, env, outcome, prior, fun commit last => ?_, completion, rfl⟩
    obtain ⟨same, cached⟩ := agreed.agrees sequencer rfl
    rw [← same, cached commit last]
  · intro core epoch uncached
    exact new_succeeds defaults chronicle.held recoverable.latest uncached epoch

end Histories

section Restart
open Plain

/-- The restarted process is in the state it was killed in. -/
theorem crash_recovery_after_kill :
    ∃ sequencer : Sequencer TestCore (SqliteJournal PlainBlob),
      Sequencer.new freshCore firstLife.journal 1 = .ok sequencer ∧ sequencer.state = firstLife.state := by
  have blank : Life (@NothingCached TestCore _) WellCounted [] (.down freshJournal) := .start
  have uncached : NothingCached freshCore := rfl
  have booted := blank.boot uncached (rfl : Sequencer.new freshCore freshJournal 0 = .ok firstBoot)
  have counted : WellCounted firstBoot submit calm .goesOn :=
    ⟨(by decide : 1 < i64Limit), fun _ => Nat.zero_le _⟩
  have submitted := booted.process submit calm counted rfl
  have killed := submitted.kill
  obtain ⟨-, -, restarts⟩ := crash_recovery TestCore.trait_defaults TestCore.limits_atomic
    TestCore.sameAnswers_calls killed
  obtain ⟨sequencer, started, restored⟩ := restarts freshCore 1 uncached
  exact ⟨sequencer, started, (restored _ rfl).1⟩

end Restart

end FeynmanEngine.CrashRecovery
