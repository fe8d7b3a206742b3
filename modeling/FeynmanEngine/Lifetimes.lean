import FeynmanEngine.SequencerStart
import FeynmanEngine.Traces

/-! The lives of a sequencer's process over one SQLite journal. A process is
started from the journal, takes commands in any order, and ends by an error, by
a kill between commands or by a crash at any point inside one. The journal is
all that survives. Which cores may be started and which commands may be taken
is a parameter, so that each result names the assumptions it needs. -/
namespace FeynmanEngine.Lifetimes
open Ids Orders Events Tables Portfolio Engine Journal Sequencing JournalCommits CommandCases
open SequencerStart Traces

/-- The process over its journal: gone, or running. -/
inductive World (C Blob : Type) where
  | down (journal : SqliteJournal Blob)
  | up (sequencer : Sequencer C (SqliteJournal Blob))

def World.journal : World C Blob → SqliteJournal Blob
  | .down journal => journal
  | .up sequencer => sequencer.journal

/-- How a command ends for the process: the loop goes on; the process is gone
after `process_command`, by its error or by a crash behind the write; or it is
gone before the write, with the first few effects already visible. -/
inductive Ending where
  | goesOn
  | stops
  | crashes (visible : Nat)

/-- One step of a history: the number a command took, what was seen of it and
what it made durable. -/
structure Moment where
  number : Option SequenceId
  effects : List Effect
  commit : Option Commit

def Moment.quiet : Moment := ⟨none, [], none⟩

/-- The durable commits of a history, oldest first. -/
def commitsOf (moments : List Moment) : List Commit := moments.filterMap Moment.commit

/-- Everything seen of a history, in order. -/
def effectsOf (moments : List Moment) : List Effect := moments.flatMap Moment.effects

theorem commitsOf_snoc (moments : List Moment) (moment : Moment) :
    commitsOf (moments ++ [moment]) = commitsOf moments ++ moment.commit.toList := by
  cases found : moment.commit <;> simp [commitsOf, found]

theorem effectsOf_snoc (moments : List Moment) (moment : Moment) :
    effectsOf (moments ++ [moment]) = effectsOf moments ++ moment.effects := by
  simp [effectsOf]

/-- A requested commit carries the number its command took, throughout. -/
structure Stamped (number : SequenceId) (commit : Commit) : Prop where
  sequenceId : commit.sequenceId = number
  events : ∀ event ∈ commit.events, event.sequenceId = number
  snapshot : commit.snapshot.sequenceId = number
  state : commit.snapshot.state.lastSequenceId = number

theorem Stamped.wellFormed (stamped : Stamped number commit) (bounded : number.val < i64Limit) :
    commit.WellFormed := by
  obtain ⟨rfl, events, snapshot, -⟩ := stamped
  exact ⟨bounded, events, snapshot⟩

theorem SequenceId.next_val {number : SequenceId} (bounded : number.val < i64Limit) :
    number.next.val = number.val + 1 := by
  have room : number.val + 1 < u64Limit := Nat.lt_of_le_of_lt bounded (by decide)
  exact Nat.mod_eq_of_lt room

variable {C Blob : Type} [EngineCore C] [MessagePack Blob]

/-- The journal holds exactly the durable commits, and a running process counts
beyond all of them. -/
structure Chronicle (commits : List Commit) (world : World C Blob) : Prop where
  held : Holds world.journal commits
  ahead : ∀ sequencer, world = .up sequencer →
    ∀ commit ∈ commits, commit.sequenceId.val < sequencer.sequenceGen.next.val

/-- A start on a journal of commits: from the core as it is when there are none,
else from the latest. -/
theorem started_from {journal : SqliteJournal Blob} {sequencer : Sequencer C (SqliteJournal Blob)}
    (held : Holds journal commits) (started : Sequencer.new core journal epoch = .ok sequencer) :
    restoreClientOrderGenerators sequencer.state epoch = .ok sequencer.clientOrderIdGenerators ∧
    (commits.getLast? = none ∧ sequencer.core = core ∧
        sequencer.snapshotCache = EngineCore.snapshot core (EngineCore.state core).lastSequenceId
          (EngineCore.state core).lastUpdated ∨
      ∃ commit, commits.getLast? = some commit ∧
        EngineCore.restoreSnapshot core commit.snapshot = (sequencer.core, .ok ()) ∧
        sequencer.snapshotCache = commit.snapshot ∧
        sequencer.sequenceGen = .new commit.sequenceId.next) := by
  have loaded := held.loadLatestSnapshot
  cases (new_ok_iff core journal epoch sequencer).mp started with
  | fresh latest tail applied numbering =>
    have none := latest.symm.trans loaded
    simp only [Except.ok.injEq] at none
    rw [eq_comm, Option.map_eq_none_iff] at none
    exact ⟨numbering, Or.inl ⟨none, rfl, rfl⟩⟩
  | restored latest tail applied called numbering =>
    have some := latest.symm.trans loaded
    simp only [Except.ok.injEq] at some
    obtain ⟨commit, last, same⟩ := Option.map_eq_some_iff.mp some.symm
    obtain ⟨rfl, rfl⟩ := Prod.mk.inj same
    exact ⟨numbering, Or.inr ⟨commit, last, called, rfl, rfl⟩⟩

/-- A start on a journal with commits counts on from the latest of them. -/
theorem boot_ahead {sequencer : Sequencer C (SqliteJournal Blob)} (held : Holds journal commits)
    (started : Sequencer.new core journal epoch = .ok sequencer) :
    ∀ commit ∈ commits, commit.sequenceId.val < sequencer.sequenceGen.next.val := by
  intro commit member
  rcases (started_from held started).2 with ⟨none, -, -⟩ | ⟨newest, last, -, -, counts⟩
  · rw [List.getLast?_eq_none_iff.mp none] at member
    cases member
  · have bounded := held.bounded newest (List.mem_of_getLast? last)
    have counted : (SequenceGenerator.new newest.sequenceId.next).next.val =
        newest.sequenceId.val + 1 := SequenceId.next_val bounded
    obtain ⟨earlier, rfl⟩ := List.getLast?_eq_some_iff.mp last
    rw [counts, counted]
    rcases List.mem_append.mp member with old | same
    · have below := (List.pairwise_append.mp held.increasing).2.2 commit old newest (by simp)
      omega
    · rw [List.mem_singleton.mp same]
      omega

variable [LibraryText]

/-- The commit of a command, if its transaction commits. -/
def durableCommit (sequencer : Sequencer C (SqliteJournal Blob)) (command : SequencerCommand)
    (env : Environment Weather) : Option Commit :=
  (requestedCommit sequencer command env).filter fun commit =>
    sequencer.journal.lands env.weather commit.events (some commit.snapshot)

/-- One step in the life of the process. After a shutdown the loop still drains
what was sent before, so a command may follow any other. -/
inductive Lives (boots : C → Prop) (handles : Sequencer C (SqliteJournal Blob) → SequencerCommand →
    Environment Weather → Ending → Prop) : World C Blob → Moment → World C Blob → Prop
  | booted {core : C} {journal : SqliteJournal Blob} {epoch : Nat}
      {sequencer : Sequencer C (SqliteJournal Blob)} (permitted : boots core)
      (started : Sequencer.new core journal epoch = .ok sequencer) :
      Lives boots handles (.down journal) .quiet (.up sequencer)
  | wired {sequencer : Sequencer C (SqliteJournal Blob)} :
      Lives boots handles (.up sequencer) .quiet (.up sequencer.withVenueSubmitTx)
  | killed {sequencer : Sequencer C (SqliteJournal Blob)} :
      Lives boots handles (.up sequencer) .quiet (.down sequencer.journal)
  | processed {sequencer next : Sequencer C (SqliteJournal Blob)} {command : SequencerCommand}
      {env : Environment Weather} {turn : Turn} (permitted : handles sequencer command env .goesOn)
      (processes : Processes sequencer command env turn next) :
      Lives boots handles (.up sequencer) ⟨some sequencer.sequenceGen.next, turn.effects, turn.commit⟩
        (.up next)
  | stopped {sequencer : Sequencer C (SqliteJournal Blob)} {command : SequencerCommand}
      {env : Environment Weather} (permitted : handles sequencer command env .stops) :
      Lives boots handles (.up sequencer)
        ⟨some sequencer.sequenceGen.next, (sequencer.processCommand command env).effects,
          durableCommit sequencer command env⟩
        (.down (sequencer.processCommand command env).sequencer.journal)
  | crashed {sequencer : Sequencer C (SqliteJournal Blob)} {command : SequencerCommand}
      {env : Environment Weather} {visible : Nat}
      (permitted : handles sequencer command env (.crashes visible)) :
      Lives boots handles (.up sequencer)
        ⟨some sequencer.sequenceGen.next, (sequencer.processCommand command env).effects.take visible,
          none⟩ (.down sequencer.journal)

/-- A history that begins without a journal. -/
abbrev Life (boots : C → Prop) (handles : Sequencer C (SqliteJournal Blob) → SequencerCommand →
    Environment Weather → Ending → Prop) (moments : List Moment) (world : World C Blob) : Prop :=
  Path (Lives boots handles) (.down .empty) moments world

section Steps
variable {boots : C → Prop} {handles : Sequencer C (SqliteJournal Blob) → SequencerCommand →
  Environment Weather → Ending → Prop} {sequencer : Sequencer C (SqliteJournal Blob)}

theorem Life.boot (life : Life boots handles moments (.down journal)) (permitted : boots core)
    (started : Sequencer.new core journal epoch = .ok sequencer) :
    Life boots handles (moments ++ [.quiet]) (.up sequencer) :=
  life.step (.booted permitted started)

theorem Life.wire (life : Life boots handles moments (.up sequencer)) :
    Life boots handles (moments ++ [.quiet]) (.up sequencer.withVenueSubmitTx) :=
  life.step .wired

theorem Life.kill (life : Life boots handles moments (.up sequencer)) :
    Life boots handles (moments ++ [.quiet]) (.down sequencer.journal) :=
  life.step .killed

theorem Life.process (life : Life boots handles moments (.up sequencer)) (command : SequencerCommand)
    (env : Environment Weather) (permitted : handles sequencer command env .goesOn)
    (ok : (sequencer.processCommand command env).result = .ok reply) :
    Life boots handles (moments ++ [⟨some sequencer.sequenceGen.next,
        (turnOf sequencer command env).effects, (turnOf sequencer command env).commit⟩])
      (.up (sequencer.processCommand command env).sequencer) :=
  life.step (.processed permitted ⟨⟨reply, ok⟩, rfl, rfl⟩)

theorem Life.stop (life : Life boots handles moments (.up sequencer)) (command : SequencerCommand)
    (env : Environment Weather) (permitted : handles sequencer command env .stops) :
    Life boots handles (moments ++ [⟨some sequencer.sequenceGen.next,
        (sequencer.processCommand command env).effects, durableCommit sequencer command env⟩])
      (.down (sequencer.processCommand command env).sequencer.journal) :=
  life.step (.stopped permitted)

/-- A durable commit was asked for by the command of its moment. -/
theorem lives_requested {world next : World C Blob} (move : Lives boots handles world moment next)
    (made : moment.commit = some commit) :
    ∃ sequencer command, ∃ env : Environment Weather, world = .up sequencer ∧
      moment.number = some sequencer.sequenceGen.next ∧
      requestedCommit sequencer command env = some commit := by
  cases move with
  | booted permitted started => cases made
  | wired => cases made
  | killed => cases made
  | @processed sequencer _ command env turn permitted processes =>
    refine ⟨sequencer, command, env, rfl, rfl, ?_⟩
    rw [← made, processes.turn]
    rfl
  | stopped permitted => exact ⟨_, _, _, rfl, rfl, (Option.filter_eq_some_iff.mp made).1⟩
  | crashed permitted => cases made

end Steps

omit [MessagePack Blob] in
theorem requestedCommit_stamped {sequencer : Sequencer C (SqliteJournal Blob)}
    (requested : requestedCommit sequencer command env = some commit) :
    Stamped sequencer.sequenceGen.next commit := by
  obtain ⟨outcome, -, -, rfl⟩ := requestedCommit_some requested
  refine ⟨rfl, fun event member => ?_, rfl, rfl⟩
  obtain ⟨plain, -, rfl⟩ := List.mem_map.mp member
  rfl

/-- What the journal does with the commit of the next command. -/
theorem Chronicle.persist {sequencer : Sequencer C (SqliteJournal Blob)}
    (chronicle : Chronicle commits (.up sequencer)) (bounded : sequencer.sequenceGen.next.val < i64Limit)
    (requested : requestedCommit sequencer command env = some commit) :
    if sequencer.journal.lands env.weather commit.events (some commit.snapshot) then
      Holds (sequencer.journal.persistCommit env.weather commit.events (some commit.snapshot)).1
        (commits ++ [commit])
    else ∃ error, sequencer.journal.persistCommit env.weather commit.events (some commit.snapshot) =
      (sequencer.journal, .error error) := by
  have stamped := requestedCommit_stamped requested
  have above : ∀ earlier ∈ commits, earlier.sequenceId.val < commit.sequenceId.val := by
    rw [stamped.sequenceId]
    exact chronicle.ahead sequencer rfl
  exact chronicle.held.persistCommit (stamped.wellFormed bounded) above env.weather

/-- After a command, however it ended, the journal holds its durable commit too. -/
theorem Chronicle.after_command {sequencer : Sequencer C (SqliteJournal Blob)}
    (chronicle : Chronicle commits (.up sequencer)) (bounded : sequencer.sequenceGen.next.val < i64Limit)
    (command : SequencerCommand) (env : Environment Weather) :
    Holds (sequencer.processCommand command env).sequencer.journal
      (commits ++ (durableCommit sequencer command env).toList) := by
  have held : Holds sequencer.journal commits := chronicle.held
  rw [processCommand_journal]
  unfold durableCommit
  cases requested : requestedCommit sequencer command env with
  | none => simpa using held
  | some commit =>
    have written := chronicle.persist bounded requested
    cases lands : sequencer.journal.lands env.weather commit.events (some commit.snapshot) with
    | true =>
      rw [lands, if_pos rfl] at written
      simp only [Option.filter, lands, if_true, Option.toList]
      exact written
    | false =>
      rw [lands, if_neg (by decide)] at written
      obtain ⟨error, kept⟩ := written
      have unchanged : (EventJournal.persistCommit sequencer.journal env.weather commit.events
          (some commit.snapshot)).1 = sequencer.journal := congrArg Prod.fst kept
      simpa [Option.filter, lands, unchanged] using held

/-- While the loop goes on, what was asked for is durable. -/
theorem Chronicle.processed {sequencer next : Sequencer C (SqliteJournal Blob)}
    (chronicle : Chronicle commits (.up sequencer)) (bounded : sequencer.sequenceGen.next.val < i64Limit)
    (processes : Processes sequencer command env turn next) :
    durableCommit sequencer command env = turn.commit := by
  have asked : turn.commit = requestedCommit sequencer command env := by rw [processes.turn]; rfl
  have processing := processes.processing
  unfold durableCommit
  rw [← asked]
  generalize turn.commit = requested at asked processing
  cases processing with
  | idle handling quiet => rfl
  | @committed handled _ outcome commit journal handling commits asks persisted =>
    have written := chronicle.persist bounded asked.symm
    have same : handled.journal = sequencer.journal := handling.frame.journal
    cases lands : sequencer.journal.lands env.weather commit.events (some commit.snapshot) with
    | true => simp [Option.filter, lands]
    | false =>
      rw [lands, if_neg (by decide)] at written
      obtain ⟨error, failed⟩ := written
      rw [same] at persisted
      cases failed.symm.trans persisted

theorem Processing.sequenceGen {sequencer after : Sequencer C (SqliteJournal Blob)}
    {env : Environment Weather} (processing : Processing sequencer command env effects commit after) :
    after.sequenceGen.next = sequencer.sequenceGen.next.next := by
  cases processing with
  | idle handling quiet =>
    rw [handling.frame.sequenceGen]
    rfl
  | @committed handled _ outcome commit journal handling commits asked persisted =>
    have kept := handling.frame.sequenceGen
    exact congrArg SequenceGenerator.next kept

/-- One step keeps journal and numbers in line with the history. -/
theorem chronicle_step {boots : C → Prop} {handles : Sequencer C (SqliteJournal Blob) →
      SequencerCommand → Environment Weather → Ending → Prop}
    (bounded : ∀ sequencer command env ending, handles sequencer command env ending →
      sequencer.sequenceGen.next.val < i64Limit)
    {world next : World C Blob} (chronicle : Chronicle commits world)
    (move : Lives boots handles world moment next) :
    Chronicle (commits ++ moment.commit.toList) next := by
  cases move with
  | booted permitted started =>
    have held : Holds _ commits := chronicle.held
    simp only [Moment.quiet, Option.toList, List.append_nil]
    refine ⟨?_, ?_⟩
    · cases (new_ok_iff _ _ _ _).mp started <;> exact held
    · rintro sequencer ⟨⟩
      exact boot_ahead held started
  | @wired sequencer =>
    simp only [Moment.quiet, Option.toList, List.append_nil]
    refine ⟨chronicle.held, ?_⟩
    rintro running ⟨⟩
    exact chronicle.ahead sequencer rfl
  | killed =>
    simp only [Moment.quiet, Option.toList, List.append_nil]
    exact ⟨chronicle.held, fun _ running => by cases running⟩
  | @processed sequencer next command env turn permitted processes =>
    have room := bounded _ _ _ _ permitted
    have durable := chronicle.processed room processes
    have stored := chronicle.after_command room command env
    rw [durable, ← processes.next] at stored
    refine ⟨stored, ?_⟩
    rintro running ⟨⟩ commit member
    rw [Processing.sequenceGen processes.processing, SequenceId.next_val room]
    rcases List.mem_append.mp member with old | newest
    · have below := chronicle.ahead sequencer rfl commit old
      omega
    · have asked : requestedCommit sequencer command env = some commit := by
        rw [← Option.mem_toList.mp newest, processes.turn]
        rfl
      rw [(requestedCommit_stamped asked).sequenceId]
      omega
  | @stopped sequencer command env permitted =>
    exact ⟨chronicle.after_command (bounded _ _ _ _ permitted) command env,
      fun _ running => by cases running⟩
  | crashed permitted =>
    simp only [Option.toList, List.append_nil]
    exact ⟨chronicle.held, fun _ running => by cases running⟩

theorem Life.chronicle {boots : C → Prop} {handles : Sequencer C (SqliteJournal Blob) →
      SequencerCommand → Environment Weather → Ending → Prop}
    (bounded : ∀ sequencer command env ending, handles sequencer command env ending →
      sequencer.sequenceGen.next.val < i64Limit)
    {world : World C Blob} (life : Life boots handles moments world) :
    Chronicle (commitsOf moments) world := by
  induction life with
  | start => exact ⟨.empty, fun _ running => by cases running⟩
  | step _ move ih =>
    rw [commitsOf_snoc]
    exact chronicle_step bounded ih move

end FeynmanEngine.Lifetimes
