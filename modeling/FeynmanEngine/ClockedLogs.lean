import FeynmanEngine.SequenceNumbers
import FeynmanEngine.SimulatedClocks

/-! The sequencer on a simulated clock. It reads the clock once for each command,
while the harness moves the clock on between any two steps; whatever the command
then commits carries that reading. With a harness that writes from one thread at
a time and restarts the clock no earlier than the newest snapshot, the journal is
in time order over all lives of the process. -/
namespace FeynmanEngine.ClockedLogs
open Ids Orders Events Tables Portfolio Engine Journal Sequencing JournalCommits CommandCases
open Lifetimes SequenceNumbers Traces BusMessages MessageRoundTrips GuardedStores SimulatedClocks

/-- Clock and process, and what the clock showed to the command in hand. -/
structure System (Thread C Blob : Type) where
  clock : SimulatedClock Thread
  world : World C Blob
  reading : Option DateTime

inductive Label (Thread : Type) where
  | clock (label : SimulatedClocks.Label Thread)
  | took (now : DateTime)
  | lived (moment : Moment)
  | restarted (start : DateTime)

/-- The moments of a run in which the process did something. -/
def momentsOf {Thread : Type} (labels : List (Label Thread)) : List Moment :=
  labels.filterMap fun
    | .lived moment => some moment
    | .clock _ | .took _ | .restarted _ => none

section Systems
variable {Thread C Blob : Type} [DecidableEq Thread] [EngineCore C] [MessagePack Blob] [LibraryText] [UtcMillis]

/-- A command handled at a reading, under a number in the column's range. -/
def At (instant : DateTime) (sequencer : Sequencer C (SqliteJournal Blob)) (command : SequencerCommand)
    (env : Environment Weather) (ending : Ending) : Prop :=
  env.now = instant ∧ NumbersFit sequencer command env ending

/-- Neither a start nor a command. -/
def Apart (_ : Sequencer C (SqliteJournal Blob)) (_ : SequencerCommand) (_ : Environment Weather) (_ : Ending) :
    Prop := False

inductive Moves (system : System Thread C Blob) : Label Thread → System Thread C Blob → Prop
  | clocked {label : SimulatedClocks.Label Thread} {clock : SimulatedClock Thread}
      (moves : SimulatedClocks.Moves system.clock label clock) :
      Moves system (.clock label) { system with clock := clock }
  | took {sequencer : Sequencer C (SqliteJournal Blob)} {instant : DateTime} (running : system.world = .up sequencer)
      (free : system.reading = none) (reads : SimulatedClock.now system.clock.value = .ok instant) :
      Moves system (.took instant) { system with reading := some instant }
  | handled {instant : DateTime} {moment : Moment} {world : World C Blob} (holds : system.reading = some instant)
      (lives : Lives (fun _ => False) (At instant) system.world moment world) :
      Moves system (.lived moment) { system with world := world, reading := none }
  | apart {moment : Moment} {world : World C Blob} (lives : Lives (fun _ => False) Apart system.world moment world) :
      Moves system (.lived moment) { system with world := world, reading := none }
  | restarted {journal : SqliteJournal Blob} {core : C} {epoch : Nat} {sequencer : Sequencer C (SqliteJournal Blob)}
      {start : DateTime} (down : system.world = .down journal) (range : InUtcRange start)
      (started : Sequencer.new core journal epoch = .ok sequencer) :
      Moves system (.restarted start) ⟨SimulatedClock.new start, .up sequencer, none⟩

/-- What the harness sees to: it writes the clock from one thread at a time, does
not take it out of its range, and starts it anew no earlier than the newest
snapshot was taken. -/
def Harnessed (system : System Thread C Blob) : Label Thread → Prop
  | .clock label => Alone system.clock label ∧ ¬ Wraps system.clock label
  | .restarted start => ∀ sequenceId snapshot,
      system.world.journal.loadLatestSnapshot = .ok (some (sequenceId, snapshot)) →
      snapshot.snapshotAt.nanos ≤ start.timestampMillis * 1000000
  | .took _ | .lived _ => True

/-- Before the first start, without a journal. -/
def System.start (start : DateTime) : System Thread C Blob := ⟨SimulatedClock.new start, .down .empty, none⟩

/-- A commit dates from the reading of its command, throughout. -/
structure Dated (instant : DateTime) (commit : Commit) : Prop where
  snapshot : commit.snapshot.snapshotAt = instant
  events : ∀ event ∈ commit.events, event.timestamp = instant

omit [MessagePack Blob] [UtcMillis] in
theorem requestedCommit_dated {sequencer : Sequencer C (SqliteJournal Blob)} {env : Environment Weather}
    (requested : requestedCommit sequencer command env = some commit) : Dated env.now commit := by
  obtain ⟨outcome, -, -, rfl⟩ := requestedCommit_some requested
  refine ⟨rfl, fun event member => ?_⟩
  obtain ⟨plain, -, rfl⟩ := List.mem_map.mp member
  rfl

omit [UtcMillis] in
theorem lives_dated {boots : C → Prop} {world next : World C Blob}
    (lives : Lives boots (At instant) world moment next) (made : moment.commit = some commit) :
    Dated instant commit := by
  cases lives with
  | booted permitted started => cases made
  | wired => cases made
  | killed => cases made
  | @processed sequencer _ command env turn permitted processes =>
    have asked : requestedCommit sequencer command env = some commit := by
      rw [← made, processes.turn]
      rfl
    exact permitted.1 ▸ requestedCommit_dated asked
  | stopped permitted => exact permitted.1 ▸ requestedCommit_dated (Option.filter_eq_some_iff.mp made).1
  | crashed permitted => cases made

omit [UtcMillis] in
/-- Apart from commands nothing is committed. -/
theorem lives_apart {boots : C → Prop} {world next : World C Blob} (lives : Lives boots Apart world moment next) :
    moment.commit = none := by
  cases lives with
  | booted | wired | killed => rfl
  | processed permitted processes => exact permitted.elim
  | stopped permitted => exact permitted.elim
  | crashed permitted => exact permitted.elim

/-- The history is in time order, and neither the clock nor a reading in hand is
earlier than anything in it. -/
structure InTime (commits : List Commit) (system : System Thread C Blob) : Prop where
  chronicle : Chronicle commits system.world
  ranged : Ranged system.clock
  current : Current system.clock
  dated : ∀ commit ∈ commits, Dated commit.snapshot.snapshotAt commit
  sorted : commits.Pairwise fun earlier later =>
    earlier.snapshot.snapshotAt.nanos ≤ later.snapshot.snapshotAt.nanos
  past : ∀ commit ∈ commits, commit.snapshot.snapshotAt.nanos ≤ system.clock.value * 1000000
  reading : ∀ instant, system.reading = some instant → instant.nanos ≤ system.clock.value * 1000000 ∧
    ∀ commit ∈ commits, commit.snapshot.snapshotAt.nanos ≤ instant.nanos

omit [DecidableEq Thread] [EngineCore C] [LibraryText] [UtcMillis] in
theorem InTime.fresh {start : DateTime} (range : InUtcRange start) :
    InTime [] (System.start start : System Thread C Blob) where
  chronicle := ⟨.empty, fun _ running => by cases running⟩
  ranged := Ranged.new range
  current := Current.new _
  dated _ member := absurd member List.not_mem_nil
  sorted := .nil
  past _ member := absurd member List.not_mem_nil
  reading _ holds := by cases holds

omit [EngineCore C] [LibraryText] in
/-- A clock that moves on leaves the history behind it. -/
theorem InTime.clocked {system : System Thread C Blob} {label : SimulatedClocks.Label Thread}
    {clock : SimulatedClock Thread} (inTime : InTime commits system)
    (orderly : Orderly system.clock label clock) : InTime commits { system with clock := clock } := by
  obtain ⟨ascends, ranged, current⟩ := orderly.ascends inTime.ranged inTime.current
  have later : system.clock.value * 1000000 ≤ clock.value * 1000000 := by omega
  exact ⟨inTime.chronicle, ranged, current, inTime.dated, inTime.sorted,
    fun commit member => (inTime.past commit member).trans later,
    fun instant holds => ⟨(inTime.reading instant holds).1.trans later, (inTime.reading instant holds).2⟩⟩

omit [DecidableEq Thread] [EngineCore C] [LibraryText] in
theorem InTime.took [ExactMillis] {system : System Thread C Blob} (inTime : InTime commits system)
    (reads : SimulatedClock.now system.clock.value = .ok instant) :
    InTime commits { system with reading := some instant } where
  chronicle := inTime.chronicle
  ranged := inTime.ranged
  current := inTime.current
  dated := inTime.dated
  sorted := inTime.sorted
  past := inTime.past
  reading other holds := by
    cases holds
    rw [now_nanos reads]
    exact ⟨le_rfl, inTime.past⟩

omit [DecidableEq Thread] [UtcMillis] in
/-- What a command commits is dated by its reading, which nothing before it is later than. -/
theorem InTime.handled {system : System Thread C Blob} {world : World C Blob} (inTime : InTime commits system)
    (holds : system.reading = some instant)
    (lives : Lives (fun _ => False) (At instant) system.world moment world) :
    InTime (commits ++ moment.commit.toList) { system with world := world, reading := none } := by
  obtain ⟨reached, after⟩ := inTime.reading instant holds
  have made : ∀ commit ∈ moment.commit.toList, Dated instant commit :=
    fun commit member => lives_dated lives (Option.mem_toList.mp member)
  refine ⟨chronicle_step (fun _ _ _ _ permitted => permitted.2) inTime.chronicle lives, inTime.ranged,
    inTime.current, fun commit member => ?_, List.pairwise_append.mpr ⟨inTime.sorted, ?_, ?_⟩,
    fun commit member => ?_, fun _ holds => by cases holds⟩
  · rcases List.mem_append.mp member with old | new
    · exact inTime.dated commit old
    · rw [(made commit new).snapshot]
      exact made commit new
  · cases moment.commit with
    | none => exact .nil
    | some commit => exact List.pairwise_singleton _ _
  · intro earlier old later new
    rw [(made later new).snapshot]
    exact after earlier old
  · rcases List.mem_append.mp member with old | new
    · exact inTime.past commit old
    · rw [(made commit new).snapshot]
      exact reached

omit [DecidableEq Thread] [UtcMillis] in
/-- A start from the journal with a clock no earlier than its newest snapshot. -/
theorem InTime.restarted {system : System Thread C Blob} {sequencer : Sequencer C (SqliteJournal Blob)}
    (inTime : InTime commits system) (down : system.world = .down journal) (range : InUtcRange start)
    (started : Sequencer.new core journal epoch = .ok sequencer)
    (later : ∀ sequenceId snapshot, journal.loadLatestSnapshot = .ok (some (sequenceId, snapshot)) →
      snapshot.snapshotAt.nanos ≤ start.timestampMillis * 1000000) :
    InTime commits (⟨SimulatedClock.new start, .up sequencer, none⟩ : System Thread C Blob) := by
  have chronicle := inTime.chronicle
  rw [down] at chronicle
  have boots : Lives (fun _ => True) Apart (.down journal : World C Blob) .quiet (.up sequencer) :=
    .booted trivial started
  have next := chronicle_step (fun _ _ _ _ permitted => permitted.elim) chronicle boots
  rw [show Moment.quiet.commit.toList = [] from rfl, List.append_nil] at next
  refine ⟨next, Ranged.new range, Current.new _, inTime.dated, inTime.sorted, fun commit member => ?_,
    fun _ holds => by cases holds⟩
  have loaded := chronicle.held.loadLatestSnapshot
  obtain ⟨earlier, newest, rfl⟩ : ∃ earlier newest, commits = earlier ++ [newest] := by
    rcases List.eq_nil_or_concat commits with rfl | ⟨earlier, newest, rfl⟩
    · exact absurd member List.not_mem_nil
    · exact ⟨earlier, newest, List.concat_eq_append⟩
  rw [List.getLast?_append, List.getLast?_singleton] at loaded
  have bound := later _ _ loaded
  rcases List.mem_append.mp member with old | last
  · exact ((List.pairwise_append.mp inTime.sorted).2.2 commit old newest List.mem_cons_self).trans bound
  · rw [List.mem_singleton.mp last]
    exact bound

omit [DecidableEq Thread] [EngineCore C] [MessagePack Blob] [LibraryText] [UtcMillis] in
theorem momentsOf_snoc (labels : List (Label Thread)) (label : Label Thread) :
    momentsOf (labels ++ [label]) = momentsOf labels ++ momentsOf [label] := List.filterMap_append

theorem InTime.step [ExactMillis] {system next : System Thread C Blob} {label : Label Thread}
    (inTime : InTime commits system) (moves : Moves system label next) (harnessed : Harnessed system label) :
    InTime (commits ++ commitsOf (momentsOf [label])) next := by
  cases moves with
  | clocked moves =>
    rw [show momentsOf [_] = ([] : List Moment) from rfl, show commitsOf [] = [] from rfl, List.append_nil]
    exact inTime.clocked ⟨moves, harnessed⟩
  | took running free reads =>
    rw [show momentsOf [_] = ([] : List Moment) from rfl, show commitsOf [] = [] from rfl, List.append_nil]
    exact inTime.took reads
  | @handled instant moment world holds lives =>
    rw [show momentsOf [_] = [moment] from rfl, ← List.nil_append [moment], commitsOf_snoc]
    exact inTime.handled holds lives
  | @apart moment world lives =>
    have quiet := lives_apart lives
    have chronicle := chronicle_step (fun _ _ _ _ permitted => permitted.elim) inTime.chronicle lives
    rw [quiet, Option.toList_none, List.append_nil] at chronicle
    rw [show momentsOf [_] = [moment] from rfl, ← List.nil_append [moment], commitsOf_snoc, quiet]
    rw [show commitsOf [] = [] from rfl, Option.toList_none, List.append_nil, List.append_nil]
    exact ⟨chronicle, inTime.ranged, inTime.current, inTime.dated, inTime.sorted, inTime.past,
      fun _ holds => by cases holds⟩
  | @restarted journal core epoch sequencer start down range started =>
    rw [show momentsOf [_] = ([] : List Moment) from rfl, show commitsOf [] = [] from rfl, List.append_nil]
    have held : system.world.journal = journal := by rw [down]; rfl
    refine inTime.restarted down range started fun sequenceId snapshot loaded => ?_
    rw [← held] at loaded
    exact harnessed sequenceId snapshot loaded

theorem inTime_of_run [ExactMillis] {start : DateTime} (range : InUtcRange start) {system : System Thread C Blob}
    (run : Path (fun system label next => Moves system label next ∧ Harnessed system label) (System.start start)
      labels system) : InTime (commitsOf (momentsOf labels)) system := by
  induction run with
  | start => exact InTime.fresh range
  | step run move ih =>
    rw [momentsOf_snoc, commitsOf, List.filterMap_append]
    exact ih.step move.1 move.2

omit [DecidableEq Thread] [EngineCore C] [MessagePack Blob] [LibraryText] [UtcMillis] in
/-- Events of sorted commits are sorted. -/
theorem events_sorted {commits : List Commit} (dated : ∀ commit ∈ commits, Dated commit.snapshot.snapshotAt commit)
    (sorted : commits.Pairwise fun earlier later =>
      earlier.snapshot.snapshotAt.nanos ≤ later.snapshot.snapshotAt.nanos) :
    (commits.flatMap Commit.events).Pairwise fun earlier later =>
      earlier.timestamp.nanos ≤ later.timestamp.nanos := by
  rw [List.pairwise_flatMap]
  refine ⟨fun commit member => List.pairwise_iff_forall_sublist.mpr fun {earlier later} sub => ?_, ?_⟩
  · have own := (dated commit member).events
    rw [own earlier (sub.subset (by simp)), own later (sub.subset (by simp))]
  · refine sorted.imp_of_mem fun {earlier later} first second ascends event member other among => ?_
    rw [(dated earlier first).events event member, (dated later second).events other among]
    exact ascends

omit [DecidableEq Thread] [EngineCore C] [LibraryText] [UtcMillis] in
/-- Events come in the order of their commits' numbers. -/
theorem numbers_sorted {journal : SqliteJournal Blob} (held : Holds journal commits) :
    (commits.flatMap Commit.events).Pairwise fun earlier later => earlier.sequenceId.val ≤ later.sequenceId.val := by
  have stamped := fun commit member => (held.wellFormed commit member).stamped
  rw [List.pairwise_flatMap]
  refine ⟨fun commit member => List.pairwise_iff_forall_sublist.mpr fun {earlier later} sub => ?_, ?_⟩
  · rw [stamped commit member earlier (sub.subset (by simp)), stamped commit member later (sub.subset (by simp))]
  · refine held.increasing.imp_of_mem fun {earlier later} first second below event member other among => ?_
    rw [stamped earlier first event member, stamped later second other among]
    exact below.le

/-- The journal is in time order, over all lives of the process and however the
harness moves the clock between the steps: events in the order of their numbers
are in the order of their times, none is later than the newest snapshot, and none
is later than what the clock would show to the next command. -/
theorem log_in_time_order [ExactMillis] {start : DateTime} (range : InUtcRange start) {system : System Thread C Blob}
    (run : Path (fun system label next => Moves system label next ∧ Harnessed system label) (System.start start)
      labels system) :
    ∃ events, system.world.journal.replayFrom .zero = .ok events ∧
      (events.Pairwise fun earlier later =>
        earlier.sequenceId.val ≤ later.sequenceId.val ∧ earlier.timestamp.nanos ≤ later.timestamp.nanos) ∧
      (∀ sequenceId snapshot, system.world.journal.loadLatestSnapshot = .ok (some (sequenceId, snapshot)) →
        ∀ event ∈ events, event.timestamp.nanos ≤ snapshot.snapshotAt.nanos) ∧
      ∀ instant, SimulatedClock.now system.clock.value = .ok instant →
        ∀ event ∈ events, event.timestamp.nanos ≤ instant.nanos := by
  have inTime := inTime_of_run range run
  have held := inTime.chronicle.held
  refine ⟨_, held.replay_all, (numbers_sorted held).and (events_sorted inTime.dated inTime.sorted), ?_, ?_⟩
  · intro sequenceId snapshot loaded event member
    obtain ⟨commit, stored, inside⟩ := List.mem_flatMap.mp member
    rw [held.loadLatestSnapshot] at loaded
    obtain ⟨newest, last, same⟩ := Option.map_eq_some_iff.mp (Except.ok.inj loaded)
    cases same
    rw [(inTime.dated commit stored).events event inside]
    obtain ⟨earlier, shape⟩ := List.getLast?_eq_some_iff.mp last
    rw [shape] at stored
    have sorted := inTime.sorted
    rw [shape] at sorted
    rcases List.mem_append.mp stored with old | own
    · exact (List.pairwise_append.mp sorted).2.2 commit old newest List.mem_cons_self
    · rw [List.mem_singleton.mp own]
  · intro instant reads event member
    obtain ⟨commit, stored, inside⟩ := List.mem_flatMap.mp member
    rw [(inTime.dated commit stored).events event inside, now_nanos reads]
    exact inTime.past commit stored

end Systems

section Advanced
open SequencerFixtures Plain

/-- Five seconds after the epoch. -/
def later : DateTime := ⟨5000000000⟩

def afterSubmit : Sequencer TestCore (SqliteJournal PlainBlob) := (firstBoot.processCommand submit calm).sequencer

def afterPause : Sequencer TestCore (SqliteJournal PlainBlob) :=
  (afterSubmit.processCommand pause { calm with now := later }).sequencer

/-- The harness starts the clock at the epoch and moves it on between the two commands. -/
theorem run_to_pause : ∃ labels, @Path (System Unit TestCore PlainBlob) (Label Unit)
    (fun system label next => @Moves _ _ _ _ _ _ _ chronoMillis system label next ∧ Harnessed system label)
    (System.start ⟨0⟩) labels ⟨⟨5000, fun _ => none⟩, .up afterPause, none⟩ := by
  let _ : UtcMillis := chronoMillis
  have epoch : InUtcRange ⟨0⟩ := by decide
  have started : Sequencer.new freshCore freshJournal 0 = .ok firstBoot := rfl
  have restarted : Moves (System.start ⟨0⟩ : System Unit TestCore PlainBlob) (.restarted ⟨0⟩)
      ⟨⟨0, fun _ => none⟩, .up firstBoot, none⟩ := .restarted rfl epoch started
  have harnessed : Harnessed (System.start ⟨0⟩ : System Unit TestCore PlainBlob) (.restarted ⟨0⟩) :=
    fun _ _ loaded => by cases loaded
  have took : Moves (⟨⟨0, fun _ => none⟩, .up firstBoot, none⟩ : System Unit TestCore PlainBlob) (.took ⟨0⟩)
      ⟨⟨0, fun _ => none⟩, .up firstBoot, some ⟨0⟩⟩ := .took rfl rfl rfl
  have submits : Lives (fun _ => False) (At ⟨0⟩) (.up firstBoot)
      ⟨some firstBoot.sequenceGen.next, (turnOf firstBoot submit calm).effects,
        (turnOf firstBoot submit calm).commit⟩
      (.up afterSubmit) :=
    .processed ⟨rfl, (by decide : 1 < i64Limit)⟩ ⟨⟨none, rfl⟩, rfl, rfl⟩
  have submitted : Moves (⟨⟨0, fun _ => none⟩, .up firstBoot, some ⟨0⟩⟩ : System Unit TestCore PlainBlob) _
      ⟨⟨0, fun _ => none⟩, .up afterSubmit, none⟩ := .handled rfl submits
  have inRange : InI64 5000 := ⟨by decide, by decide⟩
  have passed : SimulatedClock.advanceMillis 5000 = .ok 5000 := rfl
  have advance : SimulatedClocks.Moves (⟨0, fun _ => none⟩ : SimulatedClock Unit) (.advanced () 5000)
      ⟨5000, fun _ => none⟩ := .advancedMillis rfl inRange passed
  have advanced : Moves (⟨⟨0, fun _ => none⟩, .up afterSubmit, none⟩ : System Unit TestCore PlainBlob)
      (.clock (.advanced () 5000)) ⟨⟨5000, fun _ => none⟩, .up afterSubmit, none⟩ := .clocked advance
  have alone : Harnessed (⟨⟨0, fun _ => none⟩, .up afterSubmit, none⟩ : System Unit TestCore PlainBlob)
      (.clock (.advanced () 5000)) :=
    ⟨fun _ _ => rfl, show ¬ (2 : Int) ^ 63 ≤ 0 + 5000 by decide⟩
  have tookLater : Moves (⟨⟨5000, fun _ => none⟩, .up afterSubmit, none⟩ : System Unit TestCore PlainBlob)
      (.took later) ⟨⟨5000, fun _ => none⟩, .up afterSubmit, some later⟩ := .took rfl rfl rfl
  have pauses : Lives (fun _ => False) (At later) (.up afterSubmit)
      ⟨some afterSubmit.sequenceGen.next, (turnOf afterSubmit pause { calm with now := later }).effects,
        (turnOf afterSubmit pause { calm with now := later }).commit⟩ (.up afterPause) :=
    .processed ⟨rfl, (by decide : 2 < i64Limit)⟩ ⟨⟨none, rfl⟩, rfl, rfl⟩
  have paused : Moves (⟨⟨5000, fun _ => none⟩, .up afterSubmit, some later⟩ : System Unit TestCore PlainBlob) _
      ⟨⟨5000, fun _ => none⟩, .up afterPause, none⟩ := .handled rfl pauses
  exact ⟨_, (((((Path.start.step ⟨restarted, harnessed⟩).step ⟨took, trivial⟩).step
    ⟨submitted, trivial⟩).step ⟨advanced, alone⟩).step ⟨tookLater, trivial⟩).step ⟨paused, trivial⟩⟩

/-- Both commands are in the journal, in order. -/
theorem log_in_time_order_after_pause : ∃ events, afterPause.journal.replayFrom .zero = .ok events ∧
    (events.Pairwise fun earlier later =>
      earlier.sequenceId.val ≤ later.sequenceId.val ∧ earlier.timestamp.nanos ≤ later.timestamp.nanos) := by
  let _ : UtcMillis := chronoMillis
  have : ExactMillis := exactMillis_chrono
  have epoch : InUtcRange ⟨0⟩ := by decide
  obtain ⟨labels, run⟩ := run_to_pause
  obtain ⟨events, replayed, sorted, -⟩ := log_in_time_order epoch run
  exact ⟨events, replayed, sorted⟩

end Advanced

end FeynmanEngine.ClockedLogs
