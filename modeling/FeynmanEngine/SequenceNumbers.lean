import FeynmanEngine.Lifetimes
import FeynmanEngine.SequencerFixtures

/-! Sequence numbers over all lives of the process. Four counters are reconciled
only at a start: the generator, the newest stored event, the snapshot's number
and the state's own; commands that take a number and store nothing, followed by
a restart, are where they come apart. -/
namespace FeynmanEngine.SequenceNumbers
open Ids Orders Events Tables Portfolio Engine Journal Sequencing JournalCommits CommandCases
open SequencerFixtures Lifetimes Traces

section Histories
variable {C Blob : Type} [EngineCore C] [MessagePack Blob]

/-- Numbers stay in the column's range. -/
def NumbersFit (sequencer : Sequencer C (SqliteJournal Blob)) (_ : SequencerCommand)
    (_ : Environment Weather) (_ : Ending) : Prop :=
  sequencer.sequenceGen.next.val < i64Limit

variable [LibraryText]

/-- A durable commit carries the number of the moment it was made in. -/
theorem lives_stamped {boots : C → Prop} {handles : Sequencer C (SqliteJournal Blob) →
      SequencerCommand → Environment Weather → Ending → Prop} {world next : World C Blob}
    (move : Lives boots handles world moment next) (made : moment.commit = some commit) :
    ∃ number, moment.number = some number ∧ Stamped number commit := by
  obtain ⟨sequencer, command, env, -, taken, requested⟩ := lives_requested move made
  exact ⟨_, taken, requestedCommit_stamped requested⟩

theorem life_stamped {boots : C → Prop} {handles : Sequencer C (SqliteJournal Blob) →
      SequencerCommand → Environment Weather → Ending → Prop} {world : World C Blob}
    (life : Life boots handles moments world) (member : moment ∈ moments)
    (made : moment.commit = some commit) :
    ∃ number, moment.number = some number ∧ Stamped number commit := by
  obtain ⟨before, after, rfl⟩ := List.append_of_mem member
  obtain ⟨state, next, -, move, -⟩ := life.at_label
  exact lives_stamped move made

/-- Every event of a history carries the number of its commit. -/
theorem event_number {boots : C → Prop} {handles : Sequencer C (SqliteJournal Blob) →
      SequencerCommand → Environment Weather → Ending → Prop} {world : World C Blob}
    (life : Life boots handles moments world) {event : SequencedEvent} {part : List Moment}
    (within : ∀ moment ∈ part, moment ∈ moments)
    (member : event ∈ (commitsOf part).flatMap Commit.events) :
    ∃ commit ∈ commitsOf part, event.sequenceId = commit.sequenceId := by
  obtain ⟨commit, stored, inside⟩ := List.mem_flatMap.mp member
  obtain ⟨moment, present, made⟩ := List.mem_filterMap.mp stored
  obtain ⟨number, -, stamped⟩ := life_stamped life (within moment present) made
  exact ⟨commit, stored, (stamped.events event inside).trans stamped.sequenceId.symm⟩

/-- Sequence numbers are never reused: durable commits carry strictly increasing
numbers over all lives, each commit's events carry its command's number and no
other command's durable events do, and a snapshot's number is its state's last
one and bounds every event stored with or before it. The journal holds exactly
these commits. -/
theorem sequence_ids_never_reused {world : World C Blob}
    (life : Life (fun _ => True) NumbersFit moments world) :
    ((commitsOf moments).Pairwise fun earlier later =>
      earlier.sequenceId.val < later.sequenceId.val) ∧
    (∀ before moment after commit, moments = before ++ moment :: after →
      moment.commit = some commit →
      moment.number = some commit.sequenceId ∧
      (∀ event ∈ commit.events, event.sequenceId = commit.sequenceId) ∧
      (∀ event ∈ commit.events, ∀ other ∈ (commitsOf (before ++ after)).flatMap Commit.events,
        event.sequenceId ≠ other.sequenceId) ∧
      commit.snapshot.sequenceId = commit.snapshot.state.lastSequenceId ∧
      ∀ event ∈ (commitsOf (before ++ [moment])).flatMap Commit.events,
        event.sequenceId.val ≤ commit.snapshot.sequenceId.val) ∧
    world.journal.replayFrom .zero = .ok ((commitsOf moments).flatMap Commit.events) ∧
    world.journal.loadLatestSnapshot =
      .ok ((commitsOf moments).getLast?.map fun commit => (commit.sequenceId, commit.snapshot)) := by
  have chronicle := life.chronicle fun _ _ _ _ fits => fits
  have increasing := chronicle.held.increasing
  refine ⟨increasing, ?_, chronicle.held.replay_all, chronicle.held.loadLatestSnapshot⟩
  intro before moment after commit shape made
  have present : moment ∈ moments := by simp [shape]
  obtain ⟨number, taken, stamped⟩ := life_stamped life present made
  have split : commitsOf moments = commitsOf before ++ commit :: commitsOf after := by
    simp [shape, commitsOf, made]
  rw [split] at increasing
  obtain ⟨-, later, below⟩ := List.pairwise_append.mp increasing
  have above := (List.pairwise_cons.mp later).1
  have own : ∀ event ∈ commit.events, event.sequenceId = commit.sequenceId := fun event member =>
    (stamped.events event member).trans stamped.sequenceId.symm
  refine ⟨by rw [taken, stamped.sequenceId], own, ?_, stamped.snapshot.trans stamped.state.symm, ?_⟩
  · intro event member other elsewhere same
    have within : ∀ moment ∈ before ++ after, moment ∈ moments := by
      intro moment inside
      rw [shape]
      rcases List.mem_append.mp inside with early | late <;> simp [*]
    obtain ⟨owner, stored, numbered⟩ := event_number life within elsewhere
    rw [own event member, numbered] at same
    rw [commitsOf, List.filterMap_append] at stored
    rcases List.mem_append.mp stored with early | late
    · have lower := below owner early commit (by simp)
      rw [same] at lower
      omega
    · have higher := above owner late
      rw [same] at higher
      omega
  · intro event member
    have within : ∀ moment' ∈ before ++ [moment], moment' ∈ moments := by
      intro moment' inside
      rcases List.mem_append.mp inside with early | last
      · simp [shape, early]
      · simp [shape, List.mem_singleton.mp last]
    obtain ⟨owner, stored, numbered⟩ := event_number life within member
    rw [numbered, stamped.snapshot, ← stamped.sequenceId]
    rw [commitsOf_snoc, made] at stored
    rcases List.mem_append.mp stored with early | last
    · have lower := below owner early commit (by simp)
      omega
    · rw [List.mem_singleton.mp last]

end Histories

section Restart
open Plain

/-- The second command of the first life takes number 2 and stores nothing. -/
def lostHalt : Processed TestCore (SqliteJournal PlainBlob) :=
  firstLife.processCommand (.haltAll "operator") { calm with weather := .lost "disk full" }

def secondBoot : Sequencer TestCore (SqliteJournal PlainBlob) :=
  match Sequencer.new freshCore lostHalt.sequencer.journal 1 with
  | .ok sequencer => sequencer
  | .err _ | .panicked => firstBoot

def pause : SequencerCommand := .pauseAgent ⟨"athena"⟩ "maintenance"

/-- Number 2 is given again, but only to the one commit that became durable. -/
theorem sequence_ids_after_lost_commit :
    ([1, 2] : List Nat) = ((turnOf firstBoot submit calm).commit.toList ++
      (turnOf secondBoot pause calm).commit.toList).map (fun commit => commit.sequenceId.val) ∧
    ((turnOf firstBoot submit calm).commit.toList ++
      (turnOf secondBoot pause calm).commit.toList).Pairwise fun earlier later =>
        earlier.sequenceId.val < later.sequenceId.val := by
  have blank : Life (fun _ : TestCore => True) NumbersFit [] (.down freshJournal) := .start
  have booted := blank.boot trivial (rfl : Sequencer.new freshCore freshJournal 0 = .ok firstBoot)
  have submitted := booted.process submit calm (by decide : 1 < i64Limit) rfl
  have halted := submitted.stop (.haltAll "operator") { calm with weather := .lost "disk full" }
    (by decide : 2 < i64Limit)
  have rebooted := halted.boot trivial
    (rfl : Sequencer.new freshCore lostHalt.sequencer.journal 1 = .ok secondBoot)
  have paused := rebooted.process pause calm (by decide : 2 < i64Limit) rfl
  exact ⟨rfl, (sequence_ids_never_reused paused).1⟩

end Restart

end FeynmanEngine.SequenceNumbers
