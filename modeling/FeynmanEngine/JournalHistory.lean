import FeynmanEngine.JournalCommits
import FeynmanEngine.SequencerFixtures

/-! The journal under the sequencer's use of it: commits under increasing
numbers, with commits repeated and snapshots saved again at any time. Repetition
adds no event, and the snapshot of the newest commit is never pruned. -/
namespace FeynmanEngine.JournalHistory
open Ids Events Engine Journal SqliteJournal JournalCommits KeyedLog SequencerFixtures

variable {Blob : Type}

theorem mem_replaceAndPrune (rows : List (SnapshotRow Blob)) (row stored : SnapshotRow Blob) :
    stored ∈ replaceAndPrune rows row ↔ stored = row ∨ stored ∈ rows ∧ row.sequenceId < stored.sequenceId := by
  simp only [replaceAndPrune, List.mem_filter, List.mem_append, List.mem_singleton, decide_eq_true_eq]
  constructor
  · rintro ⟨⟨member, apart⟩ | same, kept⟩
    · exact Or.inr ⟨member, by omega⟩
    · exact Or.inl same
  · rintro (rfl | ⟨member, above⟩)
    · exact ⟨Or.inr rfl, lt_irrefl _⟩
    · exact ⟨Or.inl ⟨member, by omega⟩, by omega⟩

variable [MessagePack Blob]

/-- Runs from the empty journal in which every call succeeds. -/
inductive Reached : SqliteJournal Blob → List Commit → Prop
  | empty : Reached .empty []
  | committed {journal after : SqliteJournal Blob} {commits : List Commit} {commit : Commit} {weather : Weather}
      (reached : Reached journal commits) (wellFormed : commit.WellFormed)
      (above : ∀ earlier ∈ commits, earlier.sequenceId.val < commit.sequenceId.val)
      (ran : journal.persistCommit weather commit.events (some commit.snapshot) = (after, .ok ())) :
      Reached after (commits ++ [commit])
  | repeated {journal after : SqliteJournal Blob} {commits : List Commit} {commit : Commit} {weather : Weather}
      (reached : Reached journal commits) (member : commit ∈ commits)
      (ran : journal.persistCommit weather commit.events (some commit.snapshot) = (after, .ok ())) :
      Reached after commits
  | resaved {journal after : SqliteJournal Blob} {commits : List Commit} {commit : Commit} {weather : Weather}
      (reached : Reached journal commits) (member : commit ∈ commits)
      (ran : journal.saveSnapshot weather commit.sequenceId commit.snapshot = (after, .ok ())) :
      Reached after commits

/-- The events table holds the commits; every stored snapshot is one of theirs,
and the newest commit's is among them. -/
structure Kept (journal : SqliteJournal Blob) (commits : List Commit) : Prop where
  held : ∃ snapshots, Holds ⟨journal.events, snapshots⟩ commits
  owned : ∀ row ∈ journal.snapshots, ∃ commit ∈ commits, encodeSnapshotRow commit.snapshot = .ok row
  latest : ∀ newest, commits.getLast? = some newest →
    ∃ row ∈ journal.snapshots, encodeSnapshotRow newest.snapshot = .ok row

/-- The last commit has the greatest number, alone. -/
theorem le_last {commits : List Commit}
    (increasing : commits.Pairwise fun left right => left.sequenceId.val < right.sequenceId.val)
    (last : commits.getLast? = some newest) :
    ∀ commit ∈ commits, commit.sequenceId.val < newest.sequenceId.val ∨ commit = newest := by
  obtain ⟨earlier, rfl⟩ := List.getLast?_eq_some_iff.mp last
  intro commit member
  rcases List.mem_append.mp member with before | same
  · exact Or.inl ((List.pairwise_append.mp increasing).2.2 commit before newest (by simp))
  · exact Or.inr (List.mem_singleton.mp same)

/-- Bringing the rows of a commit again adds none. -/
theorem stored_again {events : List (EventRow Blob)} {snapshots : List (SnapshotRow Blob)} (held : Holds ⟨events, snapshots⟩ commits)
    (member : commit ∈ commits) (encoded : encodeEventRows commit.events 0 = .ok rows) :
    rows.foldl insertOrIgnore events = events := by
  rw [insertOrIgnore_addNew]
  apply (foldl_addNew_same_iff rowKey events rows).mpr
  intro row inside
  exact List.mem_map_of_mem (held.stored_rows member encoded row inside)

/-- Saving the snapshot of any commit keeps the newest one. -/
theorem Kept.saved {journal after : SqliteJournal Blob} (kept : Kept journal commits) (member : commit ∈ commits)
    (encoded : encodeSnapshotRow commit.snapshot = .ok row) (events : after.events = journal.events)
    (snapshots : after.snapshots = replaceAndPrune journal.snapshots row) : Kept after commits := by
  obtain ⟨earlier, held⟩ := kept.held
  refine ⟨⟨earlier, events ▸ held⟩, fun stored inside => ?_, fun newest last => ?_⟩
  · rw [snapshots, mem_replaceAndPrune] at inside
    rcases inside with rfl | ⟨old, -⟩
    · exact ⟨commit, member, encoded⟩
    · exact kept.owned stored old
  · obtain ⟨latest, present, shown⟩ := kept.latest newest last
    simp only [snapshots, mem_replaceAndPrune]
    rcases le_last held.increasing last commit member with before | rfl
    · have mine := snapshotRow_number (held.wellFormed commit member) encoded
      have its := snapshotRow_number (held.wellFormed newest (List.mem_of_getLast? last)) shown
      exact ⟨latest, Or.inr ⟨present, by omega⟩, shown⟩
    · exact ⟨row, Or.inl rfl, encoded⟩

/-- What a call with the snapshot of a commit writes. -/
theorem commit_ran {journal after : SqliteJournal Blob}
    (ran : journal.persistCommit weather batch (some snapshot) = (after, .ok ())) :
    ∃ rows row, encodeEventRows batch 0 = .ok rows ∧ encodeSnapshotRow snapshot = .ok row ∧
      after.events = rows.foldl insertOrIgnore journal.events ∧
      after.snapshots = replaceAndPrune journal.snapshots row := by
  obtain ⟨rows, row, encoded, encodedSnapshot, rfl⟩ := written_snapshot_ok (persistCommit_ok ran)
  exact ⟨rows, row, encoded, encodedSnapshot, rfl, rfl⟩

theorem Kept.committed {journal after : SqliteJournal Blob} (kept : Kept journal commits)
    (wellFormed : commit.WellFormed)
    (above : ∀ earlier ∈ commits, earlier.sequenceId.val < commit.sequenceId.val)
    (ran : journal.persistCommit weather commit.events (some commit.snapshot) = (after, .ok ())) :
    Kept after (commits ++ [commit]) := by
  obtain ⟨rows, row, encoded, encodedSnapshot, events, snapshots⟩ := commit_ran ran
  obtain ⟨earlier, held⟩ := kept.held
  refine ⟨⟨replaceAndPrune earlier row, ?_⟩, fun stored inside => ?_, fun newest last => ?_⟩
  · have written : SqliteJournal.written ⟨journal.events, earlier⟩ commit.events (some commit.snapshot) =
        .ok (persistRows ⟨journal.events, earlier⟩ rows (some row)) := by
      simp [SqliteJournal.written, encoded, encodedSnapshot, bind, Except.bind]
    rw [events]
    exact held.written wellFormed above written
  · rw [snapshots, mem_replaceAndPrune] at inside
    rcases inside with rfl | ⟨old, -⟩
    · exact ⟨commit, by simp, encodedSnapshot⟩
    · obtain ⟨owner, member, shown⟩ := kept.owned stored old
      exact ⟨owner, by simp [member], shown⟩
  · obtain rfl : commit = newest := by simpa using last
    rw [snapshots]
    exact ⟨row, (mem_replaceAndPrune _ _ _).mpr (Or.inl rfl), encodedSnapshot⟩

/-- Along every run the tables keep the commits. -/
theorem Reached.kept {journal : SqliteJournal Blob} (reached : Reached journal commits) : Kept journal commits := by
  induction reached with
  | empty => exact ⟨⟨[], .empty⟩, by simp [SqliteJournal.empty], by simp⟩
  | committed _ wellFormed above ran kept => exact kept.committed wellFormed above ran
  | repeated _ member ran kept =>
    obtain ⟨rows, row, encoded, encodedSnapshot, events, snapshots⟩ := commit_ran ran
    obtain ⟨_, held⟩ := kept.held
    exact kept.saved member encodedSnapshot (events.trans (stored_again held member encoded)) snapshots
  | resaved _ member ran kept =>
    obtain ⟨rows, row, encoded, encodedSnapshot, events, snapshots⟩ := commit_ran ran
    cases encoded
    exact kept.saved member encodedSnapshot events snapshots

/-- Selecting commits by number selects their events by number. -/
theorem flatMap_filter_events {commits : List Commit} (wellFormed : ∀ commit ∈ commits, commit.WellFormed)
    (wanted : Nat → Bool) :
    (commits.filter fun commit => wanted commit.sequenceId.val).flatMap Commit.events =
      (commits.flatMap Commit.events).filter fun event => wanted event.sequenceId.val := by
  induction commits with
  | nil => rfl
  | cons commit rest ih =>
    have stamped := (wellFormed commit List.mem_cons_self).stamped
    have others := ih fun commit member => wellFormed commit (List.mem_cons_of_mem _ member)
    rw [List.flatMap_cons, List.filter_append, ← others]
    cases chosen : wanted commit.sequenceId.val with
    | false =>
      have dropped : commit.events.filter (fun event => wanted event.sequenceId.val) = [] :=
        List.filter_eq_nil_iff.mpr fun event member => by simp [stamped event member, chosen]
      simp [chosen, dropped]
    | true =>
      have kept : commit.events.filter (fun event => wanted event.sequenceId.val) = commit.events :=
        List.filter_eq_self.mpr fun event member => by simp [stamped event member, chosen]
      simp [chosen, kept]

theorem Kept.replayWhere {journal : SqliteJournal Blob} (kept : Kept journal commits) (wanted : Int → Bool) :
    journal.replayWhere wanted =
      .ok ((commits.flatMap Commit.events).filter fun event => wanted event.sequenceId.val) := by
  obtain ⟨snapshots, held⟩ := kept.held
  rw [← flatMap_filter_events held.wellFormed fun id => wanted id]
  exact held.replayWhere wanted

theorem Kept.replayFrom {journal : SqliteJournal Blob} (kept : Kept journal commits)
    (bounded : start.val < i64Limit) :
    journal.replayFrom start =
      .ok ((commits.flatMap Commit.events).filter fun event => start.val ≤ event.sequenceId.val) := by
  rw [SqliteJournal.replayFrom, seqAsI64_of_bounded bounded, kept.replayWhere]
  simp

theorem Kept.replayRange {journal : SqliteJournal Blob} (kept : Kept journal commits)
    (startBounded : start.val < i64Limit) (lastBounded : last.val < i64Limit) :
    journal.replayRange start last =
      .ok ((commits.flatMap Commit.events).filter fun event =>
        start.val ≤ event.sequenceId.val ∧ event.sequenceId.val ≤ last.val) := by
  rw [SqliteJournal.replayRange, seqAsI64_of_bounded startBounded, seqAsI64_of_bounded lastBounded,
    kept.replayWhere]
  simp

theorem Kept.latestSequenceId {journal : SqliteJournal Blob} (kept : Kept journal commits) :
    journal.latestSequenceId =
      .ok ⟨((commits.flatMap Commit.events).map fun event => event.sequenceId.val).max?.getD 0⟩ := by
  obtain ⟨snapshots, held⟩ := kept.held
  have numbers : journal.events.map EventRow.sequenceId = _ := held.numbers
  unfold SqliteJournal.latestSequenceId
  rw [numbers]
  cases found : ((commits.flatMap Commit.events).map fun event => event.sequenceId.val).max? with
  | none =>
    have none := List.map_eq_nil_iff.mp (List.max?_eq_none_iff.mp found)
    rw [none]
    rfl
  | some newest =>
    obtain ⟨inside, above⟩ := List.max?_eq_some_iff.mp found
    obtain ⟨event, member, same⟩ := List.mem_map.mp inside
    have cast : ((commits.flatMap Commit.events).map fun event => (event.sequenceId.val : Int)).max? =
        some (newest : Int) := by
      apply List.max?_eq_some_iff.mpr
      constructor
      · exact List.mem_map.mpr ⟨event, member, congrArg Nat.cast same⟩
      · intro number shown
        obtain ⟨other, present, rfl⟩ := List.mem_map.mp shown
        exact_mod_cast above _ (List.mem_map_of_mem present)
    obtain ⟨owner, stored, mine⟩ := List.mem_flatMap.mp member
    have wellFormed := held.wellFormed owner stored
    have bounded : (SequenceId.mk newest).val < i64Limit := by
      rw [← same, wellFormed.stamped event mine]
      exact wellFormed.bounded
    have back := i64AsSeq_seqAsI64 bounded
    rw [seqAsI64_of_bounded bounded] at back
    rw [cast]
    exact congrArg Except.ok back

/-- The newest row of all is the newest commit's. -/
theorem Kept.newestSnapshotRow {journal : SqliteJournal Blob} (kept : Kept journal commits)
    (last : commits.getLast? = some newest) :
    ∃ row, journal.newestSnapshotRow = some row ∧ encodeSnapshotRow newest.snapshot = .ok row := by
  obtain ⟨earlier, held⟩ := kept.held
  obtain ⟨latest, present, shown⟩ := kept.latest newest last
  let newerFirst := fun left right : SnapshotRow Blob => right.sequenceId ≤ left.sequenceId
  have total : Std.Total newerFirst := ⟨fun left right => le_total right.sequenceId left.sequenceId⟩
  have transitive : IsTrans (SnapshotRow Blob) newerFirst := ⟨fun _ _ _ first second => second.trans first⟩
  have sorted := List.pairwise_insertionSort newerFirst journal.snapshots
  have present' := (List.mem_insertionSort newerFirst).mpr present
  change ∃ row, (journal.snapshots.insertionSort newerFirst).head? = some row ∧ _
  cases order : journal.snapshots.insertionSort newerFirst with
  | nil =>
    rw [order] at present'
    cases present'
  | cons top rest =>
    have stored : top ∈ journal.snapshots :=
      (List.mem_insertionSort newerFirst).mp (order ▸ List.mem_cons_self)
    rw [order] at sorted present'
    have atMost : latest.sequenceId ≤ top.sequenceId := by
      rcases List.mem_cons.mp present' with rfl | later
      · exact le_refl _
      · exact List.rel_of_pairwise_cons sorted later
    obtain ⟨owner, member, produced⟩ := kept.owned top stored
    have topNumber := snapshotRow_number (held.wellFormed owner member) produced
    have itsNumber := snapshotRow_number (held.wellFormed newest (List.mem_of_getLast? last)) shown
    refine ⟨top, rfl, ?_⟩
    rcases le_last held.increasing last owner member with before | rfl
    · omega
    · exact produced

/-- The greatest commit's snapshot is the one loaded. -/
theorem Kept.loadLatestSnapshot {journal : SqliteJournal Blob} (kept : Kept journal commits) :
    journal.loadLatestSnapshot =
      .ok (commits.getLast?.map fun commit => (commit.sequenceId, commit.snapshot)) := by
  unfold SqliteJournal.loadLatestSnapshot
  cases last : commits.getLast? with
  | none =>
    obtain rfl := List.getLast?_eq_none_iff.mp last
    have nothing : journal.snapshots = [] := by
      apply List.eq_nil_iff_forall_not_mem.mpr
      intro row stored
      obtain ⟨owner, member, -⟩ := kept.owned row stored
      cases member
    have noRow : journal.newestSnapshotRow = none := by
      rw [SqliteJournal.newestSnapshotRow, nothing]
      rfl
    rw [noRow]
    rfl
  | some newest =>
    obtain ⟨row, found, produced⟩ := kept.newestSnapshotRow last
    obtain ⟨earlier, held⟩ := kept.held
    have wellFormed := held.wellFormed newest (List.mem_of_getLast? last)
    obtain ⟨number, version, decoded⟩ := encodeSnapshotRow_ok produced
    have back : i64AsSeq row.sequenceId = newest.sequenceId := by
      rw [number, wellFormed.snapshotId, i64AsSeq_seqAsI64 wellFormed.bounded]
    simp [found, ensureSupportedSchemaVersion, version, decoded, back, bind, Except.bind]

/-- After every run of commits, repetitions and saves: replays return the events
of the commits by number and in order, no repetition changes that, the latest
number is the greatest event's, and the snapshot loaded is the greatest commit's. -/
theorem commits_read_back {journal : SqliteJournal Blob} (reached : Reached journal commits) :
    (∀ start : SequenceId, start.val < i64Limit → journal.replayFrom start =
      .ok ((commits.flatMap Commit.events).filter fun event => start.val ≤ event.sequenceId.val)) ∧
    (∀ start last : SequenceId, start.val ≤ last.val → last.val < i64Limit → journal.replayRange start last =
      .ok ((commits.flatMap Commit.events).filter fun event =>
        start.val ≤ event.sequenceId.val ∧ event.sequenceId.val ≤ last.val)) ∧
    (∀ commit ∈ commits, ∀ weather after,
      journal.persistCommit weather commit.events (some commit.snapshot) = (after, .ok ()) →
        (∀ start, after.replayFrom start = journal.replayFrom start) ∧
        ∀ start last, after.replayRange start last = journal.replayRange start last) ∧
    journal.latestSequenceId =
      .ok ⟨((commits.flatMap Commit.events).map fun event => event.sequenceId.val).max?.getD 0⟩ ∧
    ((commits = [] ∧ journal.loadLatestSnapshot = .ok none) ∨
      ∃ newest ∈ commits, (∀ other ∈ commits, other.sequenceId.val ≤ newest.sequenceId.val) ∧
        journal.loadLatestSnapshot = .ok (some (newest.sequenceId, newest.snapshot))) := by
  have kept := reached.kept
  refine ⟨fun start bounded => kept.replayFrom bounded, fun start last order bounded =>
    kept.replayRange (order.trans_lt bounded) bounded, fun commit member weather after ran => ?_,
    kept.latestSequenceId, ?_⟩
  · have again := (Reached.repeated reached member ran).kept
    have same : ∀ wanted, after.replayWhere wanted = journal.replayWhere wanted := fun wanted =>
      (again.replayWhere wanted).trans (kept.replayWhere wanted).symm
    exact ⟨fun start => same _, fun start last => same _⟩
  · have loaded := kept.loadLatestSnapshot
    cases last : commits.getLast? with
    | none =>
      rw [last] at loaded
      exact Or.inl ⟨List.getLast?_eq_none_iff.mp last, loaded⟩
    | some newest =>
      rw [last] at loaded
      obtain ⟨earlier, held⟩ := kept.held
      refine Or.inr ⟨newest, List.mem_of_getLast? last, fun other member => ?_, loaded⟩
      rcases le_last held.increasing last other member with before | rfl
      · exact before.le
      · exact le_refl _

/-- A commit of two events, and a later one of a single event. -/
def twoCommits : List Commit :=
  [⟨⟨3⟩, [receivedEvent 3 "ord-3", validatedEvent 3 "ord-3"], emptySnapshot 3⟩,
    ⟨⟨5⟩, [receivedEvent 5 "ord-5"], emptySnapshot 5⟩]

/-- The tables after these commits in clear weather. -/
def afterCommits (commits : List Commit) : SqliteJournal PlainBlob :=
  commits.foldl (fun journal commit => (journal.persistCommit .clear commit.events (some commit.snapshot)).1) .empty

private theorem Reached.clear {journal : SqliteJournal PlainBlob} (reached : Reached journal commits)
    (commit : Commit) (wellFormed : commit.WellFormed)
    (above : ∀ earlier ∈ commits, earlier.sequenceId.val < commit.sequenceId.val)
    (fine : (journal.persistCommit .clear commit.events (some commit.snapshot)).2 = .ok ()) :
    Reached (journal.persistCommit .clear commit.events (some commit.snapshot)).1 (commits ++ [commit]) :=
  .committed reached wellFormed above (Prod.ext rfl fine)

/-- With the first commit repeated, replay from 4 finds the second one's event,
whose number is the latest. -/
theorem commits_read_back_repeated :
    (afterCommits [twoCommits[0], twoCommits[1], twoCommits[0]]).replayFrom ⟨4⟩ = .ok [receivedEvent 5 "ord-5"] ∧
      (afterCommits [twoCommits[0], twoCommits[1], twoCommits[0]]).latestSequenceId = .ok ⟨5⟩ := by
  have both : Reached (afterCommits twoCommits) twoCommits := by
    refine .clear (.clear .empty twoCommits[0] ⟨by decide, ?_, rfl⟩ (by simp) rfl) twoCommits[1]
      ⟨by decide, ?_, rfl⟩ (by simp [twoCommits]) rfl
    · simp [twoCommits, receivedEvent, validatedEvent]
    · simp [twoCommits, receivedEvent]
  have again : Reached (afterCommits [twoCommits[0], twoCommits[1], twoCommits[0]]) twoCommits :=
    @Reached.repeated _ _ _ _ _ twoCommits[0] .clear both List.mem_cons_self rfl
  obtain ⟨replays, -, -, newest, -⟩ := commits_read_back again
  exact ⟨replays ⟨4⟩ (by decide), newest⟩

end FeynmanEngine.JournalHistory
