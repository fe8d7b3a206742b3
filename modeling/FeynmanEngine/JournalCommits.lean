import FeynmanEngine.Journal
import FeynmanEngine.KeyedLog

/-! What the journal stands for: the list of its durable commits, oldest first,
under strictly increasing command numbers. The tables are related to that list
one transaction at a time, and every read is an expression of it. -/
namespace FeynmanEngine.JournalCommits
open Ids Events Engine Journal SqliteJournal KeyedLog

/-- What one command makes durable. -/
structure Commit where
  sequenceId : SequenceId
  events : List SequencedEvent
  snapshot : EngineStateSnapshot

/-- Events and snapshot carry the command's number, and it fits the column. -/
structure Commit.WellFormed (commit : Commit) : Prop where
  bounded : commit.sequenceId.val < i64Limit
  stamped : ∀ event ∈ commit.events, event.sequenceId = commit.sequenceId
  snapshotId : commit.snapshot.sequenceId = commit.sequenceId

variable {Blob : Type}

/-- The primary key of `events`. -/
def rowKey (row : EventRow Blob) : Int × Int :=
  (row.sequenceId, row.eventIndex)

theorem insertOrIgnore_addNew : @insertOrIgnore Blob = addNew rowKey := by
  funext rows row
  simp [insertOrIgnore, addNew, rowKey, List.any_eq_true]

/-- Rows under a new number, with indices of their own, are all stored. -/
private theorem insert_all {table rows : List (EventRow Blob)}
    (fresh : ∀ row ∈ rows, ∀ stored ∈ table, stored.sequenceId ≠ row.sequenceId)
    (indexed : rows.Pairwise fun left right => left.eventIndex < right.eventIndex) :
    rows.foldl insertOrIgnore table = table ++ rows := by
  rw [insertOrIgnore_addNew]
  apply foldl_addNew_fresh
  · intro row member taken
    obtain ⟨stored, old, same⟩ := List.mem_map.mp taken
    exact fresh row member stored old (congrArg Prod.fst same)
  · refine List.pairwise_map.mpr (indexed.imp fun {left right} below same => ?_)
    have equal : left.eventIndex = right.eventIndex := congrArg Prod.snd same
    omega

variable [MessagePack Blob]

/-- The tables hold exactly these commits. -/
inductive Holds : SqliteJournal Blob → List Commit → Prop
  | empty : Holds .empty []
  | committed {journal : SqliteJournal Blob} {commits : List Commit} {commit : Commit}
      {rows : List (EventRow Blob)} {row : SnapshotRow Blob}
      (held : Holds journal commits) (wellFormed : commit.WellFormed)
      (above : ∀ earlier ∈ commits, earlier.sequenceId.val < commit.sequenceId.val)
      (encodedEvents : encodeEventRows commit.events 0 = .ok rows)
      (encodedSnapshot : encodeSnapshotRow commit.snapshot = .ok row) :
      Holds ⟨journal.events ++ rows, [row]⟩ (commits ++ [commit])

theorem seqAsI64_of_bounded {seq : SequenceId} (bounded : seq.val < i64Limit) :
    seqAsI64 seq = seq.val := by
  simp [seqAsI64, bounded]

theorem i64AsSeq_seqAsI64 {seq : SequenceId} (bounded : seq.val < i64Limit) :
    i64AsSeq (seqAsI64 seq) = seq := by
  obtain ⟨value⟩ := seq
  have small : value < u64Limit := Nat.lt_trans bounded (by decide)
  have unwrapped : ((value : Int) % (u64Limit : Int)).toNat = value := by
    rw [Int.emod_eq_of_lt (Int.natCast_nonneg value) (by exact_mod_cast small)]
    exact Int.toNat_natCast value
  rw [seqAsI64_of_bounded bounded]
  exact congrArg SequenceId.mk unwrapped

theorem encodeEventRow_ok {row : EventRow Blob} (encoded : encodeEventRow event index = .ok row) :
    row.sequenceId = seqAsI64 event.sequenceId ∧ row.eventIndex = index ∧
      decodeEventRow row = .ok event := by
  unfold encodeEventRow at encoded
  split at encoded
  · split at encoded
    · next payload produced =>
      cases encoded
      simp [decodeEventRow, ensureSupportedSchemaVersion, MessagePack.decode_event produced, bind, Except.bind]
    · cases encoded
  · cases encoded

theorem encodeEventRows_cons {rows : List (EventRow Blob)}
    (encoded : encodeEventRows (event :: rest) index = .ok rows) :
    ∃ row tail, encodeEventRow event index = .ok row ∧
      encodeEventRows rest (index + 1) = .ok tail ∧ rows = row :: tail := by
  cases first : (encodeEventRow event index : Except _ (EventRow Blob)) with
  | error error => simp [encodeEventRows, first, bind, Except.bind] at encoded
  | ok row =>
    cases others : (encodeEventRows rest (index + 1) : Except _ (List (EventRow Blob))) with
    | error error => simp [encodeEventRows, first, others, bind, Except.bind] at encoded
    | ok tail =>
      simp only [encodeEventRows, first, others, bind, Except.bind, Except.ok.injEq] at encoded
      exact ⟨row, tail, rfl, rfl, encoded.symm⟩

theorem encodeEventRows_length {batch : List SequencedEvent} {rows : List (EventRow Blob)}
    (encoded : encodeEventRows batch index = .ok rows) : rows.length = batch.length := by
  induction batch generalizing index rows with
  | nil =>
    cases encoded
    rfl
  | cons event rest ih =>
    obtain ⟨row, tail, -, others, rfl⟩ := encodeEventRows_cons encoded
    rw [List.length_cons, List.length_cons, ih others]

/-- Every encoded row carries the command's number. -/
theorem encodeEventRows_sequenceId {batch : List SequencedEvent} {rows : List (EventRow Blob)}
    (encoded : encodeEventRows batch index = .ok rows)
    (stamped : ∀ event ∈ batch, event.sequenceId = seq) :
    ∀ row ∈ rows, row.sequenceId = seqAsI64 seq := by
  induction batch generalizing index rows with
  | nil =>
    cases encoded
    simp
  | cons event rest ih =>
    obtain ⟨row, tail, first, others, rfl⟩ := encodeEventRows_cons encoded
    intro stored member
    rcases List.mem_cons.mp member with rfl | later
    · rw [(encodeEventRow_ok first).1, stamped event (by simp)]
    · exact ih others (fun event member => stamped event (by simp [member])) stored later

/-- Rows of one call are numbered upwards. -/
theorem encodeEventRows_indexed {batch : List SequencedEvent} {rows : List (EventRow Blob)}
    (encoded : encodeEventRows batch index = .ok rows) :
    (∀ row ∈ rows, (index : Int) ≤ row.eventIndex) ∧
      rows.Pairwise fun left right => left.eventIndex < right.eventIndex := by
  induction batch generalizing index rows with
  | nil =>
    cases encoded
    simp
  | cons event rest ih =>
    obtain ⟨row, tail, first, others, rfl⟩ := encodeEventRows_cons encoded
    obtain ⟨above, ordered⟩ := ih others
    have numbered := (encodeEventRow_ok first).2.1
    constructor
    · intro stored member
      rcases List.mem_cons.mp member with rfl | later
      · omega
      · have bound := above stored later
        omega
    · refine List.pairwise_cons.mpr ⟨fun stored later => ?_, ordered⟩
      have bound := above stored later
      omega

theorem decode_encodeEventRows {batch : List SequencedEvent} {rows : List (EventRow Blob)}
    (encoded : encodeEventRows batch index = .ok rows) : rows.mapM decodeEventRow = .ok batch := by
  induction batch generalizing index rows with
  | nil =>
    cases encoded
    rfl
  | cons event rest ih =>
    obtain ⟨row, tail, first, others, rfl⟩ := encodeEventRows_cons encoded
    simp [(encodeEventRow_ok first).2.2, ih others, bind, Except.bind, pure, Except.pure]

theorem encodeSnapshotRow_ok {row : SnapshotRow Blob}
    (encoded : encodeSnapshotRow snapshot = .ok row) :
    row.sequenceId = seqAsI64 snapshot.sequenceId ∧ row.schemaVersion = persistedSchemaVersion ∧
      MessagePack.decodeSnapshot row.state = .ok snapshot := by
  unfold encodeSnapshotRow at encoded
  split at encoded
  · next state produced =>
    cases encoded
    exact ⟨rfl, rfl, MessagePack.decode_snapshot produced⟩
  · cases encoded

/-- The saved row of a commit carries its number. -/
theorem snapshotRow_number {commit : Commit} {row : SnapshotRow Blob} (wellFormed : commit.WellFormed)
    (encoded : encodeSnapshotRow commit.snapshot = .ok row) : row.sequenceId = commit.sequenceId.val := by
  rw [(encodeSnapshotRow_ok encoded).1, wellFormed.snapshotId, seqAsI64_of_bounded wellFormed.bounded]

/-- What a transaction writes: the rows of its events and of its snapshot. -/
theorem written_ok {journal after : SqliteJournal Blob} (written : journal.written batch snapshot = .ok after) :
    ∃ rows row, encodeEventRows batch 0 = .ok rows ∧ snapshot.mapM encodeSnapshotRow = .ok row ∧
      after = journal.persistRows rows row := by
  unfold SqliteJournal.written at written
  cases encodedEvents : (encodeEventRows batch 0 : Except _ (List (EventRow Blob))) with
  | error error => simp [encodedEvents, bind, Except.bind] at written
  | ok rows =>
    cases snapshot with
    | none =>
      simp only [encodedEvents, bind, Except.bind, Except.ok.injEq] at written
      exact ⟨rows, none, rfl, rfl, written.symm⟩
    | some snapshot =>
      cases encodedSnapshot : (encodeSnapshotRow snapshot : Except _ (SnapshotRow Blob)) with
      | error error => simp [encodedEvents, encodedSnapshot, bind, Except.bind] at written
      | ok row =>
        simp only [encodedEvents, encodedSnapshot, bind, Except.bind, Except.ok.injEq] at written
        refine ⟨rows, some row, rfl, ?_, written.symm⟩
        simp [encodedSnapshot, Functor.map, Except.map]

/-- What a transaction with a snapshot writes. -/
theorem written_snapshot_ok {journal after : SqliteJournal Blob}
    (written : journal.written batch (some snapshot) = .ok after) :
    ∃ rows row, encodeEventRows batch 0 = .ok rows ∧ encodeSnapshotRow snapshot = .ok row ∧
      after = journal.persistRows rows (some row) := by
  obtain ⟨rows, saved, encoded, encodedSnapshot, rfl⟩ := written_ok written
  cases produced : (encodeSnapshotRow snapshot : Except _ (SnapshotRow Blob)) with
  | error error => simp [produced, Functor.map, Except.map] at encodedSnapshot
  | ok row =>
    simp only [Option.mapM_some, produced, Functor.map, Except.map, Except.ok.injEq] at encodedSnapshot
    obtain rfl := encodedSnapshot
    exact ⟨rows, row, encoded, rfl, rfl⟩

/-- A call that succeeds has written; the call of nothing writes nothing. -/
theorem persistCommit_ok {journal after : SqliteJournal Blob}
    (succeeded : journal.persistCommit weather batch snapshot = (after, .ok ())) :
    journal.written batch snapshot = .ok after := by
  unfold SqliteJournal.persistCommit at succeeded
  cases outcome : journal.written batch snapshot with
  | error error => simp [outcome] at succeeded
  | ok written =>
    simp only [outcome] at succeeded
    by_cases nothing : (batch.isEmpty && snapshot.isNone) = true
    · rw [if_pos nothing, Prod.mk.injEq] at succeeded
      obtain ⟨noEvents, noSnapshot⟩ := Bool.and_eq_true_iff.mp nothing
      obtain rfl := List.isEmpty_iff.mp noEvents
      obtain rfl := Option.isNone_iff_eq_none.mp noSnapshot
      cases outcome
      exact congrArg Except.ok succeeded.1
    · rw [if_neg nothing] at succeeded
      cases weather with
      | clear =>
        rw [Prod.mk.injEq] at succeeded
        exact congrArg Except.ok succeeded.1
      | lost detail => simp at succeeded
      | unreported detail => simp at succeeded

theorem Holds.bounded {journal : SqliteJournal Blob} (held : Holds journal commits) :
    ∀ commit ∈ commits, commit.sequenceId.val < i64Limit := by
  induction held with
  | empty => simp
  | committed _ wellFormed _ _ _ ih =>
    intro stored member
    rcases List.mem_append.mp member with earlier | newest
    · exact ih stored earlier
    · obtain rfl := List.mem_singleton.mp newest
      exact wellFormed.bounded

theorem Holds.increasing {journal : SqliteJournal Blob} (held : Holds journal commits) :
    commits.Pairwise fun left right => left.sequenceId.val < right.sequenceId.val := by
  induction held with
  | empty => exact .nil
  | committed _ _ above _ _ ih =>
    refine List.pairwise_append.mpr ⟨ih, by simp, fun earlier member newest last => ?_⟩
    obtain rfl := List.mem_singleton.mp last
    exact above earlier member

theorem Holds.wellFormed {journal : SqliteJournal Blob} (held : Holds journal commits) :
    ∀ commit ∈ commits, commit.WellFormed := by
  induction held with
  | empty => simp
  | committed _ wellFormed _ _ _ ih =>
    intro stored member
    rcases List.mem_append.mp member with earlier | newest
    · exact ih stored earlier
    · obtain rfl := List.mem_singleton.mp newest
      exact wellFormed

/-- The rows of every commit are stored. -/
theorem Holds.stored_rows {journal : SqliteJournal Blob} (held : Holds journal commits)
    (member : commit ∈ commits) (encoded : encodeEventRows commit.events 0 = .ok rows) :
    ∀ row ∈ rows, row ∈ journal.events := by
  induction held with
  | empty => simp at member
  | committed _ _ _ encodedEvents _ ih =>
    intro row inside
    rcases List.mem_append.mp member with earlier | newest
    · exact List.mem_append_left _ (ih earlier row inside)
    · obtain rfl := List.mem_singleton.mp newest
      rw [encodedEvents, Except.ok.injEq] at encoded
      rw [encoded]
      exact List.mem_append_right _ inside

/-- Every stored event row belongs to a commit. -/
theorem Holds.row_commit {journal : SqliteJournal Blob} (held : Holds journal commits) :
    ∀ row ∈ journal.events, ∃ commit ∈ commits, row.sequenceId = commit.sequenceId.val := by
  induction held with
  | empty => simp [SqliteJournal.empty]
  | @committed journal commits commit rows _ held wellFormed above encoded _ ih =>
    intro row member
    rcases List.mem_append.mp member with earlier | newest
    · obtain ⟨owner, stored, same⟩ := ih row earlier
      exact ⟨owner, by simp [stored], same⟩
    · have numbered := encodeEventRows_sequenceId encoded wellFormed.stamped row newest
      rw [seqAsI64_of_bounded wellFormed.bounded] at numbered
      exact ⟨commit, by simp, numbered⟩

/-- The stored numbers are those of the events. -/
theorem Holds.numbers {journal : SqliteJournal Blob} (held : Holds journal commits) :
    journal.events.map EventRow.sequenceId =
      (commits.flatMap Commit.events).map fun event => (event.sequenceId.val : Int) := by
  induction held with
  | empty => rfl
  | @committed journal commits commit rows _ held wellFormed _ encoded _ ih =>
    have rowNumbers := encodeEventRows_sequenceId encoded wellFormed.stamped
    rw [seqAsI64_of_bounded wellFormed.bounded] at rowNumbers
    have lengths : rows.length = commit.events.length := encodeEventRows_length encoded
    rw [List.map_append, ih, List.flatMap_append, List.map_append, List.flatMap_singleton,
      List.map_congr_left rowNumbers,
      List.map_congr_left fun event member => congrArg (fun id => (id.val : Int)) (wellFormed.stamped event member),
      List.map_const', List.map_const', lengths]

/-- The insertion order is already the order every query asks for. -/
theorem Holds.events_ordered {journal : SqliteJournal Blob} (held : Holds journal commits) :
    journal.events.Pairwise rowOrder := by
  induction held with
  | empty => exact .nil
  | @committed journal commits commit rows _ held wellFormed above encoded _ ih =>
    have numbered := encodeEventRows_sequenceId encoded wellFormed.stamped
    refine List.pairwise_append.mpr ⟨ih, ?_, fun earlier old newest fresh => ?_⟩
    · refine (encodeEventRows_indexed encoded).2.imp_of_mem fun left right lower => ?_
      exact Or.inr ⟨by rw [numbered _ left, numbered _ right], lower.le⟩
    · obtain ⟨owner, stored, same⟩ := held.row_commit earlier old
      have before := above owner stored
      have number := numbered newest fresh
      rw [seqAsI64_of_bounded wellFormed.bounded] at number
      exact Or.inl (by omega)

theorem Holds.snapshots_below {journal : SqliteJournal Blob} (held : Holds journal commits)
    (above : ∀ earlier ∈ commits, earlier.sequenceId.val < bound) :
    ∀ row ∈ journal.snapshots, row.sequenceId < bound := by
  cases held with
  | empty => simp [SqliteJournal.empty]
  | @committed _ _ commit _ row _ wellFormed _ _ encodedSnapshot =>
    intro stored member
    obtain rfl := List.mem_singleton.mp member
    rw [snapshotRow_number wellFormed encodedSnapshot]
    exact_mod_cast above commit (by simp)

/-- A transaction for the next commit leaves tables that hold it too. -/
theorem Holds.written {journal after : SqliteJournal Blob} {commit : Commit} (held : Holds journal commits)
    (wellFormed : commit.WellFormed)
    (above : ∀ earlier ∈ commits, earlier.sequenceId.val < commit.sequenceId.val)
    (written : journal.written commit.events (some commit.snapshot) = .ok after) :
    Holds after (commits ++ [commit]) := by
  obtain ⟨rows, row, encodedEvents, encodedSnapshot, rfl⟩ := written_snapshot_ok written
  have number := snapshotRow_number wellFormed encodedSnapshot
  have inserted : rows.foldl insertOrIgnore journal.events = journal.events ++ rows := by
    refine insert_all (fun row fresh stored old same => ?_) (encodeEventRows_indexed encodedEvents).2
    obtain ⟨owner, member, numbered⟩ := held.row_commit stored old
    have before := above owner member
    have mine := encodeEventRows_sequenceId encodedEvents wellFormed.stamped row fresh
    rw [seqAsI64_of_bounded wellFormed.bounded] at mine
    omega
  have pruned : replaceAndPrune journal.snapshots row = [row] := by
    have older := held.snapshots_below above
    simp only [replaceAndPrune, List.filter_append, List.filter_filter]
    rw [List.filter_eq_nil_iff.mpr]
    · simp
    · intro stored member
      have lower := older stored member
      simp only [number]
      simp [lower]
  rw [persistRows, inserted, pruned]
  exact .committed held wellFormed above encodedEvents encodedSnapshot

/-- `persist_commit`, whatever the storage does and reports: the commit is
durable or nothing changed, and success is only reported for the former. -/
theorem Holds.persistCommit {journal : SqliteJournal Blob} {commit : Commit} (held : Holds journal commits)
    (wellFormed : commit.WellFormed)
    (above : ∀ earlier ∈ commits, earlier.sequenceId.val < commit.sequenceId.val)
    (weather : Weather) :
    if journal.lands weather commit.events (some commit.snapshot) then
      Holds (journal.persistCommit weather commit.events (some commit.snapshot)).1 (commits ++ [commit])
    else ∃ error,
      journal.persistCommit weather commit.events (some commit.snapshot) = (journal, .error error) := by
  unfold SqliteJournal.persistCommit lands
  cases outcome : journal.written commit.events (some commit.snapshot) with
  | error error =>
    cases weather <;> exact ⟨error, rfl⟩
  | ok after =>
    have durable := held.written wellFormed above outcome
    cases weather <;> simp [durable, Except.toBool]

private theorem mapM_ok_append {α β ε : Type} {f : α → Except ε β} {xs xs' : List α}
    {ys ys' : List β} (left : xs.mapM f = .ok ys)
    (right : xs'.mapM f = .ok ys') : (xs ++ xs').mapM f = .ok (ys ++ ys') := by
  simp [List.mapM_append, left, right, bind, Except.bind, pure, Except.pure]

private theorem Holds.decode_where {journal : SqliteJournal Blob} (held : Holds journal commits)
    (wanted : Int → Bool) :
    (journal.events.filter fun row => wanted row.sequenceId).mapM decodeEventRow =
      .ok ((commits.filter fun commit => wanted commit.sequenceId.val).flatMap Commit.events) := by
  induction held with
  | empty => rfl
  | @committed journal commits commit rows _ held wellFormed above encoded _ ih =>
    have numbered := encodeEventRows_sequenceId encoded wellFormed.stamped
    rw [seqAsI64_of_bounded wellFormed.bounded] at numbered
    rw [List.filter_append, List.filter_append, List.flatMap_append]
    refine mapM_ok_append ih ?_
    cases chosen : wanted commit.sequenceId.val with
    | false =>
      have dropped : rows.filter (fun row => wanted row.sequenceId) = [] :=
        List.filter_eq_nil_iff.mpr fun row member => by simp [numbered row member, chosen]
      simp [dropped, chosen, pure, Except.pure]
    | true =>
      have kept : rows.filter (fun row => wanted row.sequenceId) = rows :=
        List.filter_eq_self.mpr fun row member => by simp [numbered row member, chosen]
      simpa [kept, chosen] using decode_encodeEventRows encoded

/-- A query over the numbers returns the events of the commits it selects. -/
theorem Holds.replayWhere {journal : SqliteJournal Blob} (held : Holds journal commits)
    (wanted : Int → Bool) :
    journal.replayWhere wanted =
      .ok ((commits.filter fun commit => wanted commit.sequenceId.val).flatMap Commit.events) := by
  have ordered : (journal.events.filter fun row => wanted row.sequenceId).Pairwise rowOrder :=
    held.events_ordered.sublist List.filter_sublist
  rw [SqliteJournal.replayWhere, ordered.insertionSort_eq, held.decode_where]

/-- Replay from zero returns all durable events in order. -/
theorem Holds.replay_all {journal : SqliteJournal Blob} (held : Holds journal commits) :
    journal.replayFrom .zero = .ok (commits.flatMap Commit.events) := by
  rw [replayFrom, held.replayWhere]
  congr 2
  refine List.filter_eq_self.mpr fun commit _ => ?_
  simp [seqAsI64, SequenceId.zero, i64Limit]

theorem Holds.loadLatestSnapshot {journal : SqliteJournal Blob} (held : Holds journal commits) :
    journal.loadLatestSnapshot =
      .ok (commits.getLast?.map fun commit => (commit.sequenceId, commit.snapshot)) := by
  cases held with
  | empty => rfl
  | @committed _ _ commit _ row _ wellFormed _ _ encoded =>
    obtain ⟨number, version, decoded⟩ := encodeSnapshotRow_ok encoded
    have newest : (i64AsSeq row.sequenceId) = commit.sequenceId := by
      rw [number, wellFormed.snapshotId, i64AsSeq_seqAsI64 wellFormed.bounded]
    simp [SqliteJournal.loadLatestSnapshot, newestSnapshotRow, ensureSupportedSchemaVersion, version,
      decoded, newest, bind, Except.bind]

/-- The newest stored event belongs to a commit. -/
theorem Holds.latestSequenceId {journal : SqliteJournal Blob} (held : Holds journal commits) :
    ∃ newest, journal.latestSequenceId = .ok newest ∧
      (newest = .zero ∨ ∃ commit ∈ commits, newest = commit.sequenceId) := by
  unfold SqliteJournal.latestSequenceId
  cases found : (journal.events.map EventRow.sequenceId).max? with
  | none => exact ⟨_, rfl, Or.inl rfl⟩
  | some number =>
    obtain ⟨row, member, rfl⟩ := List.mem_map.mp (List.max?_mem found)
    obtain ⟨commit, stored, same⟩ := held.row_commit row member
    refine ⟨_, rfl, Or.inr ⟨commit, stored, ?_⟩⟩
    rw [same, ← seqAsI64_of_bounded (held.bounded commit stored),
      i64AsSeq_seqAsI64 (held.bounded commit stored)]

end FeynmanEngine.JournalCommits
