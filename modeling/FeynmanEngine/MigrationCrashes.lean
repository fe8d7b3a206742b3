import FeynmanEngine.SchemaMigration
import FeynmanEngine.SequencerFixtures

/-! What a crash during the schema migration leaves, and what the next open
makes of it. Between the creation of `events_v2` and its renaming the next open
refuses the file, or starts an empty history beside the copied one. -/
namespace FeynmanEngine.MigrationCrashes
open Ids Events Engine Journal SqliteJournal Scripts SchemaMigration SequencerFixtures

variable {Blob : Type}

/-- The rows the migration leaves. -/
def migrated (table : LegacyTable Blob) : List (EventRow Blob) :=
  (table.rows.insertionSort fun left right => left.sequenceId ≤ right.sequenceId).map
    (LegacyRow.copied table.hasSchemaVersion)

def upgraded : SnapshotsTable Blob → List (SnapshotRow Blob)
  | .legacy rows => rows.map fun row => ⟨row.sequenceId, row.timestamp, persistedSchemaVersion, row.state⟩
  | .current rows => rows

variable {sqlText : SqlError → String}

/-- A successful statement of the session. -/
theorem commit_ok {statement : Statement} {db : Database Blob}
    (done : execute statement.sql db = .ok answer) : commit sqlText statement db = .ok answer := by
  rw [commit, done]

theorem commit_failed {statement : Statement} {db : Database Blob}
    (failed : execute statement.sql db = .error error) :
    commit sqlText statement db = .error (.journal (statement.context ++ sqlText error)) := by
  rw [commit, failed]

theorem ensureSchemaVersionColumn_run (events eventsV2 : Option (EventsTable Blob)) (snapshots : SnapshotsTable Blob) :
    ensureSchemaVersionColumn.run (commit sqlText) ⟨events, eventsV2, some snapshots⟩ =
      (⟨events, eventsV2, some (.current (upgraded snapshots))⟩, .ok ()) := by
  cases snapshots with
  | legacy rows => rfl
  | current rows => rfl

/-- The current schema needs no migration. -/
theorem ensureEventsSchema_current (rows : List (EventRow Blob)) (eventsV2 : Option (EventsTable Blob))
    (snapshots : Option (SnapshotsTable Blob)) :
    ensureEventsSchema.run (commit sqlText) ⟨some (.current rows), eventsV2, snapshots⟩ =
      (⟨some (.current rows), eventsV2, snapshots⟩, .ok ()) := rfl

theorem migrated_keys (table : LegacyTable Blob) :
    ((migrated table).map fun row => (row.sequenceId, row.eventIndex)).Nodup := by
  have perm := List.perm_insertionSort (fun left right : LegacyRow Blob => left.sequenceId ≤ right.sequenceId)
    table.rows
  have keyed := ((perm.map LegacyRow.sequenceId).nodup_iff).mpr table.keyed
  have apart := List.pairwise_map.mp keyed
  rw [migrated, List.map_map]
  refine List.pairwise_map.mpr (apart.imp fun {left right} different same => ?_)
  exact different (congrArg Prod.fst same)

/-- The copy fills the new table. -/
theorem execute_copyEvents (table : LegacyTable Blob) (snapshots : Option (SnapshotsTable Blob)) :
    execute (.copyEvents table.hasSchemaVersion) ⟨some (.legacy table), some (.current []), snapshots⟩ =
      .ok (⟨some (.legacy table), some (.current (migrated table)), snapshots⟩, []) := by
  have selected : (EventsTable.legacy table).select table.hasSchemaVersion = .ok (migrated table) := by
    simp [EventsTable.select, migrated]
  have inserted : (EventsTable.current []).insert (migrated table) = .ok (.current (migrated table)) := by
    rw [EventsTable.insert, List.nil_append, if_pos (migrated_keys table)]
  simp only [execute, selected, inserted, bind, Except.bind]

/-- A legacy table is recognised by its columns. -/
theorem ensureEventsSchema_legacy (table : LegacyTable Blob) (eventsV2 : Option (EventsTable Blob))
    (snapshots : Option (SnapshotsTable Blob)) :
    ensureEventsSchema.run (commit sqlText) ⟨some (.legacy table), eventsV2, snapshots⟩ =
      (migrateEvents table.hasSchemaVersion).run (commit sqlText) ⟨some (.legacy table), eventsV2, snapshots⟩ := by
  obtain ⟨hasSchemaVersion, rows, keyed, shaped⟩ := table
  cases hasSchemaVersion with
  | false => rfl
  | true => rfl

/-- The tables a session finds once both exist. -/
theorem openDatabase_prelude (db : Database Blob) :
    openDatabase sqlText db =
      (ensureEventsSchema >>= fun _ => ensureSchemaVersionColumn).run (commit sqlText)
        ⟨some (db.events.getD (.current [])), db.eventsV2, some (db.snapshots.getD (.current []))⟩ := rfl

/-- A file whose events are of the current schema, or missing, opens as it is. -/
theorem open_current {db : Database Blob} (current : db.events.getD (.current []) = .current rows) :
    openDatabase sqlText db =
      (⟨some (.current rows), db.eventsV2, some (.current (upgraded (db.snapshots.getD (.current []))))⟩, .ok ()) := by
  rw [openDatabase_prelude, current, Script.run_bind_ok _ (ensureEventsSchema_current rows _ _),
    ensureSchemaVersionColumn_run]

/-- Without a leftover the legacy table is migrated. -/
theorem open_legacy {db : Database Blob} (isLegacy : db.events = some (.legacy table)) (clean : db.eventsV2 = none) :
    openDatabase sqlText db =
      (⟨some (.current (migrated table)), none, some (.current (upgraded (db.snapshots.getD (.current []))))⟩,
        .ok ()) := by
  let snapshots := some (db.snapshots.getD (.current []))
  have migrates : ensureEventsSchema.run (commit sqlText) ⟨some (.legacy table), none, snapshots⟩ =
      (⟨some (.current (migrated table)), none, snapshots⟩, .ok ()) := by
    rw [ensureEventsSchema_legacy]
    have created : (migrateEvents table.hasSchemaVersion).run (commit sqlText) ⟨some (.legacy table), none, snapshots⟩ =
        (Script.issue ⟨.copyEvents table.hasSchemaVersion, "copy legacy events rows: "⟩ fun _ =>
          Script.issue ⟨.dropEvents, "replace events table: "⟩ fun _ =>
          Script.issue ⟨.renameEventsV2, "replace events table: "⟩ fun _ => .done ()).run (commit sqlText)
          ⟨some (.legacy table), some (.current []), snapshots⟩ := rfl
    rw [created, Script.run_issue (commit_ok (execute_copyEvents table snapshots))]
    rfl
  rw [openDatabase_prelude, isLegacy, clean, Option.getD_some, Script.run_bind_ok _ migrates,
    ensureSchemaVersionColumn_run]

/-- A leftover copy makes the next open fail. -/
theorem open_leftover (sqlText : SqlError → String) (table : LegacyTable Blob) (old : EventsTable Blob)
    (snapshots : Option (SnapshotsTable Blob)) :
    ∃ error, (openDatabase sqlText ⟨some (.legacy table), some old, snapshots⟩).2 = .error error := by
  have refused : ensureEventsSchema.run (commit sqlText)
      ⟨some (.legacy table), some old, some (snapshots.getD (.current []))⟩ =
      (⟨some (.legacy table), some old, some (snapshots.getD (.current []))⟩,
        .error (.journal ("create events_v2 table: " ++ sqlText (.tableExists "events_v2")))) := by
    rw [ensureEventsSchema_legacy]
    rfl
  refine ⟨.journal ("create events_v2 table: " ++ sqlText (.tableExists "events_v2")), ?_⟩
  rw [openDatabase_prelude, Option.getD_some, Script.run_bind_failed _ refused]

/-- The file after a crash of the first open: before the copy's table exists,
with a copy beside the legacy table, with the copy alone, or migrated. -/
inductive Interrupted (table : LegacyTable Blob) : List Sql → Database Blob → Prop
  | before {executed : List Sql} {left : Option (SnapshotsTable Blob)} (pending : .createEventsV2 ∉ executed) :
      Interrupted table executed ⟨some (.legacy table), none, left⟩
  | copying {executed : List Sql} {left : Option (SnapshotsTable Blob)} {copy : EventsTable Blob}
      (created : .createEventsV2 ∈ executed) (pending : .dropEvents ∉ executed)
      (unnamed : .renameEventsV2 ∉ executed) : Interrupted table executed ⟨some (.legacy table), some copy, left⟩
  | dropped {executed : List Sql} {left : Option (SnapshotsTable Blob)} (created : .createEventsV2 ∈ executed)
      (gone : .dropEvents ∈ executed) (unnamed : .renameEventsV2 ∉ executed) :
      Interrupted table executed ⟨none, some (.current (migrated table)), left⟩
  | renamed {executed : List Sql} {left : Option (SnapshotsTable Blob)} (created : .createEventsV2 ∈ executed)
      (renamed : .renameEventsV2 ∈ executed) :
      Interrupted table executed ⟨some (.current (migrated table)), none, left⟩

/-- The statements a crashed open carried out. -/
def executedSql (sqlText : SqlError → String) (count : Nat) (db : Database Blob) : List Sql :=
  (openCrashed sqlText count db).1.map Statement.sql

/-- The snapshots' statements leave the events alone. -/
theorem snapshots_crashed (sqlText : SqlError → String) (count : Nat) (events eventsV2 : Option (EventsTable Blob)) (snapshots : SnapshotsTable Blob) :
    ∃ left, (ensureSchemaVersionColumn.crashed (commit sqlText) count ⟨events, eventsV2, some snapshots⟩).2 =
      ⟨events, eventsV2, left⟩ := by
  match count with
  | 0 => exact ⟨_, rfl⟩
  | 1 => cases snapshots <;> exact ⟨_, rfl⟩
  | 2 => cases snapshots <;> exact ⟨_, rfl⟩
  | count + 3 => cases snapshots <;> exact ⟨_, rfl⟩

/-- What `open` does from the look at the events' columns on. -/
def afterLook (table : LegacyTable Blob) : Session Unit :=
  migrateEvents table.hasSchemaVersion >>= fun _ => ensureSchemaVersionColumn

/-- The statements up to that look. -/
def opening : List Statement :=
  [⟨.journalModeWal, "failed to set WAL mode: "⟩, ⟨.synchronousFull, "failed to set WAL mode: "⟩,
    ⟨.createEventsIfNotExists, "failed to create events table: "⟩,
    ⟨.createSnapshotsIfNotExists, "failed to create snapshots table: "⟩,
    ⟨.eventsInfo, "prepare table_info for events: "⟩]

theorem openCrashed_after_look (table : LegacyTable Blob) (snapshots : Option (SnapshotsTable Blob))
    (eventsV2 : Option (EventsTable Blob)) (count : Nat) :
    openCrashed sqlText (count + 5) ⟨some (.legacy table), eventsV2, snapshots⟩ =
      (opening ++ ((afterLook table).crashed (commit sqlText) count
          ⟨some (.legacy table), eventsV2, some (snapshots.getD (.current []))⟩).1,
        ((afterLook table).crashed (commit sqlText) count
          ⟨some (.legacy table), eventsV2, some (snapshots.getD (.current []))⟩).2) := by
  obtain ⟨hasSchemaVersion, rows, keyed, shaped⟩ := table
  cases hasSchemaVersion with
  | false => rfl
  | true => rfl

/-- Before that look no statement changes the events' tables. -/
theorem openCrashed_before_look (sqlText : SqlError → String) (table : LegacyTable Blob) (snapshots : Option (SnapshotsTable Blob))
    (eventsV2 : Option (EventsTable Blob)) (early : count < 5) :
    ∃ left, openCrashed sqlText count ⟨some (.legacy table), eventsV2, snapshots⟩ =
      (opening.take count, ⟨some (.legacy table), eventsV2, left⟩) := by
  match count with
  | 0 => exact ⟨_, rfl⟩
  | 1 => exact ⟨_, rfl⟩
  | 2 => exact ⟨_, rfl⟩
  | 3 => exact ⟨_, rfl⟩
  | 4 => exact ⟨_, rfl⟩

/-- What is left of `open` once the copy is filled. -/
def afterCopy : Session Unit :=
  .issue ⟨.dropEvents, "replace events table: "⟩ fun _ =>
    .issue ⟨.renameEventsV2, "replace events table: "⟩ fun _ => ensureSchemaVersionColumn

def copying (table : LegacyTable Blob) : List Statement :=
  [⟨.createEventsV2, "create events_v2 table: "⟩,
    ⟨.copyEvents table.hasSchemaVersion, "copy legacy events rows: "⟩]

theorem afterLook_crashed (table : LegacyTable Blob) (snapshots : Option (SnapshotsTable Blob)) (count : Nat) :
    (afterLook table).crashed (commit sqlText) (count + 2) ⟨some (.legacy table), none, snapshots⟩ =
      (copying table ++
          (afterCopy.crashed (commit sqlText) count
            ⟨some (.legacy table), some (.current (migrated table)), snapshots⟩).1,
        (afterCopy.crashed (commit sqlText) count
          ⟨some (.legacy table), some (.current (migrated table)), snapshots⟩).2) := by
  let copy : Script Statement (List String) Unit :=
    .issue ⟨.copyEvents table.hasSchemaVersion, "copy legacy events rows: "⟩ fun _ => afterCopy
  have filled : copy.crashed (commit sqlText) (count + 1) ⟨some (.legacy table), some (.current []), snapshots⟩ = _ :=
    Script.crashed_issue (commit_ok (execute_copyEvents table snapshots)) count
  have created : (afterLook table).crashed (commit sqlText) (count + 2) ⟨some (.legacy table), none, snapshots⟩ =
      (⟨.createEventsV2, "create events_v2 table: "⟩ ::
          (copy.crashed (commit sqlText) (count + 1) ⟨some (.legacy table), some (.current []), snapshots⟩).1,
        (copy.crashed (commit sqlText) (count + 1) ⟨some (.legacy table), some (.current []), snapshots⟩).2) := rfl
  rw [created, filled]
  rfl

/-- A crash of the first open leaves one of the four kinds of file. -/
theorem crash_interrupted (table : LegacyTable Blob) (snapshots : Option (SnapshotsTable Blob)) (count : Nat) :
    Interrupted table (executedSql sqlText count ⟨some (.legacy table), none, snapshots⟩)
      (openCrashed sqlText count ⟨some (.legacy table), none, snapshots⟩).2 := by
  by_cases early : count < 5
  · obtain ⟨left, crash⟩ := openCrashed_before_look sqlText table snapshots none early
    rw [executedSql, crash]
    refine .before fun found => ?_
    have inside := (List.take_sublist count opening).map Statement.sql |>.subset found
    exact absurd inside (by decide)
  · obtain ⟨rest, rfl⟩ := Nat.exists_eq_add_of_le' (Nat.le_of_not_lt early)
    let left := some (snapshots.getD (.current []))
    rw [executedSql, openCrashed_after_look]
    match rest with
    | 0 =>
      have untouched : Interrupted table (opening.map Statement.sql) ⟨some (.legacy table), none, left⟩ :=
        .before (by decide)
      exact untouched
    | 1 =>
      have created : Interrupted table ((opening ++ (copying table).take 1).map Statement.sql)
          ⟨some (.legacy table), some (.current []), left⟩ := by
        apply Interrupted.copying <;> simp [opening, copying]
      exact created
    | 2 =>
      rw [afterLook_crashed]
      have filled : Interrupted table ((opening ++ copying table).map Statement.sql)
          ⟨some (.legacy table), some (.current (migrated table)), left⟩ := by
        apply Interrupted.copying <;> simp [opening, copying]
      exact filled
    | 3 =>
      rw [afterLook_crashed]
      have gone : Interrupted table
          ((opening ++ (copying table ++ [Statement.mk .dropEvents "replace events table: "])).map Statement.sql)
          ⟨none, some (.current (migrated table)), left⟩ := by
        apply Interrupted.dropped <;> simp [opening, copying]
      exact gone
    | rest + 4 =>
      rw [afterLook_crashed]
      obtain ⟨upgrade, crash⟩ := snapshots_crashed sqlText rest (some (.current (migrated table))) none
        (snapshots.getD (.current []))
      have renamed : afterCopy.crashed (commit sqlText) (rest + 2)
          ⟨some (.legacy table), some (.current (migrated table)), left⟩ =
          (⟨.dropEvents, "replace events table: "⟩ :: ⟨.renameEventsV2, "replace events table: "⟩ ::
            (ensureSchemaVersionColumn.crashed (commit sqlText) rest
              ⟨some (.current (migrated table)), none, left⟩).1,
            (ensureSchemaVersionColumn.crashed (commit sqlText) rest
              ⟨some (.current (migrated table)), none, left⟩).2) := rfl
      rw [renamed, crash]
      apply Interrupted.renamed <;> simp [opening, copying]

/-- With a leftover copy no crash changes the events' tables. -/
theorem leftover_crashed (sqlText : SqlError → String) (table : LegacyTable Blob) (old : EventsTable Blob)
    (snapshots : Option (SnapshotsTable Blob)) (count : Nat) :
    ∃ left, (openCrashed sqlText count ⟨some (.legacy table), some old, snapshots⟩).2 =
      ⟨some (.legacy table), some old, left⟩ := by
  by_cases early : count < 5
  · obtain ⟨left, crash⟩ := openCrashed_before_look sqlText table snapshots (some old) early
    exact ⟨left, by rw [crash]⟩
  · obtain ⟨rest, rfl⟩ := Nat.exists_eq_add_of_le' (Nat.le_of_not_lt early)
    rw [openCrashed_after_look]
    have refused : (afterLook table).crashed (commit sqlText) rest
        ⟨some (.legacy table), some old, some (snapshots.getD (.current []))⟩ =
        ([], ⟨some (.legacy table), some old, some (snapshots.getD (.current []))⟩) :=
      Script.crashed_issue_failed (commit_failed rfl) rest
    exact ⟨_, congrArg Prod.snd refused⟩

variable [MessagePack Blob]

omit [MessagePack Blob] in
private theorem mapM_congr {α β ε : Type} {f g : α → Except ε β} {xs : List α} (same : ∀ x ∈ xs, f x = g x) :
    xs.mapM f = xs.mapM g := by
  induction xs with
  | nil => rfl
  | cons x rest ih =>
    rw [List.mapM_cons, List.mapM_cons, same x List.mem_cons_self,
      ih fun later member => same later (List.mem_cons_of_mem x member)]

private theorem mapM_ok_nil {α β ε : Type} {f : α → Except ε β} {xs : List α} (nothing : xs.mapM f = .ok []) :
    xs = [] := by
  cases xs with
  | nil => rfl
  | cons x rest =>
    rw [List.mapM_cons] at nothing
    cases first : f x with
    | error error => simp [first, bind, Except.bind] at nothing
    | ok y =>
      cases others : rest.mapM f with
      | error error => simp [first, others, bind, Except.bind] at nothing
      | ok ys => simp [first, others, bind, Except.bind, pure, Except.pure] at nothing

/-- The migrated rows read as the legacy ones. -/
theorem migrated_replay (table : LegacyTable Blob) (snapshots : List (SnapshotRow Blob)) :
    SqliteJournal.replayFrom ⟨migrated table, snapshots⟩ .zero = table.replay := by
  have decodes : ∀ row ∈ table.rows, decodeEventRow (row.copied table.hasSchemaVersion) = row.decode := by
    intro row member
    have version : (row.copied table.hasSchemaVersion).schemaVersion =
        row.schemaVersion.getD persistedSchemaVersion := by
      have shaped := table.shaped row member
      cases present : row.schemaVersion with
      | none => simp [LegacyRow.copied, present, ← shaped, persistedSchemaVersion]
      | some version => simp [LegacyRow.copied, present, ← shaped]
    rw [decodeEventRow, version]
    rfl
  let sorted := table.rows.insertionSort fun left right => left.sequenceId ≤ right.sequenceId
  have kept : (migrated table).filter (fun row => decide (seqAsI64 .zero ≤ row.sequenceId)) =
      (sorted.filter (0 ≤ ·.sequenceId)).map (LegacyRow.copied table.hasSchemaVersion) := by
    rw [migrated, List.filter_map]
    rfl
  have ordered : ((sorted.filter (0 ≤ ·.sequenceId)).map (LegacyRow.copied table.hasSchemaVersion)).Pairwise
      rowOrder := by
    refine List.pairwise_map.mpr (List.Pairwise.filter _ ?_)
    refine (List.pairwise_insertionSort _ table.rows).imp fun {left right} below => ?_
    rcases lt_or_eq_of_le below with before | same
    · exact Or.inl before
    · exact Or.inr ⟨same, le_refl _⟩
  rw [replayFrom, replayWhere, kept, ordered.insertionSort_eq, List.mapM_map]
  apply mapM_congr
  intro row member
  exact decodes row ((List.mem_insertionSort _).mp (List.mem_of_mem_filter member))

/-- The legacy table tells nothing when no row has a number from zero on. -/
theorem replay_empty_iff (table : LegacyTable Blob) :
    table.replay = .ok [] ↔ ∀ row ∈ table.rows, row.sequenceId < 0 := by
  have members : ∀ row, row ∈ (table.rows.insertionSort fun left right => left.sequenceId ≤ right.sequenceId) ↔
      row ∈ table.rows := fun row => List.mem_insertionSort _
  constructor
  · intro nothing row member
    rw [LegacyTable.replay] at nothing
    have empty := mapM_ok_nil nothing
    have dropped := List.filter_eq_nil_iff.mp empty row ((members row).mpr member)
    simpa using dropped
  · intro negative
    have empty : (table.rows.insertionSort fun left right => left.sequenceId ≤ right.sequenceId).filter
        (0 ≤ ·.sequenceId) = [] := by
      refine List.filter_eq_nil_iff.mpr fun row member => ?_
      simpa using negative row ((members row).mp member)
    rw [LegacyTable.replay, empty]
    rfl

/-- The condition under which a crash of `open` is survived. -/
structure Survivable (table : LegacyTable Blob) (db : Database Blob) (executed : List Sql) : Prop where
  clean : db.eventsV2 = none
  outside : .createEventsV2 ∉ executed ∨ .renameEventsV2 ∈ executed ∨
    .dropEvents ∈ executed ∧ ∀ row ∈ table.rows, row.sequenceId < 0

/-- A file left by a crash is recovered exactly when the crash fell outside the replacement of the table. -/
theorem Interrupted.recovers_iff {table : LegacyTable Blob} {left : Database Blob}
    (interrupted : Interrupted table executed left) :
    Recovers sqlText table left ↔ .createEventsV2 ∉ executed ∨ .renameEventsV2 ∈ executed ∨
      .dropEvents ∈ executed ∧ ∀ row ∈ table.rows, row.sequenceId < 0 := by
  cases interrupted with
  | before pending =>
    refine ⟨fun _ => Or.inl pending, fun _ => ?_⟩
    exact ⟨_, _, open_legacy rfl rfl, rfl, migrated_replay table _⟩
  | @copying left copy created pending unnamed =>
    constructor
    · rintro ⟨after, journal, opened, -⟩
      obtain ⟨error, failed⟩ := open_leftover sqlText table copy left
      rw [opened] at failed
      cases failed
    · rintro (never | renamed | ⟨gone, -⟩)
      · exact absurd created never
      · exact absurd renamed unnamed
      · exact absurd gone pending
  | dropped created gone unnamed =>
    constructor
    · rintro ⟨after, journal, opened, shown, told⟩
      rw [open_current rfl, Prod.mk.injEq] at opened
      obtain ⟨rfl, -⟩ := opened
      cases shown
      have nothing : table.replay = .ok [] := told.symm
      exact Or.inr (Or.inr ⟨gone, (replay_empty_iff table).mp nothing⟩)
    · rintro (never | renamed | ⟨-, negative⟩)
      · exact absurd created never
      · exact absurd renamed unnamed
      · exact ⟨_, _, open_current rfl, rfl, ((replay_empty_iff table).mpr negative).symm⟩
  | renamed created renamed =>
    refine ⟨fun _ => Or.inr (Or.inl renamed), fun _ => ?_⟩
    exact ⟨_, _, open_current rfl, rfl, migrated_replay table _⟩

/-- A file with a legacy table survives a crash of `open` exactly when no copy
was left there before and the crash did not fall between the creation of the
copy and its renaming, or only after the drop of a table that told nothing. -/
theorem crash_survived_iff (sqlText : SqlError → String) (table : LegacyTable Blob)
    (eventsV2 : Option (EventsTable Blob)) (snapshots : Option (SnapshotsTable Blob)) (count : Nat) :
    let db : Database Blob := ⟨some (.legacy table), eventsV2, snapshots⟩
    Recovers sqlText table (openCrashed sqlText count db).2 ↔
      Survivable table db (executedSql sqlText count db) := by
  intro db
  cases eventsV2 with
  | none =>
    rw [(crash_interrupted table snapshots count).recovers_iff]
    exact ⟨fun outside => ⟨rfl, outside⟩, Survivable.outside⟩
  | some old =>
    constructor
    · rintro ⟨after, journal, opened, -⟩
      obtain ⟨left, crash⟩ := leftover_crashed sqlText table old snapshots count
      obtain ⟨error, failed⟩ := open_leftover sqlText table old left
      rw [crash] at opened
      rw [opened] at failed
      cases failed
    · intro survivable
      cases survivable.clean

/-- `seed_legacy_schema`'s events: one row, from before the version column. -/
def seededTable : LegacyTable PlainBlob where
  hasSchemaVersion := false
  rows := [⟨3, ⟨0⟩, "OrderReceived", none, .inl (receivedEvent 3 "ord-3")⟩]
  keyed := List.nodup_singleton _
  shaped := by simp

def seeded : Database PlainBlob := ⟨some (.legacy seededTable), none, none⟩

/-- The database's words for an error. -/
def sqliteText : SqlError → String
  | .tableExists table => "table " ++ table ++ " already exists"
  | .noSuchTable table => "no such table: " ++ table
  | .noSuchColumn column => "no such column: " ++ column
  | .duplicateColumn column => "duplicate column name: " ++ column
  | .uniqueKey table => "UNIQUE constraint failed: " ++ table

/-- Cut off after the sixth statement, which creates the copy's table, the file
no longer opens; after the eighth, which drops the old one, its event is gone. -/
theorem crash_refuses_or_forgets :
    seededTable.replay = .ok [receivedEvent 3 "ord-3"] ∧
    (openDatabase sqliteText (openCrashed sqliteText 6 seeded).2).2 =
      .error (.journal "create events_v2 table: table events_v2 already exists") ∧
    ¬ Recovers sqliteText seededTable (openCrashed sqliteText 6 seeded).2 ∧
    (∃ after journal, openDatabase sqliteText (openCrashed sqliteText 8 seeded).2 = (after, .ok ()) ∧
      after.journal? = some journal ∧ journal.replayFrom .zero = .ok []) ∧
    ¬ Recovers sqliteText seededTable (openCrashed sqliteText 8 seeded).2 := by
  have refused : (openDatabase sqliteText (openCrashed sqliteText 6 seeded).2).2 =
      .error (.journal "create events_v2 table: table events_v2 already exists") := rfl
  have forgot : openDatabase sqliteText (openCrashed sqliteText 8 seeded).2 =
      (⟨some (.current []), some (.current (migrated seededTable)), some (.current [])⟩, .ok ()) := rfl
  refine ⟨rfl, refused, ?_, ⟨_, _, forgot, rfl, rfl⟩, ?_⟩
  · rintro ⟨after, journal, opened, -⟩
    rw [opened] at refused
    cases refused
  · rintro ⟨after, journal, opened, shown, told⟩
    rw [forgot, Prod.mk.injEq] at opened
    obtain ⟨rfl, -⟩ := opened
    cases shown
    cases told

end FeynmanEngine.MigrationCrashes
