import FeynmanEngine.Journal
import FeynmanEngine.Scripts

/-! `SqliteJournal::open` on a database file of any age. Every statement outside
a transaction commits on its own, so a crash leaves what the statements before
it did, and the next open has to find its way from there. -/
namespace FeynmanEngine.SchemaMigration
open Ids Events Engine Journal Scripts

/-- A row of an `events` table without `event_index`; older ones have no version either. -/
structure LegacyRow (Blob : Type) where
  sequenceId : Int
  timestamp : DateTime
  eventKind : String
  schemaVersion : Option Int
  payload : Blob

/-- An `events` table without `event_index`, keyed by its numbers. -/
structure LegacyTable (Blob : Type) where
  hasSchemaVersion : Bool
  rows : List (LegacyRow Blob)
  keyed : (rows.map LegacyRow.sequenceId).Nodup
  shaped : ∀ row ∈ rows, row.schemaVersion.isSome = hasSchemaVersion

inductive EventsTable (Blob : Type) where
  | legacy (table : LegacyTable Blob)
  | current (rows : List (EventRow Blob))

/-- A row of `snapshots` from before its version column. -/
structure LegacySnapshotRow (Blob : Type) where
  sequenceId : Int
  timestamp : DateTime
  state : Blob

inductive SnapshotsTable (Blob : Type) where
  | legacy (rows : List (LegacySnapshotRow Blob))
  | current (rows : List (SnapshotRow Blob))

/-- The tables of the file; a missing table is `none`. -/
structure Database (Blob : Type) where
  events : Option (EventsTable Blob)
  eventsV2 : Option (EventsTable Blob)
  snapshots : Option (SnapshotsTable Blob)

variable {Blob : Type}

def EventsTable.columns : EventsTable Blob → List String
  | .legacy table =>
    if table.hasSchemaVersion then ["sequence_id", "timestamp", "event_kind", "schema_version", "payload"]
    else ["sequence_id", "timestamp", "event_kind", "payload"]
  | .current _ => ["sequence_id", "event_index", "timestamp", "event_kind", "schema_version", "payload"]

def SnapshotsTable.columns : SnapshotsTable Blob → List String
  | .legacy _ => ["sequence_id", "timestamp", "state"]
  | .current _ => ["sequence_id", "timestamp", "schema_version", "state"]

/-- The statements `open` issues. -/
inductive Sql where
  | journalModeWal
  | synchronousFull
  | createEventsIfNotExists
  | createSnapshotsIfNotExists
  | eventsInfo
  | snapshotsInfo
  | createEventsV2
  /-- The copy of `events` into `events_v2`, with or without a version column to read. -/
  | copyEvents (hasSchemaVersion : Bool)
  | dropEvents
  | renameEventsV2
  | addSchemaVersionToSnapshots
  deriving DecidableEq, Repr

/-- A statement, and what its error is reported under. -/
structure Statement where
  sql : Sql
  context : String
  deriving DecidableEq, Repr

inductive SqlError where
  | tableExists (table : String)
  | noSuchTable (table : String)
  | noSuchColumn (column : String)
  | duplicateColumn (column : String)
  | uniqueKey (table : String)
  deriving DecidableEq, Repr

/-- The copied row: index 0, and version 1 where none is read. -/
def LegacyRow.copied (hasSchemaVersion : Bool) (row : LegacyRow Blob) : EventRow Blob where
  sequenceId := row.sequenceId
  eventIndex := 0
  timestamp := row.timestamp
  eventKind := row.eventKind
  schemaVersion := if hasSchemaVersion then row.schemaVersion.getD persistedSchemaVersion else 1
  payload := row.payload

/-- `SELECT sequence_id, 0, …, payload FROM events ORDER BY sequence_id ASC`. -/
def EventsTable.select (hasSchemaVersion : Bool) : EventsTable Blob → Except SqlError (List (EventRow Blob))
  | .legacy table =>
    if hasSchemaVersion && !table.hasSchemaVersion then .error (.noSuchColumn "schema_version")
    else .ok ((table.rows.insertionSort fun left right => left.sequenceId ≤ right.sequenceId).map
      (LegacyRow.copied hasSchemaVersion))
  | .current rows =>
    .ok ((rows.insertionSort fun left right => left.sequenceId ≤ right.sequenceId).map fun row =>
      { row with
        eventIndex := 0
        schemaVersion := if hasSchemaVersion then row.schemaVersion else 1 })

/-- `INSERT INTO events_v2`: one duplicate key and nothing is inserted. -/
def EventsTable.insert (rows : List (EventRow Blob)) : EventsTable Blob → Except SqlError (EventsTable Blob)
  | .legacy _ => .error (.noSuchColumn "event_index")
  | .current stored =>
    if ((stored ++ rows).map fun row => (row.sequenceId, row.eventIndex)).Nodup then .ok (.current (stored ++ rows))
    else .error (.uniqueKey "events_v2")

/-- One statement on the tables, with the column names a query for them returns. -/
def execute : Sql → Database Blob → Except SqlError (Database Blob × List String)
  | .journalModeWal, db | .synchronousFull, db => .ok (db, [])
  | .createEventsIfNotExists, db => .ok ({ db with events := some (db.events.getD (.current [])) }, [])
  | .createSnapshotsIfNotExists, db =>
    .ok ({ db with snapshots := some (db.snapshots.getD (.current [])) }, [])
  | .eventsInfo, db => .ok (db, (db.events.map EventsTable.columns).getD [])
  | .snapshotsInfo, db => .ok (db, (db.snapshots.map SnapshotsTable.columns).getD [])
  | .createEventsV2, db =>
    match db.eventsV2 with
    | some _ => .error (.tableExists "events_v2")
    | none => .ok ({ db with eventsV2 := some (.current []) }, [])
  | .copyEvents hasSchemaVersion, db =>
    match db.events, db.eventsV2 with
    | some events, some eventsV2 => do
      let rows ← events.select hasSchemaVersion
      let filled ← eventsV2.insert rows
      .ok ({ db with eventsV2 := some filled }, [])
    | none, _ => .error (.noSuchTable "events")
    | some _, none => .error (.noSuchTable "events_v2")
  | .dropEvents, db =>
    match db.events with
    | some _ => .ok ({ db with events := none }, [])
    | none => .error (.noSuchTable "events")
  | .renameEventsV2, db =>
    match db.events, db.eventsV2 with
    | none, some table => .ok ({ db with events := some table, eventsV2 := none }, [])
    | some _, some _ => .error (.tableExists "events")
    | _, none => .error (.noSuchTable "events_v2")
  | .addSchemaVersionToSnapshots, db =>
    match db.snapshots with
    | some (.legacy rows) =>
      .ok ({ db with snapshots := some (.current (rows.map fun row =>
        ⟨row.sequenceId, row.timestamp, persistedSchemaVersion, row.state⟩)) }, [])
    | some (.current _) => .error (.duplicateColumn "schema_version")
    | none => .error (.noSuchTable "snapshots")

abbrev Session := Script Statement (List String)

def issue (sql : Sql) (context : String) : Session (List String) :=
  .issue ⟨sql, context⟩ .done

def ensureSchemaVersionColumn : Session Unit := do
  let columns ← issue .snapshotsInfo "prepare table_info for snapshots: "
  if columns.any (· == "schema_version") then pure ()
  else do
    let _ ← issue .addSchemaVersionToSnapshots "add schema_version to snapshots: "
    pure ()

/-- The four statements of the migration. -/
def migrateEvents (hasSchemaVersion : Bool) : Session Unit := do
  let _ ← issue .createEventsV2 "create events_v2 table: "
  let _ ← issue (.copyEvents hasSchemaVersion) "copy legacy events rows: "
  let _ ← issue .dropEvents "replace events table: "
  let _ ← issue .renameEventsV2 "replace events table: "
  pure ()

def ensureEventsSchema : Session Unit := do
  let columns ← issue .eventsInfo "prepare table_info for events: "
  let hasEventIndex := columns.any (· == "event_index")
  let hasSchemaVersion := columns.any (· == "schema_version")
  if hasEventIndex && hasSchemaVersion then pure () else migrateEvents hasSchemaVersion

/-- `SqliteJournal::open`, once the file is open. -/
def openScript : Session Unit := do
  let _ ← issue .journalModeWal "failed to set WAL mode: "
  let _ ← issue .synchronousFull "failed to set WAL mode: "
  let _ ← issue .createEventsIfNotExists "failed to create events table: "
  let _ ← issue .createSnapshotsIfNotExists "failed to create snapshots table: "
  ensureEventsSchema
  ensureSchemaVersionColumn

/-- One statement of the session: it commits on its own, or fails under its context. -/
def commit (sqlText : SqlError → String) (statement : Statement) (db : Database Blob) :
    Except EngineError (Database Blob × List String) :=
  match execute statement.sql db with
  | .ok answer => .ok answer
  | .error error => .error (.journal (statement.context ++ sqlText error))

def openDatabase (sqlText : SqlError → String) (db : Database Blob) : Database Blob × Except EngineError Unit :=
  openScript.run (commit sqlText) db

/-- The statements `open` carried out before a crash that let this many pass, and the file it left. -/
def openCrashed (sqlText : SqlError → String) (count : Nat) (db : Database Blob) :
    List Statement × Database Blob :=
  openScript.crashed (commit sqlText) count db

/-- The journal on these tables, if they are of the current schema. -/
def Database.journal? (db : Database Blob) : Option (SqliteJournal Blob) :=
  match db.events, db.snapshots with
  | some (.current events), some (.current snapshots) => some ⟨events, snapshots⟩
  | _, _ => none

variable [MessagePack Blob]

def LegacyRow.decode (row : LegacyRow Blob) : Except EngineError SequencedEvent := do
  ensureSupportedSchemaVersion "event" (row.schemaVersion.getD persistedSchemaVersion) row.sequenceId
  match MessagePack.decodeEvent row.payload with
  | .ok event => .ok event
  | .error detail => .error (.journal ("failed to decode event: " ++ detail))

/-- What the rows from number zero on decode to, each once, by number. -/
def LegacyTable.replay (table : LegacyTable Blob) : Except EngineError (List SequencedEvent) :=
  ((table.rows.insertionSort fun left right => left.sequenceId ≤ right.sequenceId).filter
    (0 ≤ ·.sequenceId)).mapM LegacyRow.decode

/-- Opening succeeds, and the journal tells what the legacy table told. -/
def Recovers (sqlText : SqlError → String) (table : LegacyTable Blob) (db : Database Blob) : Prop :=
  ∃ after journal, openDatabase sqlText db = (after, .ok ()) ∧ after.journal? = some journal ∧
    journal.replayFrom .zero = table.replay

end FeynmanEngine.SchemaMigration
