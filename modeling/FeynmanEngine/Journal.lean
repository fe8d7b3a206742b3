import Mathlib.Data.List.Sort
import FeynmanEngine.Engine

/-! The SQLite journal of `engine-core/src/journal.rs`, at the level of its two
tables. A write is one transaction; MessagePack is a parameter whose decoding
undoes its encoding. Reads are taken to reach the database. -/
namespace FeynmanEngine.Journal
open Ids Events Engine

/-- One past the largest `i64`. -/
def i64Limit : Nat := 2 ^ 63

/-- MessagePack through `rmp_serde`; a failure is its text. -/
class MessagePack (Blob : Type) where
  encodeEvent : SequencedEvent → Except String Blob
  decodeEvent : Blob → Except String SequencedEvent
  encodeSnapshot : EngineStateSnapshot → Except String Blob
  decodeSnapshot : Blob → Except String EngineStateSnapshot
  decode_event {event : SequencedEvent} {blob : Blob} :
    encodeEvent event = .ok blob → decodeEvent blob = .ok event
  decode_snapshot {snapshot : EngineStateSnapshot} {blob : Blob} :
    encodeSnapshot snapshot = .ok blob → decodeSnapshot blob = .ok snapshot

/-- What the storage does to one transaction: it commits, it fails and leaves
nothing, or it commits and the report of it is lost. -/
inductive Weather where
  | clear
  | lost (detail : String)
  | unreported (detail : String)
  deriving DecidableEq, Repr

/-- A row of `events`; the timestamp column holds the RFC 3339 text of this time. -/
structure EventRow (Blob : Type) where
  sequenceId : Int
  eventIndex : Int
  timestamp : DateTime
  eventKind : String
  schemaVersion : Int
  payload : Blob

/-- A row of `snapshots`. -/
structure SnapshotRow (Blob : Type) where
  sequenceId : Int
  timestamp : DateTime
  schemaVersion : Int
  state : Blob

structure SqliteJournal (Blob : Type) where
  events : List (EventRow Blob)
  snapshots : List (SnapshotRow Blob)

def persistedSchemaVersion : Int := 1

/-- `seq_as_i64`: the release build's wrapping cast. -/
def seqAsI64 (seq : SequenceId) : Int :=
  if seq.val < i64Limit then seq.val else (seq.val : Int) - u64Limit

/-- `i64 as u64`. -/
def i64AsSeq (value : Int) : SequenceId :=
  ⟨(value % u64Limit).toNat⟩

def ensureSupportedSchemaVersion (entity : String) (schemaVersion sequenceId : Int) :
    Except EngineError Unit :=
  if schemaVersion = persistedSchemaVersion then .ok ()
  else .error (.journal ("unsupported " ++ entity ++ " schema_version " ++ toString schemaVersion ++
    " at seq:" ++ toString sequenceId ++ "; expected " ++ toString persistedSchemaVersion))

namespace SqliteJournal

variable {Blob : Type}

def empty : SqliteJournal Blob := ⟨[], []⟩

/-- `INSERT OR IGNORE INTO events`: the key is (sequence_id, event_index). -/
def insertOrIgnore (rows : List (EventRow Blob)) (row : EventRow Blob) : List (EventRow Blob) :=
  if rows.any fun stored => stored.sequenceId = row.sequenceId ∧ stored.eventIndex = row.eventIndex
  then rows else rows ++ [row]

/-- `INSERT OR REPLACE INTO snapshots`, then the pruning of older ones. -/
def replaceAndPrune (rows : List (SnapshotRow Blob)) (row : SnapshotRow Blob) :
    List (SnapshotRow Blob) :=
  (rows.filter (fun stored => stored.sequenceId ≠ row.sequenceId) ++ [row]).filter fun stored =>
    ¬ stored.sequenceId < row.sequenceId

/-- The transaction of `persist_rows`. -/
def persistRows (journal : SqliteJournal Blob) (events : List (EventRow Blob))
    (snapshot : Option (SnapshotRow Blob)) : SqliteJournal Blob where
  events := events.foldl insertOrIgnore journal.events
  snapshots := match snapshot with
    | some row => replaceAndPrune journal.snapshots row
    | none => journal.snapshots

variable [MessagePack Blob]
open MessagePack

def encodeEventRow (event : SequencedEvent) (eventIndex : Nat) :
    Except EngineError (EventRow Blob) :=
  if eventIndex < i64Limit then
    match encodeEvent event with
    | .ok payload => .ok ⟨seqAsI64 event.sequenceId, eventIndex, event.timestamp, event.event.kind,
        persistedSchemaVersion, payload⟩
    | .error detail => .error (.journal ("failed to encode event seq:" ++
        toString event.sequenceId.val ++ ": " ++ detail))
  else .error (.journal ("event_index " ++ toString eventIndex ++ " overflows i64"))

/-- The rows of one call, numbered from the call's first event. -/
def encodeEventRows : List SequencedEvent → Nat → Except EngineError (List (EventRow Blob))
  | [], _ => .ok []
  | event :: rest, eventIndex => do
    let row ← encodeEventRow event eventIndex
    let rows ← encodeEventRows rest (eventIndex + 1)
    .ok (row :: rows)

def encodeSnapshotRow (snapshot : EngineStateSnapshot) : Except EngineError (SnapshotRow Blob) :=
  match encodeSnapshot snapshot with
  | .ok state => .ok ⟨seqAsI64 snapshot.sequenceId, snapshot.snapshotAt, persistedSchemaVersion, state⟩
  | .error detail => .error (.journal ("failed to encode snapshot: " ++ detail))

/-- The tables after a transaction that commits. -/
def written (journal : SqliteJournal Blob) (events : List SequencedEvent)
    (snapshot : Option EngineStateSnapshot) : Except EngineError (SqliteJournal Blob) := do
  let rows ← encodeEventRows events 0
  match snapshot with
  | none => .ok (journal.persistRows rows none)
  | some snapshot =>
    let row ← encodeSnapshotRow snapshot
    .ok (journal.persistRows rows (some row))

/-- `persist_commit`: encoding comes before the transaction, and a commit of
nothing touches no storage. -/
def persistCommit (journal : SqliteJournal Blob) (weather : Weather)
    (events : List SequencedEvent) (snapshot : Option EngineStateSnapshot) :
    SqliteJournal Blob × Except EngineError Unit :=
  match journal.written events snapshot with
  | .error error => (journal, .error error)
  | .ok after =>
    if events.isEmpty && snapshot.isNone then (journal, .ok ())
    else match weather with
      | .clear => (after, .ok ())
      | .lost detail => (journal, .error (.journal detail))
      | .unreported detail => (after, .error (.journal detail))

def append (journal : SqliteJournal Blob) (weather : Weather) (event : SequencedEvent) :
    SqliteJournal Blob × Except EngineError Unit :=
  journal.persistCommit weather [event] none

def appendBatch (journal : SqliteJournal Blob) (weather : Weather) (events : List SequencedEvent) :
    SqliteJournal Blob × Except EngineError Unit :=
  journal.persistCommit weather events none

/-- `save_snapshot`; the row is numbered by the snapshot, not by the argument. -/
def saveSnapshot (journal : SqliteJournal Blob) (weather : Weather) (_sequenceId : SequenceId)
    (snapshot : EngineStateSnapshot) : SqliteJournal Blob × Except EngineError Unit :=
  journal.persistCommit weather [] (some snapshot)

/-- The transaction of this call commits: everything could be encoded and the
storage did not fail before the commit point. -/
def lands (journal : SqliteJournal Blob) (weather : Weather) (events : List SequencedEvent)
    (snapshot : Option EngineStateSnapshot) : Bool :=
  match weather with
  | .lost _ => false
  | .clear | .unreported _ => (journal.written events snapshot).toBool

/-- `ORDER BY sequence_id ASC, event_index ASC`. -/
def rowOrder (left right : EventRow Blob) : Prop :=
  left.sequenceId < right.sequenceId ∨
    left.sequenceId = right.sequenceId ∧ left.eventIndex ≤ right.eventIndex

instance : DecidableRel (@rowOrder Blob) := fun left right =>
  inferInstanceAs (Decidable (left.sequenceId < right.sequenceId ∨
    left.sequenceId = right.sequenceId ∧ left.eventIndex ≤ right.eventIndex))

def decodeEventRow (row : EventRow Blob) : Except EngineError SequencedEvent := do
  ensureSupportedSchemaVersion "event" row.schemaVersion row.sequenceId
  match decodeEvent row.payload with
  | .ok event => .ok event
  | .error detail => .error (.journal ("failed to decode event: " ++ detail))

/-- `SELECT … WHERE … ORDER BY …` over `events`, decoded. -/
def replayWhere (journal : SqliteJournal Blob) (wanted : Int → Bool) :
    Except EngineError (List SequencedEvent) :=
  ((journal.events.filter fun row => wanted row.sequenceId).insertionSort rowOrder).mapM decodeEventRow

def replayFrom (journal : SqliteJournal Blob) (start : SequenceId) :
    Except EngineError (List SequencedEvent) :=
  journal.replayWhere fun sequenceId => seqAsI64 start ≤ sequenceId

def replayRange (journal : SqliteJournal Blob) (start last : SequenceId) :
    Except EngineError (List SequencedEvent) :=
  journal.replayWhere fun sequenceId => seqAsI64 start ≤ sequenceId ∧ sequenceId ≤ seqAsI64 last

/-- `ORDER BY sequence_id DESC LIMIT 1`. -/
def newestSnapshotRow (journal : SqliteJournal Blob) : Option (SnapshotRow Blob) :=
  (journal.snapshots.insertionSort fun left right => right.sequenceId ≤ left.sequenceId).head?

def loadLatestSnapshot (journal : SqliteJournal Blob) :
    Except EngineError (Option (SequenceId × EngineStateSnapshot)) :=
  match journal.newestSnapshotRow with
  | none => .ok none
  | some row => do
    ensureSupportedSchemaVersion "snapshot" row.schemaVersion row.sequenceId
    match decodeSnapshot row.state with
    | .ok snapshot => .ok (some (i64AsSeq row.sequenceId, snapshot))
    | .error detail => .error (.journal ("failed to decode snapshot: " ++ detail))

/-- `SELECT MAX(sequence_id) FROM events`. -/
def latestSequenceId (journal : SqliteJournal Blob) : Except EngineError SequenceId :=
  match (journal.events.map EventRow.sequenceId).max? with
  | some newest => .ok (i64AsSeq newest)
  | none => .ok .zero

instance : EventJournal (SqliteJournal Blob) Weather where
  persistCommit := persistCommit
  replayFrom := replayFrom
  loadLatestSnapshot := loadLatestSnapshot
  latestSequenceId := latestSequenceId

end SqliteJournal

end FeynmanEngine.Journal
