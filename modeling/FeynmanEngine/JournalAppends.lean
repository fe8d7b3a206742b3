import FeynmanEngine.JournalCommits
import FeynmanEngine.SequencerFixtures

/-! What the journal keeps of the events it accepted. A stored event is numbered
by its place in the call that brought it, so what a call adds depends on how
events were grouped into the calls before. -/
namespace FeynmanEngine.JournalAppends
open Ids Events Engine Journal SqliteJournal JournalCommits KeyedLog SequencerFixtures

variable {Blob : Type}

/-- A writing call. -/
inductive Call where
  | append (event : SequencedEvent)
  | appendBatch (events : List SequencedEvent)
  | persistCommit (events : List SequencedEvent) (snapshot : Option EngineStateSnapshot)

namespace Call

def events : Call → List SequencedEvent
  | .append event => [event]
  | .appendBatch events => events
  | .persistCommit events _ => events

def snapshot : Call → Option EngineStateSnapshot
  | .append _ => none
  | .appendBatch _ => none
  | .persistCommit _ snapshot => snapshot

def run [MessagePack Blob] (journal : SqliteJournal Blob) (weather : Weather) :
    Call → SqliteJournal Blob × Except EngineError Unit
  | .append event => journal.append weather event
  | .appendBatch events => journal.appendBatch weather events
  | .persistCommit events snapshot => journal.persistCommit weather events snapshot

/-- Its events, each with its place in the call. -/
def placed (call : Call) : List (SequencedEvent × Nat) :=
  call.events.zipIdx

end Call

/-- All events of these calls, in the order of appending. -/
def appendedEvents (calls : List Call) : List SequencedEvent :=
  calls.flatMap Call.events

def placedEvents (calls : List Call) : List (SequencedEvent × Nat) :=
  calls.flatMap Call.placed

theorem placedEvents_events (calls : List Call) : (placedEvents calls).map Prod.fst = appendedEvents calls := by
  simp [placedEvents, appendedEvents, Call.placed, List.map_flatMap]

/-- The number that orders events. -/
def number (event : SequencedEvent) : Nat :=
  event.sequenceId.val

/-- An empty journal after these calls, each of which succeeded; the numbers fit the column. -/
inductive Appended [MessagePack Blob] : SqliteJournal Blob → List Call → Prop
  | empty : Appended .empty []
  | called {journal after : SqliteJournal Blob} {calls : List Call} {call : Call} {weather : Weather}
      (appended : Appended journal calls) (fits : ∀ event ∈ call.events, number event < i64Limit)
      (ran : call.run journal weather = (after, .ok ())) : Appended after (calls ++ [call])

/-- What a row shows: its event, its number and its index. -/
abbrev RowView := Except EngineError SequencedEvent × Int × Int

def entryView (entry : SequencedEvent × Nat) : RowView :=
  (.ok entry.1, number entry.1, entry.2)

def viewOrder (left right : RowView) : Prop :=
  left.2.1 < right.2.1 ∨ left.2.1 = right.2.1 ∧ left.2.2 ≤ right.2.2

instance : DecidableRel viewOrder := fun left right =>
  inferInstanceAs (Decidable (left.2.1 < right.2.1 ∨ left.2.1 = right.2.1 ∧ left.2.2 ≤ right.2.2))

theorem entryView_order (left right : SequencedEvent × Nat) :
    readOrder number left right ↔ viewOrder (entryView left) (entryView right) := by
  simp only [readOrder, viewOrder, entryView]
  omega

theorem entryView_key (one other : SequencedEvent × Nat) :
    (entryView one).2 = (entryView other).2 ↔ placeKey number one = placeKey number other := by
  simp only [entryView, placeKey, Prod.mk.injEq]
  omega

variable [MessagePack Blob]

def rowView (row : EventRow Blob) : RowView :=
  (decodeEventRow row, row.sequenceId, row.eventIndex)

theorem encodeEventRows_view {events : List SequencedEvent} {rows : List (EventRow Blob)}
    (encoded : encodeEventRows events index = .ok rows) (fits : ∀ event ∈ events, number event < i64Limit) :
    rows.map rowView = (events.zipIdx index).map entryView := by
  induction events generalizing index rows with
  | nil =>
    cases encoded
    rfl
  | cons event rest ih =>
    obtain ⟨row, tail, first, others, rfl⟩ := encodeEventRows_cons encoded
    obtain ⟨numbered, indexed, decoded⟩ := encodeEventRow_ok first
    have bounded : event.sequenceId.val < i64Limit := fits event List.mem_cons_self
    rw [seqAsI64_of_bounded bounded] at numbered
    have head : rowView row = entryView (event, index) := by
      rw [rowView, numbered, indexed, decoded]
      rfl
    rw [List.map_cons, List.zipIdx_cons, List.map_cons, head,
      ih others fun event member => fits event (List.mem_cons_of_mem _ member)]

/-- A call that succeeds adds its rows; without a snapshot that is all it does. -/
theorem Call.run_ok {journal after : SqliteJournal Blob} {call : Call}
    (ran : call.run journal weather = (after, .ok ())) :
    ∃ rows, encodeEventRows call.events 0 = .ok rows ∧
      after.events = rows.foldl (addNew rowKey) journal.events ∧
      (call.snapshot = none → after.snapshots = journal.snapshots) := by
  have succeeded : journal.persistCommit weather call.events call.snapshot = (after, .ok ()) := by
    cases call <;> exact ran
  obtain ⟨rows, row, encoded, snapshotRow, rfl⟩ := written_ok (persistCommit_ok succeeded)
  refine ⟨rows, encoded, ?_, fun none => ?_⟩
  · rw [← insertOrIgnore_addNew]
    rfl
  · rw [none] at snapshotRow
    cases snapshotRow
    rfl

/-- The table shows the placed events of all calls, less those whose key was taken. -/
theorem Appended.shown {journal : SqliteJournal Blob} (appended : Appended journal calls) :
    journal.events.map rowView =
      ((placedEvents calls).foldl (addNew (placeKey number)) []).map entryView := by
  induction appended with
  | empty => rfl
  | @called journal after calls call weather appended fits ran ih =>
    obtain ⟨rows, encoded, grown, -⟩ := call.run_ok ran
    have views := encodeEventRows_view encoded fits
    have rowSame : ∀ one other : EventRow Blob, (rowView one).2 = (rowView other).2 ↔ rowKey one = rowKey other :=
      fun _ _ => Iff.rfl
    rw [grown, map_foldl_addNew rowView rowSame, ih, views,
      ← map_foldl_addNew entryView entryView_key, ← List.foldl_append]
    simp [placedEvents, Call.placed]

theorem mapM_ok_of_map {α β ε : Type} {read : α → Except ε β} {xs : List α} {ys : List β}
    (each : xs.map read = ys.map .ok) : xs.mapM read = .ok ys := by
  induction xs generalizing ys with
  | nil =>
    obtain rfl := List.map_eq_nil_iff.mp each.symm
    rfl
  | cons x rest ih =>
    cases ys with
    | nil => cases each
    | cons y others =>
      rw [List.map_cons, List.map_cons, List.cons.injEq] at each
      rw [List.mapM_cons, each.1, ih each.2]
      rfl

/-- Replay from zero reads what the table holds, in the order of the keys. -/
theorem Appended.replay {journal : SqliteJournal Blob} (appended : Appended journal calls) :
    journal.replayFrom .zero =
      .ok (readAll number ((placedEvents calls).foldl (addNew (placeKey number)) [])) := by
  have shown := appended.shown
  have every : journal.events.filter (fun row => seqAsI64 .zero ≤ row.sequenceId) = journal.events := by
    refine List.filter_eq_self.mpr fun row member => ?_
    have viewed : rowView row ∈ journal.events.map rowView := List.mem_map_of_mem member
    rw [shown] at viewed
    obtain ⟨entry, -, same⟩ := List.mem_map.mp viewed
    have id : (number entry.1 : Int) = row.sequenceId := congrArg (fun view : RowView => view.2.1) same
    have zero : seqAsI64 .zero = 0 := rfl
    rw [decide_eq_true_eq, zero, ← id]
    exact Int.natCast_nonneg _
  have sorted := (List.map_insertionSort rowOrder viewOrder rowView journal.events fun _ _ _ _ => Iff.rfl).trans
    ((congrArg _ shown).trans
      (List.map_insertionSort (readOrder number) viewOrder entryView _ fun _ _ _ _ => entryView_order _ _).symm)
  rw [replayFrom, replayWhere, every]
  refine mapM_ok_of_map ?_
  have decoded := congrArg (List.map Prod.fst) sorted
  rw [List.map_map, List.map_map] at decoded
  rw [readAll, List.map_map]
  exact decoded

theorem Appended.fits {journal : SqliteJournal Blob} (appended : Appended journal calls) :
    ∀ event ∈ appendedEvents calls, number event < i64Limit := by
  induction appended with
  | empty => simp [appendedEvents]
  | called appended fits ran ih =>
    intro event member
    rw [appendedEvents, List.flatMap_append] at member
    rcases List.mem_append.mp member with earlier | newest
    · exact ih event earlier
    · apply fits
      simpa using newest

/-- This call brings single events or a batch, without a snapshot. -/
def Call.isAppend : Call → Bool
  | .append _ | .appendBatch _ => true
  | .persistCommit _ _ => false

/-- The number and the place of every event of the call were used before. -/
def Renumbers (calls : List Call) (call : Call) : Prop :=
  ∀ entry ∈ call.placed, ∃ stored ∈ placedEvents calls, placeKey number stored = placeKey number entry

/-- A row's key is in the table exactly when an event was placed there. -/
theorem Appended.taken_iff {journal : SqliteJournal Blob} (appended : Appended journal calls)
    (entry : SequencedEvent × Nat) :
    (entryView entry).2 ∈ journal.events.map rowKey ↔
      ∃ stored ∈ placedEvents calls, placeKey number stored = placeKey number entry := by
  have keys : journal.events.map rowKey = (journal.events.map rowView).map Prod.snd := by
    rw [List.map_map]
    rfl
  have kept := mem_keys_foldl_addNew (placeKey number) [] (placedEvents calls) (placeKey number entry)
  simp only [List.mem_map, List.not_mem_nil, false_and, exists_false, false_or] at kept
  rw [keys, appended.shown, ← kept, List.map_map, List.mem_map]
  exact exists_congr fun stored => and_congr_right fun _ => entryView_key stored entry

/-- A further call without a snapshot changes nothing exactly when all its places are taken. -/
theorem Appended.unchanged_iff {journal after : SqliteJournal Blob} {call : Call}
    (appended : Appended journal calls) (fits : ∀ event ∈ call.events, number event < i64Limit)
    (plain : call.isAppend) (ran : call.run journal weather = (after, .ok ())) :
    after = journal ↔ Renumbers calls call := by
  obtain ⟨rows, encoded, grown, untouched⟩ := call.run_ok ran
  have views := encodeEventRows_view encoded fits
  have snapshots : after.snapshots = journal.snapshots := by
    apply untouched
    cases call with
    | append event => rfl
    | appendBatch events => rfl
    | persistCommit events snapshot => cases plain
  have sameTables : after = journal ↔ after.events = journal.events := by
    refine ⟨congrArg SqliteJournal.events, fun same => ?_⟩
    cases after
    cases journal
    exact congrArg₂ SqliteJournal.mk same snapshots
  rw [sameTables, grown, foldl_addNew_same_iff]
  have keys : rows.map rowKey = call.placed.map fun entry => (entryView entry).2 := by
    have shown := congrArg (List.map Prod.snd) views
    rw [List.map_map, List.map_map] at shown
    exact shown
  calc (∀ row ∈ rows, rowKey row ∈ journal.events.map rowKey)
      ↔ ∀ key ∈ rows.map rowKey, key ∈ journal.events.map rowKey := List.forall_mem_map.symm
    _ ↔ ∀ entry ∈ call.placed, (entryView entry).2 ∈ journal.events.map rowKey := by
      rw [keys]
      exact List.forall_mem_map
    _ ↔ Renumbers calls call := forall₂_congr fun entry _ => appended.taken_iff entry

/-- Accepted events are all read back in order exactly when, under each number,
every event came at a later place of its call than the ones before it. Bringing
stored events again changes nothing exactly when their numbers and places were
all used before. -/
theorem accepted_events_kept {journal : SqliteJournal Blob} (appended : Appended journal calls)
    (distinct : (appendedEvents calls).Nodup) :
    ((∃ read, journal.replayFrom .zero = .ok read ∧ Faithful number read (appendedEvents calls)) ↔
      Ascending number (placedEvents calls)) ∧
    ∀ (call : Call) (weather : Weather) (after : SqliteJournal Blob), call.isAppend →
      (∀ event ∈ call.events, event ∈ appendedEvents calls) → call.run journal weather = (after, .ok ()) →
      (after = journal ↔ Renumbers calls call) := by
  have events := placedEvents_events calls
  constructor
  · rw [← events] at distinct ⊢
    rw [← read_faithful_iff number (placedEvents calls) distinct, appended.replay]
    constructor
    · rintro ⟨read, found, faithful⟩
      cases found
      exact faithful
    · exact fun faithful => ⟨_, rfl, faithful⟩
  · intro call weather after plain known ran
    exact appended.unchanged_iff (fun event member => appended.fits event (known event member)) plain ran

/-- The journal after these calls in clear weather. -/
def afterCalls (calls : List Call) : SqliteJournal PlainBlob :=
  calls.foldl (fun journal call => (call.run journal .clear).1) .empty

/-- A call in clear weather that succeeds. -/
private theorem Appended.clear {journal : SqliteJournal PlainBlob} (appended : Appended journal calls) (call : Call)
    (fits : ∀ event ∈ call.events, number event < i64Limit) (fine : (call.run journal .clear).2 = .ok ()) :
    Appended (call.run journal .clear).1 (calls ++ [call]) :=
  .called appended fits (Prod.ext rfl fine)

private theorem received_ne_validated (id id' : Nat) (order order' : String) :
    receivedEvent id order ≠ validatedEvent id' order' :=
  fun same => by cases congrArg SequencedEvent.event same

private theorem ne_of_number {one other : SequencedEvent} (apart : number one ≠ number other) : one ≠ other :=
  fun same => apart (congrArg number same)

/-- Two events of one command in a batch, then one of the next. -/
def batchThenSingle : List Call :=
  [.appendBatch [receivedEvent 7 "ord-7", validatedEvent 7 "ord-7"], .append (receivedEvent 8 "ord-8")]

private theorem batchThenSingle_appended : Appended (afterCalls batchThenSingle) batchThenSingle := by
  refine .clear (.clear .empty (.appendBatch [receivedEvent 7 "ord-7", validatedEvent 7 "ord-7"]) ?_ rfl)
    (.append (receivedEvent 8 "ord-8")) ?_ rfl
  · simp [Call.events, number, receivedEvent, validatedEvent, i64Limit]
  · simp [Call.events, number, receivedEvent, i64Limit]

/-- They are all read back, and the batch can be brought again. -/
theorem batch_then_single_kept :
    (∃ read, (afterCalls batchThenSingle).replayFrom .zero = .ok read ∧
      Faithful number read (appendedEvents batchThenSingle)) ∧
    ((batchThenSingle[0]).run (afterCalls batchThenSingle) .clear).1 = afterCalls batchThenSingle := by
  have distinct : (appendedEvents batchThenSingle).Nodup := by
    refine List.nodup_cons.mpr ⟨?_, List.nodup_cons.mpr ⟨?_, List.nodup_singleton _⟩⟩
    · intro found
      rcases List.mem_cons.mp found with same | later
      · exact received_ne_validated _ _ _ _ same
      · exact ne_of_number (by decide) (List.mem_singleton.mp later)
    · intro found
      exact ne_of_number (by decide) (List.mem_singleton.mp found)
  obtain ⟨kept, again⟩ := accepted_events_kept batchThenSingle_appended distinct
  constructor
  · apply kept.mpr
    unfold Ascending
    decide
  · refine (again batchThenSingle[0] .clear _ rfl ?_ rfl).mpr ?_
    · intro event member
      exact List.mem_append_left _ member
    · intro entry member
      exact ⟨entry, List.mem_append_left _ member, rfl⟩

/-- Two events of one command, appended one by one. -/
def oneByOne : List Call :=
  [.append (receivedEvent 7 "ord-7"), .append (validatedEvent 7 "ord-7")]

/-- Two commands of one event each. -/
def twoCommands : List Call :=
  [.append (receivedEvent 7 "ord-7"), .append (receivedEvent 8 "ord-8")]

/-- Of two events of one command appended one by one the second is lost, and two
events appended one by one and brought again as a batch are there three times. -/
theorem regrouping_loses_and_repeats :
    (Appended (afterCalls oneByOne) oneByOne ∧ (appendedEvents oneByOne).Nodup ∧
      (afterCalls oneByOne).replayFrom .zero = .ok [receivedEvent 7 "ord-7"] ∧
      ¬ Faithful number [receivedEvent 7 "ord-7"] (appendedEvents oneByOne)) ∧
    Appended (afterCalls twoCommands) twoCommands ∧ (appendedEvents twoCommands).Nodup ∧
      ∃ after, Call.run (afterCalls twoCommands) .clear (.appendBatch (appendedEvents twoCommands)) = (after, .ok ()) ∧
        after ≠ afterCalls twoCommands ∧
        after.replayFrom .zero = .ok [receivedEvent 7 "ord-7", receivedEvent 8 "ord-8", receivedEvent 8 "ord-8"] := by
  constructor
  · refine ⟨?_, ?_, rfl, fun faithful => ?_⟩
    · refine .clear (.clear .empty (.append (receivedEvent 7 "ord-7")) ?_ rfl) (.append (validatedEvent 7 "ord-7")) ?_ rfl
      · simp [Call.events, number, receivedEvent, i64Limit]
      · simp [Call.events, number, validatedEvent, i64Limit]
    · refine List.nodup_cons.mpr ⟨fun found => ?_, List.nodup_singleton _⟩
      exact received_ne_validated _ _ _ _ (List.mem_singleton.mp found)
    · have lengths := congrArg List.length (faithful.same 7)
      cases lengths
  · refine ⟨?_, ?_, _, rfl, fun same => ?_, rfl⟩
    · refine .clear (.clear .empty (.append (receivedEvent 7 "ord-7")) ?_ rfl) (.append (receivedEvent 8 "ord-8")) ?_ rfl
      · simp [Call.events, number, receivedEvent, i64Limit]
      · simp [Call.events, number, receivedEvent, i64Limit]
    · refine List.nodup_cons.mpr ⟨fun found => ?_, List.nodup_singleton _⟩
      exact ne_of_number (by decide) (List.mem_singleton.mp found)
    · have lengths := congrArg (fun journal => journal.events.length) same
      cases lengths

end FeynmanEngine.JournalAppends
