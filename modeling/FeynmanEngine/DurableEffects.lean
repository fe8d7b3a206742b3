import FeynmanEngine.Lifetimes
import FeynmanEngine.OrderBookkeeping
import FeynmanEngine.SequencerFixtures

/-! What the outside world was told of an order against what a restart knows of
it. The reply and the dispatch precede the commit, so a lost commit leaves a
promise nobody remembers. As long as no accepting submission ends that way,
every promise is found in the recovered orders and a retry is answered. -/
namespace FeynmanEngine.DurableEffects
open Ids Orders Events Tables Portfolio Engine Journal Sequencing JournalCommits CommandCases
open OrderBookkeeping SequencerFixtures SequencerStart Lifetimes Traces

/-- Order ids and client order ids given away, by reply or by dispatch. -/
def promises (effects : List Effect) : List (OrderId × ClientOrderId) := effects.filterMap promised

theorem promises_append (left right : List Effect) :
    promises (left ++ right) = promises left ++ promises right :=
  List.filterMap_append

/-- A promise is made by an acknowledgement or by a dispatch. -/
theorem mem_promises (member : promise ∈ promises effects) :
    (∃ ack ∈ acknowledged effects, promise = (ack.orderId, ack.clientOrderId)) ∨
      ∃ order ∈ dispatched effects, promise = (order.core.id, order.clientOrderId) := by
  obtain ⟨effect, shown, gives⟩ := List.mem_filterMap.mp member
  cases effect with
  | orderReply respond answer =>
    cases answer with
    | error error => cases gives
    | ok ack =>
      cases gives
      exact Or.inl ⟨ack, List.mem_filterMap.mpr ⟨_, shown, rfl⟩, rfl⟩
  | dispatch order =>
    cases gives
    exact Or.inr ⟨order, List.mem_filterMap.mpr ⟨_, shown, rfl⟩, rfl⟩
  | signalReply respond answer => cases gives
  | limitsReply respond answer => cases gives
  | snapshotReply respond snapshot => cases gives

/-- The order is on record under that client order id, with an answer. -/
def Recorded (state : EngineState) (promise : OrderId × ClientOrderId) : Prop :=
  clientIdOf state promise.1 = some promise.2 ∧
    (state.idempotencyCache.lookup promise.2).isSome

/-- Every cached answer belongs to the order recorded under its id. -/
def Consistent (state : EngineState) : Prop :=
  ∀ clientOrderId ack, state.idempotencyCache.lookup clientOrderId = some ack →
    ack.clientOrderId = clientOrderId ∧ clientIdOf state ack.orderId = some clientOrderId

theorem Recorded.of_sameBook (recorded : Recorded before promise) (same : SameBook before after) :
    Recorded after promise := by
  unfold Recorded
  rw [same.clientIds, same.answers]
  exact recorded

theorem Recorded.to_sameBook (recorded : Recorded after promise) (same : SameBook before after) :
    Recorded before promise := by
  unfold Recorded
  rw [← same.clientIds, ← same.answers]
  exact recorded

theorem Consistent.of_sameBook (consistent : Consistent before) (same : SameBook before after) :
    Consistent after := by
  intro clientOrderId ack found
  rw [same.answers] at found
  rw [same.clientIds]
  exact consistent clientOrderId ack found

/-- An answer given again is on record. -/
theorem Consistent.recorded {ack : OrderAck} (consistent : Consistent state) (found : answerOf state orderId = some ack) :
    Recorded state (ack.orderId, ack.clientOrderId) := by
  obtain ⟨clientOrderId, -, cached⟩ := Option.bind_eq_some_iff.mp found
  obtain ⟨named, known⟩ := consistent clientOrderId ack cached
  subst named
  exact ⟨known, by simp [cached]⟩

section Acceptances
variable {C J : Type} [EngineCore C] {ack : OrderAck}

theorem Acceptance.consistent {before after : Sequencer C J} (consistent : Consistent before.state)
    (acceptance : Acceptance before after agent now effects ack) : Consistent after.state := by
  intro clientOrderId stored found
  rw [acceptance.answers] at found
  rw [acceptance.clientIds]
  by_cases hit : clientOrderId = ack.clientOrderId
  · rw [if_pos hit] at found
    cases found
    exact ⟨hit.symm, by simp [hit]⟩
  · rw [if_neg hit] at found
    obtain ⟨named, known⟩ := consistent clientOrderId stored found
    have other : stored.orderId ≠ ack.orderId := by
      intro same
      have fresh := acceptance.fresh
      rw [← same] at fresh
      simp [answerOf, known, found] at fresh
    rw [if_neg other]
    exact ⟨named, known⟩

theorem Acceptance.keeps_recorded {before after : Sequencer C J}
    (acceptance : Acceptance before after agent now effects ack)
    (recorded : Recorded before.state promise) : Recorded after.state promise := by
  obtain ⟨known, cached⟩ := recorded
  have other : promise.1 ≠ ack.orderId := by
    intro same
    obtain ⟨stored, found⟩ := Option.isSome_iff_exists.mp cached
    have fresh := acceptance.fresh
    rw [← same] at fresh
    simp [answerOf, known, found] at fresh
  refine ⟨by rw [acceptance.clientIds, if_neg other, known], ?_⟩
  rw [acceptance.answers]
  split
  · rfl
  · exact cached

/-- What an acceptance promises is on record behind it. -/
theorem Acceptance.records {before after : Sequencer C J}
    (acceptance : Acceptance before after agent now effects ack) (member : promise ∈ promises effects) :
    Recorded after.state promise := by
  have recorded : Recorded after.state (ack.orderId, ack.clientOrderId) := by
    simp [Recorded, acceptance.clientIds, acceptance.answers]
  rcases mem_promises member with ⟨given, shown, rfl⟩ | ⟨order, shown, rfl⟩
  · rw [acceptance.acknowledged, List.mem_singleton] at shown
    rw [shown]
    exact recorded
  · obtain ⟨sent, identity, named, only⟩ := acceptance.dispatched
    rw [only] at shown
    split at shown
    · rw [List.mem_singleton.mp shown, identity, named]
      exact recorded
    · cases shown

end Acceptances

/-- Every promise shown so far is on record in the latest commit. -/
structure Remembered (commits : List Commit) (shown : List Effect) : Prop where
  consistent : ∀ commit, commits.getLast? = some commit → Consistent commit.snapshot.state
  recorded : ∀ promise ∈ promises shown, ∃ commit, commits.getLast? = some commit ∧
    Recorded commit.snapshot.state promise

/-- A running state keeps the book of the latest commit. -/
structure Follows (commits : List Commit) (state : EngineState) : Prop where
  latest : ∀ commit, commits.getLast? = some commit → SameBook commit.snapshot.state state
  blank : commits.getLast? = none → ∀ clientOrderId, state.idempotencyCache.lookup clientOrderId = none

theorem Follows.of_sameBook (follows : Follows commits before) (same : SameBook before after) :
    Follows commits after where
  latest commit last := SameBook.trans (follows.latest commit last) same
  blank none clientOrderId := by
    rw [same.answers]
    exact follows.blank none clientOrderId

/-- What a running state has on record, the latest commit has too. -/
theorem Follows.stored (follows : Follows commits state) (recorded : Recorded state promise) :
    ∃ commit, commits.getLast? = some commit ∧ Recorded commit.snapshot.state promise := by
  cases last : commits.getLast? with
  | none =>
    have absent := follows.blank last promise.2
    rw [Recorded, absent] at recorded
    cases recorded.2
  | some commit => exact ⟨commit, rfl, recorded.to_sameBook (follows.latest commit last)⟩

theorem Follows.consistent (follows : Follows commits state) (remembered : Remembered commits shown) :
    Consistent state := by
  cases last : commits.getLast? with
  | none =>
    intro clientOrderId ack found
    rw [follows.blank last] at found
    cases found
  | some commit => exact (remembered.consistent commit last).of_sameBook (follows.latest commit last)

theorem Follows.recorded (follows : Follows commits state) (remembered : Remembered commits shown)
    (member : promise ∈ promises shown) : Recorded state promise := by
  obtain ⟨commit, last, recorded⟩ := remembered.recorded promise member
  exact recorded.of_sameBook (follows.latest commit last)

/-- Promises that were on record already need no commit. -/
theorem Remembered.known (remembered : Remembered commits shown) (follows : Follows commits state)
    (known : ∀ promise ∈ promises effects, Recorded state promise) :
    Remembered commits (shown ++ effects) where
  consistent := remembered.consistent
  recorded promise member := by
    rw [promises_append] at member
    rcases List.mem_append.mp member with earlier | now
    · exact remembered.recorded promise earlier
    · exact follows.stored (known promise now)

/-- A commit that has everything on record takes over. -/
theorem Remembered.committed (consistent : Consistent commit.snapshot.state)
    (recorded : ∀ promise ∈ promises shown, Recorded commit.snapshot.state promise) :
    Remembered (commits ++ [commit]) shown where
  consistent other last := by
    obtain rfl : commit = other := by simpa using last
    exact consistent
  recorded promise member := ⟨commit, by simp, recorded promise member⟩

section Histories
variable {C Blob : Type} [EngineCore C] [MessagePack Blob]

/-- A core that brings no orders and no answers of its own. -/
def Blank (core : C) : Prop :=
  (EngineCore.state core).orders = ∅ ∧ (EngineCore.state core).idempotencyCache = ∅

/-- A restart is in line with the latest commit. -/
theorem boot_follows (defaults : TraitDefaults C) {journal : SqliteJournal Blob}
    {sequencer : Sequencer C (SqliteJournal Blob)} (held : Holds journal commits) {core : C}
    (blank : Blank core) (started : Sequencer.new core journal epoch = .ok sequencer) :
    Follows commits sequencer.state := by
  rcases (started_from held started).2 with ⟨none, same, -⟩ | ⟨commit, last, called, -, -⟩
  · refine ⟨fun commit last => ?_, fun _ clientOrderId => ?_⟩
    · rw [none] at last
      cases last
    · rw [Sequencer.state, same, blank.2]
      rfl
  · have restored : sequencer.state = commit.snapshot.state := defaults.restored called
    refine ⟨fun other found => ?_, fun nothing => ?_⟩
    · rw [last] at found
      cases found
      rw [restored]
      exact SameBook.refl _
    · rw [last] at nothing
      cases nothing

variable [LibraryText]

/-- The command's commit outlives its effects: the loop goes on, or the storage
takes the commit before the process ends, or nothing was visible yet. -/
def Outlives (sequencer : Sequencer C (SqliteJournal Blob)) (command : SequencerCommand)
    (env : Environment Weather) : Ending → Prop
  | .goesOn => True
  | .stops => ∀ commit, requestedCommit sequencer command env = some commit →
      sequencer.journal.lands env.weather commit.events (some commit.snapshot) = true
  | .crashes visible => visible = 0

/-- No accepting submission loses its commit; numbers stay in the column's range. -/
def AcceptanceOutlives (sequencer : Sequencer C (SqliteJournal Blob)) (command : SequencerCommand)
    (env : Environment Weather) (ending : Ending) : Prop :=
  sequencer.sequenceGen.next.val < i64Limit ∧
    (Accepts sequencer command env → Outlives sequencer command env ending)

/-- What a command, however it ends, shows and asks the journal for: promises on
record already over the book it found, or an acceptance with everything in its
commit. -/
theorem command_book (contract : CoreContract C SameBook fun _ => SameBook)
    {sequencer : Sequencer C (SqliteJournal Blob)} (consistent : Consistent sequencer.state)
    (command : SequencerCommand) (env : Environment Weather) :
    ((∀ promise ∈ promises (sequencer.processCommand command env).effects,
        Recorded sequencer.state promise) ∧
      ∀ commit, requestedCommit sequencer command env = some commit →
        SameBook sequencer.state commit.snapshot.state) ∨
    Accepts sequencer command env ∧ ∃ commit, requestedCommit sequencer command env = some commit ∧
      Consistent commit.snapshot.state ∧
      ∀ promise, Recorded sequencer.state promise ∨
          promise ∈ promises (sequencer.processCommand command env).effects →
        Recorded commit.snapshot.state promise := by
  rw [processCommand_effects]
  cases completion : ((numbered sequencer).handleCommand command env).completion with
  | err error =>
    have silent := (handleCommand_failed (numbered sequencer) command env (by simp [completion])).2
    refine Or.inl ⟨by simp [silent, promises], fun commit requested => ?_⟩
    obtain ⟨outcome, ok, -⟩ := requestedCommit_some requested
    cases completion.symm.trans ok
  | panicked =>
    have silent := (handleCommand_failed (numbered sequencer) command env (by simp [completion])).2
    refine Or.inl ⟨by simp [silent, promises], fun commit requested => ?_⟩
    obtain ⟨outcome, ok, -⟩ := requestedCommit_some requested
    cases completion.symm.trans ok
  | ok outcome =>
    have handling := handleCommand_handling (numbered sequencer) command env completion
    have metadata : ∀ commit, requestedCommit sequencer command env = some commit →
        SameBook ((numbered sequencer).handleCommand command env).sequencer.state
          commit.snapshot.state := by
      intro commit requested
      obtain ⟨other, -, -, rfl⟩ := requestedCommit_some requested
      exact (commitOf_untouched _ other _ env.now).sameBook
    rcases Handling.book contract handling with ⟨same, undispatched, -, replies⟩ |
      ⟨accepts, commits, agent, ack, acceptance⟩
    · refine Or.inl ⟨fun promise member => ?_, fun commit requested =>
        SameBook.trans same (metadata commit requested)⟩
      rcases mem_promises member with ⟨given, shown, rfl⟩ | ⟨order, shown, -⟩
      · rcases replies with silent | ⟨again, only, orderId, known⟩
        · rw [silent] at shown
          cases shown
        · rw [only, List.mem_singleton] at shown
          rw [shown]
          exact consistent.recorded known
      · rw [undispatched] at shown
        cases shown
    · have requested : ∃ commit, requestedCommit sequencer command env = some commit := by
        simp only [requestedCommit, completion, commits, if_true]
        exact ⟨_, rfl⟩
      obtain ⟨commit, asked⟩ := requested
      have same := metadata commit asked
      refine Or.inr ⟨accepts, commit, asked,
        (Acceptance.consistent consistent acceptance.unnumbered).of_sameBook same,
        fun promise known => ?_⟩
      rcases known with earlier | now
      · exact (Acceptance.keeps_recorded acceptance.unnumbered earlier).of_sameBook same
      · exact (Acceptance.records acceptance.unnumbered now).of_sameBook same

/-- After a command whose commit, if it accepts, became durable. -/
theorem remembered_command (contract : CoreContract C SameBook fun _ => SameBook)
    {sequencer : Sequencer C (SqliteJournal Blob)} (remembered : Remembered commits shown)
    (follows : Follows commits sequencer.state) (durable : Option Commit)
    (asked : ∀ commit, durable = some commit → requestedCommit sequencer command env = some commit)
    (outlives : Accepts sequencer command env → durable = requestedCommit sequencer command env) :
    Remembered (commits ++ durable.toList)
      (shown ++ (sequencer.processCommand command env).effects) := by
  have consistent := follows.consistent remembered
  rcases command_book contract consistent command env with ⟨known, same⟩ |
    ⟨accepts, commit, requested, kept, recorded⟩
  · cases durable with
    | none =>
      rw [Option.toList, List.append_nil]
      exact remembered.known follows known
    | some commit =>
      have stored := same commit (asked commit rfl)
      refine .committed (consistent.of_sameBook stored) fun promise member => ?_
      rw [promises_append] at member
      rcases List.mem_append.mp member with earlier | now
      · exact (follows.recorded remembered earlier).of_sameBook stored
      · exact (known promise now).of_sameBook stored
  · rw [outlives accepts, requested]
    refine .committed kept fun promise member => recorded promise ?_
    rw [promises_append] at member
    rcases List.mem_append.mp member with earlier | now
    · exact Or.inl (follows.recorded remembered earlier)
    · exact Or.inr now

/-- A command cut off before its commit has shown nothing new. -/
theorem remembered_crash (contract : CoreContract C SameBook fun _ => SameBook)
    {sequencer : Sequencer C (SqliteJournal Blob)} (remembered : Remembered commits shown)
    (follows : Follows commits sequencer.state)
    (outlives : Accepts sequencer command env → visible = 0) :
    Remembered commits (shown ++ (sequencer.processCommand command env).effects.take visible) := by
  rcases command_book contract (follows.consistent remembered) command env with ⟨known, -⟩ |
    ⟨accepts, -⟩
  · refine remembered.known follows fun promise member => known promise ?_
    obtain ⟨effect, seen, gives⟩ := List.mem_filterMap.mp member
    exact List.mem_filterMap.mpr ⟨effect, List.mem_of_mem_take seen, gives⟩
  · rw [outlives accepts, List.take_zero, List.append_nil]
    exact remembered

/-- A loop that goes on keeps the book of what it made durable. -/
theorem processed_follows (contract : CoreContract C SameBook fun _ => SameBook)
    {sequencer next : Sequencer C (SqliteJournal Blob)} (follows : Follows commits sequencer.state)
    (processes : Processes sequencer command env turn next) :
    Follows (commits ++ turn.commit.toList) next.state := by
  have processing := processes.processing
  generalize turn.commit = requested at processing
  cases processing with
  | idle handling quiet =>
    rw [Option.toList, List.append_nil]
    rcases Handling.book contract handling with ⟨same, -⟩ | ⟨-, commits, -⟩
    · exact follows.of_sameBook same
    · rw [quiet] at commits
      cases commits
  | @committed handled _ outcome commit journal handling commits asked persisted =>
    have written := (settled_untouched handled commit journal).sameBook
    have stored : SameBook commit.snapshot.state handled.state := by
      rw [asked]
      exact ⟨fun _ => rfl, fun _ => rfl⟩
    refine ⟨fun other last => ?_, fun none => by simp at none⟩
    obtain rfl : commit = other := by simpa using last
    exact SameBook.trans stored written

/-- One step keeps every promise remembered, and a running state in line. -/
theorem remembered_step (defaults : TraitDefaults C) (contract : CoreContract C SameBook fun _ => SameBook)
    {world next : World C Blob} (chronicle : Chronicle commits world)
    (remembered : Remembered commits shown)
    (follows : ∀ sequencer, world = .up sequencer → Follows commits sequencer.state)
    (move : Lives Blank AcceptanceOutlives world moment next) :
    Remembered (commits ++ moment.commit.toList) (shown ++ moment.effects) ∧
      ∀ sequencer, next = .up sequencer → Follows (commits ++ moment.commit.toList) sequencer.state := by
  cases move with
  | @booted core journal epoch sequencer blank started =>
    simp only [Moment.quiet, Option.toList, List.append_nil]
    refine ⟨remembered, ?_⟩
    rintro running ⟨⟩
    exact boot_follows defaults chronicle.held blank started
  | @wired sequencer =>
    simp only [Moment.quiet, Option.toList, List.append_nil]
    refine ⟨remembered, ?_⟩
    rintro running ⟨⟩
    exact follows sequencer rfl
  | killed =>
    simp only [Moment.quiet, Option.toList, List.append_nil]
    refine ⟨remembered, ?_⟩
    rintro running ⟨⟩
  | @processed sequencer next command env turn permitted processes =>
    have following := follows sequencer rfl
    have asked : requestedCommit sequencer command env = turn.commit := by rw [processes.turn]; rfl
    have seen : turn.effects = (sequencer.processCommand command env).effects := by
      rw [processes.turn]; rfl
    refine ⟨?_, ?_⟩
    · rw [seen]
      exact remembered_command contract remembered following turn.commit
        (fun commit made => asked.trans made) fun _ => asked.symm
    · rintro running ⟨⟩
      exact processed_follows contract following processes
  | @stopped sequencer command env permitted =>
    refine ⟨remembered_command contract remembered (follows sequencer rfl) _
      (fun commit made => (Option.filter_eq_some_iff.mp made).1) fun accepts => ?_, ?_⟩
    · have taken := permitted.2 accepts
      unfold durableCommit
      cases requested : requestedCommit sequencer command env with
      | none => rfl
      | some commit => simp [Option.filter, taken commit requested]
    · rintro running ⟨⟩
  | @crashed sequencer command env visible permitted =>
    simp only [Option.toList, List.append_nil]
    refine ⟨remembered_crash contract remembered (follows sequencer rfl) permitted.2, ?_⟩
    rintro running ⟨⟩

theorem life_remembered (defaults : TraitDefaults C)
    (contract : CoreContract C SameBook fun _ => SameBook) {world : World C Blob}
    (life : Life Blank AcceptanceOutlives moments world) :
    Remembered (commitsOf moments) (effectsOf moments) ∧
      ∀ sequencer, world = .up sequencer → Follows (commitsOf moments) sequencer.state := by
  induction life with
  | start =>
    refine ⟨⟨fun commit last => by simp [commitsOf] at last, fun promise member => ?_⟩, ?_⟩
    · simp [effectsOf, promises] at member
    · rintro sequencer ⟨⟩
  | @step moments world moment next path move ih =>
    have earlier : Life Blank AcceptanceOutlives moments world := path
    have chronicle := earlier.chronicle fun _ _ _ _ permitted => permitted.1
    rw [commitsOf_snoc, effectsOf_snoc]
    exact remembered_step defaults contract chronicle ih.1 ih.2 move

/-- Effects only of durable orders, where no accepting submission loses its
commit: over any lives, whatever was ever acknowledged or dispatched is on record
under the same client order id in every state that runs, a just recovered one
included, and a retry is answered with that id and sends nothing. -/
theorem effects_of_durable_orders (defaults : TraitDefaults C)
    (contract : CoreContract C SameBook fun _ => SameBook)
    {sequencer : Sequencer C (SqliteJournal Blob)}
    (life : Life Blank AcceptanceOutlives moments (.up sequencer)) :
    ∀ promise ∈ promises (effectsOf moments),
      clientIdOf sequencer.state promise.1 = some promise.2 ∧
      ∃ ack : OrderAck, ack.clientOrderId = promise.2 ∧
        ∀ order respond (env : Environment Weather), order.core.id = promise.1 →
          sequencer.processCommand (.submitOrder order respond) env =
            ⟨numbered sequencer, [.orderReply respond (.ok ack)], .ok none⟩ := by
  intro promise member
  obtain ⟨remembered, follows⟩ := life_remembered defaults contract life
  have following := follows sequencer rfl
  obtain ⟨known, cached⟩ := following.recorded remembered member
  obtain ⟨ack, found⟩ := Option.isSome_iff_exists.mp cached
  refine ⟨known, ack, (following.consistent remembered promise.2 ack found).1, ?_⟩
  intro order respond env same
  refine answered_again sequencer respond env ?_
  rw [same, answerOf, known]
  exact found

end Histories

section Restarts
open Plain

def wiredBoot : Sequencer TestCore (SqliteJournal PlainBlob) := firstBoot.withVenueSubmitTx

/-- The first life after its first order. -/
def accepted : Sequencer TestCore (SqliteJournal PlainBlob) :=
  (wiredBoot.processCommand submit calm).sequencer

def recovered : Sequencer TestCore (SqliteJournal PlainBlob) :=
  match Sequencer.new freshCore accepted.journal 1 with
  | .ok sequencer => sequencer
  | .err _ | .panicked => firstBoot

/-- After a kill behind the commit the order is known under its first id. -/
theorem effects_of_durable_orders_after_kill :
    clientIdOf recovered.state ⟨"order-1"⟩ = some ⟨"athena-0-000000-r00"⟩ := by
  have blank : Blank freshCore := ⟨rfl, rfl⟩
  have unborn : Life (@Blank TestCore _) AcceptanceOutlives [] (.down freshJournal) := .start
  have booted := unborn.boot blank (rfl : Sequencer.new freshCore freshJournal 0 = .ok firstBoot)
  have wired := booted.wire
  have submitted := wired.process submit calm ⟨(by decide : 1 < i64Limit), fun _ => trivial⟩ rfl
  have killed := submitted.kill
  have rebooted := killed.boot blank (rfl : Sequencer.new freshCore accepted.journal 1 = .ok recovered)
  exact (effects_of_durable_orders TestCore.trait_defaults TestCore.sameBook_contract rebooted
    (⟨"order-1"⟩, ⟨"athena-0-000000-r00"⟩) (List.mem_of_mem_head? rfl)).1

/-- The storage loses a transaction. -/
def fullDisk : Environment Weather := { calm with weather := .lost "disk full" }

/-- The journal that lost the order. -/
def lostJournal : SqliteJournal PlainBlob := (wiredBoot.processCommand submit fullDisk).sequencer.journal

/-- Started again from it. -/
def forgetful : Sequencer TestCore (SqliteJournal PlainBlob) :=
  match Sequencer.new freshCore lostJournal 1 with
  | .ok sequencer => sequencer
  | .err _ | .panicked => firstBoot

/-- A commit lost behind the reply: the order was acknowledged and dispatched,
the restart does not know it, and its retry is dispatched under another id. -/
theorem lost_commit_breaks_promise : ∃ moments,
    Life (@Blank TestCore _) (fun _ _ _ _ => True) moments
      (.up forgetful.withVenueSubmitTx) ∧
    (⟨"order-1"⟩, ⟨"athena-0-000000-r00"⟩) ∈ promises (effectsOf moments) ∧
    clientIdOf forgetful.state ⟨"order-1"⟩ = none ∧
    (dispatched (forgetful.withVenueSubmitTx.processCommand submit calm).effects).map
      PipelineOrder.clientOrderId = [⟨"athena-0-000000-r01"⟩] := by
  have blank : Blank freshCore := ⟨rfl, rfl⟩
  have unborn : Life (@Blank TestCore _) (fun _ _ _ _ => True) [] (.down freshJournal) := .start
  have booted := unborn.boot blank (rfl : Sequencer.new freshCore freshJournal 0 = .ok firstBoot)
  have wired := booted.wire
  have stopped := wired.stop submit fullDisk trivial
  have rebooted := stopped.boot blank (rfl : Sequencer.new freshCore lostJournal 1 = .ok forgetful)
  have rewired := rebooted.wire
  exact ⟨_, rewired, List.mem_of_mem_head? rfl, rfl, rfl⟩

end Restarts

end FeynmanEngine.DurableEffects
