import FeynmanEngine.Inquiries
import FeynmanEngine.MessageLedgers

/-! A `pending` call, page by page and message by message, while the bus goes on.
What it answers was pending when it was listed, comes in the order of ids and as it
was published, and leaves out nothing that was pending and idle throughout. -/
namespace FeynmanEngine.PendingMessages
open Ids RedisStreams PagedScans BusMessages BusDelivery MessageRoundTrips PendingScan MessageLedgers Traces
open Inquiries (Event others others_append path_of_others)
open SoleConsumers (emptyRedis)

section Calls
variable {topic group : String} [UtcMillis]

/-- Where a call stands: before its next page, before its next look-up, or at its end. -/
inductive Inquiry where
  | listing (start : WithBot MessageId) (ids : List MessageId)
  | fetching (ids : List MessageId) (messages : List BusMessage)
  | answered (result : Except BusError (List BusMessage))

/-- A page of `XPENDING` with a minimum idle time, which some entries have reached. -/
def xpending (ripe : MessageId → Bool) (redis : Redis) (topic group : String) (start : WithBot MessageId) :
    Except CommandError (List (MessageId × String)) :=
  match redis.group topic group with
  | some held => .ok (pageBehind Prod.fst (held.pending.filter fun entry => ripe entry.1) start pendingPageSize)
  | none => .error .noGroup

/-- `XRANGE` from an id to itself, its first entry. -/
def xrange (redis : Redis) (topic : String) (id : MessageId) :
    Except CommandError (Option (MessageId × StreamFields)) :=
  .ok ((redis.stream topic).entries.find? fun entry => entry.1 = id)

/-- The loop of `fetch_messages`. -/
def fetchFrom (ids : List MessageId) (messages : List BusMessage) : Inquiry :=
  match ids with
  | [] => .answered (.ok messages)
  | _ :: _ => .fetching ids messages

/-- `pending`, before its first command. -/
def pending (topic group : String) (minIdle : Nat) : Inquiry :=
  match durationMillis minIdle topic group with
  | .error error => .answered (.error error)
  | .ok _ => .listing ⊥ []

/-- After a page of `pending_ids`. -/
def afterPage (topic group : String) (ids : List MessageId) : Except RedisError (List (MessageId × String)) → Inquiry
  | .error error => .answered (.error (mapGroupOrPendingError topic group error))
  | .ok page =>
    match takePage ids page with
    | (ids, none) => fetchFrom ids []
    | (ids, some start) => .listing start ids

/-- After a `fetch_message`. -/
def afterEntry (topic : String) (rest : List MessageId) (messages : List BusMessage) :
    Except RedisError (Option (MessageId × StreamFields)) → Inquiry
  | .error error => .answered (.error (.pendingFailed topic "<lookup>" error.toText))
  | .ok none => fetchFrom rest messages
  | .ok (some (id, fields)) =>
    match streamEntryToMessage topic id fields with
    | .error error => .answered (.error error)
    | .ok message => fetchFrom rest (messages ++ [message])

def Inquiry.turn (ripe : MessageId → Bool) (failure : Option Failure) (redis : Redis) (topic group : String) :
    Inquiry → Option Inquiry
  | .listing start ids =>
    some (afterPage topic group ids (call failure redis (redis, xpending ripe redis topic group start)).2)
  | .fetching (id :: rest) messages =>
    some (afterEntry topic rest messages (call failure redis (redis, xrange redis topic id)).2)
  | .fetching [] _ | .answered _ => none

/-- Which entries have been idle long enough, and whether the call arrives. -/
structure Turn where
  ripe : MessageId → Bool
  failure : Option Failure

abbrev Asking := Inquiries.Asking World Inquiry

/-- The call among the calls of others. -/
abbrev Proceeds (topic group : String) : Asking → Event Made Turn → Asking → Prop :=
  Inquiries.Proceeds Moves fun world inquiry turn next =>
    inquiry.turn turn.ripe turn.failure world.redis topic group = some next

/-- A turn found an id pending and idle long enough. -/
def SeenPending (topic group : String) (start : Asking) (events : List (Event Made Turn)) (id : MessageId) : Prop :=
  ∃ earlier turn later state, events = earlier ++ .turn turn :: later ∧
    Path (Proceeds topic group) start earlier state ∧ id ∈ state.world.redis.pendingIds topic group ∧ turn.ripe id = true

/-- Every turn finds an id idle long enough. -/
def Idle (events : List (Event Made Turn)) (id : MessageId) : Prop :=
  ∀ turn, .turn turn ∈ events → turn.ripe id = true

/-- Frontiers advance along a run. -/
theorem advance_of_run (path : Path Moves first history world) (topic group : String) :
    first.redis.frontier topic group ≤ world.redis.frontier topic group := by
  induction path with
  | start => exact le_refl _
  | step _ moves ih =>
    obtain ⟨rfl, ran, -⟩ := moves
    exact ih.trans ((StreamLedgers.Command.grown_run (run_command ran)).advance topic group)

/-- Some ids in order, each of them seen pending; none is missing among the ids up
to a bound that were pending at first, are idle throughout and not acknowledged. -/
structure Listed (topic group : String) (history : List Made) (start : Asking) (events : List (Event Made Turn))
    (upTo : MessageId → Prop) (ids : List MessageId) : Prop where
  ascending : ids.Pairwise (· < ·)
  seen : ∀ id ∈ ids, SeenPending topic group start events id
  complete : ∀ id ∈ start.world.redis.pendingIds topic group,
    id ∉ acknowledged topic group (history ++ others events) → Idle events id → upTo id → id ∈ ids

theorem SeenPending.later {id : MessageId} (seen : SeenPending topic group start events id) (more : List (Event Made Turn)) :
    SeenPending topic group start (events ++ more) id := by
  obtain ⟨earlier, turn, later, state, rfl, path, held, idle⟩ := seen
  exact ⟨earlier, turn, later ++ more, state, by simp, path, held, idle⟩

/-- What is listed stays so while more happens. -/
theorem Listed.later (listed : Listed topic group history start events upTo ids) (more : List (Event Made Turn)) :
    Listed topic group history start (events ++ more) upTo ids where
  ascending := listed.ascending
  seen id member := (listed.seen id member).later more
  complete id held free idle within := by
    refine listed.complete id held (fun gone => free ?_) (fun turn taken => ?_) within
    · rw [others_append, ← List.append_assoc, acknowledged, List.flatMap_append]
      exact List.mem_append_left _ gone
    · exact idle turn (List.mem_append_left _ taken)

/-- The messages found are those listed, as they were published. -/
def Faithful (topic : String) (history : List Made) (messages : List BusMessage) : Prop :=
  ∀ message ∈ messages, AsPublished topic history message

omit [UtcMillis] in
theorem Faithful.later (faithful : Faithful topic history messages) (more : List Made) :
    Faithful topic (history ++ more) messages := by
  intro message member
  obtain ⟨same, now, held, instant⟩ := faithful message member
  refine ⟨same, now, ?_, instant⟩
  rw [published, List.flatMap_append]
  exact List.mem_append_left _ held

/-- How a call stands with what it has listed. -/
def Stands (topic group : String) (history : List Made) (start : Asking) (events : List (Event Made Turn)) : Inquiry → Prop
  | .listing cursor ids =>
    Listed topic group history start events (fun id => (id : WithBot MessageId) ≤ cursor) ids ∧
      ∀ id ∈ ids, (id : WithBot MessageId) ≤ cursor
  | .fetching ids messages =>
    Listed topic group history start events (fun _ => True) (messages.map BusMessage.id ++ ids) ∧
      Faithful topic (history ++ others events) messages
  | .answered (.ok messages) =>
    Listed topic group history start events (fun _ => True) (messages.map BusMessage.id) ∧
      Faithful topic (history ++ others events) messages
  | .answered (.error _) => True

theorem Stands.later (stands : Stands topic group history start events inquiry) (more : List (Event Made Turn)) :
    Stands topic group history start (events ++ more) inquiry := by
  cases inquiry with
  | listing cursor ids => exact ⟨stands.1.later more, stands.2⟩
  | fetching ids messages =>
    refine ⟨stands.1.later more, ?_⟩
    rw [others_append, ← List.append_assoc]
    exact stands.2.later _
  | answered result =>
    cases result with
    | error error => trivial
    | ok messages =>
      refine ⟨stands.1.later more, ?_⟩
      rw [others_append, ← List.append_assoc]
      exact stands.2.later _

theorem stands_fetchFrom
    (listed : Listed topic group history start events (fun _ => True) (messages.map BusMessage.id ++ ids))
    (faithful : Faithful topic (history ++ others events) messages) :
    Stands topic group history start events (fetchFrom ids messages) := by
  cases ids with
  | nil =>
    rw [List.append_nil] at listed
    exact ⟨listed, faithful⟩
  | cons id rest => exact ⟨listed, faithful⟩

section Turn
variable {history : List Made} {start : Asking} {events : List (Event Made Turn)} {state : Asking}

/-- What was pending at first is still pending while it is not acknowledged. -/
theorem still_pending (past : Path Moves (.start emptyRedis) history start.world)
    (path : Path (Proceeds topic group) start events state) {id : MessageId}
    (held : id ∈ start.world.redis.pendingIds topic group)
    (free : id ∉ acknowledged topic group (history ++ others events)) :
    id ∈ state.world.redis.pendingIds topic group := by
  have going := path_of_others path
  have before := (ledger_of_run past).balanced topic group
  have now := (ledger_of_run (past.append going)).balanced topic group
  have added : id ∈ (published topic (history ++ others events)).map Prod.fst := by
    rw [published, List.flatMap_append, List.map_append]
    exact List.mem_append_left _ (before.nothingElse id (Or.inl held))
  exact (now.read id added ((Server.le_of_pendingIds held).trans (advance_of_run going topic group))).mpr free

/-- What was seen pending was published before. -/
theorem published_of_seen (past : Path Moves (.start emptyRedis) history start.world) {id : MessageId}
    (seen : SeenPending topic group start events id) :
    id ∈ (published topic (history ++ others events)).map Prod.fst := by
  obtain ⟨earlier, turn, later, state, rfl, path, held, -⟩ := seen
  have balanced := (ledger_of_run (past.append (path_of_others path))).balanced topic group
  rw [others_append, ← List.append_assoc, published, List.flatMap_append, List.map_append]
  exact List.mem_append_left _ (balanced.nothingElse id (Or.inl held))

/-- A page adds what it lists, and nothing up to its end is left out. -/
theorem Listed.page (listed : Listed topic group history start events (fun id => (id : WithBot MessageId) ≤ cursor) ids)
    (behind : ∀ id ∈ ids, (id : WithBot MessageId) ≤ cursor)
    (past : Path Moves (.start emptyRedis) history start.world)
    (path : Path (Proceeds topic group) start events state) {held : ConsumerGroup MessageId String}
    (found : state.world.redis.group topic group = some held) {page : List (MessageId × String)}
    (paged : pageBehind Prod.fst (held.pending.filter fun entry => ripe entry.1) cursor pendingPageSize = page)
    (upTo : MessageId → Prop)
    (whole : ∀ entry ∈ held.pending, ripe entry.1 = true → cursor < entry.1 → upTo entry.1 → entry ∈ page) :
    Listed topic group history start (events ++ [.turn ⟨ripe, none⟩]) upTo (ids ++ page.map Prod.fst) := by
  have sorted : (held.pending.filter fun entry => ripe entry.1).Pairwise fun earlier later => earlier.1 < later.1 :=
    held.sorted.sublist List.filter_sublist
  have shown : ∀ entry ∈ page, entry ∈ held.pending ∧ ripe entry.1 = true ∧ cursor < entry.1 := by
    intro entry member
    rw [← paged] at member
    obtain ⟨listed, beyond⟩ := mem_behind_iff.mp (List.mem_of_mem_take member)
    obtain ⟨pending, idle⟩ := List.mem_filter.mp listed
    exact ⟨pending, idle, beyond⟩
  have later := listed.later [.turn ⟨ripe, none⟩]
  refine ⟨?_, fun id member => ?_, fun id first free idle within => ?_⟩
  · refine List.pairwise_append.mpr ⟨listed.ascending, ?_, fun earlier old later new => ?_⟩
    · rw [← paged]
      exact List.pairwise_map.mpr ((sorted.sublist List.filter_sublist).sublist (List.take_sublist _ _))
    · obtain ⟨entry, member, rfl⟩ := List.mem_map.mp new
      exact WithBot.coe_lt_coe.mp (lt_of_le_of_lt (behind earlier old) (shown entry member).2.2)
  · rcases List.mem_append.mp member with old | new
    · exact later.seen id old
    · obtain ⟨entry, taken, rfl⟩ := List.mem_map.mp new
      obtain ⟨pending, idle, -⟩ := shown entry taken
      refine ⟨events, ⟨ripe, none⟩, [], state, rfl, path, ?_, idle⟩
      rw [Server.pendingIds_of_group found]
      exact List.mem_map_of_mem pending
  · rcases le_or_gt (id : WithBot MessageId) cursor with old | beyond
    · exact List.mem_append_left _ (later.complete id first free idle old)
    · have free' : id ∉ acknowledged topic group (history ++ others events) := by
        rw [others_append] at free
        rwa [show others [Event.turn (⟨ripe, none⟩ : Turn)] = ([] : List Made) from rfl, List.append_nil] at free
      have pending := still_pending past path first free'
      rw [Server.pendingIds_of_group found] at pending
      obtain ⟨entry, member, rfl⟩ := List.mem_map.mp pending
      have idle : ripe entry.1 = true := idle ⟨ripe, none⟩ (List.mem_append_right _ (List.mem_singleton.mpr rfl))
      exact List.mem_append_right _ (List.mem_map_of_mem (whole entry member idle beyond within))

omit [UtcMillis] in
theorem takePage_of_short (ids : List MessageId) (short : page.length < pendingPageSize) :
    takePage ids page = (ids ++ page.map Prod.fst, none) := by
  unfold takePage
  split
  · next none =>
    rw [List.getLast?_eq_none_iff.mp none, List.map_nil, List.append_nil]
  · rw [if_pos short]

omit [UtcMillis] in
theorem takePage_of_full (ids : List MessageId) (full : ¬ page.length < pendingPageSize) :
    ∃ final, page.getLast? = some final ∧ takePage ids page = (ids ++ page.map Prod.fst, some final.1) := by
  have more : page ≠ [] := by
    rintro rfl
    exact full (by decide)
  refine ⟨_, List.getLast?_eq_some_getLast more, ?_⟩
  unfold takePage
  rw [List.getLast?_eq_some_getLast more]
  dsimp only
  rw [if_neg full]

/-- A turn of the listing. -/
theorem stands_afterPage (stands : Stands topic group history start events (.listing cursor ids))
    (past : Path Moves (.start emptyRedis) history start.world)
    (path : Path (Proceeds topic group) start events state) (ripe : MessageId → Bool) (failure : Option Failure) :
    Stands topic group history start (events ++ [.turn ⟨ripe, failure⟩]) (afterPage topic group ids
      (call failure state.world.redis (state.world.redis, xpending ripe state.world.redis topic group cursor)).2) := by
  obtain ⟨listed, behind⟩ := stands
  cases replied : (call failure state.world.redis
      (state.world.redis, xpending ripe state.world.redis topic group cursor)).2 with
  | error error => trivial
  | ok page =>
    obtain ⟨rfl, answered, -⟩ := SoleConsumers.call_ok replied
    unfold xpending at answered
    split at answered
    · next held found =>
      have paged := Except.ok.inj answered
      have kept : ∀ entry ∈ held.pending, ripe entry.1 = true → entry ∈ held.pending.filter fun entry => ripe entry.1 :=
        fun entry member idle => List.mem_filter.mpr ⟨member, idle⟩
      unfold afterPage
      dsimp only
      by_cases short : page.length < pendingPageSize
      · rw [takePage_of_short ids short]
        refine stands_fetchFrom (listed.page behind past path found paged _ fun entry member idle beyond _ => ?_)
          (List.forall_mem_nil _)
        rw [← paged] at short ⊢
        rw [behind_of_short_page short]
        exact mem_behind_iff.mpr ⟨kept entry member idle, beyond⟩
      · obtain ⟨final, last, taken⟩ := takePage_of_full ids short
        rw [taken]
        have sorted :
            (held.pending.filter fun entry => ripe entry.1).Pairwise fun earlier later => earlier.1 < later.1 :=
          held.sorted.sublist List.filter_sublist
        rw [← paged] at last
        have advanced : cursor < final.1 := (mem_behind_iff.mp (List.mem_of_mem_take (List.mem_of_getLast? last))).2
        refine ⟨listed.page behind past path found paged _ fun entry member idle beyond within => ?_,
          fun id member => ?_⟩
        · rw [← paged]
          exact mem_page_of_le sorted last (kept entry member idle) beyond (WithBot.coe_le_coe.mp within)
        · rcases List.mem_append.mp member with old | new
          · exact (behind id old).trans (le_of_lt advanced)
          · obtain ⟨entry, shown, rfl⟩ := List.mem_map.mp new
            rw [← paged] at shown
            have page_sorted : (pageBehind Prod.fst (held.pending.filter fun entry => ripe entry.1) cursor
                pendingPageSize).Pairwise fun earlier later => earlier.1 < later.1 :=
              (sorted.sublist List.filter_sublist).sublist (List.take_sublist _ _)
            have upTo := ConsumerGroup.le_lastOf page_sorted ⊥ shown
            rwa [ConsumerGroup.lastOf, last] at upTo
    · cases answered

/-- What was published is found where it stands in the stream. -/
theorem find_published (past : Path Moves (.start emptyRedis) history world) {id : MessageId}
    (added : id ∈ (published topic history).map Prod.fst) :
    ∃ fields, (world.redis.stream topic).entries.find? (fun entry => entry.1 = id) = some (id, fields) ∧
      (id, fields) ∈ published topic history := by
  have entries := (ledger_of_run past).entries topic
  obtain ⟨entry, member, rfl⟩ := List.mem_map.mp added
  have hit : ((world.redis.stream topic).entries.find? fun other => other.1 = entry.1).isSome := by
    rw [entries]
    exact List.find?_isSome.mpr ⟨entry, member, decide_eq_true rfl⟩
  obtain ⟨⟨id, fields⟩, first⟩ := Option.isSome_iff_exists.mp hit
  have own := List.find?_some first
  have same : id = entry.1 := of_decide_eq_true own
  refine ⟨fields, same ▸ first, ?_⟩
  rw [← entries, ← same]
  exact List.mem_of_find?_eq_some first

/-- A turn of the fetching. -/
theorem stands_afterEntry [DocumentedMillis] {id : MessageId}
    (stands : Stands topic group history start events (.fetching (id :: rest) messages))
    (past : Path Moves (.start emptyRedis) history start.world)
    (path : Path (Proceeds topic group) start events state) (dated : Dated (history ++ others events))
    (ripe : MessageId → Bool) (failure : Option Failure) :
    Stands topic group history start (events ++ [.turn ⟨ripe, failure⟩]) (afterEntry topic rest messages
      (call failure state.world.redis (state.world.redis, xrange state.world.redis topic id)).2) := by
  obtain ⟨listed, faithful⟩ := stands
  cases replied : (call failure state.world.redis (state.world.redis, xrange state.world.redis topic id)).2 with
  | error error => trivial
  | ok entry =>
    obtain ⟨rfl, answered, -⟩ := SoleConsumers.call_ok replied
    have seen := listed.seen id (List.mem_append_right _ List.mem_cons_self)
    obtain ⟨fields, hit, added⟩ := find_published (past.append (path_of_others path)) (published_of_seen past seen)
    obtain ⟨payload, now, shape, range⟩ := published_fields added dated
    obtain rfl : fields = publishedFields payload now := shape
    obtain rfl : some (id, publishedFields payload now) = entry := hit ▸ Except.ok.inj answered
    have decoded := streamEntryToMessage_published topic id payload range
    have instant : (⟨now.timestampMillis * 1000000⟩ : DateTime).timestampMillis = now.timestampMillis :=
      Int.mul_ediv_cancel _ (by decide)
    unfold afterEntry
    dsimp only
    rw [decoded]
    refine stands_fetchFrom ?_ ?_
    · rw [List.map_append, List.append_assoc]
      exact listed.later _
    · rw [others_append, ← List.append_assoc]
      refine Faithful.later (fun message member => ?_) _
      rcases List.mem_append.mp member with old | new
      · exact faithful message old
      · rw [List.mem_singleton.mp new]
        exact ⟨rfl, now, added, instant⟩

end Turn

omit [UtcMillis] in
theorem dated_earlier (dated : Dated (history ++ more)) : Dated history :=
  fun made member => dated made (List.mem_append_left _ member)

theorem stands_of_run [DocumentedMillis] (past : Path Moves (.start emptyRedis) history start.world)
    (path : Path (Proceeds topic group) start events state) (dated : Dated (history ++ others events))
    (fresh : Stands topic group history start [] start.inquiry) :
    Stands topic group history start events state.inquiry := by
  induction path with
  | start => exact fresh
  | @step events state event next path proceeds ih =>
    rw [others_append, ← List.append_assoc] at dated
    have stands := ih (dated_earlier dated)
    cases proceeds with
    | other move => exact stands.later _
    | @turn world inquiry turn _ turned =>
      cases inquiry with
      | answered result => cases turned
      | listing cursor ids =>
        cases turned
        exact stands_afterPage stands past path turn.ripe turn.failure
      | fetching ids messages =>
        cases ids with
        | nil => cases turned
        | cons id rest =>
          cases turned
          exact stands_afterEntry stands past path (dated_earlier dated) turn.ripe turn.failure

/-- A call has listed nothing when it starts, unless it was refused. -/
theorem stands_pending (topic group : String) (minIdle : Nat) (history : List Made) (world : World) :
    Stands topic group history ⟨world, pending topic group minIdle⟩ [] (pending topic group minIdle) := by
  generalize start : (⟨world, pending topic group minIdle⟩ : Asking) = asking
  unfold pending
  split
  · trivial
  · exact ⟨⟨.nil, List.forall_mem_nil _, fun id _ _ _ within => absurd within (not_le.mpr (WithBot.bot_lt_coe id))⟩,
      List.forall_mem_nil _⟩

/-- Whatever the bus does meanwhile: a call that is answered with messages lists
them once and in the order of ids, as they were published; each was pending and
idle long enough when its page was taken, and every message that is pending from
the start to the end of the call and idle long enough at every turn is among them. -/
theorem pending_answered [DocumentedMillis] (past : Path Moves (.start emptyRedis) history first)
    (path : Path (Proceeds topic group) ⟨first, pending topic group minIdle⟩ events ⟨world, .answered (.ok messages)⟩)
    (dated : Dated (history ++ others events)) :
    (messages.map BusMessage.id).Pairwise (· < ·) ∧
    (∀ message ∈ messages, AsPublished topic (history ++ others events) message ∧
      SeenPending topic group ⟨first, pending topic group minIdle⟩ events message.id) ∧
    (∀ id ∈ first.redis.pendingIds topic group, id ∈ world.redis.pendingIds topic group → Idle events id →
      id ∈ messages.map BusMessage.id) := by
  obtain ⟨listed, faithful⟩ := stands_of_run past path dated (stands_pending topic group minIdle history first)
  refine ⟨listed.ascending, fun message member => ⟨faithful message member, ?_⟩, fun id held still idle => ?_⟩
  · exact listed.seen message.id (List.mem_map_of_mem member)
  · have balanced := (ledger_of_run (past.append (path_of_others path))).accounted topic group
    exact listed.complete id held (fun gone => balanced.apart id gone still) idle trivial

/-- Some calls of others and turns, one after the other. -/
def proceedAll (topic group : String) : Asking → List (Call ⊕ Turn) → Option (List (Event Made Turn) × Asking) :=
  follow (Inquiries.take make fun world inquiry turn => inquiry.turn turn.ripe turn.failure world.redis topic group)

theorem path_of_proceedAll (ran : proceedAll topic group asking steps = some (events, last)) :
    Path (Proceeds topic group) asking events last :=
  .of_follow (Inquiries.proceeds_of_take moves_of_make fun _ _ _ _ turned => turned) ran

end Calls

section Stuck
open SoleConsumers.WholeMillis SoleConsumers

/-- One message is pending after a read whose reply was lost; another is published
between the page and the look-up. -/
def between : List (Call ⊕ Turn) :=
  [.inr ⟨fun _ => true, none⟩, .inl (.act (.publish "fills" [7] ⟨0⟩ ⟨2, 0⟩ none)), .inr ⟨fun _ => true, none⟩]

def answerOf : Inquiry → Option (List BusMessage)
  | .answered (.ok messages) => some messages
  | _ => none

theorem answered_of_answerOf (answered : answerOf inquiry = some messages) : inquiry = .answered (.ok messages) := by
  unfold answerOf at answered
  split at answered
  · cases answered
    rfl
  · cases answered

/-- What a run of calls and then a call of ours come to. -/
def asked (calls : List Call) (steps : List (Call ⊕ Turn)) :
    Option ((List Made × World) × List (Event Made Turn) × Asking) :=
  (makeAll (.start emptyRedis) calls).bind fun made =>
    (proceedAll "fills" "risk_gate" ⟨made.2, pending "fills" "risk_gate" 0⟩ steps).map fun after => (made, after)

/-- The call is answered with the message that is stuck. -/
theorem pending_answered_stuck : ∃ (history : List Made) (first : World) (events : List (Event Made Turn)) (world : World),
    first.redis.pendingIds "fills" "risk_gate" = [⟨1, 0⟩] ∧
    ([fill].map BusMessage.id).Pairwise (· < ·) ∧
    (∀ message ∈ [fill], AsPublished "fills" (history ++ others events) message ∧
      SeenPending "fills" "risk_gate" ⟨first, pending "fills" "risk_gate" 0⟩ events message.id) ∧
    (∀ id ∈ first.redis.pendingIds "fills" "risk_gate", id ∈ world.redis.pendingIds "fills" "risk_gate" →
      Idle events id → id ∈ [fill].map BusMessage.id) := by
  have ran : (asked (replyLost.map .act) between).map (fun run =>
      (run.1.2.redis.pendingIds "fills" "risk_gate", answerOf run.2.2.inquiry,
        decide (Dated (run.1.1 ++ others run.2.1)))) = some ([⟨1, 0⟩], some [fill], true) := by
    decide +kernel
  obtain ⟨⟨⟨history, first⟩, events, ⟨world, inquiry⟩⟩, reached, seen⟩ := Option.map_eq_some_iff.mp ran
  obtain ⟨held, answered, dated⟩ : _ ∧ _ ∧ _ := by simpa only [Prod.mk.injEq] using seen
  obtain ⟨made, past, more⟩ := Option.bind_eq_some_iff.mp reached
  obtain ⟨after, proceeded, same⟩ := Option.map_eq_some_iff.mp more
  cases same
  obtain rfl := answered_of_answerOf answered
  have documented : DocumentedMillis := ⟨fun _ _ => rfl⟩
  exact ⟨history, first, events, world, held,
    pending_answered (path_of_makeAll past) (path_of_proceedAll proceeded) (of_decide_eq_true dated)⟩

end Stuck

end FeynmanEngine.PendingMessages
