import Mathlib.Data.List.Flatten
import FeynmanEngine.MessageRoundTrips
import FeynmanEngine.PendingScan
import FeynmanEngine.SoleConsumers
import FeynmanEngine.StreamLedgers

/-! The account of a topic. Next to the subscriptions, anyone may `claim` what is
stuck. Whatever calls fail and however they interleave, each published message is
unread by a group, pending in it or acknowledged; what is pending can be had again
as it was published, and what was acknowledged is never given out again. -/
namespace FeynmanEngine.MessageLedgers
open Ids Tables RedisStreams BusMessages BusDelivery MessageRoundTrips PendingScan SoleConsumers StreamLedgers Traces

section Accounts
variable [UtcMillis]

/-! ### Claims -/

/-- `claim`. Which ids have been idle for so many milliseconds is for the server to say. -/
def claim (ripe : Nat → MessageId → Bool) (failure : Option Failure) (redis : Redis) (topic group consumer : String)
    (minIdle : Nat) (msgIds : List MessageId) : Redis × Except BusError (List BusMessage) :=
  match msgIds with
  | [] => (redis, .ok [])
  | _ :: _ =>
    match durationMillis minIdle topic group with
    | .error error => (redis, .error error)
    | .ok minIdleMs =>
      match call failure redis (redis.xclaim topic group consumer (msgIds.filter (ripe minIdleMs))) with
      | (redis, .error error) => (redis, .error (.claimFailed topic group consumer error.toText))
      | (redis, .ok claimed) => (redis, decodeEntries topic claimed)

/-- A step of the bus, or a claim by anyone. -/
inductive Call where
  | act (action : Action)
  | claim (topic group consumer : String) (minIdle : Nat) (msgIds : List MessageId) (ripe : Nat → MessageId → Bool)
    (failure : Option Failure)

def Call.run (world : World) : Call → Option World
  | .act action => world.apply action
  | .claim topic group consumer minIdle msgIds ripe failure =>
    some ⟨(MessageLedgers.claim ripe failure world.redis topic group consumer minIdle msgIds).1, world.subscriptions⟩

/-- A call, and the worlds it was made in and led to. -/
structure Made where
  before : World
  call : Call
  after : World

def Moves (world : World) (made : Made) (next : World) : Prop :=
  made.before = world ∧ made.call.run world = some next ∧ made.after = next

/-! ### What reaches the server -/

/-- A command behind a call that may fail on the way. -/
def reaching (failure : Option Failure) (command : Command MessageId StreamFields String) :
    Command MessageId StreamFields String :=
  match failure with
  | none => command
  | some failure => if failure.acted then command else .nothing

/-- The command of a call that reaches the server. -/
def command (world : World) : Call → Command MessageId StreamFields String
  | .act (.publish topic payload now id failure) => reaching failure (.xadd topic id (publishedFields payload now))
  | .act (.subscribe name failure) => reaching failure (.xgroupCreate name.topic name.group)
  | .act (.claim name failure) => reaching failure (.xclaim name.topic name.group name.consumer (listed world name))
  | .act (.read name failure) => reaching failure (.xreadgroup name.topic name.group name.consumer streamReadCount)
  | .act (.ack topic group id failure) => reaching failure (.xack topic group id)
  | .act (.page ..) | .act (.send _) | .act (.receive _) => .nothing
  | .claim topic group consumer minIdle msgIds ripe failure =>
    match msgIds, durationMillis minIdle topic group with
    | _ :: _, .ok minIdleMs => reaching failure (.xclaim topic group consumer (msgIds.filter (ripe minIdleMs)))
    | _, _ => .nothing

omit [UtcMillis] in
/-- A call leaves the server as its command does, if that reaches it. -/
theorem run_reaching {Reply : Type} {command : Command MessageId StreamFields String} (failure : Option Failure)
    {redis : Redis} (ran : Redis × Except CommandError Reply) (run : command.run redis = some ran.1) :
    (reaching failure command).run redis = some (BusDelivery.call failure redis ran).1 := by
  unfold reaching BusDelivery.call
  cases failure with
  | none => exact run
  | some failure =>
    dsimp only
    split
    · exact run
    · rfl

omit [UtcMillis] in
theorem run_ensureGroup (failure : Option Failure) (redis : Redis) (topic group : String) :
    (reaching failure (.xgroupCreate topic group)).run redis = some (ensureGroup failure redis topic group).1 := by
  rw [run_reaching failure (redis.xgroupCreate topic group) rfl]
  unfold ensureGroup
  cases BusDelivery.call failure redis (redis.xgroupCreate topic group) with
  | mk server reply =>
    cases reply with
    | ok value => rfl
    | error error =>
      dsimp only
      split
      · rfl
      · split <;> rfl

omit [UtcMillis] in
theorem run_ack (failure : Option Failure) (redis : Redis) (topic group : String) (id : MessageId) :
    (reaching failure (.xack topic group id)).run redis = some (BusDelivery.ack failure redis topic group id).1 := by
  rw [run_reaching failure ((redis.xack topic group id).1, Except.ok (redis.xack topic group id).2) rfl]
  unfold BusDelivery.ack
  dsimp only
  cases BusDelivery.call failure redis ((redis.xack topic group id).1, .ok (redis.xack topic group id).2) with
  | mk server reply =>
    cases reply with
    | error error => rfl
    | ok count => cases count <;> rfl

omit [UtcMillis] in
theorem run_publish {failure : Option Failure} {id : MessageId}
    (published : publish failure redis topic payload now id = some result) :
    (reaching failure (.xadd topic id (publishedFields payload now))).run redis = some result.1 := by
  obtain ⟨added, put, rfl⟩ := Option.map_eq_some_iff.mp published
  have run : (Command.xadd topic id (publishedFields payload now)).run redis = some added := put
  rw [run_reaching failure (added, Except.ok id) run]
  cases BusDelivery.call failure redis (added, .ok id) with
  | mk server reply => cases reply <;> rfl

theorem run_claim (ripe : Nat → MessageId → Bool) (failure : Option Failure) (world : World)
    (topic group consumer : String) (minIdle : Nat) (msgIds : List MessageId) :
    (command world (.claim topic group consumer minIdle msgIds ripe failure)).run world.redis =
      some (MessageLedgers.claim ripe failure world.redis topic group consumer minIdle msgIds).1 := by
  unfold command MessageLedgers.claim
  cases msgIds with
  | nil => rfl
  | cons first rest =>
    dsimp only
    cases durationMillis minIdle topic group with
    | error error => rfl
    | ok minIdleMs =>
      dsimp only
      rw [run_reaching failure (world.redis.xclaim topic group consumer ((first :: rest).filter (ripe minIdleMs))) rfl]
      cases BusDelivery.call failure world.redis
        (world.redis.xclaim topic group consumer ((first :: rest).filter (ripe minIdleMs))) with
      | mk server reply => cases reply <;> rfl

/-- Each call changes the server by its command. -/
theorem run_command {call : Call} (ran : call.run world = some next) :
    (command world call).run world.redis = some next.redis := by
  cases call with
  | claim topic group consumer minIdle msgIds ripe failure =>
    cases ran
    exact run_claim ripe failure world topic group consumer minIdle msgIds
  | act action =>
    have applied : world.apply action = some next := ran
    cases action with
    | publish topic payload now id failure =>
      obtain ⟨published, put, rfl⟩ := Option.map_eq_some_iff.mp applied
      exact run_publish put
    | subscribe name failure =>
      unfold command
      rw [run_ensureGroup, ← (subscribe_cases failure world.redis name).1]
      have subscribed : world.subscribe failure name = some next := applied
      unfold World.subscribe at subscribed
      split at subscribed
      · cases subscribed
      · split at subscribed
        · next redis error opened =>
          cases subscribed
          rw [opened]
        · next redis subscription opened =>
          cases subscribed
          rw [opened]
    | page name failure =>
      obtain ⟨subscription, redis, after, -, paged, rfl⟩ := move_some applied
      unfold Subscription.page at paged
      split at paged
      · cases paged
        rcases call_server failure world.redis
          (world.redis, world.redis.xpending name.topic name.group _ pendingPageSize)
          with same | same <;> rw [same] <;> rfl
      · cases paged
    | claim name failure =>
      obtain ⟨subscription, redis, after, found, claimed, rfl⟩ := move_some applied
      unfold Subscription.claim at claimed
      split at claimed
      · next ids claiming =>
        cases claimed
        obtain rfl : listed world name = ids := by
          unfold listed
          rw [found, Option.map_some, claiming]
        exact run_reaching failure _ rfl
      · cases claimed
    | read name failure =>
      obtain ⟨subscription, redis, after, -, fetched, rfl⟩ := move_some applied
      unfold Subscription.read at fetched
      split at fetched
      · cases fetched
        exact run_reaching failure _ rfl
      · cases fetched
    | send name =>
      have moved : world.move name (fun redis subscription => (subscription.send name.topic).map fun sent =>
        (redis, sent)) = some next := applied
      obtain ⟨subscription, redis, after, -, changed, rfl⟩ := move_some moved
      obtain ⟨sent, -, same⟩ := Option.map_eq_some_iff.mp changed
      cases same
      rfl
    | receive name =>
      have moved : world.move name (fun redis subscription => subscription.receive.map fun taken =>
        (redis, taken)) = some next := applied
      obtain ⟨subscription, redis, after, -, changed, rfl⟩ := move_some moved
      obtain ⟨taken, -, same⟩ := Option.map_eq_some_iff.mp changed
      cases same
      rfl
    | ack topic group id failure =>
      cases applied
      exact run_ack failure world.redis topic group id

/-! ### The account of a run -/

/-- The entries that were added to a topic. -/
def published (topic : String) (history : List Made) : List (MessageId × StreamFields) :=
  history.flatMap fun made => (command made.before made.call).adds topic

/-- The ids that were acknowledged in a group, whether or not the acknowledgement was answered. -/
def acknowledged (topic group : String) (history : List Made) : List MessageId :=
  history.flatMap fun made => (command made.before made.call).acknowledges made.before.redis topic group

/-- The ids whose acknowledgement was answered with success. -/
def confirmed (topic group : String) (history : List Made) : List MessageId :=
  history.flatMap fun made =>
    match made.call with
    | .act (.ack other probe id failure) =>
      if topic = other ∧ group = probe ∧ (BusDelivery.ack failure made.before.redis other probe id).2.isOk then [id]
      else []
    | _ => []

/-- The ids a call gives out to a consumer of a group. -/
def givenOut (topic group : String) (made : Made) : List MessageId :=
  match made.call with
  | .act (.claim name _) | .act (.read name _) =>
    if topic = name.topic ∧ group = name.group then
      match made.after.subscriptions.lookup name with
      | some subscription => toSend subscription.phase
      | none => []
    else []
  | .claim other probe consumer minIdle msgIds ripe failure =>
    if topic = other ∧ group = probe then
      match (MessageLedgers.claim ripe failure made.before.redis other probe consumer minIdle msgIds).2 with
      | .ok messages => messages.map BusMessage.id
      | .error _ => []
    else []
  | _ => []

/-- The server holds what was published and accounts for it in every group. -/
structure Ledger (history : List Made) (world : World) : Prop where
  entries : ∀ topic, (world.redis.stream topic).entries = published topic history
  accounted : ∀ topic group, Accounted world.redis topic group (acknowledged topic group history)

omit [UtcMillis] in
theorem Ledger.start : Ledger [] (.start emptyRedis) := ⟨fun _ => rfl, fun _ _ => .start⟩

theorem Ledger.step (ledger : Ledger history world) (moves : Moves world made next) :
    Ledger (history ++ [made]) next := by
  obtain ⟨rfl, ran, -⟩ := moves
  have reached := run_command ran
  refine ⟨fun topic => ?_, fun topic group => ?_⟩
  · rw [Command.entries_run reached, ledger.entries, published, published, List.flatMap_append, List.flatMap_singleton]
  · rw [acknowledged, List.flatMap_append, List.flatMap_singleton]
    exact (ledger.accounted topic group).run reached

theorem ledger_of_run (path : Path Moves (.start emptyRedis) history world) : Ledger history world :=
  path.invariant .start fun _ _ _ _ ledger moves => ledger.step moves

/-! ### What is given out -/

/-- A claim answered with messages went through. -/
theorem claim_ok {ripe : Nat → MessageId → Bool} {failure : Option Failure} {consumer : String}
    {msgIds : List MessageId} (answered : (claim ripe failure redis topic group consumer minIdle msgIds).2 = .ok messages) :
    messages = [] ∨ ∃ ids claimed, (redis.xclaim topic group consumer ids).2 = .ok claimed ∧
      decodeEntries topic claimed = .ok messages := by
  unfold claim at answered
  cases msgIds with
  | nil =>
    cases answered
    exact Or.inl rfl
  | cons first rest =>
    dsimp only at answered
    cases fits : durationMillis minIdle topic group with
    | error error =>
      rw [fits] at answered
      cases answered
    | ok minIdleMs =>
      rw [fits] at answered
      dsimp only at answered
      cases replied : BusDelivery.call failure redis
          (redis.xclaim topic group consumer ((first :: rest).filter (ripe minIdleMs))) with
      | mk server reply =>
        rw [replied] at answered
        cases reply with
        | error error => cases answered
        | ok claimed =>
          obtain ⟨-, through, -⟩ := call_ok (congrArg Prod.snd replied)
          exact Or.inr ⟨_, claimed, through, answered⟩

omit [UtcMillis] in
/-- An acknowledgement answered with success found its message pending. -/
theorem pending_of_ack {failure : Option Failure} {id : MessageId}
    (answered : (BusDelivery.ack failure redis topic group id).2.isOk = true) :
    failure = none ∧ id ∈ redis.pendingIds topic group := by
  unfold BusDelivery.ack at answered
  dsimp only at answered
  cases replied : BusDelivery.call failure redis ((redis.xack topic group id).1, .ok (redis.xack topic group id).2) with
  | mk server reply =>
    rw [replied] at answered
    cases reply with
    | error error => cases answered
    | ok count =>
      obtain ⟨through, same, -⟩ := call_ok (congrArg Prod.snd replied)
      refine ⟨through, pending_of_xack fun none => ?_⟩
      rw [Except.ok.inj same] at none
      rw [none] at answered
      cases answered

/-- What a step gives out was added to the topic before and is not acknowledged. -/
theorem Ledger.givenOut (ledger : Ledger history world) (moves : Moves world made next) {id : MessageId}
    (member : id ∈ givenOut topic group made) :
    id ∈ (published topic history).map Prod.fst ∧ id ∉ acknowledged topic group history := by
  obtain ⟨rfl, ran, rfl⟩ := moves
  have accounted := ledger.accounted topic group
  rw [← ledger.entries]
  unfold MessageLedgers.givenOut at member
  split at member
  · next name failure claiming =>
    split at member
    · next same =>
      obtain ⟨rfl, rfl⟩ := same
      rw [claiming] at ran
      obtain ⟨subscription, redis, after, found, claimed, moved⟩ := move_some ran
      rw [moved, lookup_insert_if, if_pos rfl] at member
      unfold Subscription.claim at claimed
      split at claimed
      · cases claimed
        dsimp only at member
        rw [phase_enter] at member
        obtain ⟨entries, answered, listed⟩ := toSend_onClaimed _ _ id member
        obtain ⟨entry, taken, rfl⟩ := List.mem_map.mp listed
        obtain ⟨-, replied, -⟩ := call_ok answered
        exact accounted.of_pending (pendingIds_of_claimable (Server.claimed_of_xclaim replied taken).1)
      · cases claimed
    · cases member
  · next name failure reading =>
    split at member
    · next same =>
      obtain ⟨rfl, rfl⟩ := same
      rw [reading] at ran
      obtain ⟨subscription, redis, after, found, fetched, moved⟩ := move_some ran
      rw [moved, lookup_insert_if, if_pos rfl] at member
      unfold Subscription.read at fetched
      split at fetched
      · cases fetched
        dsimp only at member
        rw [phase_enter] at member
        obtain ⟨entries, answered, listed⟩ := toSend_onRead _ id member
        obtain ⟨entry, taken, rfl⟩ := List.mem_map.mp listed
        obtain ⟨-, replied, -⟩ := call_ok answered
        exact accounted.of_read replied taken
      · cases fetched
    · cases member
  · next other probe consumer minIdle msgIds ripe failure claiming =>
    split at member
    · next same =>
      obtain ⟨rfl, rfl⟩ := same
      split at member
      · next messages answered =>
        rcases claim_ok answered with rfl | ⟨ids, claimed, replied, decoded⟩
        · cases member
        · rw [decodeEntries_ids decoded] at member
          obtain ⟨entry, taken, rfl⟩ := List.mem_map.mp member
          exact accounted.of_pending (pendingIds_of_claimable (Server.claimed_of_xclaim replied taken).1)
      · cases member
    · cases member
  · cases member

/-! ### As it was published -/

/-- A publication at an instant that chrono has, or another call. -/
def InRange : Call → Prop
  | .act (.publish _ _ now _ _) => InUtcRange now
  | _ => True

instance (call : Call) : Decidable (InRange call) :=
  match call with
  | .act (.publish _ _ now _ _) => inferInstanceAs (Decidable (InUtcRange now))
  | .act (.subscribe ..) | .act (.page ..) | .act (.claim ..) | .act (.read ..) | .act (.send _) | .act (.receive _)
  | .act (.ack ..) | .claim .. => isTrue trivial

/-- Every message was published at an instant that chrono has. -/
def Dated (history : List Made) : Prop := ∀ made ∈ history, InRange made.call

instance (history : List Made) : Decidable (Dated history) :=
  inferInstanceAs (Decidable (∀ made ∈ history, InRange made.call))

/-- A message of the topic with the payload and the milliseconds that were published under its id. -/
def AsPublished (topic : String) (history : List Made) (message : BusMessage) : Prop :=
  message.topic = topic ∧ ∃ now, (message.id, publishedFields message.payload now) ∈ published topic history ∧
    message.publishedAt.timestampMillis = now.timestampMillis

/-- What `publish` writes, read back field by field. -/
theorem streamEntryToMessage_published [DocumentedMillis] (topic : String) (id : MessageId) (payload : List UInt8)
    (range : InUtcRange now) : streamEntryToMessage topic id (publishedFields payload now) =
      .ok ⟨id, topic, payload, ⟨now.timestampMillis * 1000000⟩⟩ := by
  obtain ⟨low, high, whole⟩ := millis_inRange range
  unfold streamEntryToMessage publishedAtFromFields requiredField
  simp only [lookup_payload, lookup_publishedAt, bind, Except.bind, parseI64_toString low high,
    DocumentedMillis.inRange _ whole, HexPayloads.decodeHex_encodeHex]

omit [UtcMillis] in
theorem adds_reaching {failure : Option Failure} {command : Command MessageId StreamFields String}
    (member : entry ∈ (reaching failure command).adds topic) : entry ∈ command.adds topic := by
  unfold reaching at member
  split at member
  · exact member
  · split at member
    · exact member
    · cases member

omit [UtcMillis] in
/-- An entry of a topic was published. -/
theorem published_fields {entry : MessageId × StreamFields} (member : entry ∈ published topic history)
    (dated : Dated history) : ∃ payload now, entry.2 = publishedFields payload now ∧ InUtcRange now := by
  obtain ⟨⟨before, call, after⟩, listed, added⟩ := List.mem_flatMap.mp member
  have range := dated _ listed
  dsimp only at added range
  unfold command at added
  split at added
  · next other payload now id failure =>
    have stored := adds_reaching added
    unfold Command.adds at stored
    dsimp only at stored
    split at stored
    · rw [List.mem_singleton.mp stored]
      exact ⟨payload, now, rfl, range⟩
    · cases stored
  · cases adds_reaching added
  · cases adds_reaching added
  · cases adds_reaching added
  · cases adds_reaching added
  · cases added
  · cases added
  · cases added
  · split at added
    · cases adds_reaching added
    · cases added

theorem decodeEntries_published [DocumentedMillis] {history : List Made} (dated : Dated history)
    {entries : List (MessageId × StreamFields)} (stored : ∀ entry ∈ entries, entry ∈ published topic history) :
    ∃ messages, decodeEntries topic entries = .ok messages ∧ messages.map BusMessage.id = entries.map Prod.fst ∧
      ∀ message ∈ messages, AsPublished topic history message := by
  induction entries with
  | nil => exact ⟨[], rfl, rfl, List.forall_mem_nil _⟩
  | cons entry rest ih =>
    obtain ⟨id, fields⟩ := entry
    have present := stored _ List.mem_cons_self
    obtain ⟨payload, now, shape, range⟩ := published_fields present dated
    obtain rfl : fields = publishedFields payload now := shape
    obtain ⟨messages, decoded, ids, faithful⟩ := ih fun later member => stored later (List.mem_cons_of_mem _ member)
    have first := streamEntryToMessage_published topic id payload range
    have instant : (⟨now.timestampMillis * 1000000⟩ : DateTime).timestampMillis = now.timestampMillis :=
      Int.mul_ediv_cancel _ (by decide)
    refine ⟨⟨id, topic, payload, ⟨now.timestampMillis * 1000000⟩⟩ :: messages, ?_, ?_, ?_⟩
    · rw [decodeEntries, first, decoded]
      rfl
    · rw [List.map_cons, List.map_cons, ids]
    · intro message member
      rcases List.mem_cons.mp member with rfl | later
      · exact ⟨rfl, now, present, instant⟩
      · exact faithful message later

/-- A claim that goes through is answered by the ids that are pending and idle
long enough, in the order asked for and as they were published. -/
theorem Ledger.claim [DocumentedMillis] (ledger : Ledger history world) (dated : Dated history)
    (standing : world.redis.group topic group ≠ none) (fits : durationMillis minIdle topic group = .ok minIdleMs)
    (consumer : String) (msgIds : List MessageId) (ripe : Nat → MessageId → Bool) :
    ∃ messages, (MessageLedgers.claim ripe none world.redis topic group consumer minIdle msgIds).2 = .ok messages ∧
      messages.map BusMessage.id =
        msgIds.filter (fun id => id ∈ world.redis.pendingIds topic group ∧ ripe minIdleMs id) ∧
      ∀ message ∈ messages, AsPublished topic history message := by
  cases msgIds with
  | nil => exact ⟨[], rfl, rfl, List.forall_mem_nil _⟩
  | cons first rest =>
    obtain ⟨held, found⟩ := Option.ne_none_iff_exists'.mp standing
    obtain ⟨ids, stored⟩ := (ledger.accounted topic group).claimed found ((first :: rest).filter (ripe minIdleMs))
    obtain ⟨messages, decoded, same, faithful⟩ := decodeEntries_published dated fun entry member =>
      ledger.entries topic ▸ stored entry member
    refine ⟨messages, ?_, ?_, faithful⟩
    · unfold MessageLedgers.claim Server.xclaim
      rw [fits, found]
      exact decoded
    · rw [same, ids, List.filter_filter]
      refine List.filter_congr fun id _ => ?_
      rw [Bool.eq_iff_iff]
      simp only [Bool.and_eq_true, decide_eq_true_eq]

/-! ### The balance -/

/-- Where each message of a topic stands in a group, and what was said and given out about it. -/
structure Balanced (topic group : String) (history : List Made) (world : World) : Prop where
  ascending : (published topic history).Pairwise fun earlier later => earlier.1 < later.1
  once : (acknowledged topic group history).Nodup
  unread : ∀ id ∈ (published topic history).map Prod.fst, world.redis.frontier topic group < id →
    id ∉ world.redis.pendingIds topic group ∧ id ∉ acknowledged topic group history
  read : ∀ id ∈ (published topic history).map Prod.fst, id ≤ world.redis.frontier topic group →
    (id ∈ world.redis.pendingIds topic group ↔ id ∉ acknowledged topic group history)
  nothingElse : ∀ id, id ∈ world.redis.pendingIds topic group ∨ id ∈ acknowledged topic group history →
    id ∈ (published topic history).map Prod.fst
  answered : (confirmed topic group history).Sublist (acknowledged topic group history)

omit [UtcMillis] in
theorem Ledger.balanced (ledger : Ledger history world) (topic group : String) :
    Balanced topic group history world := by
  have accounted := ledger.accounted topic group
  have ids : entryIds world.redis topic = (published topic history).map Prod.fst := by
    rw [entryIds, ledger.entries]
  refine ⟨?_, accounted.once, fun id _ beyond => ⟨fun held => ?_, fun member => ?_⟩, fun id member given => ?_,
    fun id placed => ?_, ?_⟩
  · rw [← ledger.entries]
    exact (world.redis.stream topic).increasing
  · exact absurd (Server.le_of_pendingIds held) (not_le.mpr beyond)
  · exact absurd (accounted.behind member) (not_le.mpr beyond)
  · refine ⟨fun held member => accounted.apart id member held, fun free => ?_⟩
    rw [← ids] at member
    exact ((accounted.settled id).mp ⟨member, given⟩).resolve_right free
  · rw [← ids]
    exact ((accounted.settled id).mpr placed).1
  · refine List.Sublist.flatMap_right history fun made _ => ?_
    split
    · next other probe id failure acking =>
      rw [acking]
      split
      · next told =>
        obtain ⟨rfl, rfl, told⟩ := told
        obtain ⟨rfl, held⟩ := pending_of_ack told
        have taken : (Command.xack topic group id : Command MessageId StreamFields String).acknowledges
            made.before.redis topic group = [id] := (if_pos ⟨rfl, rfl⟩).trans (claimable_of_pending held)
        change [id].Sublist (Command.acknowledges made.before.redis topic group (Command.xack topic group id))
        rw [taken]
      · exact List.nil_sublist _
    · exact List.nil_sublist _

/-- Wherever a run stands, whatever calls failed on the way: every message is
unread, pending or acknowledged in each group, and only one of them; no message is
acknowledged twice, or given out once it was; and a claim gives back what is
pending as it was published. -/
theorem messages_accounted [DocumentedMillis] (path : Path Moves (.start emptyRedis) history world)
    (dated : Dated history) (topic group : String) :
    Balanced topic group history world ∧
    (∀ before made after, history = before ++ made :: after → ∀ id ∈ givenOut topic group made,
      id ∈ (published topic before).map Prod.fst ∧ id ∉ acknowledged topic group before) ∧
    (world.redis.group topic group ≠ none → ∀ minIdle minIdleMs, durationMillis minIdle topic group = .ok minIdleMs →
      ∀ consumer msgIds ripe, ∃ messages,
        (claim ripe none world.redis topic group consumer minIdle msgIds).2 = .ok messages ∧
        messages.map BusMessage.id =
          msgIds.filter (fun id => id ∈ world.redis.pendingIds topic group ∧ ripe minIdleMs id) ∧
        ∀ message ∈ messages, AsPublished topic history message) := by
  have ledger := ledger_of_run path
  refine ⟨ledger.balanced topic group, fun before made after split id member => ?_, fun standing minIdle minIdleMs fits
    consumer msgIds ripe => ledger.claim dated standing fits consumer msgIds ripe⟩
  rw [split] at path
  obtain ⟨state, next, past, moves, -⟩ := path.at_label
  exact (ledger_of_run past).givenOut moves member

/-! ### Groups -/

/-- The group a call may create. -/
def subscribedBy : Call → Option (String × String)
  | .act (.subscribe name _) => some (name.topic, name.group)
  | _ => none

omit [UtcMillis] in
theorem reaching_ne_create {failure : Option Failure} {command : Command MessageId StreamFields String}
    (apart : command ≠ .xgroupCreate topic group) : reaching failure command ≠ .xgroupCreate topic group := by
  unfold reaching
  split
  · exact apart
  · split
    · exact apart
    · exact fun same => by cases same

omit [UtcMillis] in
/-- Only a subscription creates a group. -/
theorem command_ne_create {call : Call} (world : World) (other : subscribedBy call ≠ some (topic, group)) :
    command world call ≠ .xgroupCreate topic group := by
  cases call with
  | act action =>
    cases action with
    | subscribe name failure =>
      refine reaching_ne_create fun same => other ?_
      cases same
      rfl
    | publish topic payload now id failure => exact reaching_ne_create fun same => by cases same
    | claim name failure => exact reaching_ne_create fun same => by cases same
    | read name failure => exact reaching_ne_create fun same => by cases same
    | ack topic group id failure => exact reaching_ne_create fun same => by cases same
    | page name failure => exact fun same => by cases same
    | send name => exact fun same => by cases same
    | receive name => exact fun same => by cases same
  | claim topic group consumer minIdle msgIds ripe failure =>
    simp only [command]
    split
    · exact reaching_ne_create fun same => by cases same
    · exact fun same => by cases same

/-- A group has been subscribed to. -/
theorem subscribed_of_group (path : Path Moves (.start emptyRedis) history world)
    (held : world.redis.group topic group ≠ none) :
    (topic, group) ∈ history.filterMap fun made => subscribedBy made.call := by
  induction path with
  | start => exact absurd rfl held
  | @step history middle made world path moves ih =>
    obtain ⟨rfl, ran, -⟩ := moves
    rw [List.filterMap_append, List.mem_append]
    by_cases here : subscribedBy made.call = some (topic, group)
    · exact Or.inr (List.mem_filterMap.mpr ⟨made, List.mem_singleton.mpr rfl, here⟩)
    · refine Or.inl (ih fun fresh => held ?_)
      exact Command.group_run_of_none (run_command ran) fresh (command_ne_create _ here)

/-! ### Runs that can be computed -/

/-- A call, as it was made. -/
def make (world : World) (call : Call) : Option (Made × World) :=
  (call.run world).map fun next => (⟨world, call, next⟩, next)

theorem moves_of_make (world : World) (call : Call) (made : Made) (next : World)
    (ran : make world call = some (made, next)) : Moves world made next := by
  obtain ⟨after, run, same⟩ := Option.map_eq_some_iff.mp ran
  cases same
  exact ⟨rfl, run, rfl⟩

/-- Some calls one after the other, as they were made. -/
def makeAll : World → List Call → Option (List Made × World) := follow make

theorem path_of_makeAll (ran : makeAll world calls = some (history, last)) : Path Moves world history last :=
  .of_follow moves_of_make ran

end Accounts

section Stuck
open WholeMillis

/-- A read whose reply is lost; the message is claimed and acknowledged, and a second one stays unread. -/
def stuck : List Call :=
  replyLost.map .act ++
    [.claim "fills" "risk_gate" "recovery" 0 [⟨1, 0⟩] (fun _ _ => true) none,
      .act (.ack "fills" "risk_gate" ⟨1, 0⟩ none), .act (.publish "fills" [7] ⟨0⟩ ⟨2, 0⟩ none)]

/-- The message whose reading failed was given out by the claim, and is settled. -/
theorem messages_accounted_stuck : ∃ history world,
    history.flatMap (givenOut "fills" "risk_gate") = [⟨1, 0⟩] ∧
    (published "fills" history).map Prod.fst = [⟨1, 0⟩, ⟨2, 0⟩] ∧
    confirmed "fills" "risk_gate" history = [⟨1, 0⟩] ∧ Balanced "fills" "risk_gate" history world := by
  have ran : (makeAll (.start emptyRedis) stuck).map (fun made : List Made × World =>
      (made.1.flatMap (givenOut "fills" "risk_gate"), (published "fills" made.1).map Prod.fst,
        confirmed "fills" "risk_gate" made.1, decide (Dated made.1))) =
      some ([⟨1, 0⟩], [⟨1, 0⟩, ⟨2, 0⟩], [⟨1, 0⟩], true) := by
    decide +kernel
  obtain ⟨⟨history, world⟩, reached, seen⟩ := Option.map_eq_some_iff.mp ran
  obtain ⟨given, added, told, dated⟩ : _ ∧ _ ∧ _ ∧ _ := by simpa only [Prod.mk.injEq] using seen
  have documented : DocumentedMillis := ⟨fun _ _ => rfl⟩
  exact ⟨history, world, given, added, told,
    (messages_accounted (path_of_makeAll reached) (of_decide_eq_true dated) "fills" "risk_gate").1⟩

end Stuck

end FeynmanEngine.MessageLedgers
