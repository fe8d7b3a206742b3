import FeynmanEngine.Inquiries
import FeynmanEngine.MessageLedgers

/-! `topic_info`, read in four calls while the bus goes on. Each part of the report
holds of the topic at the moment of its own call, and the moments come in order: so
the parts need not fit each other exactly, but nothing is reported that never was. -/
namespace FeynmanEngine.TopicReports
open Ids Tables TextFields RedisStreams BusMessages BusDelivery MessageRoundTrips StreamLedgers MessageLedgers Traces
open SoleConsumers (emptyRedis)
open Inquiries (Event others others_append path_of_others)

/-! ### Replies -/

/-- `RedisValue`. Of a floating-point number only its text is of interest. -/
inductive RedisValue where
  | string (inner : String)
  | bytes (inner : List UInt8)
  | integer (inner : Int)
  | double (printed : String)
  | boolean (inner : Bool)
  | other

def valueAsString : Option RedisValue → Option String
  | some (.string inner) => some inner
  | some (.bytes inner) => String.fromUTF8? ⟨inner.toArray⟩
  | some (.integer inner) => some (toString inner)
  | some (.double printed) => some printed
  | some (.boolean inner) => some (toString inner)
  | some .other | none => none

def valueAsU64 : Option RedisValue → Option Nat
  | some (.integer inner) => if 0 ≤ inner then some inner.toNat else none
  | some (.string inner) => parseUnsigned u64Limit inner.toList
  | some (.bytes inner) => (String.fromUTF8? ⟨inner.toArray⟩).bind fun text => parseUnsigned u64Limit text.toList
  | some (.double _) | some (.boolean _) | some .other | none => none

/-- The errors of `topic_info`: those it shares with messages, and its own. -/
inductive InfoError where
  | bus (error : BusError)
  | topicInfoFailed (topic reason : String)
  deriving DecidableEq

/-- Metadata about a consumer group; the last id is kept as text. -/
structure ConsumerGroupInfo where
  name : String
  consumers : Nat
  pending : Nat
  lastDelivered : Option String
  deriving DecidableEq

/-- Metadata about a topic. -/
structure TopicInfo where
  length : Nat
  consumerGroups : List ConsumerGroupInfo
  oldestMessage : Option DateTime
  newestMessage : Option DateTime
  deriving DecidableEq

/-- `u32::MAX`. -/
def u32Max : Nat := 2 ^ 32 - 1

def consumerGroupFromValueMap (topic : String) (values : Table String RedisValue) :
    Except InfoError ConsumerGroupInfo :=
  match valueAsString (values.lookup "name") with
  | none => .error (.topicInfoFailed topic "xinfo_groups missing name field")
  | some name =>
    match valueAsU64 (values.lookup "consumers") with
    | none => .error (.topicInfoFailed topic ("xinfo_groups missing consumers field for group " ++ name))
    | some consumers =>
      match valueAsU64 (values.lookup "pending") with
      | none => .error (.topicInfoFailed topic "xinfo_groups missing pending field")
      | some pending =>
        if consumers ≤ u32Max then
          .ok ⟨name, consumers, pending, valueAsString (values.lookup "last-delivered-id")⟩
        else .error (.topicInfoFailed topic
          "consumer count exceeds u32 range: out of range integral type conversion attempted")

/-- The groups of a reply, up to the first that is refused. -/
def consumerGroups (topic : String) : List (Table String RedisValue) → Except InfoError (List ConsumerGroupInfo)
  | [] => .ok []
  | values :: rest =>
    match consumerGroupFromValueMap topic values with
    | .error error => .error error
    | .ok info => (consumerGroups topic rest).map (info :: ·)

def mapTopicInfoError (topic : String) (error : RedisError) : InfoError :=
  if isNoSuchKeyError error then .bus (.topicNotFound topic) else .topicInfoFailed topic error.toText

/-! ### The server's answers -/

/-- The id of a group that was given nothing is `0-0`. -/
def lastText : WithBot MessageId → String
  | none => "0-0"
  | some id => id.toText

/-- A group as `XINFO GROUPS` shows it: its name, how many consumers it has, how
many entries are pending in it and the last id it was given. -/
structure Shows (values : Table String RedisValue) (name : String) (group : ConsumerGroup MessageId String) : Prop where
  name : valueAsString (values.lookup "name") = some name
  consumers : ∃ consumers, valueAsU64 (values.lookup "consumers") = some consumers
  pending : valueAsU64 (values.lookup "pending") = some group.pending.length
  last : valueAsString (values.lookup "last-delivered-id") = some (lastText group.lastDelivered)

/-- What `XINFO GROUPS` documents: without the stream there is no such key;
else every group of it is shown once, in some order. -/
def Lists (shown : Except RedisError (List (Table String RedisValue))) (redis : Redis) (topic : String) : Prop :=
  match redis topic with
  | none => ∃ error, shown = .error error ∧ isNoSuchKeyError error = true
  | some stream => ∃ values names, shown = .ok values ∧ names.Nodup ∧
      (∀ name, name ∈ names ↔ stream.groups name ≠ none) ∧
      List.Forall₂ (fun values name => ∃ group, stream.groups name = some group ∧ Shows values name group) values names

/-- An answer that arrives or does not. -/
def reply {Answer : Type} (failure : Option Failure) (answer : Except RedisError Answer) : Except RedisError Answer :=
  match failure with
  | none => answer
  | some failure => .error failure.error

section Calls
variable [UtcMillis]

/-! ### The call -/

/-- Where a call stands: before each of its four commands, or at its end. -/
inductive Inquiry where
  | measuring
  | listing (length : Nat)
  | oldest (length : Nat) (groups : List ConsumerGroupInfo)
  | newest (length : Nat) (groups : List ConsumerGroupInfo) (oldestMessage : Option DateTime)
  | answered (result : Except InfoError TopicInfo)

/-- The server's reply to `XINFO GROUPS`, should the turn ask for it, and whether the call arrives. -/
structure Turn where
  groups : Except RedisError (List (Table String RedisValue))
  failure : Option Failure

def afterLength (topic : String) : Except RedisError Nat → Inquiry
  | .error error => .answered (.error (mapTopicInfoError topic error))
  | .ok length => .listing length

def afterGroups (topic : String) (length : Nat) : Except RedisError (List (Table String RedisValue)) → Inquiry
  | .error error => .answered (.error (mapTopicInfoError topic error))
  | .ok values =>
    match consumerGroups topic values with
    | .error error => .answered (.error error)
    | .ok groups => .oldest length groups

/-- The publication of the one entry of a reply, if it has one. -/
def publishedAtOf (topic : String) (next : Option DateTime → Inquiry) :
    Except RedisError (Option (MessageId × StreamFields)) → Inquiry
  | .error error => .answered (.error (mapTopicInfoError topic error))
  | .ok none => next none
  | .ok (some entry) =>
    match publishedAtFromFields topic none entry.2 with
    | .error error => .answered (.error (.bus error))
    | .ok publishedAt => next (some publishedAt)

/-- The next command of `topic_info`. -/
def Inquiry.turn (turn : Turn) (redis : Redis) (topic : String) : Inquiry → Option Inquiry
  | .measuring => some (afterLength topic (reply turn.failure (.ok (redis.stream topic).entries.length)))
  | .listing length => some (afterGroups topic length (reply turn.failure turn.groups))
  | .oldest length groups =>
    some (publishedAtOf topic (.newest length groups) (reply turn.failure (.ok (redis.stream topic).entries.head?)))
  | .newest length groups oldestMessage =>
    some (publishedAtOf topic (fun newestMessage => .answered (.ok ⟨length, groups, oldestMessage, newestMessage⟩))
      (reply turn.failure (.ok (redis.stream topic).entries.getLast?)))
  | .answered _ => none

/-! ### Among other calls -/

abbrev Asking := Inquiries.Asking World Inquiry

/-- A turn of the call; asked for its groups, the server lists them. -/
def Turns (topic : String) (world : World) (inquiry : Inquiry) (turn : Turn) (next : Inquiry) : Prop :=
  inquiry.turn turn world.redis topic = some next ∧
    ((∃ length, inquiry = .listing length) → Lists turn.groups world.redis topic)

/-- The call among the calls of others. -/
abbrev Proceeds (topic : String) : Asking → Event Made Turn → Asking → Prop := Inquiries.Proceeds Moves (Turns topic)

/-! ### The groups -/

/-- A group has so many consumers as can be counted. -/
def Countable (values : Table String RedisValue) : Prop :=
  ∀ consumers, valueAsU64 (values.lookup "consumers") = some consumers → consumers ≤ u32Max

/-- What is reported of a group. -/
structure Tells (info : ConsumerGroupInfo) (name : String) (group : ConsumerGroup MessageId String) : Prop where
  name : info.name = name
  pending : info.pending = group.pending.length
  last : info.lastDelivered = some (lastText group.lastDelivered)

section Groups
variable {values : Table String RedisValue} {group : ConsumerGroup MessageId String}
omit [UtcMillis]

/-- A group is read as the server shows it. -/
theorem tells_of_shows (shows : Shows values name group)
    (read : consumerGroupFromValueMap topic values = .ok info) : Tells info name group := by
  obtain ⟨consumers, counted⟩ := shows.consumers
  simp only [consumerGroupFromValueMap, shows.name, counted, shows.pending, shows.last] at read
  split at read
  · cases read
    exact ⟨rfl, rfl, rfl⟩
  · cases read

/-- Only too many consumers keep a group from being read. -/
theorem read_of_shows (topic : String) (shows : Shows values name group) (countable : Countable values) :
    ∃ info, consumerGroupFromValueMap topic values = .ok info := by
  obtain ⟨consumers, counted⟩ := shows.consumers
  simp only [consumerGroupFromValueMap, shows.name, counted, shows.pending, shows.last,
    if_pos (countable consumers counted)]
  exact ⟨_, rfl⟩

variable {groups : String → Option (ConsumerGroup MessageId String)} {shown : List (Table String RedisValue)}

/-- Groups that are all read are reported one by one. -/
theorem consumerGroups_ok {names : List String}
    (shows : List.Forall₂ (fun values name => ∃ group, groups name = some group ∧ Shows values name group) shown names)
    (read : consumerGroups topic shown = .ok infos) :
    List.Forall₂ (fun info name => ∃ group, groups name = some group ∧ Tells info name group) infos names := by
  induction shows generalizing infos with
  | nil =>
    cases read
    exact .nil
  | @cons values name shown names first rest ih =>
    obtain ⟨group, held, shows⟩ := first
    unfold consumerGroups at read
    cases own : consumerGroupFromValueMap topic values with
    | error error =>
      rw [own] at read
      cases read
    | ok info =>
      rw [own] at read
      cases more : consumerGroups topic shown with
      | error error =>
        rw [more] at read
        cases read
      | ok later =>
        rw [more] at read
        cases read
        exact .cons ⟨group, held, tells_of_shows shows own⟩ (ih more)

theorem consumerGroups_fits {names : List String}
    (shows : List.Forall₂ (fun values name => ∃ group, groups name = some group ∧ Shows values name group) shown names)
    (countable : ∀ values ∈ shown, Countable values) : ∃ infos, consumerGroups topic shown = .ok infos := by
  induction shows with
  | nil => exact ⟨[], rfl⟩
  | @cons values name shown names first rest ih =>
    obtain ⟨group, -, shows⟩ := first
    obtain ⟨info, own⟩ := read_of_shows topic shows (countable values List.mem_cons_self)
    obtain ⟨infos, read⟩ := ih fun later member => countable later (List.mem_cons_of_mem _ member)
    rw [consumerGroups, own, read]
    exact ⟨_, rfl⟩

/-- The reported groups bear the names they were listed under. -/
theorem names_of_tells {names : List String}
    (tells : List.Forall₂ (fun info name => ∃ group, groups name = some group ∧ Tells info name group) infos names) :
    infos.map ConsumerGroupInfo.name = names ∧
      ∀ info ∈ infos, ∃ group, groups info.name = some group ∧ Tells info info.name group := by
  induction tells with
  | nil => exact ⟨rfl, List.forall_mem_nil _⟩
  | @cons info name infos names first rest ih =>
    obtain ⟨group, held, told⟩ := first
    obtain rfl := told.name
    exact ⟨congrArg (info.name :: ·) ih.1, List.forall_mem_cons.mpr ⟨⟨group, held, told⟩, ih.2⟩⟩

end Groups

/-! ### What is reported -/

/-- Something held of the topic at a moment of the call. -/
def SeenAt (topic : String) (history : List Made) (start : Asking) (events : List (Event Made Turn))
    (holds : List Made → World → Prop) : Prop :=
  ∃ earlier later state, events = earlier ++ later ∧ Path (Proceeds topic) start earlier state ∧
    holds (history ++ others earlier) state.world

/-- Every group once, with what is pending in it and how far it has been given. -/
structure Described (topic : String) (groups : List ConsumerGroupInfo) (history : List Made) (world : World) :
    Prop where
  once : (groups.map ConsumerGroupInfo.name).Nodup
  all : ∀ name, name ∈ groups.map ConsumerGroupInfo.name ↔ world.redis.group topic name ≠ none
  pending : ∀ info ∈ groups, info.pending = (world.redis.pendingIds topic info.name).length
  given : ∀ info ∈ groups, info.pending + (acknowledged topic info.name history).length =
    (((published topic history).map Prod.fst).filter fun id : MessageId =>
      id ≤ world.redis.frontier topic info.name).length
  last : ∀ info ∈ groups, info.lastDelivered = some (lastText (world.redis.frontier topic info.name))

/-- The milliseconds at which an entry was published, if there is one. -/
def DatedAs : Option (MessageId × StreamFields) → Option DateTime → Prop
  | some entry, some publishedAt => ∃ payload now, entry.2 = publishedFields payload now ∧
      publishedAt.timestampMillis = now.timestampMillis
  | none, none => True
  | _, _ => False

/-- There were so many messages. -/
def Measured (topic : String) (length : Nat) (history : List Made) (_ : World) : Prop :=
  length = (published topic history).length

/-- The first message was published then, if there was one. -/
def Oldest (topic : String) (publishedAt : Option DateTime) (history : List Made) (_ : World) : Prop :=
  DatedAs (published topic history).head? publishedAt

/-- The last message was published then, if there was one. -/
def Newest (topic : String) (publishedAt : Option DateTime) (history : List Made) (_ : World) : Prop :=
  DatedAs (published topic history).getLast? publishedAt

/-- Each part of a report held at a moment of the call. -/
structure Reported (topic : String) (history : List Made) (start : Asking) (events : List (Event Made Turn))
    (info : TopicInfo) : Prop where
  length : SeenAt topic history start events (Measured topic info.length)
  groups : SeenAt topic history start events (Described topic info.consumerGroups)
  oldest : SeenAt topic history start events (Oldest topic info.oldestMessage)
  newest : SeenAt topic history start events (Newest topic info.newestMessage)
  someOldest : 0 < info.length → info.oldestMessage ≠ none
  someNewest : info.oldestMessage ≠ none → info.newestMessage ≠ none

/-- A turn that arrives, with as many consumers in each group as can be counted. -/
def Smooth (turn : Turn) : Prop :=
  turn.failure = none ∧ ∀ shown, turn.groups = .ok shown → ∀ values ∈ shown, Countable values

/-- The topic did not exist at a moment of the call. -/
def Missing (topic : String) (history : List Made) (world : World) : Prop :=
  world.redis topic = none ∧ published topic history = []

/-- How a call stands with what it has read. -/
def Stands (topic : String) (history : List Made) (start : Asking) (events : List (Event Made Turn)) : Inquiry → Prop
  | .measuring => True
  | .listing length =>
    SeenAt topic history start events (Measured topic length)
  | .oldest length groups =>
    SeenAt topic history start events (Measured topic length) ∧
      SeenAt topic history start events (Described topic groups)
  | .newest length groups oldestMessage =>
    SeenAt topic history start events (Measured topic length) ∧
      SeenAt topic history start events (Described topic groups) ∧
      SeenAt topic history start events (Oldest topic oldestMessage) ∧
      (0 < length → oldestMessage ≠ none)
  | .answered (.ok info) => Reported topic history start events info
  | .answered (.error error) => (∀ turn, .turn turn ∈ events → Smooth turn) →
      error = .bus (.topicNotFound topic) ∧ SeenAt topic history start events (Missing topic)

theorem SeenAt.later {holds : List Made → World → Prop} (seen : SeenAt topic history start events holds)
    (more : List (Event Made Turn)) : SeenAt topic history start (events ++ more) holds := by
  obtain ⟨earlier, later, state, rfl, path, held⟩ := seen
  exact ⟨earlier, later ++ more, state, List.append_assoc .., path, held⟩

/-- What holds now is seen by the turn that is taken now. -/
theorem SeenAt.now {holds : List Made → World → Prop} (path : Path (Proceeds topic) start events state)
    (held : holds (history ++ others events) state.world) (more : List (Event Made Turn)) :
    SeenAt topic history start (events ++ more) holds :=
  ⟨events, more, state, rfl, path, held⟩

omit [UtcMillis] in
theorem published_grows (topic : String) (history more : List Made) :
    published topic history <+: published topic (history ++ more) := by
  unfold published
  rw [List.flatMap_append]
  exact List.prefix_append _ _

/-- A length that was seen is no more than what is published now, and no less than what was at first. -/
theorem SeenAt.length_bounds (seen : SeenAt topic history start events (Measured topic length)) :
    (published topic history).length ≤ length ∧ length ≤ (published topic (history ++ others events)).length := by
  obtain ⟨earlier, later, state, rfl, path, rfl⟩ := seen
  refine ⟨(published_grows topic history _).length_le, ?_⟩
  rw [others_append, ← List.append_assoc]
  exact (published_grows topic _ _).length_le

omit [UtcMillis] in
theorem eq_nil_of_dated {entries : List (MessageId × StreamFields)} (dated : DatedAs entries.head? none) :
    entries = [] := by
  cases entries with
  | nil => rfl
  | cons entry rest => exact dated.elim

/-- A topic that had a first message still has messages. -/
theorem SeenAt.nonempty (seen : SeenAt topic history start events (Oldest topic publishedAt))
    (some : publishedAt ≠ none) : published topic (history ++ others events) ≠ [] := by
  obtain ⟨earlier, later, state, rfl, path, dated⟩ := seen
  intro nothing
  have grows := published_grows topic (history ++ others earlier) (others later)
  rw [List.append_assoc, ← others_append, nothing] at grows
  unfold Oldest at dated
  rw [List.prefix_nil.mp grows] at dated
  cases publishedAt with
  | none => exact some rfl
  | some publishedAt => exact dated

theorem Stands.later (stands : Stands topic history start events inquiry) (more : List (Event Made Turn)) :
    Stands topic history start (events ++ more) inquiry := by
  cases inquiry with
  | measuring => trivial
  | listing length =>
    have seen : SeenAt topic history start events (Measured topic length) := stands
    exact seen.later more
  | oldest length groups => exact ⟨stands.1.later more, stands.2.later more⟩
  | newest length groups oldestMessage =>
    exact ⟨stands.1.later more, stands.2.1.later more, stands.2.2.1.later more, stands.2.2.2⟩
  | answered result =>
    cases result with
    | ok info =>
      exact ⟨SeenAt.later stands.length more, SeenAt.later stands.groups more, SeenAt.later stands.oldest more,
        SeenAt.later stands.newest more, stands.someOldest, stands.someNewest⟩
    | error error =>
      intro smooth
      obtain ⟨same, missing⟩ := stands fun turn member => smooth turn (List.mem_append_left _ member)
      exact ⟨same, missing.later more⟩

/-! ### Turns -/

/-- What `publish` dates an entry by, read back. -/
theorem publishedAt_published [DocumentedMillis] (topic : String) (payload : List UInt8) (range : InUtcRange now) :
    publishedAtFromFields topic none (publishedFields payload now) = .ok ⟨now.timestampMillis * 1000000⟩ := by
  obtain ⟨low, high, whole⟩ := millis_inRange range
  unfold publishedAtFromFields requiredField
  simp only [lookup_publishedAt, bind, Except.bind, parseI64_toString low high, DocumentedMillis.inRange _ whole]

/-- An entry of the topic is dated as it was published. -/
theorem dated_entry [DocumentedMillis] {entry : MessageId × StreamFields} (dated : Dated history)
    (member : entry ∈ published topic history) :
    ∃ publishedAt, publishedAtFromFields topic none entry.2 = .ok publishedAt ∧
      DatedAs (some entry) (some publishedAt) := by
  obtain ⟨payload, now, shape, range⟩ := published_fields member dated
  refine ⟨⟨now.timestampMillis * 1000000⟩, ?_, payload, now, shape, ?_⟩
  · rw [shape]
    exact publishedAt_published topic payload range
  · exact Int.mul_ediv_cancel _ (by decide)

omit [UtcMillis] in
/-- A listing of all groups is a description of them. -/
theorem described_of_listing (ledger : Ledger history world)
    {stream : RedisStream MessageId StreamFields String} (found : world.redis topic = some stream) {names : List String}
    (once : names.Nodup) (all : ∀ name, name ∈ names ↔ stream.groups name ≠ none)
    (tells : List.Forall₂ (fun info name => ∃ group, stream.groups name = some group ∧ Tells info name group) infos names) :
    Described topic infos history world := by
  have groups (name : String) : world.redis.group topic name = stream.groups name := by
    rw [Server.group, Server.stream, found]
    rfl
  obtain ⟨called, each⟩ := names_of_tells tells
  have own : ∀ info ∈ infos, info.pending = (world.redis.pendingIds topic info.name).length ∧
      info.lastDelivered = some (lastText (world.redis.frontier topic info.name)) := by
    intro info member
    obtain ⟨group, held, told⟩ := each info member
    have standing : world.redis.group topic info.name = some group := (groups info.name).trans held
    rw [told.pending, told.last, Server.pendingIds_of_group standing, List.length_map, Server.frontier_of_group standing]
    exact ⟨rfl, rfl⟩
  refine ⟨called ▸ once, fun name => ?_, fun info member => (own info member).1,
    fun info member => ?_, fun info member => (own info member).2⟩
  · rw [called, groups]
    exact all name
  · rw [(own info member).1, (ledger.accounted topic info.name).given_count, entryIds, ledger.entries]

/-- A turn that is not smooth says nothing of a smooth call. -/
theorem stands_of_rough {turn : Turn} (rough : ¬ Smooth turn) (error : InfoError) :
    Stands topic history start (events ++ [.turn turn]) (.answered (.error error)) := by
  intro smooth
  exact absurd (smooth turn (List.mem_append_right _ (List.mem_singleton.mpr rfl))) rough

omit [UtcMillis] in
theorem rough_of_failure {turn : Turn} {failure : Failure} (failed : turn.failure = some failure) : ¬ Smooth turn := by
  rintro ⟨arrives, -⟩
  rw [failed] at arrives
  cases arrives

/-- The publication of an entry is read if the call arrives. -/
theorem stands_publishedAtOf [DocumentedMillis] {history : List Made} {events : List (Event Made Turn)}
    (dated : Dated (history ++ others events)) (turn : Turn)
    (next : Option DateTime → Inquiry) (entry : Option (MessageId × StreamFields))
    (member : ∀ found, entry = some found → found ∈ published topic (history ++ others events))
    (stands : ∀ publishedAt, DatedAs entry publishedAt →
      Stands topic history start (events ++ [.turn turn]) (next publishedAt)) :
    Stands topic history start (events ++ [.turn turn])
      (publishedAtOf topic next (reply turn.failure (.ok entry))) := by
  cases failed : turn.failure with
  | some failure => exact stands_of_rough (rough_of_failure failed) _
  | none =>
    cases entry with
    | none => exact stands none trivial
    | some found =>
      obtain ⟨publishedAt, read, same⟩ := dated_entry dated (member found rfl)
      unfold reply publishedAtOf
      dsimp only
      rw [read]
      exact stands (some publishedAt) same

section Turn
variable {history : List Made} {start : Asking} {events : List (Event Made Turn)} {state : Asking}
  (past : Path Moves (.start emptyRedis) history start.world) (path : Path (Proceeds topic) start events state)
include past path

/-- The account of everything up to now. -/
theorem ledger_now : Ledger (history ++ others events) state.world :=
  ledger_of_run (past.append (path_of_others path))

theorem stands_afterLength (turn : Turn) : Stands topic history start (events ++ [.turn turn])
    (afterLength topic (reply turn.failure (.ok (state.world.redis.stream topic).entries.length))) := by
  cases failed : turn.failure with
  | some failure => exact stands_of_rough (rough_of_failure failed) _
  | none =>
    have length : (state.world.redis.stream topic).entries.length =
        (published topic (history ++ others events)).length := by
      rw [(ledger_now past path).entries]
    have seen : SeenAt topic history start (events ++ [.turn turn]) (Measured topic _) :=
      SeenAt.now path length [.turn turn]
    exact seen

theorem stands_afterGroups {turn : Turn} (lists : Lists turn.groups state.world.redis topic)
    (stands : Stands topic history start events (.listing length)) :
    Stands topic history start (events ++ [.turn turn])
      (afterGroups topic length (reply turn.failure turn.groups)) := by
  have ledger := ledger_now past path
  cases failed : turn.failure with
  | some failure => exact stands_of_rough (rough_of_failure failed) _
  | none =>
    unfold reply
    unfold Lists at lists
    cases found : state.world.redis topic with
    | none =>
      rw [found] at lists
      obtain ⟨error, refused, absent⟩ := lists
      have nothing : published topic (history ++ others events) = [] := by
        rw [← ledger.entries, Server.stream, found]
        rfl
      rw [refused]
      refine fun _ => ⟨?_, SeenAt.now path ⟨found, nothing⟩ [.turn turn]⟩
      rw [mapTopicInfoError, if_pos absent]
    | some stream =>
      rw [found] at lists
      obtain ⟨shown, names, answered, once, all, shows⟩ := lists
      rw [answered]
      dsimp only [afterGroups]
      cases read : consumerGroups topic shown with
      | error error =>
        refine stands_of_rough (fun smooth => ?_) error
        obtain ⟨infos, fits⟩ := consumerGroups_fits shows (smooth.2 shown answered)
        rw [read] at fits
        cases fits
      | ok infos =>
        have seen : SeenAt topic history start events (Measured topic length) := stands
        exact ⟨seen.later [.turn turn],
          SeenAt.now path (described_of_listing ledger found once all (consumerGroups_ok shows read)) [.turn turn]⟩

end Turn

/-- Every turn keeps the account of what was read. -/
theorem stands_turn [DocumentedMillis] (past : Path Moves (.start emptyRedis) history start.world)
    (path : Path (Proceeds topic) start events ⟨world, inquiry⟩) (dated : Dated (history ++ others events))
    (turned : Turns topic world inquiry turn next)
    (stands : Stands topic history start events inquiry) :
    Stands topic history start (events ++ [.turn turn]) next := by
  have entries := (ledger_now past path).entries topic
  obtain ⟨turned, lists⟩ := turned
  cases inquiry with
  | measuring =>
    cases turned
    exact stands_afterLength past path turn
  | listing length =>
    cases turned
    exact stands_afterGroups past path (lists ⟨length, rfl⟩) stands
  | oldest length groups =>
    cases turned
    dsimp only at entries
    rw [entries]
    refine stands_publishedAtOf dated turn _ _ (fun found first => List.mem_of_mem_head? first)
      fun oldestMessage same => ?_
    refine ⟨stands.1.later _, stands.2.later _, SeenAt.now path same _, fun some none => ?_⟩
    rw [none] at same
    have bound := (SeenAt.length_bounds stands.1).2
    rw [eq_nil_of_dated same] at bound
    exact absurd some (not_lt.mpr bound)
  | newest length groups oldestMessage =>
    cases turned
    dsimp only at entries
    rw [entries]
    refine stands_publishedAtOf dated turn _ _ (fun found last => List.mem_of_getLast? last)
      fun newestMessage same => ?_
    obtain ⟨measured, described, oldest, some⟩ := stands
    refine ⟨measured.later _, described.later _, oldest.later _, SeenAt.now path same _, some, fun first none => ?_⟩
    have none : newestMessage = Option.none := none
    rw [none] at same
    have nonempty := oldest.nonempty first
    rw [List.getLast?_eq_some_getLast nonempty] at same
    exact same
  | answered result => cases turned

theorem stands_of_run [DocumentedMillis] (past : Path Moves (.start emptyRedis) history start.world)
    (path : Path (Proceeds topic) start events state) (dated : Dated (history ++ others events))
    (fresh : Stands topic history start [] start.inquiry) :
    Stands topic history start events state.inquiry := by
  induction path with
  | start => exact fresh
  | @step events state event next path proceeds ih =>
    have before : Dated (history ++ others events) := fun made member => dated made (by
      rw [others_append, ← List.append_assoc]
      exact List.mem_append_left _ member)
    have stands := ih before
    cases proceeds with
    | other move => exact stands.later _
    | turn turned => exact stands_turn past path before turned stands

/-- Whatever the bus does meanwhile: a report that is answered counts no fewer
messages than there were and no more than there are, each of its parts held of the
topic when it was read, and a topic with messages has a first and a last. If every
command arrives, the only other answer is that there was no such topic. -/
theorem topic_reported [DocumentedMillis] (past : Path Moves (.start emptyRedis) history first)
    (path : Path (Proceeds topic) ⟨first, .measuring⟩ events ⟨world, .answered result⟩)
    (dated : Dated (history ++ others events)) :
    (∀ info, result = .ok info → Reported topic history ⟨first, .measuring⟩ events info ∧
      (published topic history).length ≤ info.length ∧
      info.length ≤ (published topic (history ++ others events)).length) ∧
    ((∀ turn, .turn turn ∈ events → Smooth turn) → ∀ error, result = .error error →
      error = .bus (.topicNotFound topic) ∧
        SeenAt topic history ⟨first, .measuring⟩ events (Missing topic)) := by
  have stands := stands_of_run past path dated trivial
  constructor
  · rintro info rfl
    have reported : Reported topic history ⟨first, .measuring⟩ events info := stands
    exact ⟨reported, reported.length.length_bounds⟩
  · rintro smooth error rfl
    exact stands smooth

/-! ### Reports that can be computed -/

/-- A turn that does not ask for the groups. -/
def apartFromGroups (topic : String) (world : World) (inquiry : Inquiry) (turn : Turn) : Option Inquiry :=
  match inquiry with
  | .listing _ => none
  | _ => inquiry.turn turn world.redis topic

theorem turns_of_apart (world : World) (inquiry : Inquiry) (turn : Turn) (next : Inquiry)
    (turned : apartFromGroups topic world inquiry turn = some next) : Turns topic world inquiry turn next := by
  cases inquiry with
  | listing length => cases turned
  | _ => exact ⟨turned, by rintro ⟨length, same⟩; cases same⟩

/-- Calls of others, and turns before or after the groups are asked for. -/
def proceedApart (topic : String) : Asking → List (Call ⊕ Turn) → Option (List (Event Made Turn) × Asking) :=
  follow (Inquiries.take make (apartFromGroups topic))

theorem path_of_proceedApart (ran : proceedApart topic asking steps = some (events, last)) :
    Path (Proceeds topic) asking events last :=
  .of_follow (Inquiries.proceeds_of_take moves_of_make turns_of_apart) ran

end Calls

section Between
open SoleConsumers.WholeMillis

def infoIn : Inquiry → Option TopicInfo
  | .answered (.ok info) => some info
  | _ => none

theorem answered_of_infoIn (answered : infoIn inquiry = some info) : inquiry = .answered (.ok info) := by
  unfold infoIn at answered
  split at answered
  · cases answered
    rfl
  · cases answered

/-- The group as the server shows it while the message it read is pending. -/
def riskGate : Table String RedisValue :=
  ((((∅ : Table String RedisValue).insert "name" (.string "risk_gate")).insert "consumers" (.integer 1)).insert
    "pending" (.integer 1)).insert "last-delivered-id" (.bytes "1-0".toUTF8.toList)

/-- A turn that arrives and is told of the group. -/
def told : Turn := ⟨.ok [riskGate], none⟩

/-- The length is read, and then another message comes five milliseconds after the first. -/
def lengthFirst : List (Call ⊕ Turn) := [.inr told, .inl (.act (.publish "fills" [7] ⟨5000000⟩ ⟨5, 0⟩ none))]

/-- One message is pending in the group when the call begins, and another comes after its length. -/
def begun : Option ((List Made × World) × List (Event Made Turn) × Asking) :=
  (makeAll (.start emptyRedis) (SoleConsumers.replyLost.map .act)).bind fun made =>
    (proceedApart "fills" ⟨made.2, .measuring⟩ lengthFirst).map fun after => (made, after)

/-- What the call makes of the reply, and of the two commands behind it. -/
def completed (asking : Asking) : Option (List (Event Made Turn) × Asking) :=
  (asking.inquiry.turn told asking.world.redis "fills").bind fun next =>
    (proceedApart "fills" ⟨asking.world, next⟩ [.inr told, .inr told]).map fun after => (.turn told :: after.1, after.2)

/-- What is known of the topic's one group. -/
def riskGateOf (world : World) : Option (Nat × String) :=
  (world.redis.group "fills" "risk_gate").map fun group => (group.pending.length, lastText group.lastDelivered)

/-- The server of the run shows its one group truly. -/
theorem lists_riskGate (path : Path Moves (.start emptyRedis) history world)
    (sole : (history.filterMap fun made => subscribedBy made.call) = [("fills", "risk_gate")])
    (standing : riskGateOf world = some (1, "1-0")) : Lists told.groups world.redis "fills" := by
  obtain ⟨group, held, same⟩ := Option.map_eq_some_iff.mp standing
  obtain ⟨pending, last⟩ := Prod.mk.inj same
  have present : world.redis "fills" ≠ none := by
    intro absent
    rw [Server.group, Server.stream, absent] at held
    cases held
  obtain ⟨stream, found⟩ := Option.ne_none_iff_exists'.mp present
  have groups (name : String) : stream.groups name = world.redis.group "fills" name := by
    rw [Server.group, Server.stream, found]
    rfl
  unfold Lists
  rw [found]
  refine ⟨[riskGate], ["risk_gate"], rfl, List.nodup_singleton _, fun name => ?_,
    .cons ⟨group, (groups _).trans held, ?_⟩ .nil⟩
  · rw [List.mem_singleton, groups]
    constructor
    · rintro rfl
      rw [held]
      exact Option.some_ne_none _
    · intro known
      have member := subscribed_of_group path known
      rw [sole] at member
      exact (Prod.mk.inj (List.mem_singleton.mp member)).2
  · refine ⟨by decide +kernel, ⟨1, by decide +kernel⟩, ?_, ?_⟩
    · rw [pending]
      decide +kernel
    · rw [last]
      decide +kernel

/-- The report counts one message, shows it pending in the group, and dates the second. -/
theorem topic_reported_between : ∃ (history : List Made) (first : World) (events : List (Event Made Turn)),
    Reported "fills" history ⟨first, .measuring⟩ events
      ⟨1, [⟨"risk_gate", 1, 1, some "1-0"⟩], some ⟨0⟩, some ⟨5000000⟩⟩ := by
  have ran : (begun.bind fun run => (completed run.2.2).map fun after => (run, after)).map (fun run =>
      (riskGateOf run.1.2.2.world,
        (run.1.1.1 ++ others run.1.2.1).filterMap (fun made => subscribedBy made.call),
        infoIn run.2.2.inquiry, decide (Dated (run.1.1.1 ++ others (run.1.2.1 ++ run.2.1))))) =
      some (some (1, "1-0"), [("fills", "risk_gate")],
        some ⟨1, [⟨"risk_gate", 1, 1, some "1-0"⟩], some ⟨0⟩, some ⟨5000000⟩⟩, true) := by
    decide +kernel
  obtain ⟨⟨⟨⟨history, first⟩, events, asking⟩, later, ⟨world, inquiry⟩⟩, reached, seen⟩ := Option.map_eq_some_iff.mp ran
  obtain ⟨standing, sole, answered, dated⟩ : _ ∧ _ ∧ _ ∧ _ := by simpa only [Prod.mk.injEq] using seen
  obtain ⟨run, begins, more⟩ := Option.bind_eq_some_iff.mp reached
  obtain ⟨after, ends, same⟩ := Option.map_eq_some_iff.mp more
  cases same
  obtain ⟨made, past, opened⟩ := Option.bind_eq_some_iff.mp begins
  obtain ⟨opening, proceeded, same⟩ := Option.map_eq_some_iff.mp opened
  cases same
  obtain ⟨next, listed, closed⟩ := Option.bind_eq_some_iff.mp ends
  obtain ⟨⟨closing, last⟩, finished, same⟩ := Option.map_eq_some_iff.mp closed
  cases same
  obtain rfl := answered_of_infoIn answered
  have documented : DocumentedMillis := ⟨fun _ _ => rfl⟩
  have origin := path_of_makeAll past
  have before := path_of_proceedApart proceeded
  have lists := lists_riskGate (origin.append (path_of_others before)) sole standing
  have asked : Path (Proceeds "fills") asking [.turn told] ⟨asking.world, next⟩ :=
    Path.start.step (.turn ⟨listed, fun _ => lists⟩)
  have whole := before.append (asked.append (path_of_proceedApart finished))
  exact ⟨_, first, _, ((topic_reported origin whole (of_decide_eq_true dated)).1 _ rfl).1⟩

end Between

end FeynmanEngine.TopicReports
