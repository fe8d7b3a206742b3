import FeynmanEngine.BusMessages
import FeynmanEngine.Channels

/-! Subscriptions to the bus. A `subscribe` call makes sure of the group and
starts a task that lists what is pending in it, claims all of it, sends what it
claimed and then sends what it reads. Every Redis call is one step and may fail
before or after the server acted on it; the steps of publishers, tasks,
receivers and acks come in any order. -/
namespace FeynmanEngine.BusDelivery
open Ids Tables RedisStreams BusMessages Channels

def subscriptionChannelCapacity : Nat := 1024

def streamReadCount : Nat := 128

def pendingPageSize : Nat := 256

structure Subscriber where
  topic : String
  group : String
  consumer : String
  deriving DecidableEq

/-- The server as the bus uses it. -/
abbrev Redis := Server MessageId StreamFields String

/-- Trouble with a call, and whether the server had acted on it. -/
structure Failure where
  error : RedisError
  acted : Bool

/-- A call that goes through or fails on the way. -/
def call {Reply : Type} (failure : Option Failure) (redis : Redis) (ran : Redis × Except CommandError Reply) :
    Redis × Except RedisError Reply :=
  match failure with
  | none => (ran.1, ran.2.mapError .refused)
  | some failure => (if failure.acted then ran.1 else redis, .error failure.error)

/-- `publish`; the server picks the id. -/
def publish (failure : Option Failure) (redis : Redis) (topic : String) (payload : List UInt8) (now : DateTime)
    (id : MessageId) : Option (Redis × Except BusError MessageId) :=
  (redis.xadd topic id (publishedFields payload now)).map fun added =>
    match call failure redis (added, .ok id) with
    | (redis, .ok id) => (redis, .ok id)
    | (redis, .error error) => (redis, .error (.publishFailed topic error.toText))

def ensureGroup (failure : Option Failure) (redis : Redis) (topic group : String) : Redis × Except BusError Unit :=
  match call failure redis (redis.xgroupCreate topic group) with
  | (redis, .ok ()) => (redis, .ok ())
  | (redis, .error error) =>
    if isBusyGroupError error then (redis, .ok ())
    else if isNoSuchKeyError error then (redis, .error (.topicNotFound topic))
    else (redis, .error (.subscribeFailed topic group "" error.toText))

def ack (failure : Option Failure) (redis : Redis) (topic group : String) (id : MessageId) :
    Redis × Except BusError Unit :=
  let (acknowledged, count) := redis.xack topic group id
  match call failure redis (acknowledged, .ok count) with
  | (redis, .error error) => (redis, .error (mapGroupOrAckError topic group id error))
  | (redis, .ok 0) => (redis, .error (.ackFailed topic group id "message was not pending in the consumer group"))
  | (redis, .ok (_ + 1)) => (redis, .ok ())

/-- Where a task stands: before its next page, claim or read, between two sends
of recovered messages or of entries read, or ended. -/
inductive Phase where
  | listing (start : WithBot MessageId) (ids : List MessageId)
  | claiming (ids : List MessageId)
  | recovered (messages : List BusMessage)
  | reading
  | sending (entries : List (MessageId × StreamFields))
  | ended

/-- One turn of the loop in `pending_ids`: the ids so far, and where the next
page starts if there is one. -/
def takePage (ids : List MessageId) (page : List (MessageId × String)) : List MessageId × Option MessageId :=
  match page.getLast? with
  | none => (ids, none)
  | some last =>
    (ids ++ page.map Prod.fst, if page.length < pendingPageSize then none else some last.1)

def claimOf (ids : List MessageId) : Phase :=
  match ids with
  | [] => .reading
  | _ :: _ => .claiming ids

def onPage (ids : List MessageId) : Except RedisError (List (MessageId × String)) → Phase
  | .error _ => .ended
  | .ok page =>
    match takePage ids page with
    | (ids, none) => claimOf ids
    | (ids, some start) => .listing start ids

/-- The loop over the recovered messages. -/
def sendRecovered (messages : List BusMessage) : Phase :=
  match messages with
  | [] => .reading
  | _ :: _ => .recovered messages

/-- The loop over the entries of a read. -/
def sendEntries (entries : List (MessageId × StreamFields)) : Phase :=
  match entries with
  | [] => .reading
  | _ :: _ => .sending entries

/-- The read loop ends with its group and tries again after any other error. -/
def onRead : Except RedisError (Option (List (MessageId × StreamFields))) → Phase
  | .ok none => .reading
  | .ok (some entries) => sendEntries entries
  | .error error => if isNoGroupError error then .ended else .reading

/-- A subscription: its task, its channel and what was received from it. -/
structure Subscription where
  phase : Phase
  channel : Channel BusMessage
  received : List BusMessage

namespace Subscription

def fresh : Subscription := ⟨.listing ⊥ [], .fresh subscriptionChannelCapacity, []⟩

/-- The task goes on; one that ends drops its sender. -/
def enter (subscription : Subscription) : Phase → Subscription
  | .ended => { subscription with phase := .ended, channel := { subscription.channel with sending := false } }
  | phase => { subscription with phase := phase }

/-- `tx.send`, which waits for room. -/
def push (subscription : Subscription) (message : BusMessage) : Option Subscription :=
  if subscription.channel.queue.length < subscription.channel.capacity then
    some { subscription with
      channel := { subscription.channel with queue := subscription.channel.queue ++ [message] } }
  else none

/-- The receiver takes the oldest message. -/
def receive (subscription : Subscription) : Option Subscription :=
  match subscription.channel.queue with
  | [] => none
  | message :: rest =>
    some { subscription with
      channel := { subscription.channel with queue := rest }
      received := subscription.received ++ [message] }

def page (failure : Option Failure) (name : Subscriber) (redis : Redis) (subscription : Subscription) :
    Option (Redis × Subscription) :=
  match subscription.phase with
  | .listing start ids =>
    let paged := call failure redis (redis, redis.xpending name.topic name.group start pendingPageSize)
    some (paged.1, subscription.enter (onPage ids paged.2))
  | _ => none

def read (failure : Option Failure) (name : Subscriber) (redis : Redis) (subscription : Subscription) :
    Option (Redis × Subscription) :=
  match subscription.phase with
  | .reading =>
    let fetched := call failure redis (redis.xreadgroup name.topic name.group name.consumer streamReadCount)
    some (fetched.1, subscription.enter (onRead fetched.2))
  | _ => none

variable [UtcMillis]

def onClaimed (topic : String) : Except RedisError (List (MessageId × StreamFields)) → Phase
  | .error _ => .ended
  | .ok claimed =>
    match decodeEntries topic claimed with
    | .error _ => .ended
    | .ok messages => sendRecovered messages

def claim (failure : Option Failure) (name : Subscriber) (redis : Redis) (subscription : Subscription) :
    Option (Redis × Subscription) :=
  match subscription.phase with
  | .claiming ids =>
    let claimed := call failure redis (redis.xclaim name.topic name.group name.consumer ids)
    some (claimed.1, subscription.enter (onClaimed name.topic claimed.2))
  | _ => none

/-- The next send. An entry is decoded when its turn comes; one that is refused
ends the task. -/
def send (topic : String) (subscription : Subscription) : Option Subscription :=
  match subscription.phase with
  | .recovered (message :: rest) => (subscription.push message).map fun sent => sent.enter (sendRecovered rest)
  | .sending ((id, fields) :: rest) =>
    match streamEntryToMessage topic id fields with
    | .error _ => some (subscription.enter .ended)
    | .ok message => (subscription.push message).map fun sent => sent.enter (sendEntries rest)
  | _ => none

end Subscription

/-- `subscribe` up to the start of its task. A failure names the consumer. -/
def subscribe (failure : Option Failure) (redis : Redis) (name : Subscriber) : Redis × Except BusError Subscription :=
  match ensureGroup failure redis name.topic name.group with
  | (redis, .ok ()) => (redis, .ok .fresh)
  | (redis, .error (.subscribeFailed _ _ _ reason)) =>
    (redis, .error (.subscribeFailed name.topic name.group name.consumer reason))
  | (redis, .error other) => (redis, .error other)

/-- A subscription starts with nothing sent, on the server its group was made sure of. -/
theorem subscribe_cases (failure : Option Failure) (redis : Redis) (name : Subscriber) :
    (subscribe failure redis name).1 = (ensureGroup failure redis name.topic name.group).1 ∧
    ∀ subscription, (subscribe failure redis name).2 = .ok subscription → subscription = .fresh := by
  unfold subscribe
  split
  · next server ensured =>
    rw [ensured]
    refine ⟨rfl, fun subscription opened => ?_⟩
    cases opened
    rfl
  · next server topic group consumer reason ensured =>
    rw [ensured]
    refine ⟨rfl, fun subscription opened => ?_⟩
    cases opened
  · next server other unnamed ensured =>
    rw [ensured]
    refine ⟨rfl, fun subscription opened => ?_⟩
    cases opened

structure World where
  redis : Redis
  subscriptions : Table Subscriber Subscription

inductive Action where
  | publish (topic : String) (payload : List UInt8) (now : DateTime) (id : MessageId) (failure : Option Failure)
  | subscribe (name : Subscriber) (failure : Option Failure)
  | page (name : Subscriber) (failure : Option Failure)
  | claim (name : Subscriber) (failure : Option Failure)
  | read (name : Subscriber) (failure : Option Failure)
  | send (name : Subscriber)
  | receive (name : Subscriber)
  | ack (topic group : String) (id : MessageId) (failure : Option Failure)

namespace World

/-- Before the first `subscribe` call, on any server. -/
def start (redis : Redis) : World := ⟨redis, ∅⟩

/-- A subscription moves, and the server with it. -/
def move (world : World) (name : Subscriber)
    (moved : Redis → Subscription → Option (Redis × Subscription)) : Option World :=
  match world.subscriptions.lookup name with
  | none => none
  | some subscription =>
    match moved world.redis subscription with
    | none => none
    | some (redis, subscription) => some ⟨redis, world.subscriptions.insert name subscription⟩

/-- `subscribe`, under a consumer name not in use in the group. -/
def subscribe (failure : Option Failure) (world : World) (name : Subscriber) : Option World :=
  match world.subscriptions.lookup name with
  | some _ => none
  | none =>
    match BusDelivery.subscribe failure world.redis name with
    | (redis, .error _) => some ⟨redis, world.subscriptions⟩
    | (redis, .ok subscription) => some ⟨redis, world.subscriptions.insert name subscription⟩

/-- One step of the bus, if it can be taken. -/
def apply [UtcMillis] (world : World) : Action → Option World
  | .publish topic payload now id failure =>
    (publish failure world.redis topic payload now id).map fun published => ⟨published.1, world.subscriptions⟩
  | .subscribe name failure => world.subscribe failure name
  | .page name failure => world.move name (Subscription.page failure name)
  | .claim name failure => world.move name (Subscription.claim failure name)
  | .read name failure => world.move name (Subscription.read failure name)
  | .send name => world.move name fun redis subscription => (subscription.send name.topic).map fun sent => (redis, sent)
  | .receive name => world.move name fun redis subscription => subscription.receive.map fun taken => (redis, taken)
  | .ack topic group id failure => some ⟨(ack failure world.redis topic group id).1, world.subscriptions⟩

end World

end FeynmanEngine.BusDelivery
