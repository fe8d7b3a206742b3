import FeynmanEngine.BusDelivery
import FeynmanEngine.Custody
import FeynmanEngine.Traces

/-! One consumer per message. What a consumer was given or its task is about to
send is in its hands; a group's entries come into hands beyond the group's
frontier, by a read, or from among what is pending, by the claim of a new
subscriber. So each message has one consumer as long as no claim takes what
another consumer has in hand. -/
namespace FeynmanEngine.SoleConsumers
open Ids Tables RedisStreams BusMessages Channels BusDelivery Traces

/-- What a task is about to send. -/
def toSend : Phase → List MessageId
  | .recovered messages => messages.map BusMessage.id
  | .sending entries => entries.map Prod.fst
  | .listing .. | .claiming _ | .reading | .ended => []

/-- What was sent to the receiver, received or not. -/
def given (subscription : Subscription) : List MessageId :=
  subscription.received.map BusMessage.id ++ subscription.channel.queue.map BusMessage.id

def hands (subscription : Subscription) : List MessageId := given subscription ++ toSend subscription.phase

@[simp] theorem toSend_sendRecovered (messages : List BusMessage) :
    toSend (sendRecovered messages) = messages.map BusMessage.id := by
  cases messages <;> rfl

@[simp] theorem toSend_sendEntries (entries : List (MessageId × StreamFields)) :
    toSend (sendEntries entries) = entries.map Prod.fst := by
  cases entries <;> rfl

@[simp] theorem given_enter (subscription : Subscription) (phase : Phase) :
    given (subscription.enter phase) = given subscription := by
  cases phase <;> rfl

@[simp] theorem phase_enter (subscription : Subscription) (phase : Phase) :
    (subscription.enter phase).phase = phase := by
  cases phase <;> rfl

theorem hands_enter (subscription : Subscription) (phase : Phase) :
    hands (subscription.enter phase) = given subscription ++ toSend phase := by
  rw [hands, given_enter, phase_enter]

theorem given_push (pushed : Subscription.push subscription message = some after) :
    given after = given subscription ++ [message.id] := by
  unfold Subscription.push at pushed
  split at pushed
  · cases pushed
    simp [given]
  · cases pushed

theorem given_receive (received : Subscription.receive subscription = some after) :
    given after = given subscription ∧ after.phase = subscription.phase := by
  unfold Subscription.receive at received
  split at received
  · cases received
  · next message rest front =>
    cases received
    simp [given, front]

/-- Listing and claiming a task has nothing to send. -/
theorem toSend_onPage (ids : List MessageId) (reply : Except RedisError (List (MessageId × String))) :
    toSend (onPage ids reply) = [] := by
  unfold onPage
  split
  · rfl
  · split
    · unfold claimOf
      split <;> rfl
    · rfl

theorem toSend_onRead (reply : Except RedisError (Option (List (MessageId × StreamFields)))) (id : MessageId)
    (member : id ∈ toSend (onRead reply)) : ∃ entries, reply = .ok (some entries) ∧ id ∈ entries.map Prod.fst := by
  unfold onRead at member
  split at member
  · cases member
  · next entries =>
    rw [toSend_sendEntries] at member
    exact ⟨entries, rfl, member⟩
  · split at member <;> cases member

section Sending
variable [UtcMillis]

theorem toSend_onClaimed (topic : String) (reply : Except RedisError (List (MessageId × StreamFields)))
    (id : MessageId) (member : id ∈ toSend (Subscription.onClaimed topic reply)) :
    ∃ claimed, reply = .ok claimed ∧ id ∈ claimed.map Prod.fst := by
  unfold Subscription.onClaimed at member
  split at member
  · cases member
  · next claimed =>
    split at member
    · cases member
    · next messages decoded =>
      rw [toSend_sendRecovered, decodeEntries_ids decoded] at member
      exact ⟨claimed, rfl, member⟩

/-- A send moves an id on, or gives up what was to be sent. -/
theorem hands_send (sent : Subscription.send topic subscription = some after) :
    ∀ id ∈ hands after, id ∈ hands subscription := by
  unfold Subscription.send at sent
  intro id member
  split at sent
  · next message rest phase =>
    obtain ⟨pushed, put, rfl⟩ := Option.map_eq_some_iff.mp sent
    rw [hands_enter, given_push put, toSend_sendRecovered] at member
    rw [hands, phase]
    simpa [toSend] using member
  · next entry fields rest phase =>
    split at sent
    · cases sent
      rw [hands_enter] at member
      rw [hands]
      simp only [toSend, List.append_nil] at member
      exact List.mem_append_left _ member
    · next message decoded =>
      obtain ⟨pushed, put, rfl⟩ := Option.map_eq_some_iff.mp sent
      rw [hands_enter, given_push put, toSend_sendEntries, (streamEntryToMessage_ok decoded).1] at member
      rw [hands, phase]
      simpa [toSend] using member
  · cases sent

end Sending

/-- What a consumer has in hand; without a subscription nothing. -/
def inHands (world : World) (name : Subscriber) : List MessageId :=
  match world.subscriptions.lookup name with
  | some subscription => hands subscription
  | none => []

/-- What a consumer was given. -/
def givenTo (world : World) (name : Subscriber) : List MessageId :=
  match world.subscriptions.lookup name with
  | some subscription => given subscription
  | none => []

theorem inHands_of_given {id : MessageId} (member : id ∈ givenTo world name) : id ∈ inHands world name := by
  unfold givenTo at member
  unfold inHands
  split at member
  · exact List.mem_append_left _ member
  · cases member

/-- The custody of a group's messages among its consumers. -/
def custody (world : World) (topic group : String) : Custody.Holdings MessageId String where
  frontier := world.redis.frontier topic group
  holds consumer := { id | id ∈ inHands world ⟨topic, group, consumer⟩ }

theorem inHands_insert (redis : Redis) (world : World) (name : Subscriber) (subscription : Subscription)
    (probe : Subscriber) :
    inHands ⟨redis, world.subscriptions.insert name subscription⟩ probe =
      if probe = name then hands subscription else inHands world probe := by
  unfold inHands
  rw [lookup_insert_if]
  by_cases same : probe = name
  · rw [if_pos same, if_pos same]
  · rw [if_neg same, if_neg same]

/-- One consumer may get some ids into its hands, all of them behind its group's
frontier, which like any other only advances. -/
structure Taking (world next : World) (name : Subscriber) (ids : List MessageId) : Prop where
  advance : ∀ topic group, world.redis.frontier topic group ≤ next.redis.frontier topic group
  gained : ∀ id ∈ inHands next name, id ∈ inHands world name ∨ id ∈ ids
  others : ∀ other, other ≠ name → ∀ id ∈ inHands next other, id ∈ inHands world other
  within : ∀ id ∈ ids, id ≤ next.redis.frontier name.topic name.group

/-- In its own group the ids change hands, in every other nothing does. -/
theorem Taking.gains (taking : Taking world next name ids) :
    Custody.Gains (custody world name.topic name.group) (custody next name.topic name.group) name.consumer
      { id | id ∈ ids } where
  advance := taking.advance name.topic name.group
  gained := taking.gained
  others other differ := by
    apply taking.others
    intro same
    exact differ (congrArg Subscriber.consumer same)
  within := taking.within

theorem Taking.elsewhere (taking : Taking world next name ids) (other : topic ≠ name.topic ∨ group ≠ name.group) :
    Custody.Step (custody world topic group) (custody next topic group) := by
  refine .givenUp (taking.advance topic group) fun consumer => ?_
  apply taking.others
  rintro rfl
  rcases other with differ | differ <;> exact differ rfl

/-- Ids beyond the frontier are handed out, others may be taken over if they are free. -/
theorem Taking.step (taking : Taking world next name ids)
    (safe : (∀ id ∈ ids, world.redis.frontier name.topic name.group < id) ∨
      Custody.Free (custody world name.topic name.group) name.consumer { id | id ∈ ids }) (topic group : String) :
    Custody.Step (custody world topic group) (custody next topic group) := by
  by_cases differ : topic ≠ name.topic ∨ group ≠ name.group
  · exact taking.elsewhere differ
  · obtain ⟨rfl, rfl⟩ : topic = name.topic ∧ group = name.group := by
      constructor <;> by_contra other
      · exact differ (Or.inl other)
      · exact differ (Or.inr other)
    rcases safe with beyond | free
    · exact .handedOut taking.gains beyond
    · exact .takenOver taking.gains free

theorem call_server {Reply : Type} (failure : Option Failure) (redis : Redis)
    (ran : Redis × Except CommandError Reply) :
    (call failure redis ran).1 = redis ∨ (call failure redis ran).1 = ran.1 := by
  unfold call
  split
  · exact Or.inr rfl
  · dsimp only
    split
    · exact Or.inr rfl
    · exact Or.inl rfl

/-- A call answered with success went through. -/
theorem call_ok {Reply : Type} {failure : Option Failure} {redis : Redis} {ran : Redis × Except CommandError Reply}
    {reply : Reply} (answered : (call failure redis ran).2 = .ok reply) :
    failure = none ∧ ran.2 = .ok reply ∧ (call failure redis ran).1 = ran.1 := by
  unfold call at answered ⊢
  split at answered
  · refine ⟨rfl, ?_, rfl⟩
    cases done : ran.2 with
    | error error =>
      rw [done] at answered
      cases answered
    | ok value =>
      rw [done] at answered
      cases answered
      rfl
  · cases answered

/-- A command after which the server has only grown does so behind a call. -/
theorem call_grown {Reply : Type} (failure : Option Failure) {redis : Redis}
    {ran : Redis × Except CommandError Reply} (grown : Server.Grown redis ran.1) :
    Server.Grown redis (call failure redis ran).1 := by
  rcases call_server failure redis ran with same | same
  · rw [same]
    exact .refl redis
  · rw [same]
    exact grown

/-- A step of one subscription. -/
theorem move_some (moved : World.move world name change = some next) :
    ∃ subscription redis after, world.subscriptions.lookup name = some subscription ∧
      change world.redis subscription = some (redis, after) ∧
      next = ⟨redis, world.subscriptions.insert name after⟩ := by
  unfold World.move at moved
  split at moved
  · cases moved
  · next subscription found =>
    split at moved
    · cases moved
    · next redis after changed =>
      cases moved
      exact ⟨subscription, redis, after, found, changed, rfl⟩

theorem taking_of_move {world : World} (found : world.subscriptions.lookup name = some subscription)
    (grown : Server.Grown world.redis redis)
    (gained : ∀ id ∈ hands after, id ∈ hands subscription ∨ id ∈ ids)
    (within : ∀ id : MessageId, id ∈ ids → id ≤ Server.frontier redis name.topic name.group) :
    Taking world ⟨redis, world.subscriptions.insert name after⟩ name ids where
  advance := grown.advance
  gained id member := by
    rw [inHands_insert, if_pos rfl] at member
    unfold inHands
    rw [found]
    exact gained id member
  others other differ id member := by
    rwa [inHands_insert, if_neg differ] at member
  within := within

/-- Where no subscription moves, nothing changes hands. -/
theorem taking_of_server {world : World} (name : Subscriber) (grown : Server.Grown world.redis redis) :
    Taking world ⟨redis, world.subscriptions⟩ name [] where
  advance := grown.advance
  gained _ member := Or.inl member
  others _ _ _ member := member
  within := List.forall_mem_nil _

theorem taking_of_page {failure : Option Failure} (paged : Subscription.page failure name (World.redis world) subscription = some (redis, after))
    (found : world.subscriptions.lookup name = some subscription) :
    Taking world ⟨redis, world.subscriptions.insert name after⟩ name [] := by
  unfold Subscription.page at paged
  split at paged
  · next start ids listing =>
    cases paged
    refine taking_of_move found (call_grown failure (.refl world.redis)) ?_ (List.forall_mem_nil _)
    intro id member
    rw [hands_enter, toSend_onPage, List.append_nil] at member
    exact Or.inl (List.mem_append_left _ member)
  · cases paged

/-- A read takes what lies beyond the group's frontier. -/
theorem taking_of_read {failure : Option Failure} (fetched : Subscription.read failure name (World.redis world) subscription = some (redis, after))
    (found : world.subscriptions.lookup name = some subscription) :
    ∃ ids, Taking world ⟨redis, world.subscriptions.insert name after⟩ name ids ∧
      ∀ id ∈ ids, world.redis.frontier name.topic name.group < id := by
  unfold Subscription.read at fetched
  split at fetched
  · next reading =>
    cases fetched
    refine ⟨toSend (onRead (call failure world.redis
      (world.redis.xreadgroup name.topic name.group name.consumer streamReadCount)).2),
      taking_of_move found (call_grown failure (Server.grown_xreadgroup world.redis ..)) ?_ ?_, ?_⟩
    · intro id member
      rw [hands_enter] at member
      rcases List.mem_append.mp member with had | taken
      · exact Or.inl (List.mem_append_left _ had)
      · exact Or.inr taken
    · intro id member
      obtain ⟨entries, answered, listed⟩ := toSend_onRead _ id member
      obtain ⟨entry, taken, rfl⟩ := List.mem_map.mp listed
      obtain ⟨-, replied, same⟩ := call_ok answered
      rw [same]
      exact (Server.read_of_xreadgroup replied taken).2
    · intro id member
      obtain ⟨entries, answered, listed⟩ := toSend_onRead _ id member
      obtain ⟨entry, taken, rfl⟩ := List.mem_map.mp listed
      obtain ⟨-, replied, -⟩ := call_ok answered
      exact (Server.read_of_xreadgroup replied taken).1
  · cases fetched

theorem grown_publish {failure : Option Failure} {id : MessageId}
    (published : publish failure redis topic payload now id = some result) : Server.Grown redis result.1 := by
  obtain ⟨added, put, rfl⟩ := Option.map_eq_some_iff.mp published
  have grown : Server.Grown redis (call failure redis (added, .ok id)).1 :=
    call_grown failure (Server.grown_xadd put)
  revert grown
  cases call failure redis (added, .ok id) with
  | mk server reply => cases reply <;> exact fun grown => grown

theorem grown_ensureGroup (failure : Option Failure) (redis : Redis) (topic group : String) :
    Server.Grown redis (ensureGroup failure redis topic group).1 := by
  have grown := call_grown failure (Server.grown_xgroupCreate redis topic group)
  unfold ensureGroup
  revert grown
  cases call failure redis (redis.xgroupCreate topic group) with
  | mk server reply =>
    cases reply with
    | ok value => exact fun grown => grown
    | error error =>
      dsimp only
      split
      · exact fun grown => grown
      · split <;> exact fun grown => grown

theorem grown_ack (failure : Option Failure) (redis : Redis) (topic group : String) (id : MessageId) :
    Server.Grown redis (BusDelivery.ack failure redis topic group id).1 := by
  have grown : Server.Grown redis
      (call failure redis ((redis.xack topic group id).1, .ok (redis.xack topic group id).2)).1 :=
    call_grown failure (Server.grown_xack redis topic group id)
  unfold BusDelivery.ack
  revert grown
  dsimp only
  cases call failure redis ((redis.xack topic group id).1, .ok (redis.xack topic group id).2) with
  | mk server reply =>
    cases reply with
    | error error => exact fun grown => grown
    | ok count => cases count <;> exact fun grown => grown

/-- A new subscriber has nothing in hand. -/
theorem taking_of_subscribe {failure : Option Failure} (subscribed : World.subscribe failure world name = some next) :
    Taking world next name [] := by
  have grown := grown_ensureGroup failure world.redis name.topic name.group
  obtain ⟨reached, started⟩ := subscribe_cases failure world.redis name
  rw [← reached] at grown
  unfold World.subscribe at subscribed
  split at subscribed
  · cases subscribed
  · split at subscribed
    · next redis error opened =>
      cases subscribed
      rw [opened] at grown
      exact taking_of_server name grown
    · next redis subscription opened =>
      cases subscribed
      rw [opened] at grown started
      obtain rfl := started subscription rfl
      refine ⟨grown.advance, fun id member => ?_, fun other differ id member => ?_, List.forall_mem_nil _⟩
      · rw [inHands_insert, if_pos rfl] at member
        cases member
      · rwa [inHands_insert, if_neg differ] at member

/-- What a subscriber has listed and is about to claim. -/
def listed (world : World) (name : Subscriber) : List MessageId :=
  match (world.subscriptions.lookup name).map Subscription.phase with
  | some (.claiming ids) => ids
  | _ => []

section Steps
variable [UtcMillis]

/-- A claim takes what it listed and is still pending, if its reply arrives. -/
theorem taking_of_claim {failure : Option Failure} (claimed : Subscription.claim failure name (World.redis world) subscription = some (redis, after))
    (found : world.subscriptions.lookup name = some subscription) :
    ∃ ids, Taking world ⟨redis, world.subscriptions.insert name after⟩ name ids ∧
      ∀ id ∈ ids, failure = none ∧ id ∈ world.redis.claimable name.topic name.group (listed world name) := by
  unfold Subscription.claim at claimed
  split at claimed
  · next ids claiming =>
    cases claimed
    have wanted : listed world name = ids := by
      unfold listed
      rw [found, Option.map_some, claiming]
    refine ⟨toSend (Subscription.onClaimed name.topic (call failure world.redis
      (world.redis.xclaim name.topic name.group name.consumer ids)).2),
      taking_of_move found (call_grown failure (Server.grown_xclaim world.redis ..)) ?_ ?_, ?_⟩
    · intro id member
      rw [hands_enter] at member
      rcases List.mem_append.mp member with had | taken
      · exact Or.inl (List.mem_append_left _ had)
      · exact Or.inr taken
    · intro id member
      obtain ⟨entries, answered, listed⟩ := toSend_onClaimed _ _ id member
      obtain ⟨entry, taken, rfl⟩ := List.mem_map.mp listed
      obtain ⟨-, replied, same⟩ := call_ok answered
      rw [same, Server.frontier_xclaim]
      exact (Server.claimed_of_xclaim replied taken).2
    · intro id member
      obtain ⟨entries, answered, listed⟩ := toSend_onClaimed _ _ id member
      obtain ⟨entry, taken, rfl⟩ := List.mem_map.mp listed
      obtain ⟨through, replied, -⟩ := call_ok answered
      rw [wanted]
      exact ⟨through, (Server.claimed_of_xclaim replied taken).1⟩
  · cases claimed

/-- A claim that is answered takes nothing another consumer of the group has in hand. -/
def Harmless (world : World) : Action → Prop
  | .claim name none => Custody.Free (custody world name.topic name.group) name.consumer
      { id | id ∈ world.redis.claimable name.topic name.group (listed world name) }
  | _ => True

/-- Every step of the bus is a step of custody in every group. -/
theorem custody_step (applied : World.apply world action = some next) (harmless : Harmless world action)
    (topic group : String) : Custody.Step (custody world topic group) (custody next topic group) := by
  have quiet {name : Subscriber} {world next : World} (taking : Taking world next name []) :
      Custody.Step (custody world topic group) (custody next topic group) :=
    taking.step (Or.inl (List.forall_mem_nil _)) topic group
  cases action with
  | publish target payload now id failure =>
    obtain ⟨⟨redis, result⟩, published, rfl⟩ := Option.map_eq_some_iff.mp applied
    exact quiet (taking_of_server ⟨topic, group, ""⟩ (grown_publish published))
  | subscribe name failure =>
    exact quiet (taking_of_subscribe applied)
  | page name failure =>
    obtain ⟨subscription, redis, after, found, paged, rfl⟩ := move_some applied
    exact quiet (taking_of_page paged found)
  | claim name failure =>
    obtain ⟨subscription, redis, after, found, claimed, rfl⟩ := move_some applied
    obtain ⟨ids, taking, pending⟩ := taking_of_claim claimed found
    refine taking.step (Or.inr fun id member other differ => ?_) topic group
    obtain ⟨rfl, claimable⟩ := pending id member
    exact harmless id claimable other differ
  | read name failure =>
    obtain ⟨subscription, redis, after, found, fetched, rfl⟩ := move_some applied
    obtain ⟨ids, taking, beyond⟩ := taking_of_read fetched found
    exact taking.step (Or.inl beyond) topic group
  | send name =>
    have moved : world.move name (fun redis subscription => (subscription.send name.topic).map fun sent =>
      (redis, sent)) = some next := applied
    obtain ⟨subscription, redis, after, found, changed, rfl⟩ := move_some moved
    obtain ⟨sent, put, same⟩ := Option.map_eq_some_iff.mp changed
    cases same
    refine quiet (taking_of_move found (.refl world.redis) ?_ (List.forall_mem_nil _))
    exact fun id member => Or.inl (hands_send put id member)
  | receive name =>
    have moved : world.move name (fun redis subscription => subscription.receive.map fun taken =>
      (redis, taken)) = some next := applied
    obtain ⟨subscription, redis, after, found, changed, rfl⟩ := move_some moved
    obtain ⟨taken, put, same⟩ := Option.map_eq_some_iff.mp changed
    cases same
    refine quiet (taking_of_move found (.refl world.redis) ?_ (List.forall_mem_nil _))
    intro id member
    obtain ⟨kept, standing⟩ := given_receive put
    rw [hands, kept, standing] at member
    exact Or.inl member
  | ack target set id failure =>
    cases applied
    exact quiet (taking_of_server ⟨topic, group, ""⟩ (grown_ack failure world.redis target set id))

def Moves (world : World) (action : Action) (next : World) : Prop := world.apply action = some next

/-- A step of the bus whose claim, if it is one, is harmless. -/
def SafelyMoves (world : World) (action : Action) (next : World) : Prop :=
  Moves world action next ∧ Harmless world action

theorem sole_of_run (run : Path SafelyMoves (.start redis) actions world) (topic group : String) :
    Custody.Sole (custody world topic group) := by
  induction run with
  | start => exact Custody.sole_of_nothing fun consumer => Set.eq_empty_of_forall_notMem fun id held => by cases held
  | step run move sole => exact sole.step (custody_step move.1 move.2 topic group)

/-- Whatever the interleaving and wherever the server starts, no message is
given to two consumers of a group while every answered claim leaves alone what
other consumers have in hand. -/
theorem one_consumer_per_message (run : Path SafelyMoves (.start redis) actions world) :
    ∀ topic group id first second, id ∈ givenTo world ⟨topic, group, first⟩ →
      id ∈ givenTo world ⟨topic, group, second⟩ → first = second := by
  intro topic group id first second one other
  exact (sole_of_run run topic group).one id first second (inHands_of_given one) (inHands_of_given other)

omit [UtcMillis] in
/-- The consumers to look at are those that subscribed. -/
theorem free_iff (world : World) (name : Subscriber) (ids : List MessageId) :
    Custody.Free (custody world name.topic name.group) name.consumer { id | id ∈ ids } ↔
      ∀ entry ∈ world.subscriptions.entries, entry.1 ≠ name → entry.1.topic = name.topic →
        entry.1.group = name.group → ∀ id ∈ ids, id ∉ hands entry.2 := by
  constructor
  · rintro free ⟨other, subscription⟩ member differ topic group id listed held
    have found : world.subscriptions.lookup other = some subscription := AList.mem_lookup_iff.mpr member
    refine free id listed other.consumer (fun same => differ ?_) ?_
    · exact (Subscriber.mk.injEq ..).mpr ⟨topic, group, same⟩
    · show id ∈ inHands world ⟨name.topic, name.group, other.consumer⟩
      rw [← topic, ← group]
      unfold inHands
      rw [show (⟨other.topic, other.group, other.consumer⟩ : Subscriber) = other from rfl, found]
      exact held
  · intro free id listed other differ held
    have held : id ∈ inHands world ⟨name.topic, name.group, other⟩ := held
    unfold inHands at held
    split at held
    · next subscription found =>
      refine free ⟨⟨name.topic, name.group, other⟩, subscription⟩ (AList.mem_lookup_iff.mp found) ?_ rfl rfl id listed held
      intro same
      exact differ (congrArg Subscriber.consumer same)
    · cases held

instance (world : World) (action : Action) : Decidable (Harmless world action) :=
  match action with
  | .claim name none => decidable_of_iff _ (free_iff world name _).symm
  | .claim _ (some _) => isTrue trivial
  | .publish .. | .subscribe .. | .page .. | .read .. | .send _ | .receive _ | .ack .. => isTrue trivial

/-- Some steps one after the other. -/
def applyAll (world : World) : List Action → Option World
  | [] => some world
  | action :: actions => (world.apply action).bind fun next => applyAll next actions

theorem path_of_applyAll (ran : applyAll world actions = some last) : Path Moves world actions last := by
  induction actions generalizing world with
  | nil =>
    cases ran
    exact .start
  | cons action actions ih =>
    obtain ⟨next, applied, rest⟩ := Option.bind_eq_some_iff.mp ran
    have first : Path Moves world [action] next := Path.start.step applied
    exact first.append (ih rest)

/-- Some steps one after the other, all of them harmless. -/
def applySafely (world : World) : List Action → Option World
  | [] => some world
  | action :: actions =>
    if Harmless world action then (world.apply action).bind fun next => applySafely next actions else none

theorem path_of_applySafely (ran : applySafely world actions = some last) : Path SafelyMoves world actions last := by
  induction actions generalizing world with
  | nil =>
    cases ran
    exact .start
  | cons action actions ih =>
    unfold applySafely at ran
    split at ran
    · next harmless =>
      obtain ⟨next, applied, rest⟩ := Option.bind_eq_some_iff.mp ran
      have first : Path SafelyMoves world [action] next := Path.start.step ⟨applied, harmless⟩
      exact first.append (ih rest)
    · cases ran

end Steps

namespace WholeMillis

/-- Instants for closed examples: every number of milliseconds has one. -/
scoped instance : UtcMillis := ⟨fun millis => some ⟨millis * 1000000⟩⟩

end WholeMillis

section Recovery
open WholeMillis

def consumer : Subscriber := ⟨"fills", "risk_gate", "consumer"⟩

def recovery : Subscriber := ⟨"fills", "risk_gate", "recovery"⟩

/-- An empty server. -/
def emptyRedis : Redis := fun _ => none

def publishFill : Action := .publish "fills" [4, 5, 6] ⟨0⟩ ⟨1, 0⟩ none

/-- A subscriber that finds nothing pending reads a message and receives it. -/
def consumed : List Action :=
  [publishFill, .subscribe consumer none, .page consumer none, .read consumer none, .send consumer,
    .receive consumer]

/-- Its reply to the read is lost on the way. -/
def replyLost : List Action :=
  [publishFill, .subscribe consumer none, .page consumer none, .read consumer (some ⟨.failed "timeout", true⟩)]

/-- A second subscriber recovers what is pending. -/
def recovered : List Action :=
  [.subscribe recovery none, .page recovery none, .claim recovery none, .send recovery, .receive recovery]

/-- What a subscriber has received. -/
def receivedBy (world : World) (name : Subscriber) : Option (List BusMessage) :=
  (world.subscriptions.lookup name).map Subscription.received

def fill : BusMessage := ⟨⟨1, 0⟩, "fills", [4, 5, 6], ⟨0⟩⟩

/-- A reader that loses the reply of its read leaves the message to the next
subscriber, which may claim it and is then its only consumer. -/
theorem one_consumer_per_message_recovered : ∃ world, receivedBy world recovery = some [fill] ∧
    ∀ topic group id first second, id ∈ givenTo world ⟨topic, group, first⟩ →
      id ∈ givenTo world ⟨topic, group, second⟩ → first = second := by
  have ran : (applySafely (.start emptyRedis) (replyLost ++ recovered)).map (fun world =>
      receivedBy world recovery) = some (some [fill]) := by decide +kernel
  obtain ⟨world, reached, taken⟩ := Option.map_eq_some_iff.mp ran
  exact ⟨world, taken, one_consumer_per_message (path_of_applySafely reached)⟩

/-- A message that a live consumer has received and not acknowledged yet is
delivered once more, to the next subscriber. -/
theorem pending_message_delivered_twice : ∃ world,
    Path Moves (.start emptyRedis) (consumed ++ recovered) world ∧
    receivedBy world consumer = some [fill] ∧ receivedBy world recovery = some [fill] := by
  have ran : (applyAll (.start emptyRedis) (consumed ++ recovered)).map (fun world =>
      (receivedBy world consumer, receivedBy world recovery)) = some (some [fill], some [fill]) := by
    decide +kernel
  obtain ⟨world, reached, both⟩ := Option.map_eq_some_iff.mp ran
  obtain ⟨one, other⟩ := Prod.mk.inj both
  exact ⟨world, path_of_applyAll reached, one, other⟩

end Recovery

end FeynmanEngine.SoleConsumers
