import Mathlib.Data.List.Sort
import FeynmanEngine.SoleConsumers

/-! Recovery among malformed entries. A subscriber claims everything pending and
decodes all of it before it sends anything, so one entry that cannot be decoded
keeps every other from being delivered. What a task has sent and has still to
send of what it recovered only grows at its end, and a subscriber that goes on
receiving gets all of it. -/
namespace FeynmanEngine.PoisonEntries
open Ids Tables RedisStreams BusMessages Channels BusDelivery SoleConsumers Traces

/-! ### What flows to the receiver -/

/-- What was sent to the receiver, received or not. -/
def sent (subscription : Subscription) : List BusMessage := subscription.received ++ subscription.channel.queue

/-- Recovered messages that were not sent yet. -/
def unsent : Phase → List BusMessage
  | .recovered messages => messages
  | .listing .. | .claiming _ | .reading | .sending _ | .ended => []

def flow (subscription : Subscription) : List BusMessage := sent subscription ++ unsent subscription.phase

@[simp] theorem sent_enter (subscription : Subscription) (phase : Phase) :
    sent (subscription.enter phase) = sent subscription := by
  cases phase <;> rfl

@[simp] theorem capacity_enter (subscription : Subscription) (phase : Phase) :
    (subscription.enter phase).channel.capacity = subscription.channel.capacity := by
  cases phase <;> rfl

@[simp] theorem unsent_sendRecovered (messages : List BusMessage) : unsent (sendRecovered messages) = messages := by
  cases messages <;> rfl

theorem flow_enter (subscription : Subscription) (phase : Phase) :
    flow (subscription.enter phase) = sent subscription ++ unsent phase := by
  rw [flow, sent_enter, phase_enter]

theorem push_some (pushed : Subscription.push subscription message = some after) :
    sent after = sent subscription ++ [message] ∧ after.channel.capacity = subscription.channel.capacity := by
  unfold Subscription.push at pushed
  split at pushed
  · cases pushed
    exact ⟨(List.append_assoc ..).symm, rfl⟩
  · cases pushed

theorem receive_some (received : Subscription.receive subscription = some after) :
    sent after = sent subscription ∧ after.phase = subscription.phase ∧
      after.channel.capacity = subscription.channel.capacity := by
  unfold Subscription.receive at received
  split at received
  · cases received
  · next message rest front =>
    cases received
    refine ⟨?_, rfl, rfl⟩
    rw [sent, sent, front, List.append_assoc, List.singleton_append]

/-! ### Listing -/

/-- Some ids, oldest first, have everything that is pending up to a bound the group was given. -/
structure Covered (redis : Redis) (name : Subscriber) (bound : WithBot MessageId) (ids : List MessageId) : Prop where
  ascending : ids.Pairwise (· < ·)
  covers : ∀ id ∈ redis.pendingIds name.topic name.group, ↑id ≤ bound → id ∈ ids
  known : bound ≤ redis.frontier name.topic name.group

/-- What becomes pending later lies beyond the bound. -/
theorem Covered.grown (covered : Covered redis name bound ids) (grown : Server.Grown redis server) :
    Covered server name bound ids where
  ascending := covered.ascending
  covers id member within := by
    rcases grown.pending name.topic name.group id member with earlier | beyond
    · exact covered.covers id earlier within
    · exact absurd within (not_le_of_gt (lt_of_le_of_lt covered.known beyond))
  known := covered.known.trans (grown.advance name.topic name.group)

theorem takePage_none (taken : takePage ids page = (now, none)) :
    now = ids ++ page.map Prod.fst ∧ page.length < pendingPageSize := by
  unfold takePage at taken
  split at taken
  · next empty =>
    cases taken
    rw [List.getLast?_eq_none_iff.mp empty]
    exact ⟨(List.append_nil _).symm, by decide⟩
  · obtain ⟨rfl, short⟩ := Prod.mk.inj taken
    split at short
    · next less => exact ⟨rfl, less⟩
    · cases short

theorem takePage_some (taken : takePage ids page = (now, some start)) :
    now = ids ++ page.map Prod.fst ∧ ∃ last, page.getLast? = some last ∧ last.1 = start := by
  unfold takePage at taken
  split at taken
  · cases taken
  · next last final =>
    obtain ⟨rfl, more⟩ := Prod.mk.inj taken
    split at more
    · cases more
    · exact ⟨rfl, last, final, Option.some.inj more⟩

section Pages
variable {redis : Redis} {name : Subscriber} {group : ConsumerGroup MessageId String} {start : WithBot MessageId}
  {ids : List MessageId}

/-- A page goes on where the listing stood. -/
theorem ascending_page (ascending : ids.Pairwise (· < ·)) (within : ∀ id ∈ ids, ↑id ≤ start) (count : Nat) :
    (ids ++ (group.pendingAfter start count).map Prod.fst).Pairwise (· < ·) := by
  refine List.pairwise_append.mpr ⟨ascending, List.pairwise_map.mpr (group.pendingAfter_sorted start count), ?_⟩
  intro earlier listed later paged
  obtain ⟨entry, member, rfl⟩ := List.mem_map.mp paged
  exact WithBot.coe_lt_coe.mp (lt_of_le_of_lt (within earlier listed) (ConsumerGroup.mem_pendingAfter member).2)

/-- What is pending was listed before or is on the page. -/
theorem mem_paged {id : MessageId} (found : redis.group name.topic name.group = some group)
    (covered : Covered redis name start ids) (pending : id ∈ redis.pendingIds name.topic name.group)
    (onPage : ∀ entry ∈ group.pending, start < ↑entry.1 → entry.1 = id → entry ∈ group.pendingAfter start count) :
    id ∈ ids ++ (group.pendingAfter start count).map Prod.fst := by
  by_cases before : ↑id ≤ start
  · exact List.mem_append_left _ (covered.covers id pending before)
  · rw [Server.pendingIds_of_group found] at pending
    obtain ⟨entry, held, rfl⟩ := List.mem_map.mp pending
    exact List.mem_append_right _ (List.mem_map_of_mem (onPage entry held (lt_of_not_ge before) rfl))

/-- With the last page everything pending is listed. -/
theorem covered_last (found : redis.group name.topic name.group = some group)
    (covered : Covered redis name start ids) (within : ∀ id ∈ ids, ↑id ≤ start)
    (short : (group.pendingAfter start count).length < count)
    (reached : reach ≤ redis.frontier name.topic name.group) :
    Covered redis name reach (ids ++ (group.pendingAfter start count).map Prod.fst) where
  ascending := ascending_page covered.ascending within count
  covers _ pending _ :=
    mem_paged found covered pending fun _ held after _ => ConsumerGroup.mem_of_short_page short held after
  known := reached

/-- With a full page everything pending up to its end is listed. -/
theorem covered_full (found : redis.group name.topic name.group = some group)
    (covered : Covered redis name start ids) (within : ∀ id ∈ ids, ↑id ≤ start)
    (ends : (group.pendingAfter start count).getLast? = some final) :
    Covered redis name final.1 (ids ++ (group.pendingAfter start count).map Prod.fst) ∧
      ∀ id ∈ ids ++ (group.pendingAfter start count).map Prod.fst, ↑id ≤ (final.1 : WithBot MessageId) := by
  obtain ⟨held, beyond⟩ := ConsumerGroup.mem_pendingAfter (List.mem_of_getLast? ends)
  refine ⟨⟨ascending_page covered.ascending within count, fun _ pending upto => ?_, ?_⟩, fun id member => ?_⟩
  · refine mem_paged found covered pending fun entry held after same => ?_
    rw [← same] at upto
    exact ConsumerGroup.mem_page_of_le ends held after (WithBot.coe_le_coe.mp upto)
  · rw [Server.frontier_of_group found]
    exact group.behind final held
  · rcases List.mem_append.mp member with earlier | paged
    · exact (within id earlier).trans (le_of_lt beyond)
    · obtain ⟨entry, listed, rfl⟩ := List.mem_map.mp paged
      have last := ConsumerGroup.le_lastOf (group.pendingAfter_sorted start count) ⊥ listed
      unfold ConsumerGroup.lastOf at last
      rwa [ends] at last

end Pages

/-- A task that lists or claims has sent nothing, and misses nothing that was
pending up to `reach`. -/
def Collects (reach : WithBot MessageId) (redis : Redis) (name : Subscriber) (subscription : Subscription) : Prop :=
  match subscription.phase with
  | .listing start ids => sent subscription = [] ∧ Covered redis name start ids ∧ ∀ id ∈ ids, ↑id ≤ start
  | .claiming ids => sent subscription = [] ∧ Covered redis name reach ids
  | .recovered _ | .reading | .sending _ | .ended => True

theorem Collects.grown (collects : Collects reach redis name subscription) (grown : Server.Grown redis server) :
    Collects reach server name subscription := by
  unfold Collects at collects ⊢
  split at collects
  · exact ⟨collects.1, collects.2.1.grown grown, collects.2.2⟩
  · exact ⟨collects.1, collects.2.grown grown⟩
  · trivial
  · trivial
  · trivial
  · trivial

theorem collects_page (nothing : sent subscription = []) (covered : Covered redis name start ids)
    (within : ∀ id ∈ ids, ↑id ≤ start) (reached : reach ≤ redis.frontier name.topic name.group)
    (replied : ∀ page, reply = .ok page → redis.xpending name.topic name.group start pendingPageSize = .ok page) :
    Collects reach redis name (subscription.enter (onPage ids reply)) := by
  cases reply with
  | error error => exact trivial
  | ok page =>
    have answered := replied page rfl
    unfold Server.xpending at answered
    split at answered
    · next group found =>
      obtain rfl := Except.ok.inj answered
      unfold onPage
      dsimp only
      split
      · next now last =>
        obtain ⟨rfl, short⟩ := takePage_none last
        have all := covered_last found covered within short reached
        revert all
        cases ids ++ (group.pendingAfter start pendingPageSize).map Prod.fst with
        | nil => exact fun _ => trivial
        | cons id rest => exact fun all => ⟨nothing, all⟩
      · next now last more =>
        obtain ⟨rfl, final, ends, rfl⟩ := takePage_some more
        exact ⟨nothing, covered_full found covered within ends⟩
    · cases answered

/-- Beyond its claim a task neither lists nor claims again. -/
def Claimed (phase : Phase) : Prop :=
  match phase with
  | .listing .. | .claiming _ => False
  | .recovered _ | .reading | .sending _ | .ended => True

theorem collects_enter (subscription : Subscription) (claimed : Claimed phase) :
    Collects reach redis name (subscription.enter phase) := by
  unfold Collects
  rw [phase_enter]
  cases phase with
  | listing | claiming => exact claimed.elim
  | recovered | reading | sending | ended => trivial

theorem claimed_sendRecovered (messages : List BusMessage) : Claimed (sendRecovered messages) := by
  cases messages <;> trivial

theorem claimed_sendEntries (entries : List (MessageId × StreamFields)) : Claimed (sendEntries entries) := by
  cases entries <;> trivial

theorem claimed_onRead (reply : Except RedisError (Option (List (MessageId × StreamFields)))) :
    Claimed (onRead reply) := by
  unfold onRead
  split
  · trivial
  · exact claimed_sendEntries _
  · split <;> trivial

/-! ### Receiving on -/

/-- How many own steps are to come. -/
def remaining (subscription : Subscription) : Nat :=
  2 * (unsent subscription.phase).length + subscription.channel.queue.length

/-- What a step of their own leaves of a subscription. -/
structure Forwards (subscription after : Subscription) : Prop where
  flows : flow after = flow subscription
  capacity : after.channel.capacity = subscription.channel.capacity
  fewer : remaining after < remaining subscription

theorem receive_forwards (queue : subscription.channel.queue = message :: rest) :
    ∃ after, Subscription.receive subscription = some after ∧ Forwards subscription after := by
  unfold Subscription.receive
  rw [queue]
  refine ⟨_, rfl, ?_, rfl, ?_⟩
  · rw [flow, flow, sent, sent, queue, List.append_assoc subscription.received [message] rest]
    rfl
  · unfold remaining
    rw [queue]
    exact Nat.lt_succ_self _

theorem move_of {world : World} {change : Redis → Subscription → Option (Redis × Subscription)}
    (found : world.subscriptions.lookup name = some subscription)
    (changed : change world.redis subscription = some (redis, after)) :
    world.move name change = some ⟨redis, world.subscriptions.insert name after⟩ := by
  unfold World.move
  rw [found]
  dsimp only
  rw [changed]

section Delivery
variable [UtcMillis]

/-! ### Turns of a task -/

/-- What a step makes of the subscription it moves. -/
inductive Turn (name : Subscriber) (redis : Redis) : Subscription → Subscription → Prop
  | page (listing : subscription.phase = .listing start ids)
      (replied : ∀ page, reply = .ok page → redis.xpending name.topic name.group start pendingPageSize = .ok page) :
      Turn name redis subscription (subscription.enter (onPage ids reply))
  | claim (claiming : subscription.phase = .claiming ids)
      (reply : Except RedisError (List (MessageId × StreamFields))) :
      Turn name redis subscription (subscription.enter (Subscription.onClaimed name.topic reply))
  | read (reading : subscription.phase = .reading)
      (reply : Except RedisError (Option (List (MessageId × StreamFields)))) :
      Turn name redis subscription (subscription.enter (onRead reply))
  | send (sent : Subscription.send name.topic subscription = some after) : Turn name redis subscription after
  | receive (received : Subscription.receive subscription = some after) : Turn name redis subscription after

theorem turn_of_page {failure : Option Failure}
    (paged : Subscription.page failure name redis subscription = some (server, after)) :
    Turn name redis subscription after ∧ Server.Grown redis server := by
  unfold Subscription.page at paged
  split at paged
  · next start ids listing =>
    cases paged
    refine ⟨.page listing fun page replied => ?_, call_grown failure (.refl redis)⟩
    exact (call_ok replied).2.1
  · cases paged

theorem turn_of_claim {failure : Option Failure}
    (claimed : Subscription.claim failure name redis subscription = some (server, after)) :
    Turn name redis subscription after ∧ Server.Grown redis server := by
  unfold Subscription.claim at claimed
  split at claimed
  · next ids claiming =>
    cases claimed
    exact ⟨.claim claiming _, call_grown failure (Server.grown_xclaim redis ..)⟩
  · cases claimed

theorem turn_of_read {failure : Option Failure}
    (fetched : Subscription.read failure name redis subscription = some (server, after)) :
    Turn name redis subscription after ∧ Server.Grown redis server := by
  unfold Subscription.read at fetched
  split at fetched
  · next reading =>
    cases fetched
    exact ⟨.read reading _, call_grown failure (Server.grown_xreadgroup redis ..)⟩
  · cases fetched

/-- A subscription is left alone or takes a turn, on a server that grows. -/
theorem turn_of_move {world : World} {change : Redis → Subscription → Option (Redis × Subscription)}
    (moved : world.move mover change = some next)
    (turns : ∀ subscription redis after, change world.redis subscription = some (redis, after) →
      Turn mover world.redis subscription after ∧ Server.Grown world.redis redis)
    (found : world.subscriptions.lookup name = some subscription) :
    Server.Grown world.redis next.redis ∧ ∃ after, next.subscriptions.lookup name = some after ∧
      (after = subscription ∨ Turn name world.redis subscription after) := by
  obtain ⟨moving, redis, after, held, changed, rfl⟩ := move_some moved
  obtain ⟨turn, grown⟩ := turns moving redis after changed
  refine ⟨grown, ?_⟩
  rw [lookup_insert_if]
  by_cases same : name = mover
  · subst same
    obtain rfl : subscription = moving := Option.some.inj (found.symm.trans held)
    rw [if_pos rfl]
    exact ⟨after, rfl, Or.inr turn⟩
  · rw [if_neg same]
    exact ⟨subscription, found, Or.inl rfl⟩

theorem turn_of_apply (applied : World.apply world action = some next)
    (found : world.subscriptions.lookup name = some subscription) :
    Server.Grown world.redis next.redis ∧ ∃ after, next.subscriptions.lookup name = some after ∧
      (after = subscription ∨ Turn name world.redis subscription after) := by
  cases action with
  | publish topic payload now id failure =>
    obtain ⟨result, published, rfl⟩ := Option.map_eq_some_iff.mp applied
    exact ⟨grown_publish published, subscription, found, Or.inl rfl⟩
  | subscribe other failure =>
    have grown := grown_ensureGroup failure world.redis other.topic other.group
    rw [← (subscribe_cases failure world.redis other).1] at grown
    have subscribed : World.subscribe failure world other = some next := applied
    unfold World.subscribe at subscribed
    split at subscribed
    · cases subscribed
    · next missing =>
      split at subscribed
      · next redis error opened =>
        cases subscribed
        rw [opened] at grown
        exact ⟨grown, subscription, found, Or.inl rfl⟩
      · next redis opening opened =>
        cases subscribed
        rw [opened] at grown
        refine ⟨grown, subscription, ?_, Or.inl rfl⟩
        have differ : name ≠ other := by
          rintro rfl
          rw [missing] at found
          cases found
        rw [lookup_insert_if, if_neg differ]
        exact found
  | page mover failure => exact turn_of_move applied (fun _ _ _ paged => turn_of_page paged) found
  | claim mover failure => exact turn_of_move applied (fun _ _ _ claimed => turn_of_claim claimed) found
  | read mover failure => exact turn_of_move applied (fun _ _ _ fetched => turn_of_read fetched) found
  | send mover =>
    have moved : world.move mover (fun redis subscription => (subscription.send mover.topic).map fun sent =>
      (redis, sent)) = some next := applied
    refine turn_of_move moved (fun subscription redis after changed => ?_) found
    obtain ⟨sent, put, same⟩ := Option.map_eq_some_iff.mp changed
    cases same
    exact ⟨.send put, .refl world.redis⟩
  | receive mover =>
    have moved : world.move mover (fun redis subscription => subscription.receive.map fun taken =>
      (redis, taken)) = some next := applied
    refine turn_of_move moved (fun subscription redis after changed => ?_) found
    obtain ⟨taken, put, same⟩ := Option.map_eq_some_iff.mp changed
    cases same
    exact ⟨.receive put, .refl world.redis⟩
  | ack topic group id failure =>
    cases applied
    exact ⟨grown_ack failure world.redis topic group id, subscription, found, Or.inl rfl⟩

/-! ### Delivery -/

/-- A send takes the next message of what is to come, or gives up. -/
theorem flow_send (put : Subscription.send topic subscription = some after) :
    flow subscription <+: flow after ∧ after.channel.capacity = subscription.channel.capacity := by
  unfold Subscription.send at put
  split at put
  · next message rest phase =>
    obtain ⟨pushed, done, rfl⟩ := Option.map_eq_some_iff.mp put
    obtain ⟨sends, capacity⟩ := push_some done
    rw [flow_enter, sends, unsent_sendRecovered, capacity_enter, flow, phase, List.append_assoc]
    exact ⟨List.prefix_refl _, capacity⟩
  · next id fields rest phase =>
    have nothing : flow subscription = sent subscription := by
      rw [flow, phase]
      exact List.append_nil _
    rw [nothing]
    split at put
    · cases put
      rw [flow_enter, capacity_enter]
      exact ⟨List.prefix_append _ _, rfl⟩
    · obtain ⟨pushed, done, rfl⟩ := Option.map_eq_some_iff.mp put
      obtain ⟨sends, capacity⟩ := push_some done
      rw [flow_enter, sends, capacity_enter, List.append_assoc]
      exact ⟨List.prefix_append _ _, capacity⟩
  · cases put

/-- What flows to the receiver grows at its end. -/
theorem flow_turn (turn : Turn name redis subscription after) :
    flow subscription <+: flow after ∧ after.channel.capacity = subscription.channel.capacity := by
  have entered {phase : Phase} (nothing : unsent subscription.phase = []) :
      flow subscription <+: flow (subscription.enter phase) ∧
        (subscription.enter phase).channel.capacity = subscription.channel.capacity := by
    rw [flow_enter, flow, nothing, List.append_nil]
    exact ⟨List.prefix_append _ _, capacity_enter subscription phase⟩
  cases turn with
  | page listing => exact entered (by rw [listing]; rfl)
  | claim claiming => exact entered (by rw [claiming]; rfl)
  | read reading => exact entered (by rw [reading]; rfl)
  | send put => exact flow_send put
  | receive received =>
    obtain ⟨kept, phase, capacity⟩ := receive_some received
    rw [flow, flow, kept, phase]
    exact ⟨List.prefix_refl _, capacity⟩

theorem flow_run (run : Path Moves world actions later)
    (found : world.subscriptions.lookup name = some subscription) :
    ∃ after, later.subscriptions.lookup name = some after ∧ flow subscription <+: flow after ∧
      after.channel.capacity = subscription.channel.capacity := by
  induction run with
  | start => exact ⟨subscription, found, List.prefix_refl _, rfl⟩
  | step run move ih =>
    obtain ⟨between, reached, flows, capacity⟩ := ih
    obtain ⟨-, after, kept, rfl | turn⟩ := turn_of_apply move reached
    · exact ⟨after, kept, flows, capacity⟩
    · obtain ⟨more, same⟩ := flow_turn turn
      exact ⟨after, kept, flows.trans more, same.trans capacity⟩

/-- A task that ended with nothing sent takes no turn. -/
theorem silent_run (run : Path Moves world actions later)
    (found : world.subscriptions.lookup name = some subscription) (ended : subscription.phase = .ended)
    (nothing : sent subscription = []) : later.subscriptions.lookup name = some subscription := by
  have still {redis : Redis} {after : Subscription} : ¬ Turn name redis subscription after := by
    intro turn
    cases turn with
    | page listing => cases ended.symm.trans listing
    | claim claiming => cases ended.symm.trans claiming
    | read reading => cases ended.symm.trans reading
    | send put =>
      unfold Subscription.send at put
      rw [ended] at put
      cases put
    | receive received =>
      unfold Subscription.receive at received
      rw [(List.append_eq_nil_iff.mp nothing).2] at received
      cases received
  induction run with
  | start => exact found
  | step run move ih =>
    obtain ⟨-, after, kept, rfl | turn⟩ := turn_of_apply move ih
    · exact kept
    · exact (still turn).elim

/-- The steps that a subscriber and its task take without the server. -/
def Own (name : Subscriber) (action : Action) : Prop := action = .send name ∨ action = .receive name

theorem send_forwards (topic : String) (queue : subscription.channel.queue = [])
    (room : 0 < subscription.channel.capacity) (waiting : subscription.phase = .recovered (message :: rest)) :
    ∃ after, Subscription.send topic subscription = some after ∧ Forwards subscription after := by
  have pushed : subscription.push message = some { subscription with
      channel := { subscription.channel with queue := [message] } } := by
    unfold Subscription.push
    rw [queue, if_pos (by exact room)]
    rfl
  unfold Subscription.send
  rw [waiting]
  dsimp only
  rw [pushed]
  refine ⟨_, rfl, ?_, capacity_enter .., ?_⟩
  · rw [flow_enter, unsent_sendRecovered, flow, waiting, sent, sent, queue, List.append_nil, List.append_assoc]
    rfl
  · have queued (phase : Phase) : (Subscription.enter { subscription with
        channel := { subscription.channel with queue := [message] } } phase).channel.queue = [message] := by
      cases phase <;> rfl
    rw [remaining, remaining, queued, phase_enter, unsent_sendRecovered, queue, waiting]
    simp only [unsent, List.length_cons, List.length_nil]
    omega

/-- Unless everything was received, the task can send or the subscriber receive. -/
theorem own_step {world : World} (found : world.subscriptions.lookup name = some subscription)
    (room : 0 < subscription.channel.capacity) (behind : subscription.received ≠ flow subscription) :
    ∃ action after, Own name action ∧ Forwards subscription after ∧
      Moves world action ⟨world.redis, world.subscriptions.insert name after⟩ := by
  cases queue : subscription.channel.queue with
  | cons message rest =>
    obtain ⟨after, received, forwards⟩ := receive_forwards queue
    have moved : world.move name (fun redis subscription => subscription.receive.map fun taken => (redis, taken)) =
        some ⟨world.redis, world.subscriptions.insert name after⟩ := by
      apply move_of found
      rw [received, Option.map_some]
    exact ⟨.receive name, after, Or.inr rfl, forwards, moved⟩
  | nil =>
    have taken : sent subscription = subscription.received := by
      rw [sent, queue, List.append_nil]
    cases waiting : subscription.phase with
    | recovered messages =>
      cases messages with
      | nil =>
        rw [flow, taken, waiting] at behind
        exact absurd (List.append_nil _).symm behind
      | cons message rest =>
        obtain ⟨after, put, forwards⟩ := send_forwards name.topic queue room waiting
        have moved : world.move name (fun redis subscription => (subscription.send name.topic).map fun sent =>
            (redis, sent)) = some ⟨world.redis, world.subscriptions.insert name after⟩ := by
          apply move_of found
          rw [put, Option.map_some]
        exact ⟨.send name, after, Or.inl rfl, forwards, moved⟩
    | listing | claiming | reading | sending | ended =>
      rw [flow, taken, waiting] at behind
      exact absurd (List.append_nil _).symm behind

/-- A subscriber that goes on receiving gets everything that flows to it. -/
theorem drains {world : World} (found : world.subscriptions.lookup name = some subscription)
    (room : 0 < subscription.channel.capacity) :
    ∃ own last after, (∀ action ∈ own, Own name action) ∧ Path Moves world own last ∧
      last.subscriptions.lookup name = some after ∧ after.received = flow subscription := by
  generalize size : remaining subscription = steps
  induction steps using Nat.strong_induction_on generalizing world subscription with
  | _ steps ih =>
    by_cases behind : subscription.received = flow subscription
    · exact ⟨[], world, subscription, List.forall_mem_nil _, .start, found, behind⟩
    · obtain ⟨action, next, owned, forwards, move⟩ := own_step found room behind
      have reached : (world.subscriptions.insert name next).lookup name = some next := by
        rw [lookup_insert_if, if_pos rfl]
      have smaller : remaining next < steps := size ▸ forwards.fewer
      have fits : 0 < next.channel.capacity := by
        rw [forwards.capacity]
        exact room
      obtain ⟨actions, last, after, own, run, kept, received⟩ :=
        @ih _ smaller next ⟨world.redis, world.subscriptions.insert name next⟩ reached fits rfl
      have first : Path Moves world [action] ⟨world.redis, world.subscriptions.insert name next⟩ :=
        Path.start.step move
      refine ⟨action :: actions, last, after, ?_, first.append run, kept, received.trans forwards.flows⟩
      exact List.forall_mem_cons.mpr ⟨owned, own⟩

/-! ### Up to the claim -/

theorem claimed_onClaimed (topic : String) (reply : Except RedisError (List (MessageId × StreamFields))) :
    Claimed (Subscription.onClaimed topic reply) := by
  unfold Subscription.onClaimed
  split
  · trivial
  · split
    · trivial
    · exact claimed_sendRecovered _

theorem collects_turn (turn : Turn name redis subscription after)
    (reached : reach ≤ redis.frontier name.topic name.group) (collects : Collects reach redis name subscription) :
    Collects reach redis name after := by
  cases turn with
  | page listing replied =>
    unfold Collects at collects
    rw [listing] at collects
    exact collects_page collects.1 collects.2.1 collects.2.2 reached replied
  | claim claiming reply => exact collects_enter subscription (claimed_onClaimed name.topic reply)
  | read reading reply => exact collects_enter subscription (claimed_onRead reply)
  | send put =>
    unfold Subscription.send at put
    split at put
    · obtain ⟨pushed, -, rfl⟩ := Option.map_eq_some_iff.mp put
      exact collects_enter pushed (claimed_sendRecovered _)
    · split at put
      · cases put
        exact collects_enter subscription trivial
      · obtain ⟨pushed, -, rfl⟩ := Option.map_eq_some_iff.mp put
        exact collects_enter pushed (claimed_sendEntries _)
    · cases put
  | receive received =>
    obtain ⟨kept, phase, -⟩ := receive_some received
    unfold Collects at collects ⊢
    rw [phase, kept]
    exact collects

/-- From the call of `subscribe` on a task collects what was pending then. -/
theorem collects_run (run : Path Moves first actions world) (opened : first.subscriptions.lookup name = some .fresh) :
    first.redis.frontier name.topic name.group ≤ world.redis.frontier name.topic name.group ∧
    ∃ subscription, world.subscriptions.lookup name = some subscription ∧
      Collects (first.redis.frontier name.topic name.group) world.redis name subscription := by
  induction run with
  | start =>
    refine ⟨le_refl _, .fresh, opened, rfl, ⟨.nil, fun id _ within => ?_, bot_le⟩, List.forall_mem_nil _⟩
    exact absurd within (not_le_of_gt (WithBot.bot_lt_coe id))
  | step run move ih =>
    obtain ⟨reached, subscription, found, collects⟩ := ih
    obtain ⟨grown, after, kept, moved⟩ := turn_of_apply move found
    refine ⟨reached.trans (grown.advance _ _), after, kept, ?_⟩
    rcases moved with rfl | turn
    · exact collects.grown grown
    · exact (collects_turn turn reached collects).grown grown

/-! ### Poison -/

/-- An entry that decodes. -/
def WellFormed (topic : String) (entry : MessageId × StreamFields) : Prop :=
  ∃ message, streamEntryToMessage topic entry.1 entry.2 = .ok message

instance (topic : String) (entry : MessageId × StreamFields) : Decidable (WellFormed topic entry) :=
  decidable_of_iff ((streamEntryToMessage topic entry.1 entry.2).isOk = true) <| by
    unfold WellFormed
    cases streamEntryToMessage topic entry.1 entry.2 with
    | error error => simp [Except.isOk, Except.toBool]
    | ok message => simp [Except.isOk, Except.toBool]

/-- The messages of the well-formed entries. -/
def messagesOf (topic : String) (entries : List (MessageId × StreamFields)) : List BusMessage :=
  entries.filterMap fun entry => (streamEntryToMessage topic entry.1 entry.2).toOption

theorem decodeEntries_ok {entries : List (MessageId × StreamFields)}
    (all : ∀ entry ∈ entries, WellFormed topic entry) :
    decodeEntries topic entries = .ok (messagesOf topic entries) := by
  induction entries with
  | nil => rfl
  | cons entry entries ih =>
    obtain ⟨message, decoded⟩ := all entry List.mem_cons_self
    have rest := ih fun later member => all later (List.mem_cons_of_mem _ member)
    unfold decodeEntries messagesOf
    rw [List.filterMap_cons, decoded]
    dsimp only [Except.toOption]
    rw [rest]
    rfl

/-- One entry that does not decode is an error for all. -/
theorem decodeEntries_error {entries : List (MessageId × StreamFields)}
    (poison : ∃ entry ∈ entries, ¬ WellFormed topic entry) :
    ∃ error, decodeEntries topic entries = .error error := by
  induction entries with
  | nil =>
    obtain ⟨entry, member, -⟩ := poison
    cases member
  | cons entry entries ih =>
    unfold decodeEntries
    cases decoded : streamEntryToMessage topic entry.1 entry.2 with
    | error error => exact ⟨error, rfl⟩
    | ok message =>
      obtain ⟨bad, member, malformed⟩ := poison
      rcases List.mem_cons.mp member with rfl | later
      · exact absurd ⟨message, decoded⟩ malformed
      · obtain ⟨error, rest⟩ := ih ⟨bad, later, malformed⟩
        exact ⟨error, by rw [rest]; rfl⟩

theorem messagesOf_eq_nil {entries : List (MessageId × StreamFields)} :
    messagesOf topic entries = [] ↔ ∀ entry ∈ entries, ¬ WellFormed topic entry := by
  unfold messagesOf
  rw [List.filterMap_eq_nil_iff]
  refine forall₂_congr fun entry _ => ?_
  unfold WellFormed
  cases streamEntryToMessage topic entry.1 entry.2 with
  | error error => simp [Except.toOption]
  | ok message => simp [Except.toOption]

/-- Messages come in the order of their entries. -/
theorem messagesOf_ascending (topic : String) {entries : List (MessageId × StreamFields)}
    (increasing : entries.Pairwise fun earlier later => earlier.1 < later.1) :
    ((messagesOf topic entries).map BusMessage.id).Pairwise (· < ·) := by
  have own {entry : MessageId × StreamFields} {message : BusMessage}
      (decoded : (streamEntryToMessage topic entry.1 entry.2).toOption = some message) : message.id = entry.1 := by
    cases found : streamEntryToMessage topic entry.1 entry.2 with
    | error error =>
      rw [found] at decoded
      cases decoded
    | ok other =>
      rw [found] at decoded
      cases decoded
      exact (streamEntryToMessage_ok found).1
  refine List.pairwise_map.mpr (List.pairwise_filterMap.mpr (increasing.imp fun less one first other second => ?_))
  rw [own first, own second]
  exact less

/-- What the claim of a task's listing is answered with. -/
def claimedEntries (world : World) (name : Subscriber) : List (MessageId × StreamFields) :=
  match world.redis.group name.topic name.group with
  | some group => (world.redis.stream name.topic).claimed group (listed world name)
  | none => []

/-- The entries that were pending in the group and still are, oldest first. -/
def pendingSince (first world : World) (name : Subscriber) : List (MessageId × StreamFields) :=
  (world.redis.stream name.topic).entries.filter fun entry =>
    entry.1 ∈ first.redis.pendingIds name.topic name.group ∧ entry.1 ∈ world.redis.pendingIds name.topic name.group

/-- Wherever a run stands, a subscriber that goes on receiving gets some
messages, in the order of their ids. -/
def Recovers (after : World) (name : Subscriber) (messages : List BusMessage) : Prop :=
  (messages.map BusMessage.id).Pairwise (· < ·) ∧ ∀ more later, Path Moves after more later →
    ∃ own last received, (∀ action ∈ own, Own name action) ∧ Path Moves later own last ∧
      receivedBy last name = some received ∧ messages.Sublist received

/-- A claim that is answered goes on with the entries it is answered with; without
its group there are none. -/
theorem claim_some (claimed : World.apply world (.claim name none) = some after) :
    ∃ subscription ids phase, world.subscriptions.lookup name = some subscription ∧
      subscription.phase = .claiming ids ∧ listed world name = ids ∧
      after.subscriptions.lookup name = some (subscription.enter phase) ∧
      (phase = Subscription.onClaimed name.topic (.ok (claimedEntries world name)) ∨
        claimedEntries world name = [] ∧ phase = .ended) := by
  obtain ⟨subscription, redis, next, found, answered, rfl⟩ := move_some claimed
  unfold Subscription.claim at answered
  split at answered
  · next ids claiming =>
    cases answered
    have wanted : listed world name = ids := by
      unfold listed
      rw [found, Option.map_some, claiming]
    refine ⟨subscription, ids, Subscription.onClaimed name.topic
      (call none world.redis (world.redis.xclaim name.topic name.group name.consumer ids)).2,
      found, claiming, wanted, ?_, ?_⟩
    · rw [lookup_insert_if, if_pos rfl]
    · unfold claimedEntries Server.xclaim
      rw [wanted]
      cases world.redis.group name.topic name.group with
      | some group => exact Or.inl rfl
      | none => exact Or.inr ⟨rfl, rfl⟩
  · cases answered

/-- Everything that stayed pending from the call of `subscribe` to the claim is claimed. -/
theorem pendingSince_claimed (opened : first.subscriptions.lookup name = some .fresh)
    (run : Path Moves first actions world) (found : world.subscriptions.lookup name = some subscription)
    (claiming : subscription.phase = .claiming ids) (wanted : listed world name = ids) :
    sent subscription = [] ∧ (pendingSince first world name).Sublist (claimedEntries world name) := by
  obtain ⟨-, same, held, collects⟩ := collects_run run opened
  obtain rfl : subscription = same := Option.some.inj (found.symm.trans held)
  unfold Collects at collects
  rw [claiming] at collects
  obtain ⟨nothing, covered⟩ := collects
  have ordered := (world.redis.stream name.topic).increasing.sublist (List.filter_sublist
    (p := fun entry => entry.1 ∈ first.redis.pendingIds name.topic name.group ∧
      entry.1 ∈ world.redis.pendingIds name.topic name.group))
  refine ⟨nothing, ?_⟩
  unfold claimedEntries
  rw [wanted]
  split
  · next group standing =>
    refine RedisStream.sublist_of_subset ordered (RedisStream.claimed_increasing _ _ covered.ascending) ?_
    intro entry member
    obtain ⟨stored, pending⟩ := List.mem_filter.mp member
    obtain ⟨before, now⟩ := of_decide_eq_true pending
    have listed := covered.covers entry.1 now (Server.le_of_pendingIds before)
    exact RedisStream.claimed_of_mem stored (Server.mem_stillPending standing now listed)
  · next missing =>
    have none : pendingSince first world name = [] := by
      refine List.filter_eq_nil_iff.mpr fun entry _ pending => ?_
      have now := (of_decide_eq_true pending).2
      rw [Server.pendingIds, missing] at now
      cases now
    rw [none]

theorem recovers_of_flow (found : after.subscriptions.lookup name = some subscription)
    (room : 0 < subscription.channel.capacity) (flows : messages.Sublist (flow subscription))
    (ordered : (messages.map BusMessage.id).Pairwise (· < ·)) : Recovers after name messages := by
  refine ⟨ordered, fun more later run => ?_⟩
  obtain ⟨next, reached, grows, capacity⟩ := flow_run run found
  obtain ⟨own, last, final, owned, drained, kept, received⟩ := drains reached (capacity ▸ room)
  refine ⟨own, last, final.received, owned, drained, ?_, ?_⟩
  · rw [receivedBy, kept, Option.map_some]
  · rw [received]
    exact flows.trans grows.sublist

/-- A task that ended with nothing sent recovers nothing. -/
theorem nothing_of_ended (found : after.subscriptions.lookup name = some subscription)
    (ended : subscription.phase = .ended) (nothing : sent subscription = [])
    (recovers : Recovers after name messages) : messages = [] := by
  obtain ⟨own, last, received, -, run, taken, sublist⟩ := recovers.2 [] after .start
  rw [receivedBy, silent_run run found ended nothing, Option.map_some] at taken
  rw [← Option.some.inj taken, (List.append_eq_nil_iff.mp nothing).1] at sublist
  exact List.sublist_nil.mp sublist

/-- With one malformed entry among those claimed no message is ever delivered. -/
theorem nothing_of_poison (opened : first.subscriptions.lookup name = some .fresh)
    (run : Path Moves first actions world) (claimed : world.apply (.claim name none) = some after)
    (poison : ∃ entry ∈ claimedEntries world name, ¬ WellFormed name.topic entry)
    (recovers : Recovers after name messages) : messages = [] := by
  obtain ⟨subscription, ids, phase, found, claiming, wanted, reached, answer⟩ := claim_some claimed
  have nothing : sent (subscription.enter phase) = [] := by
    rw [sent_enter]
    exact (pendingSince_claimed opened run found claiming wanted).1
  rcases answer with rfl | ⟨none, -⟩
  · obtain ⟨error, refused⟩ := decodeEntries_error poison
    have ended : Subscription.onClaimed name.topic (.ok (claimedEntries world name)) = .ended := by
      unfold Subscription.onClaimed
      dsimp only
      rw [refused]
    rw [ended] at reached nothing
    exact nothing_of_ended reached rfl nothing recovers
  · obtain ⟨entry, member, -⟩ := poison
    rw [none] at member
    cases member

/-- With none malformed every message that stayed pending is. -/
theorem recovers_of_well_formed (opened : first.subscriptions.lookup name = some .fresh)
    (run : Path Moves first actions world) (claimed : world.apply (.claim name none) = some after)
    (sound : (∀ entry ∈ claimedEntries world name, WellFormed name.topic entry) ∨
      ∀ entry ∈ pendingSince first world name, ¬ WellFormed name.topic entry) :
    Recovers after name (messagesOf name.topic (pendingSince first world name)) := by
  obtain ⟨subscription, ids, phase, found, claiming, wanted, reached, answer⟩ := claim_some claimed
  obtain ⟨nothing, listed⟩ := pendingSince_claimed opened run found claiming wanted
  have room : 0 < (subscription.enter phase).channel.capacity := by
    obtain ⟨same, held, -, capacity⟩ := flow_run run opened
    obtain rfl : subscription = same := Option.some.inj (found.symm.trans held)
    rw [capacity_enter, capacity]
    exact Nat.zero_lt_succ _
  have ordered := messagesOf_ascending name.topic
    ((world.redis.stream name.topic).increasing.sublist (List.filter_sublist
      (p := fun entry => entry.1 ∈ first.redis.pendingIds name.topic name.group ∧
        entry.1 ∈ world.redis.pendingIds name.topic name.group)))
  refine recovers_of_flow reached room ?_ ordered
  rcases sound with all | malformed
  · rcases answer with rfl | ⟨none, -⟩
    · unfold Subscription.onClaimed
      dsimp only
      rw [decodeEntries_ok all, flow_enter, nothing, List.nil_append, unsent_sendRecovered]
      exact listed.filterMap _
    · rw [none] at listed
      rw [List.sublist_nil.mp listed]
      exact List.nil_sublist _
  · rw [messagesOf_eq_nil.mpr malformed]
    exact List.nil_sublist _

/-- The recovery delivers what has been pending and is well-formed, in the order
of ids and whatever else happens, exactly if all entries claimed are well-formed
or none of those pending is. -/
theorem recovery_unblocked_iff (opened : first.subscriptions.lookup name = some .fresh)
    (run : Path Moves first actions world) (claimed : world.apply (.claim name none) = some after) :
    Recovers after name (messagesOf name.topic (pendingSince first world name)) ↔
      (∀ entry ∈ claimedEntries world name, WellFormed name.topic entry) ∨
        ∀ entry ∈ pendingSince first world name, ¬ WellFormed name.topic entry := by
  constructor
  · intro recovers
    by_cases all : ∀ entry ∈ claimedEntries world name, WellFormed name.topic entry
    · exact Or.inl all
    · push Not at all
      exact Or.inr (messagesOf_eq_nil.mp (nothing_of_poison opened run claimed all recovers))
  · exact recovers_of_well_formed opened run claimed

/-! ### Two recoveries -/

theorem fresh_of_subscribe (subscribed : World.apply world (.subscribe name failure) = some first)
    (held : first.subscriptions.lookup name = some subscription) : subscription = .fresh := by
  have started := (subscribe_cases failure world.redis name).2
  have opened : World.subscribe failure world name = some first := subscribed
  unfold World.subscribe at opened
  split at opened
  · cases opened
  · next missing =>
    split at opened
    · cases opened
      rw [missing] at held
      cases held
    · next redis fresh done =>
      cases opened
      rw [lookup_insert_if, if_pos rfl] at held
      rw [done] at started
      rw [← Option.some.inj held]
      exact started fresh rfl

end Delivery

section Fills
open WholeMillis

/-- A server on which an entry with none but a foreign field waits. -/
def poisonedRedis : Redis :=
  (emptyRedis.xadd "fills" ⟨0, 1⟩ ((∅ : StreamFields).insert "foreign" "1")).getD emptyRedis

/-- A reader loses the reply of its read; what it was given is left to the next
subscriber, before whose page, whose claim and after which these are the worlds. -/
def leftBehind (redis : Redis) : Option (World × World × World) :=
  (applyAll (.start redis) replyLost).bind fun before =>
    (before.apply (.subscribe recovery none)).bind fun first =>
      (applyAll first [.page recovery none]).bind fun world =>
        (world.apply (.claim recovery none)).map fun after => (first, world, after)

theorem of_leftBehind (left : leftBehind redis = some (first, world, after))
    (held : (first.subscriptions.lookup recovery).isSome) :
    first.subscriptions.lookup recovery = some .fresh ∧ Path Moves first [.page recovery none] world ∧
      world.apply (.claim recovery none) = some after := by
  obtain ⟨before, -, left⟩ := Option.bind_eq_some_iff.mp left
  obtain ⟨opened, subscribed, left⟩ := Option.bind_eq_some_iff.mp left
  obtain ⟨listing, paged, left⟩ := Option.bind_eq_some_iff.mp left
  obtain ⟨recovered, claimed, same⟩ := Option.map_eq_some_iff.mp left
  cases same
  obtain ⟨subscription, found⟩ := Option.isSome_iff_exists.mp held
  rw [fresh_of_subscribe subscribed found] at found
  exact ⟨found, path_of_applyAll paged, claimed⟩

/-- A fill that was read and lost is delivered to the next subscriber. -/
theorem recovery_unblocked_on_fill : ∃ first world after,
    leftBehind emptyRedis = some (first, world, after) ∧ Recovers after recovery [fill] := by
  have ran : (leftBehind emptyRedis).map (fun worlds : World × World × World =>
      ((worlds.1.subscriptions.lookup recovery).isSome,
        messagesOf "fills" (pendingSince worlds.1 worlds.2.1 recovery),
        decide (∀ entry ∈ claimedEntries worlds.2.1 recovery, WellFormed "fills" entry))) =
      some (true, [fill], true) := by decide +kernel
  obtain ⟨⟨first, world, after⟩, left, facts⟩ := Option.map_eq_some_iff.mp ran
  obtain ⟨held, rest⟩ := Prod.mk.inj facts
  obtain ⟨pending, sound⟩ := Prod.mk.inj rest
  obtain ⟨opened, run, claimed⟩ := of_leftBehind left held
  refine ⟨first, world, after, left, ?_⟩
  rw [← pending]
  exact (recovery_unblocked_iff opened run claimed).mpr (Or.inl (of_decide_eq_true sound))

/-- Behind such an entry the same fill is not delivered. -/
theorem poison_blocks_fill : ∃ first world after,
    first.subscriptions.lookup recovery = some .fresh ∧ Path Moves first [.page recovery none] world ∧
      world.apply (.claim recovery none) = some after ∧
      messagesOf "fills" (pendingSince first world recovery) = [fill] ∧ ¬ Recovers after recovery [fill] := by
  have ran : (leftBehind poisonedRedis).map (fun worlds : World × World × World =>
      ((worlds.1.subscriptions.lookup recovery).isSome,
        messagesOf "fills" (pendingSince worlds.1 worlds.2.1 recovery),
        decide (∃ entry ∈ claimedEntries worlds.2.1 recovery, ¬ WellFormed "fills" entry))) =
      some (true, [fill], true) := by decide +kernel
  obtain ⟨⟨first, world, after⟩, left, facts⟩ := Option.map_eq_some_iff.mp ran
  obtain ⟨held, rest⟩ := Prod.mk.inj facts
  obtain ⟨pending, poison⟩ := Prod.mk.inj rest
  obtain ⟨opened, run, claimed⟩ := of_leftBehind left held
  refine ⟨first, world, after, opened, run, claimed, pending, fun recovers => ?_⟩
  cases nothing_of_poison opened run claimed (of_decide_eq_true poison) recovers

end Fills

end FeynmanEngine.PoisonEntries
