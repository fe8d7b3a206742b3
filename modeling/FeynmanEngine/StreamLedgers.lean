import FeynmanEngine.RedisStreams

/-! The account a consumer group keeps of its stream. What was given to the group
is pending or was acknowledged, never both; no command loses an entry, gives one
back or lets one be acknowledged a second time. -/
namespace FeynmanEngine.StreamLedgers
open RedisStreams PagedScans

variable {Id Fields Name : Type} [LinearOrder Id] [DecidableEq Name]

/-- The ids of a stream's entries. -/
def entryIds (server : Server Id Fields Name) (key : Name) : List Id := (server.stream key).entries.map Prod.fst

/-- The entries a group was given are the pending ones and the acknowledged ones. -/
structure Accounted (server : Server Id Fields Name) (key name : Name) (acknowledged : List Id) : Prop where
  once : acknowledged.Nodup
  apart : ∀ id ∈ acknowledged, id ∉ server.pendingIds key name
  settled : ∀ id, id ∈ entryIds server key ∧ id ≤ server.frontier key name ↔
    id ∈ server.pendingIds key name ∨ id ∈ acknowledged
  within : ∀ bound, (∀ id ∈ entryIds server key, id < bound) → server.frontier key name < bound

variable {server after : Server Id Fields Name} {key name : Name} {acknowledged : List Id}

omit [DecidableEq Name] in
/-- An acknowledged entry is not beyond the frontier. -/
theorem Accounted.behind (accounted : Accounted server key name acknowledged) {id : Id}
    (member : id ∈ acknowledged) : id ≤ server.frontier key name :=
  ((accounted.settled id).mpr (Or.inr member)).2

omit [DecidableEq Name] in
/-- A server without streams. -/
theorem Accounted.start : Accounted (fun _ => none : Server Id Fields Name) key name [] where
  once := .nil
  apart := List.forall_mem_nil _
  settled id := by
    simp [entryIds, Server.stream, RedisStream.empty, Server.pendingIds, Server.group]
  within bound _ := WithBot.bot_lt_coe bound

omit [DecidableEq Name] in
/-- Nothing that counts has changed. -/
theorem Accounted.same (accounted : Accounted server key name acknowledged)
    (entries : entryIds after key = entryIds server key) (frontier : after.frontier key name = server.frontier key name)
    (pending : ∀ id, id ∈ after.pendingIds key name ↔ id ∈ server.pendingIds key name) :
    Accounted after key name acknowledged where
  once := accounted.once
  apart id member held := accounted.apart id member ((pending id).mp held)
  settled id := by
    rw [entries, frontier, pending]
    exact accounted.settled id
  within bound above := by
    rw [frontier]
    rw [entries] at above
    exact accounted.within bound above

theorem entries_putGroup (server : Server Id Fields Name) (key name : Name) (group : ConsumerGroup Id Name)
    (other : Name) : ((server.putGroup key name group).stream other).entries = (server.stream other).entries := by
  unfold Server.putGroup Server.put Server.stream
  rw [Function.update_apply]
  split
  · next same =>
    rw [same]
    rfl
  · rfl

theorem entryIds_putGroup (server : Server Id Fields Name) (key name : Name) (group : ConsumerGroup Id Name)
    (other : Name) : entryIds (server.putGroup key name group) other = entryIds server other := by
  rw [entryIds, entries_putGroup, entryIds]

theorem pendingIds_putGroup (server : Server Id Fields Name) (key name : Name) (group : ConsumerGroup Id Name)
    (other probe : Name) :
    (server.putGroup key name group).pendingIds other probe =
      if other = key ∧ probe = name then group.pending.map Prod.fst else server.pendingIds other probe := by
  unfold Server.pendingIds
  rw [Server.group_putGroup]
  by_cases same : other = key ∧ probe = name
  · rw [if_pos same, if_pos same]
  · rw [if_neg same, if_neg same]

/-- A group that is rewritten with the same frontier and the same pending ids. -/
theorem Accounted.rewritten {group : ConsumerGroup Id Name} (accounted : Accounted server key name acknowledged)
    (frontier : group.lastDelivered = server.frontier other probe)
    (pending : ∀ id, id ∈ group.pending.map Prod.fst ↔ id ∈ server.pendingIds other probe) :
    Accounted (server.putGroup other probe group) key name acknowledged := by
  refine accounted.same (entryIds_putGroup ..) (Server.frontier_of_standing frontier ..) fun id => ?_
  rw [pendingIds_putGroup]
  split
  · next same =>
    rw [same.1, same.2]
    exact pending id
  · rfl

theorem entries_xadd {id : Id} (added : server.xadd key id fields = some after) (other : Name) :
    (after.stream other).entries =
      (server.stream other).entries ++ if other = key then [(id, fields)] else [] := by
  obtain ⟨stream, put, rfl⟩ := Option.map_eq_some_iff.mp added
  unfold RedisStream.add at put
  split at put
  · cases put
    unfold Server.put Server.stream
    rw [Function.update_apply]
    split
    · next same =>
      rw [same]
      rfl
    · rw [List.append_nil]
  · cases put

/-- A new entry's id is above those in the stream. -/
theorem above_of_xadd {id : Id} (added : server.xadd key id fields = some after) :
    ∀ earlier ∈ entryIds server key, earlier < id := by
  obtain ⟨stream, put, -⟩ := Option.map_eq_some_iff.mp added
  unfold RedisStream.add at put
  split at put
  · next above =>
    intro earlier member
    obtain ⟨entry, held, rfl⟩ := List.mem_map.mp member
    exact above entry held
  · cases put

theorem Accounted.xadd {id : Id} (accounted : Accounted server key name acknowledged)
    (added : server.xadd other id fields = some after) : Accounted after key name acknowledged := by
  have frontier : after.frontier key name = server.frontier key name := by
    unfold Server.frontier
    rw [Server.group_xadd added]
  have pending : after.pendingIds key name = server.pendingIds key name := by
    unfold Server.pendingIds
    rw [Server.group_xadd added]
  have entries := congrArg (List.map Prod.fst) (entries_xadd added key)
  rw [List.map_append] at entries
  change entryIds after key = entryIds server key ++ _ at entries
  by_cases own : key = other
  · subst own
    rw [if_pos rfl, List.map_singleton] at entries
    -- the new entry is above all others, so beyond what was given
    have beyond : server.frontier key name < id := accounted.within id (above_of_xadd added)
    refine ⟨accounted.once, fun held member => by rw [pending]; exact accounted.apart held member, fun probe => ?_,
      fun bound above => ?_⟩
    · rw [entries, frontier, pending, ← accounted.settled]
      refine and_congr_left fun given => ?_
      rw [List.mem_append, List.mem_singleton]
      refine or_iff_left ?_
      rintro rfl
      exact absurd given (not_le.mpr beyond)
    · rw [frontier]
      rw [entries] at above
      exact accounted.within bound fun held member => above held (List.mem_append_left _ member)
  · rw [if_neg own, List.map_nil, List.append_nil] at entries
    exact accounted.same entries frontier fun _ => by rw [pending]

theorem Accounted.xgroupCreate (accounted : Accounted server key name acknowledged) (other probe : Name) :
    Accounted (server.xgroupCreate other probe).1 key name acknowledged := by
  unfold Server.xgroupCreate
  split
  · exact accounted
  · next missing =>
    refine accounted.rewritten ?_ fun id => ?_
    · rw [Server.frontier, missing]
      rfl
    · rw [Server.pendingIds, missing]
      rfl

theorem Accounted.xclaim (accounted : Accounted server key name acknowledged) (other probe consumer : Name)
    (ids : List Id) : Accounted (server.xclaim other probe consumer ids).1 key name acknowledged := by
  unfold Server.xclaim
  split
  · next group found =>
    refine accounted.rewritten (Server.frontier_of_group found).symm fun id => ?_
    have kept : (group.claim consumer ids).pending.map Prod.fst = group.pending.map Prod.fst := by
      unfold ConsumerGroup.claim
      rw [List.map_map]
      refine List.map_congr_left fun entry _ => ?_
      rw [Function.comp_apply]
      split <;> rfl
    rw [kept, Server.pendingIds_of_group found]
  · exact accounted

/-- What is read becomes pending, and it is everything up to the new frontier. -/
theorem Accounted.read {group : ConsumerGroup Id Name} (accounted : Accounted server key name acknowledged)
    (found : server.group key name = some group) (consumer : Name) (count : Nat)
    (more : group.nextEntries (server.stream key).entries count ≠ []) :
    Accounted (server.putGroup key name
      (group.read (server.stream key).entries (server.stream key).increasing consumer count))
      key name acknowledged := by
  have increasing := (server.stream key).increasing
  have frontier := Server.frontier_of_group found
  obtain ⟨final, last⟩ : ∃ final, (group.nextEntries (server.stream key).entries count).getLast? = some final :=
    ⟨_, List.getLast?_eq_some_getLast more⟩
  have final_mem := ConsumerGroup.mem_nextEntries (List.mem_of_getLast? last)
  have moved : (server.putGroup key name (group.read (server.stream key).entries increasing consumer count)).frontier
      key name = final.1 := by
    rw [Server.frontier_putGroup, if_pos ⟨rfl, rfl⟩]
    show ConsumerGroup.lastOf (group.nextEntries (server.stream key).entries count) group.lastDelivered = final.1
    rw [ConsumerGroup.lastOf, last]
  have pending : ∀ id,
      id ∈ (server.putGroup key name
        (group.read (server.stream key).entries increasing consumer count)).pendingIds key name ↔
      id ∈ server.pendingIds key name ∨
        id ∈ (group.nextEntries (server.stream key).entries count).map Prod.fst := by
    intro id
    rw [pendingIds_putGroup, if_pos ⟨rfl, rfl⟩, Server.pendingIds_of_group found]
    unfold ConsumerGroup.read
    rw [List.map_append, List.map_map, List.mem_append]
    rfl
  refine ⟨accounted.once, fun id member => ?_, fun id => ?_, fun bound above => ?_⟩
  · rw [pending, not_or]
    refine ⟨accounted.apart id member, fun taken => ?_⟩
    obtain ⟨entry, next, rfl⟩ := List.mem_map.mp taken
    have behind := accounted.behind member
    rw [frontier] at behind
    exact absurd behind (not_le.mpr (ConsumerGroup.mem_nextEntries next).2)
  · rw [entryIds_putGroup, moved, pending, or_right_comm, ← accounted.settled]
    constructor
    · rintro ⟨member, upTo⟩
      rcases le_or_gt (id : WithBot Id) (server.frontier key name) with given | beyond
      · exact Or.inl ⟨member, given⟩
      · obtain ⟨entry, held, rfl⟩ := List.mem_map.mp member
        rw [frontier] at beyond
        exact Or.inr (List.mem_map_of_mem (mem_page_of_le increasing last held beyond (WithBot.coe_le_coe.mp upTo)))
    · rintro (⟨member, given⟩ | taken)
      · refine ⟨member, given.trans ?_⟩
        rw [frontier]
        exact le_of_lt final_mem.2
      · obtain ⟨entry, next, rfl⟩ := List.mem_map.mp taken
        refine ⟨List.mem_map_of_mem (ConsumerGroup.mem_nextEntries next).1, ?_⟩
        have upTo := ConsumerGroup.le_lastOf (group.nextEntries_increasing increasing count) group.lastDelivered next
        rw [ConsumerGroup.lastOf, last] at upTo
        exact upTo
  · rw [moved]
    rw [entryIds_putGroup] at above
    exact WithBot.coe_lt_coe.mpr (above _ (List.mem_map_of_mem final_mem.1))

theorem Accounted.xreadgroup (accounted : Accounted server key name acknowledged) (other probe consumer : Name)
    (count : Nat) : Accounted (server.xreadgroup other probe consumer count).1 key name acknowledged := by
  unfold Server.xreadgroup
  cases found : server.group other probe with
  | none => exact accounted
  | some group =>
    dsimp only
    split
    · exact accounted
    · next taken =>
      by_cases own : key = other ∧ name = probe
      · obtain ⟨rfl, rfl⟩ := own
        exact accounted.read found consumer count taken
      · refine accounted.same (entryIds_putGroup ..) ?_ fun id => ?_
        · rw [Server.frontier_putGroup, if_neg own]
        · rw [pendingIds_putGroup, if_neg own]

omit [DecidableEq Name] in
theorem claimable_of_pending {id : Id} (held : id ∈ server.pendingIds key name) :
    server.claimable key name [id] = [id] := by
  unfold Server.pendingIds at held
  unfold Server.claimable
  split at held
  · next group found =>
    obtain ⟨entry, member, rfl⟩ := List.mem_map.mp held
    refine List.filter_eq_self.mpr fun only listed => ?_
    rw [List.mem_singleton.mp listed]
    exact List.any_eq_true.mpr ⟨entry, member, decide_eq_true rfl⟩
  · cases held

omit [DecidableEq Name] in
theorem pendingIds_of_claimable {id : Id} (member : id ∈ server.claimable key name ids) :
    id ∈ server.pendingIds key name := by
  unfold Server.claimable at member
  split at member
  · next group found =>
    have pending := (List.mem_filter.mp member).2
    simp only [List.any_eq_true, decide_eq_true_eq] at pending
    obtain ⟨entry, held, rfl⟩ := pending
    rw [Server.pendingIds_of_group found]
    exact List.mem_map_of_mem held
  · cases member

omit [DecidableEq Name] in
theorem claimable_of_settled {id : Id} (settled : id ∉ server.pendingIds key name) :
    server.claimable key name [id] = [] := by
  refine List.eq_nil_iff_forall_not_mem.mpr fun other member => ?_
  have held := pendingIds_of_claimable member
  unfold Server.claimable at member
  split at member
  · rw [List.mem_singleton.mp (List.mem_filter.mp member).1] at held
    exact settled held
  · cases member

/-- What was pending and is acknowledged moves from one side of the account to the other. -/
theorem Accounted.xack (accounted : Accounted server key name acknowledged) (other probe : Name) (id : Id) :
    Accounted (server.xack other probe id).1 key name
      (acknowledged ++ if key = other ∧ name = probe then server.claimable key name [id] else []) := by
  by_cases own : key = other ∧ name = probe
  · obtain ⟨rfl, rfl⟩ := own
    rw [if_pos ⟨rfl, rfl⟩]
    cases found : server.group key name with
    | none =>
      unfold Server.xack Server.claimable
      rw [found, List.append_nil]
      exact accounted
    | some group =>
      have reached : (server.xack key name id).1 = server.putGroup key name (group.acknowledge id) := by
        rw [Server.xack, found]
      rw [reached]
      have pending : ∀ held, held ∈ (server.putGroup key name (group.acknowledge id)).pendingIds key name ↔
          held ∈ server.pendingIds key name ∧ held ≠ id := by
        intro held
        rw [pendingIds_putGroup, if_pos ⟨rfl, rfl⟩, Server.pendingIds_of_group found]
        unfold ConsumerGroup.acknowledge
        simp only [List.mem_map, List.mem_filter, decide_eq_true_eq]
        constructor
        · rintro ⟨entry, ⟨member, other⟩, rfl⟩
          exact ⟨⟨entry, member, rfl⟩, other⟩
        · rintro ⟨⟨entry, member, rfl⟩, other⟩
          exact ⟨entry, ⟨member, other⟩, rfl⟩
      have stands : (group.acknowledge id).lastDelivered = server.frontier key name :=
        (Server.frontier_of_group found).symm
      have frontier : (server.putGroup key name (group.acknowledge id)).frontier key name = server.frontier key name :=
        Server.frontier_of_standing stands ..
      by_cases held : id ∈ server.pendingIds key name
      · rw [claimable_of_pending held]
        have new : id ∉ acknowledged := fun member => accounted.apart id member held
        refine ⟨?_, fun gone member => ?_, fun probe => ?_, fun bound above => ?_⟩
        · refine List.nodup_append.mpr ⟨accounted.once, List.nodup_singleton id, fun earlier member last single => ?_⟩
          rw [List.mem_singleton.mp single]
          rintro rfl
          exact new member
        · rw [pending]
          rcases List.mem_append.mp member with earlier | now
          · exact fun still => accounted.apart gone earlier still.1
          · exact fun still => still.2 (List.mem_singleton.mp now)
        · rw [entryIds_putGroup, frontier, accounted.settled, pending, List.mem_append, List.mem_singleton]
          by_cases same : probe = id
          · subst same
            simp [held]
          · simp [same]
        · rw [frontier]
          rw [entryIds_putGroup] at above
          exact accounted.within bound above
      · rw [claimable_of_settled held, List.append_nil]
        refine accounted.same (entryIds_putGroup ..) frontier fun probe => ?_
        rw [pending]
        refine and_iff_left_of_imp ?_
        rintro member rfl
        exact held member
  · rw [if_neg own, List.append_nil]
    unfold Server.xack
    split
    · refine accounted.same (entryIds_putGroup ..) ?_ fun probe => ?_
      · rw [Server.frontier_putGroup, if_neg own]
      · rw [pendingIds_putGroup, if_neg own]
    · exact accounted

/-- What reaches the server. -/
inductive Command (Id Fields Name : Type) where
  | nothing
  | xadd (key : Name) (id : Id) (fields : Fields)
  | xgroupCreate (key name : Name)
  | xclaim (key name consumer : Name) (ids : List Id)
  | xreadgroup (key name consumer : Name) (count : Nat)
  | xack (key name : Name) (id : Id)

namespace Command

/-- The server after a command, if it takes it. -/
def run (server : Server Id Fields Name) : Command Id Fields Name → Option (Server Id Fields Name)
  | .nothing => some server
  | .xadd key id fields => server.xadd key id fields
  | .xgroupCreate key name => some (server.xgroupCreate key name).1
  | .xclaim key name consumer ids => some (server.xclaim key name consumer ids).1
  | .xreadgroup key name consumer count => some (server.xreadgroup key name consumer count).1
  | .xack key name id => some (server.xack key name id).1

/-- The entries a command adds to a stream. -/
def adds (key : Name) : Command Id Fields Name → List (Id × Fields)
  | .xadd other id fields => if key = other then [(id, fields)] else []
  | _ => []

/-- The pending ids of a group that a command acknowledges. -/
def acknowledges (server : Server Id Fields Name) (key name : Name) : Command Id Fields Name → List Id
  | .xack other probe id => if key = other ∧ name = probe then server.claimable key name [id] else []
  | _ => []

variable {command : Command Id Fields Name}

/-- Groups are made by `XGROUP CREATE` alone. -/
theorem group_run_of_none (ran : command.run server = some after) (fresh : server.group key name = none)
    (other : command ≠ .xgroupCreate key name) : after.group key name = none := by
  have written {probe known : Name} {group : ConsumerGroup Id Name} (apart : ¬ (key = probe ∧ name = known)) :
      (server.putGroup probe known group).group key name = none := by
    rw [Server.group_putGroup, if_neg apart, fresh]
  have apart {probe known : Name} {group : ConsumerGroup Id Name} (found : server.group probe known = some group) :
      ¬ (key = probe ∧ name = known) := by
    rintro ⟨rfl, rfl⟩
    rw [fresh] at found
    cases found
  cases command with
  | nothing =>
    cases ran
    exact fresh
  | xadd probe id fields => exact (Server.group_xadd ran key name).trans fresh
  | xgroupCreate probe known =>
    cases ran
    unfold Server.xgroupCreate
    split
    · exact fresh
    · exact written fun same => other (by rw [same.1, same.2])
  | xclaim probe known consumer ids =>
    cases ran
    unfold Server.xclaim
    split
    · next group found => exact written (apart found)
    · exact fresh
  | xreadgroup probe known consumer count =>
    cases ran
    unfold Server.xreadgroup
    split
    · next group found =>
      dsimp only
      split
      · exact fresh
      · exact written (apart found)
    · exact fresh
  | xack probe known id =>
    cases ran
    unfold Server.xack
    split
    · next group found => exact written (apart found)
    · exact fresh

/-- A stream grows by what is added to it. -/
theorem entries_run (ran : command.run server = some after) (key : Name) :
    (after.stream key).entries = (server.stream key).entries ++ command.adds key := by
  cases command with
  | xadd other id fields => exact entries_xadd ran key
  | nothing =>
    cases ran
    exact (List.append_nil _).symm
  | xgroupCreate other probe =>
    cases ran
    unfold adds Server.xgroupCreate
    rw [List.append_nil]
    split
    · rfl
    · exact entries_putGroup ..
  | xclaim other probe consumer ids =>
    cases ran
    unfold adds Server.xclaim
    rw [List.append_nil]
    split
    · exact entries_putGroup ..
    · rfl
  | xreadgroup other probe consumer count =>
    cases ran
    unfold adds Server.xreadgroup
    rw [List.append_nil]
    split
    · dsimp only
      split
      · rfl
      · exact entries_putGroup ..
    · rfl
  | xack other probe id =>
    cases ran
    unfold adds Server.xack
    rw [List.append_nil]
    split
    · exact entries_putGroup ..
    · rfl

/-- Whatever the command, frontiers advance. -/
theorem grown_run (ran : command.run server = some after) : Server.Grown server after := by
  cases command with
  | nothing =>
    cases ran
    exact .refl server
  | xadd other id fields => exact Server.grown_xadd ran
  | xgroupCreate other probe =>
    cases ran
    exact Server.grown_xgroupCreate server other probe
  | xclaim other probe consumer ids =>
    cases ran
    exact Server.grown_xclaim server other probe consumer ids
  | xreadgroup other probe consumer count =>
    cases ran
    exact Server.grown_xreadgroup server other probe consumer count
  | xack other probe id =>
    cases ran
    exact Server.grown_xack server other probe id

end Command

/-- The account is kept by every command. -/
theorem Accounted.run {command : Command Id Fields Name} (accounted : Accounted server key name acknowledged)
    (ran : command.run server = some after) :
    Accounted after key name (acknowledged ++ command.acknowledges server key name) := by
  cases command with
  | xack other probe id =>
    cases ran
    exact accounted.xack other probe id
  | nothing =>
    cases ran
    unfold Command.acknowledges
    rw [List.append_nil]
    exact accounted
  | xadd other id fields =>
    unfold Command.acknowledges
    rw [List.append_nil]
    exact accounted.xadd ran
  | xgroupCreate other probe =>
    cases ran
    unfold Command.acknowledges
    rw [List.append_nil]
    exact accounted.xgroupCreate other probe
  | xclaim other probe consumer ids =>
    cases ran
    unfold Command.acknowledges
    rw [List.append_nil]
    exact accounted.xclaim other probe consumer ids
  | xreadgroup other probe consumer count =>
    cases ran
    unfold Command.acknowledges
    rw [List.append_nil]
    exact accounted.xreadgroup other probe consumer count

omit [DecidableEq Name] in
/-- What is pending was added and is not acknowledged. -/
theorem Accounted.of_pending (accounted : Accounted server key name acknowledged) {id : Id}
    (held : id ∈ server.pendingIds key name) : id ∈ entryIds server key ∧ id ∉ acknowledged :=
  ⟨((accounted.settled id).mpr (Or.inl held)).1, fun member => accounted.apart id member held⟩

/-- What a group is given to read was added and is not acknowledged. -/
theorem Accounted.of_read (accounted : Accounted server key name acknowledged) {entry : Id × Fields}
    (replied : (server.xreadgroup key name consumer count).2 = .ok (some taken)) (member : entry ∈ taken) :
    entry.1 ∈ entryIds server key ∧ entry.1 ∉ acknowledged := by
  refine ⟨?_, fun gone => absurd (accounted.behind gone) (not_le.mpr (Server.read_of_xreadgroup replied member).1)⟩
  unfold Server.xreadgroup at replied
  split at replied
  · dsimp only at replied
    split at replied
    · cases replied
    · cases replied
      exact List.mem_map_of_mem (ConsumerGroup.mem_nextEntries member).1
  · cases replied

/-- What is acknowledged was pending. -/
theorem pending_of_xack {id : Id} (counted : (server.xack key name id).2 ≠ 0) : id ∈ server.pendingIds key name := by
  unfold Server.xack at counted
  split at counted
  · next group found =>
    have some : group.stillPending [id] ≠ [] := fun none => counted (congrArg List.length none)
    obtain ⟨only, member⟩ := List.exists_mem_of_ne_nil _ some
    obtain ⟨listed, pending⟩ := List.mem_filter.mp member
    rw [List.mem_singleton.mp listed] at pending
    simp only [List.any_eq_true, decide_eq_true_eq] at pending
    rw [Server.pendingIds_of_group found]
    exact List.mem_map.mpr pending
  · exact absurd rfl counted

omit [DecidableEq Name] in
/-- A claim is answered by the entries of the listed ids that are pending. -/
theorem Accounted.claimed (accounted : Accounted server key name acknowledged) {group : ConsumerGroup Id Name}
    (found : server.group key name = some group) (ids : List Id) :
    ((server.stream key).claimed group ids).map Prod.fst =
      ids.filter (fun id => id ∈ server.pendingIds key name) ∧
    ∀ entry ∈ (server.stream key).claimed group ids, entry ∈ (server.stream key).entries := by
  have listed : group.stillPending ids = ids.filter fun id => id ∈ server.pendingIds key name := by
    unfold ConsumerGroup.stillPending
    rw [Server.pendingIds_of_group found]
    refine List.filter_congr fun id _ => ?_
    rw [Bool.eq_iff_iff]
    simp only [List.any_eq_true, decide_eq_true_eq, List.mem_map]
  rw [← listed]
  constructor
  · unfold RedisStream.claimed
    -- every pending id has its entry
    have present : ∀ id ∈ group.stillPending ids, ∃ entry,
        (server.stream key).entries.find? (fun entry => entry.1 = id) = some entry ∧ entry.1 = id := by
      intro id member
      rw [listed] at member
      have held := of_decide_eq_true (List.mem_filter.mp member).2
      obtain ⟨entry, stored, same⟩ := List.mem_map.mp (accounted.of_pending held).1
      have some : ((server.stream key).entries.find? fun entry => entry.1 = id).isSome :=
        List.find?_isSome.mpr ⟨entry, stored, decide_eq_true same⟩
      obtain ⟨first, hit⟩ := Option.isSome_iff_exists.mp some
      have own := List.find?_some hit
      exact ⟨first, hit, of_decide_eq_true own⟩
    revert present
    generalize group.stillPending ids = pending
    intro present
    induction pending with
    | nil => rfl
    | cons id rest ih =>
      obtain ⟨entry, hit, same⟩ := present id List.mem_cons_self
      rw [List.filterMap_cons, hit]
      dsimp only
      rw [List.map_cons, same, ih fun later member => present later (List.mem_cons_of_mem _ member)]
  · intro entry member
    obtain ⟨id, -, hit⟩ := List.mem_filterMap.mp member
    exact List.mem_of_find?_eq_some hit

omit [DecidableEq Name] in
/-- What a group was given is as much as is pending and acknowledged together. -/
theorem Accounted.given_count (accounted : Accounted server key name acknowledged) :
    (server.pendingIds key name).length + acknowledged.length =
      ((entryIds server key).filter fun id : Id => id ≤ server.frontier key name).length := by
  have distinct {ids : List Id} (ascending : ids.Pairwise (· < ·)) : ids.Nodup := ascending.imp ne_of_lt
  have pending : (server.pendingIds key name).Nodup := by
    unfold Server.pendingIds
    split
    · next group _ => exact distinct (List.pairwise_map.mpr group.sorted)
    · exact .nil
  have entries : (entryIds server key).Nodup := distinct (List.pairwise_map.mpr (server.stream key).increasing)
  have both : (server.pendingIds key name ++ acknowledged).Nodup :=
    List.nodup_append.mpr ⟨pending, accounted.once, fun id held other member same =>
      accounted.apart other member (same ▸ held)⟩
  have same : (server.pendingIds key name ++ acknowledged).Perm
      ((entryIds server key).filter fun id : Id => id ≤ server.frontier key name) := by
    refine (List.perm_ext_iff_of_nodup both (entries.filter _)).mpr fun id => ?_
    rw [List.mem_append, ← accounted.settled, List.mem_filter, decide_eq_true_iff]
  rw [← List.length_append, same.length_eq]

end FeynmanEngine.StreamLedgers
