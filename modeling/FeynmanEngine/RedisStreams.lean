import Mathlib.Data.List.Basic
import Mathlib.Logic.Function.Basic
import FeynmanEngine.PagedScans

/-! Streams with consumer groups, as Redis keeps them. A group reads every entry
once, in the order of ids; what it has read stays pending under its reader until
it is acknowledged or claimed for another. Keys, ids, fields and names are
arbitrary; idle times are left out, a minimum of zero being always met. -/
namespace FeynmanEngine.RedisStreams
open PagedScans

/-- A group: the last id it was given, and the ids given and not acknowledged
yet, each with its consumer. -/
structure ConsumerGroup (Id Consumer : Type) [LinearOrder Id] where
  lastDelivered : WithBot Id
  pending : List (Id × Consumer)
  sorted : pending.Pairwise fun earlier later => earlier.1 < later.1
  behind : ∀ entry ∈ pending, entry.1 ≤ lastDelivered

namespace ConsumerGroup

variable {Id Fields Consumer : Type} [LinearOrder Id]

/-- A group created at `0-0`. -/
def atStart : ConsumerGroup Id Consumer := ⟨⊥, [], .nil, List.forall_mem_nil _⟩

/-- The entries the group has not been given. -/
def unread (group : ConsumerGroup Id Consumer) (entries : List (Id × Fields)) : List (Id × Fields) :=
  entries.filter fun entry => group.lastDelivered < entry.1

/-- The last id of some entries, if there are any. -/
def lastOf (entries : List (Id × Fields)) (otherwise : WithBot Id) : WithBot Id :=
  match entries.getLast? with
  | some entry => entry.1
  | none => otherwise

theorem le_lastOf (increasing : entries.Pairwise fun earlier later : Id × Fields => earlier.1 < later.1)
    (otherwise : WithBot Id) (member : entry ∈ entries) : entry.1 ≤ lastOf entries otherwise := by
  rcases List.eq_nil_or_concat entries with rfl | ⟨before, last, rfl⟩
  · cases member
  · unfold lastOf
    rw [List.concat_eq_append] at increasing member ⊢
    rw [List.getLast?_concat, WithBot.coe_le_coe]
    rcases List.mem_append.mp member with earlier | final
    · exact le_of_lt ((List.pairwise_append.mp increasing).2.2 entry earlier last (List.mem_singleton.mpr rfl))
    · rw [List.mem_singleton.mp final]

theorem le_lastOf_of_forall {entries : List (Id × Fields)} {start : WithBot Id}
    (beyond : ∀ entry ∈ entries, start < entry.1) : start ≤ lastOf entries start := by
  unfold lastOf
  split
  · next entry last => exact le_of_lt (beyond entry (List.mem_of_getLast? last))
  · exact le_refl start

/-- The next entries for a consumer. -/
def nextEntries (group : ConsumerGroup Id Consumer) (entries : List (Id × Fields)) (count : Nat) :
    List (Id × Fields) := (group.unread entries).take count

theorem mem_nextEntries {group : ConsumerGroup Id Consumer} (member : entry ∈ group.nextEntries entries count) :
    entry ∈ entries ∧ group.lastDelivered < entry.1 := by
  have unread := List.mem_filter.mp (List.mem_of_mem_take member)
  exact ⟨unread.1, of_decide_eq_true unread.2⟩

theorem nextEntries_increasing (group : ConsumerGroup Id Consumer) {entries : List (Id × Fields)}
    (increasing : entries.Pairwise fun earlier later => earlier.1 < later.1) (count : Nat) :
    (group.nextEntries entries count).Pairwise fun earlier later => earlier.1 < later.1 :=
  (increasing.sublist List.filter_sublist).sublist (List.take_sublist _ _)

/-- The group after `XREADGROUP` of `>`: the entries read are pending under their reader. -/
def read (group : ConsumerGroup Id Consumer) (entries : List (Id × Fields))
    (increasing : entries.Pairwise fun earlier later => earlier.1 < later.1) (consumer : Consumer) (count : Nat) :
    ConsumerGroup Id Consumer where
  lastDelivered := lastOf (group.nextEntries entries count) group.lastDelivered
  pending := group.pending ++ (group.nextEntries entries count).map fun entry => (entry.1, consumer)
  sorted := by
    refine List.pairwise_append.mpr ⟨group.sorted, ?_, ?_⟩
    · exact List.pairwise_map.mpr (group.nextEntries_increasing increasing count)
    · intro held member given found
      obtain ⟨entry, next, rfl⟩ := List.mem_map.mp found
      exact WithBot.coe_lt_coe.mp (lt_of_le_of_lt (group.behind held member) (mem_nextEntries next).2)
  behind := by
    intro held member
    rcases List.mem_append.mp member with earlier | given
    · exact le_trans (group.behind held earlier)
        (le_lastOf_of_forall fun entry next => (mem_nextEntries next).2)
    · obtain ⟨entry, next, rfl⟩ := List.mem_map.mp given
      exact le_lastOf (group.nextEntries_increasing increasing count) _ next

/-- A page of `XPENDING` after a cursor. -/
def pendingAfter (group : ConsumerGroup Id Consumer) (cursor : WithBot Id) (count : Nat) : List (Id × Consumer) :=
  (group.pending.filter fun entry => cursor < entry.1).take count

theorem pendingAfter_eq (group : ConsumerGroup Id Consumer) (cursor : WithBot Id) (count : Nat) :
    group.pendingAfter cursor count = pageBehind Prod.fst group.pending cursor count := rfl

theorem mem_pendingAfter {group : ConsumerGroup Id Consumer} (member : entry ∈ group.pendingAfter cursor count) :
    entry ∈ group.pending ∧ cursor < entry.1 :=
  mem_behind_iff.mp (List.mem_of_mem_take member)

theorem pendingAfter_sorted (group : ConsumerGroup Id Consumer) (cursor : WithBot Id) (count : Nat) :
    (group.pendingAfter cursor count).Pairwise fun earlier later => earlier.1 < later.1 :=
  (group.sorted.sublist List.filter_sublist).sublist (List.take_sublist _ _)

/-- A page that is not full is the last. -/
theorem mem_of_short_page {group : ConsumerGroup Id Consumer} (short : (group.pendingAfter cursor count).length < count)
    (member : entry ∈ group.pending) (after : cursor < entry.1) : entry ∈ group.pendingAfter cursor count := by
  rw [pendingAfter_eq] at short ⊢
  rw [behind_of_short_page short]
  exact mem_behind_iff.mpr ⟨member, after⟩

/-- A page has everything between its cursor and its last id. -/
theorem mem_page_of_le {group : ConsumerGroup Id Consumer} (last : (group.pendingAfter cursor count).getLast? = some final)
    (member : entry ∈ group.pending) (after : cursor < entry.1) (le : entry.1 ≤ final.1) :
    entry ∈ group.pendingAfter cursor count :=
  PagedScans.mem_page_of_le group.sorted last member after le

/-- The listed ids that are pending. -/
def stillPending (group : ConsumerGroup Id Consumer) (ids : List Id) : List Id :=
  ids.filter fun id => group.pending.any fun entry => entry.1 = id

theorem le_of_stillPending {group : ConsumerGroup Id Consumer} {id : Id} (member : id ∈ group.stillPending ids) :
    id ≤ group.lastDelivered := by
  have pending := (List.mem_filter.mp member).2
  simp only [List.any_eq_true, decide_eq_true_eq] at pending
  obtain ⟨entry, held, rfl⟩ := pending
  exact group.behind entry held

/-- The group after `XCLAIM`: listed ids that are pending are the consumer's. -/
def claim (group : ConsumerGroup Id Consumer) (consumer : Consumer) (ids : List Id) : ConsumerGroup Id Consumer where
  lastDelivered := group.lastDelivered
  pending := group.pending.map fun entry => if entry.1 ∈ ids then (entry.1, consumer) else entry
  sorted := by
    refine List.pairwise_map.mpr (group.sorted.imp fun {earlier later} less => ?_)
    split <;> split <;> exact less
  behind := by
    intro held member
    obtain ⟨entry, found, rfl⟩ := List.mem_map.mp member
    have behind := group.behind entry found
    split <;> exact behind

/-- The group after `XACK`. -/
def acknowledge (group : ConsumerGroup Id Consumer) (id : Id) : ConsumerGroup Id Consumer where
  lastDelivered := group.lastDelivered
  pending := group.pending.filter fun entry => entry.1 ≠ id
  sorted := group.sorted.sublist List.filter_sublist
  behind entry member := group.behind entry (List.mem_filter.mp member).1

end ConsumerGroup

/-- A stream: its entries, and the groups that read it. -/
structure RedisStream (Id Fields Name : Type) [LinearOrder Id] where
  entries : List (Id × Fields)
  increasing : entries.Pairwise fun earlier later => earlier.1 < later.1
  groups : Name → Option (ConsumerGroup Id Name)

namespace RedisStream

variable {Id Fields Name : Type} [LinearOrder Id]

def empty : RedisStream Id Fields Name := ⟨[], .nil, fun _ => none⟩

/-- `XADD` under an id above those in the stream. -/
def add (stream : RedisStream Id Fields Name) (id : Id) (fields : Fields) : Option (RedisStream Id Fields Name) :=
  if above : ∀ entry ∈ stream.entries, entry.1 < id then
    some { stream with
      entries := stream.entries ++ [(id, fields)]
      increasing := List.pairwise_append.mpr ⟨stream.increasing, List.pairwise_singleton _ _, by
        intro entry member added found
        rw [List.mem_singleton.mp found]
        exact above entry member⟩ }
  else none

variable [DecidableEq Name]

def putGroup (stream : RedisStream Id Fields Name) (name : Name) (group : ConsumerGroup Id Name) :
    RedisStream Id Fields Name :=
  { stream with groups := Function.update stream.groups name (some group) }

/-- The entries of the listed ids that are pending in a group, as `XCLAIM` returns them. -/
def claimed (stream : RedisStream Id Fields Name) (group : ConsumerGroup Id Name) (ids : List Id) :
    List (Id × Fields) :=
  (group.stillPending ids).filterMap fun id => stream.entries.find? fun entry => entry.1 = id

omit [DecidableEq Name] in
/-- A claimed entry was pending under its id. -/
theorem mem_claimed {stream : RedisStream Id Fields Name} {group : ConsumerGroup Id Name}
    (member : entry ∈ stream.claimed group ids) : entry.1 ∈ group.stillPending ids := by
  obtain ⟨id, pending, found⟩ := List.mem_filterMap.mp member
  have own := List.find?_some found
  rw [of_decide_eq_true own]
  exact pending

omit [DecidableEq Name] in
theorem claimed_of_mem {stream : RedisStream Id Fields Name} {group : ConsumerGroup Id Name}
    (member : entry ∈ stream.entries) (pending : entry.1 ∈ group.stillPending ids) : entry ∈ stream.claimed group ids := by
  refine List.mem_filterMap.mpr ⟨entry.1, pending, ?_⟩
  obtain ⟨before, after, split⟩ := List.append_of_mem member
  have increasing := stream.increasing
  rw [split] at increasing ⊢
  refine List.find?_eq_some_iff_append.mpr ⟨decide_eq_true rfl, before, after, rfl, fun earlier held => ?_⟩
  have less := (List.pairwise_append.mp increasing).2.2 earlier held entry List.mem_cons_self
  rw [decide_eq_false (ne_of_lt less)]
  rfl

omit [DecidableEq Name] in
/-- Claimed entries come in the order of the ids asked for. -/
theorem claimed_increasing (stream : RedisStream Id Fields Name) (group : ConsumerGroup Id Name) {ids : List Id}
    (ascending : ids.Pairwise (· < ·)) :
    (stream.claimed group ids).Pairwise fun earlier later => earlier.1 < later.1 := by
  have sorted : (group.stillPending ids).Pairwise (· < ·) := ascending.sublist List.filter_sublist
  refine List.pairwise_filterMap.mpr (sorted.imp fun less earlier found later next => ?_)
  have one := List.find?_some found
  have other := List.find?_some next
  rw [of_decide_eq_true one, of_decide_eq_true other]
  exact less

omit [DecidableEq Name] in
/-- Of two lists in the order of ids the one with fewer entries is part of the other. -/
theorem sublist_of_subset {few many : List (Id × Fields)}
    (ordered : few.Pairwise fun earlier later => earlier.1 < later.1)
    (increasing : many.Pairwise fun earlier later => earlier.1 < later.1) (subset : few ⊆ many) : few.Sublist many := by
  have distinct : few.Nodup := ordered.imp fun {earlier later} less same => by
    rw [same] at less
    exact lt_irrefl _ less
  have antisymm : Std.Antisymm fun earlier later : Id × Fields => earlier.1 < later.1 :=
    ⟨fun _ _ less greater => absurd less (lt_asymm greater)⟩
  exact List.sublist_of_subperm_of_pairwise (List.subperm_of_subset distinct subset) ordered increasing

end RedisStream

/-- Streams by key. -/
abbrev Server (Id Fields Name : Type) [LinearOrder Id] := Name → Option (RedisStream Id Fields Name)

/-- What a command may be refused for. -/
inductive CommandError where
  | busyGroup
  | noGroup
  deriving DecidableEq

namespace Server

variable {Id Fields Name : Type} [LinearOrder Id] [DecidableEq Name]

def stream (server : Server Id Fields Name) (key : Name) : RedisStream Id Fields Name := (server key).getD .empty

def put (server : Server Id Fields Name) (key : Name) (stream : RedisStream Id Fields Name) : Server Id Fields Name :=
  Function.update server key (some stream)

/-- The group of a name on a key. -/
def group (server : Server Id Fields Name) (key name : Name) : Option (ConsumerGroup Id Name) :=
  (server.stream key).groups name

def putGroup (server : Server Id Fields Name) (key name : Name) (group : ConsumerGroup Id Name) :
    Server Id Fields Name :=
  server.put key ((server.stream key).putGroup name group)

/-- `XADD`, which creates the stream. -/
def xadd (server : Server Id Fields Name) (key : Name) (id : Id) (fields : Fields) : Option (Server Id Fields Name) :=
  ((server.stream key).add id fields).map (server.put key)

/-- `XGROUP CREATE` from the start, with `MKSTREAM`. -/
def xgroupCreate (server : Server Id Fields Name) (key name : Name) :
    Server Id Fields Name × Except CommandError Unit :=
  match server.group key name with
  | some _ => (server, .error .busyGroup)
  | none => (server.putGroup key name .atStart, .ok ())

/-- A page of `XPENDING`. -/
def xpending (server : Server Id Fields Name) (key name : Name) (cursor : WithBot Id) (count : Nat) :
    Except CommandError (List (Id × Name)) :=
  match server.group key name with
  | some group => .ok (group.pendingAfter cursor count)
  | none => .error .noGroup

/-- `XCLAIM` with a minimum idle time of zero. -/
def xclaim (server : Server Id Fields Name) (key name consumer : Name) (ids : List Id) :
    Server Id Fields Name × Except CommandError (List (Id × Fields)) :=
  match server.group key name with
  | some group =>
    (server.putGroup key name (group.claim consumer ids), .ok ((server.stream key).claimed group ids))
  | none => (server, .error .noGroup)

/-- `XREADGROUP` of `>`; no entries are answered by nothing. -/
def xreadgroup (server : Server Id Fields Name) (key name consumer : Name) (count : Nat) :
    Server Id Fields Name × Except CommandError (Option (List (Id × Fields))) :=
  match server.group key name with
  | some group =>
    let stream := server.stream key
    match group.nextEntries stream.entries count with
    | [] => (server, .ok none)
    | taken => (server.putGroup key name (group.read stream.entries stream.increasing consumer count), .ok (some taken))
  | none => (server, .error .noGroup)

/-- `XACK` of one id, answered by the number of entries acknowledged; without
the group there is nothing to acknowledge. -/
def xack (server : Server Id Fields Name) (key name : Name) (id : Id) : Server Id Fields Name × Nat :=
  match server.group key name with
  | some group => (server.putGroup key name (group.acknowledge id), (group.stillPending [id]).length)
  | none => (server, 0)

theorem group_put (server : Server Id Fields Name) (key : Name) (stream : RedisStream Id Fields Name)
    (other name : Name) :
    (server.put key stream).group other name = if other = key then stream.groups name else server.group other name := by
  unfold group put Server.stream
  rw [Function.update_apply]
  split <;> rfl

theorem group_putGroup (server : Server Id Fields Name) (key name : Name) (group : ConsumerGroup Id Name)
    (other probe : Name) :
    (server.putGroup key name group).group other probe =
      if other = key ∧ probe = name then some group else server.group other probe := by
  rw [putGroup, group_put]
  unfold RedisStream.putGroup
  dsimp only
  rw [Function.update_apply]
  by_cases same : other = key
  · subst same
    by_cases hit : probe = name
    · rw [if_pos rfl, if_pos hit, if_pos ⟨rfl, hit⟩]
    · rw [if_pos rfl, if_neg hit, if_neg fun both => hit both.2]
      rfl
  · rw [if_neg same, if_neg fun both => same both.1]

/-- The last id given to a group. -/
def frontier (server : Server Id Fields Name) (key name : Name) : WithBot Id :=
  match server.group key name with
  | some group => group.lastDelivered
  | none => ⊥

omit [DecidableEq Name] in
theorem frontier_of_group {server : Server Id Fields Name} {group : ConsumerGroup Id Name}
    (found : server.group key name = some group) : server.frontier key name = group.lastDelivered := by
  rw [frontier, found]

/-- Rewriting a group moves its own frontier only. -/
theorem frontier_putGroup (server : Server Id Fields Name) (key name : Name) (group : ConsumerGroup Id Name)
    (other probe : Name) :
    (server.putGroup key name group).frontier other probe =
      if other = key ∧ probe = name then group.lastDelivered else server.frontier other probe := by
  unfold frontier
  rw [group_putGroup]
  by_cases same : other = key ∧ probe = name
  · rw [if_pos same, if_pos same]
  · rw [if_neg same, if_neg same]

/-- A group that is written where it stands keeps every frontier. -/
theorem frontier_of_standing {server : Server Id Fields Name} {group : ConsumerGroup Id Name}
    (stands : group.lastDelivered = server.frontier key name) (other probe : Name) :
    (server.putGroup key name group).frontier other probe = server.frontier other probe := by
  rw [frontier_putGroup]
  split
  · next same => rw [same.1, same.2, stands]
  · rfl

theorem group_xadd {server after : Server Id Fields Name} {id : Id}
    (added : server.xadd key id fields = some after) (other name : Name) :
    after.group other name = server.group other name := by
  obtain ⟨stream, put, rfl⟩ := Option.map_eq_some_iff.mp added
  have kept : stream.groups = (server.stream key).groups := by
    unfold RedisStream.add at put
    split at put
    · cases put
      rfl
    · cases put
  rw [group_put, kept]
  split
  · next same =>
    rw [same]
    rfl
  · rfl

theorem frontier_xclaim (server : Server Id Fields Name) (key name consumer : Name) (ids : List Id)
    (other probe : Name) :
    (server.xclaim key name consumer ids).1.frontier other probe = server.frontier other probe := by
  unfold xclaim
  split
  · next group found =>
    apply frontier_of_standing
    exact (frontier_of_group found).symm
  · rfl

/-- The ids `XCLAIM` would take. -/
def claimable (server : Server Id Fields Name) (key name : Name) (ids : List Id) : List Id :=
  match server.group key name with
  | some group => group.stillPending ids
  | none => []

/-- What is claimed was pending, and so given to the group before. -/
theorem claimed_of_xclaim {server : Server Id Fields Name} {entry : Id × Fields}
    (replied : (server.xclaim key name consumer ids).2 = .ok taken) (member : entry ∈ taken) :
    entry.1 ∈ server.claimable key name ids ∧ entry.1 ≤ server.frontier key name := by
  unfold xclaim at replied
  unfold claimable frontier
  split at replied
  · next group found =>
    cases replied
    have pending := RedisStream.mem_claimed member
    exact ⟨pending, ConsumerGroup.le_of_stillPending pending⟩
  · cases replied

/-- What is read was beyond the group's frontier and no longer is. -/
theorem read_of_xreadgroup {server : Server Id Fields Name} {entry : Id × Fields}
    (replied : (server.xreadgroup key name consumer count).2 = .ok (some taken)) (member : entry ∈ taken) :
    server.frontier key name < entry.1 ∧
      entry.1 ≤ (server.xreadgroup key name consumer count).1.frontier key name := by
  unfold xreadgroup at replied ⊢
  cases found : server.group key name with
  | none =>
    rw [found] at replied
    cases replied
  | some group =>
    rw [found] at replied
    dsimp only at replied ⊢
    split at replied
    · cases replied
    · next nonempty =>
      cases replied
      rw [frontier_putGroup, if_pos ⟨rfl, rfl⟩, frontier_of_group found]
      exact ⟨(ConsumerGroup.mem_nextEntries member).2,
        ConsumerGroup.le_lastOf (group.nextEntries_increasing (server.stream key).increasing count) _ member⟩

/-- The ids given to a group and not acknowledged yet. -/
def pendingIds (server : Server Id Fields Name) (key name : Name) : List Id :=
  match server.group key name with
  | some group => group.pending.map Prod.fst
  | none => []

omit [DecidableEq Name] in
theorem pendingIds_of_group {server : Server Id Fields Name} {group : ConsumerGroup Id Name}
    (found : server.group key name = some group) : server.pendingIds key name = group.pending.map Prod.fst := by
  rw [pendingIds, found]

omit [DecidableEq Name] in
theorem le_of_pendingIds {server : Server Id Fields Name} {id : Id} (member : id ∈ server.pendingIds key name) :
    id ≤ server.frontier key name := by
  unfold pendingIds at member
  unfold frontier
  split at member
  · next group found =>
    obtain ⟨entry, held, rfl⟩ := List.mem_map.mp member
    exact group.behind entry held
  · cases member

omit [DecidableEq Name] in
theorem mem_stillPending {server : Server Id Fields Name} {group : ConsumerGroup Id Name} {id : Id}
    (found : server.group key name = some group) (member : id ∈ server.pendingIds key name) (listed : id ∈ ids) :
    id ∈ group.stillPending ids := by
  rw [pendingIds_of_group found] at member
  obtain ⟨entry, held, rfl⟩ := List.mem_map.mp member
  exact List.mem_filter.mpr ⟨listed, List.any_eq_true.mpr ⟨entry, held, decide_eq_true rfl⟩⟩

/-- Frontiers advance, and what becomes pending was beyond them. -/
structure Grown (before after : Server Id Fields Name) : Prop where
  advance : ∀ key name, before.frontier key name ≤ after.frontier key name
  pending : ∀ key name, ∀ id ∈ after.pendingIds key name,
    id ∈ before.pendingIds key name ∨ before.frontier key name < id

omit [DecidableEq Name] in
theorem Grown.refl (server : Server Id Fields Name) : Grown server server :=
  ⟨fun _ _ => le_refl _, fun _ _ _ member => Or.inl member⟩

theorem grown_putGroup {server : Server Id Fields Name} {group : ConsumerGroup Id Name}
    (advance : server.frontier key name ≤ group.lastDelivered)
    (pending : ∀ id ∈ group.pending.map Prod.fst, id ∈ server.pendingIds key name ∨ server.frontier key name < id) :
    Grown server (server.putGroup key name group) where
  advance other probe := by
    rw [frontier_putGroup]
    split
    · next same =>
      rw [same.1, same.2]
      exact advance
    · exact le_refl _
  pending other probe id member := by
    rw [pendingIds, group_putGroup] at member
    by_cases same : other = key ∧ probe = name
    · rw [if_pos same] at member
      rw [same.1, same.2]
      exact pending id member
    · rw [if_neg same] at member
      exact Or.inl member

theorem grown_xadd {server after : Server Id Fields Name} {id : Id} (added : server.xadd key id fields = some after) :
    Grown server after where
  advance other name := by
    unfold frontier
    rw [group_xadd added]
  pending other name pending member := by
    rw [pendingIds, group_xadd added] at member
    exact Or.inl member

theorem grown_xgroupCreate (server : Server Id Fields Name) (key name : Name) :
    Grown server (server.xgroupCreate key name).1 := by
  unfold xgroupCreate
  split
  · exact .refl server
  · next missing =>
    refine grown_putGroup ?_ (List.forall_mem_nil _)
    rw [frontier, missing]
    exact bot_le

theorem grown_xack (server : Server Id Fields Name) (key name : Name) (id : Id) :
    Grown server (server.xack key name id).1 := by
  unfold xack
  split
  · next group found =>
    refine grown_putGroup (frontier_of_group found ▸ le_refl _) fun other member => Or.inl ?_
    rw [pendingIds_of_group found]
    obtain ⟨entry, kept, rfl⟩ := List.mem_map.mp member
    exact List.mem_map_of_mem (List.mem_filter.mp kept).1
  · exact .refl server

theorem grown_xclaim (server : Server Id Fields Name) (key name consumer : Name) (ids : List Id) :
    Grown server (server.xclaim key name consumer ids).1 := by
  unfold xclaim
  split
  · next group found =>
    refine grown_putGroup (frontier_of_group found ▸ le_refl _) fun other member => Or.inl ?_
    rw [pendingIds_of_group found]
    obtain ⟨claimed, listed, rfl⟩ := List.mem_map.mp member
    obtain ⟨entry, held, rfl⟩ := List.mem_map.mp listed
    have same : (if entry.1 ∈ ids then (entry.1, consumer) else entry).1 = entry.1 := by
      split <;> rfl
    rw [same]
    exact List.mem_map_of_mem held
  · exact .refl server

theorem grown_xreadgroup (server : Server Id Fields Name) (key name consumer : Name) (count : Nat) :
    Grown server (server.xreadgroup key name consumer count).1 := by
  unfold xreadgroup
  cases found : server.group key name with
  | none => exact .refl server
  | some group =>
    dsimp only
    split
    · exact .refl server
    · refine grown_putGroup ?_ fun id member => ?_
      · rw [frontier_of_group found]
        exact ConsumerGroup.le_lastOf_of_forall fun entry next => (ConsumerGroup.mem_nextEntries next).2
      · rw [pendingIds_of_group found, frontier_of_group found]
        obtain ⟨held, listed, rfl⟩ := List.mem_map.mp member
        rcases List.mem_append.mp listed with earlier | given
        · exact Or.inl (List.mem_map_of_mem earlier)
        · obtain ⟨entry, next, rfl⟩ := List.mem_map.mp given
          exact Or.inr (ConsumerGroup.mem_nextEntries next).2

end Server

end FeynmanEngine.RedisStreams
