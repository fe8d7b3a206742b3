import Mathlib.Data.List.Nodup
import Mathlib.Data.List.Perm.Basic
import Mathlib.Data.List.Range
import Mathlib.Logic.Function.Basic
import FeynmanEngine.Channels

/-! Broadcasts to a list of subscribers with bounded channels. A broadcast takes
the list as it stands, sends to one subscriber after the other, waiting for room,
and at its end drops those that hung up from the list. A caller broadcasts its
messages one by one; any number of callers do so at a time. -/
namespace FeynmanEngine.Fanouts
open Traces Channels

variable {Message : Type}

/-! ### Callers and subscribers -/

/-- A caller between two broadcasts or in one. -/
inductive Caller (Message : Type) where
  | between (rest : List Message)
  | sending (message : Message) (targets : List Nat) (rest : List Message)

namespace Caller

/-- The subscribers a caller has yet to send its message to. -/
def targets : Caller Message → List Nat
  | between _ => []
  | sending _ targets _ => targets

/-- The messages it has not begun to broadcast. -/
def rest : Caller Message → List Message
  | between rest => rest
  | sending _ _ rest => rest

/-- What is on its way to one subscriber. -/
def waiting (subscriber : Nat) : Caller Message → List Message
  | between _ => []
  | sending message targets _ => if subscriber ∈ targets then [message] else []

end Caller

/-- Subscribers and callers are numbered as they come. -/
structure Fanout (Message : Type) where
  opened : Nat
  channels : Nat → Channel Message
  received : Nat → List Message
  listed : List Nat
  called : Nat
  callers : Nat → Caller Message

namespace Fanout

def start : Fanout Message := ⟨0, fun _ => .fresh 0, fun _ => [], [], 0, fun _ => .between []⟩

def subscribe (fanout : Fanout Message) (capacity : Nat) : Fanout Message :=
  { fanout with
    opened := fanout.opened + 1
    channels := Function.update fanout.channels fanout.opened (.fresh capacity)
    received := Function.update fanout.received fanout.opened []
    listed := fanout.listed ++ [fanout.opened] }

def call (fanout : Fanout Message) (messages : List Message) : Fanout Message :=
  { fanout with
    called := fanout.called + 1
    callers := Function.update fanout.callers fanout.called (.between messages) }

def setCaller (fanout : Fanout Message) (caller : Nat) (state : Caller Message) : Fanout Message :=
  { fanout with callers := Function.update fanout.callers caller state }

def setChannel (fanout : Fanout Message) (subscriber : Nat) (channel : Channel Message) : Fanout Message :=
  { fanout with channels := Function.update fanout.channels subscriber channel }

def setQueue (fanout : Fanout Message) (subscriber : Nat) (queue : List Message) : Fanout Message :=
  fanout.setChannel subscriber { fanout.channels subscriber with queue := queue }

def listens (fanout : Fanout Message) (subscriber : Nat) : Bool := (fanout.channels subscriber).receiving

/-- `retain`: subscribers that hung up leave the list. -/
def sweep (fanout : Fanout Message) : Fanout Message :=
  { fanout with listed := fanout.listed.filter fanout.listens }

/-- Everything a subscriber was handed, whether it took it already or not. -/
def delivered (fanout : Fanout Message) (subscriber : Nat) : List Message :=
  fanout.received subscriber ++ (fanout.channels subscriber).queue

end Fanout

/-! ### Steps -/

inductive Label (Message : Type) where
  | subscribed (subscriber : Nat)
  | called (caller : Nat) (messages : List Message)
  | began (caller : Nat) (message : Message)
  | sent (caller subscriber : Nat) (message : Message)
  | skipped (caller subscriber : Nat)
  | finished (caller : Nat)
  | received (subscriber : Nat) (message : Message)
  | hungUp (subscriber : Nat)

/-- The steps of callers and subscribers. -/
inductive Moves (capacity : Nat) (fanout : Fanout Message) : Label Message → Fanout Message → Prop
  | subscribed : Moves capacity fanout (.subscribed fanout.opened) (fanout.subscribe capacity)
  | called (messages : List Message) :
      Moves capacity fanout (.called fanout.called messages) (fanout.call messages)
  | began (holds : fanout.callers caller = .between (message :: rest)) :
      Moves capacity fanout (.began caller message) (fanout.setCaller caller (.sending message fanout.listed rest))
  /-- A send goes through once there is room. -/
  | sent (holds : fanout.callers caller = .sending message (subscriber :: targets) rest)
      (listens : fanout.listens subscriber = true)
      (room : (fanout.channels subscriber).queue.length < (fanout.channels subscriber).capacity) :
      Moves capacity fanout (.sent caller subscriber message)
        ((fanout.setQueue subscriber ((fanout.channels subscriber).queue ++ [message])).setCaller caller
          (.sending message targets rest))
  /-- A send to a subscriber that hung up fails, and the failure is ignored. -/
  | skipped (holds : fanout.callers caller = .sending message (subscriber :: targets) rest)
      (gone : fanout.listens subscriber = false) :
      Moves capacity fanout (.skipped caller subscriber) (fanout.setCaller caller (.sending message targets rest))
  | finished (holds : fanout.callers caller = .sending message [] rest) :
      Moves capacity fanout (.finished caller) (fanout.sweep.setCaller caller (.between rest))
  | received (front : (fanout.channels subscriber).queue = message :: rest) :
      Moves capacity fanout (.received subscriber message)
        { fanout.setQueue subscriber rest with
          received := Function.update fanout.received subscriber (fanout.received subscriber ++ [message]) }
  | hungUp (opened : subscriber < fanout.opened) :
      Moves capacity fanout (.hungUp subscriber)
        (fanout.setChannel subscriber { fanout.channels subscriber with receiving := false })

namespace Fanout

/-- What a caller does next, if it need not wait. -/
def advance (fanout : Fanout Message) (caller : Nat) : Option (Label Message × Fanout Message) :=
  match fanout.callers caller with
  | .between [] => none
  | .between (message :: rest) =>
    some (.began caller message, fanout.setCaller caller (.sending message fanout.listed rest))
  | .sending _ [] rest => some (.finished caller, fanout.sweep.setCaller caller (.between rest))
  | .sending message (subscriber :: targets) rest =>
    if fanout.listens subscriber then
      if (fanout.channels subscriber).queue.length < (fanout.channels subscriber).capacity then
        some (.sent caller subscriber message,
          (fanout.setQueue subscriber ((fanout.channels subscriber).queue ++ [message])).setCaller caller
            (.sending message targets rest))
      else none
    else some (.skipped caller subscriber, fanout.setCaller caller (.sending message targets rest))

theorem advance_moves {fanout next : Fanout Message} (advanced : fanout.advance caller = some (label, next)) :
    Moves capacity fanout label next ∧ ∀ caller messages, label ≠ .called caller messages := by
  unfold advance at advanced
  split at advanced
  · cases advanced
  · next message rest holds =>
    cases advanced
    exact ⟨.began holds, nofun⟩
  · next message rest holds =>
    cases advanced
    exact ⟨.finished holds, nofun⟩
  · next message subscriber targets rest holds =>
    split at advanced
    · next listens =>
      split at advanced
      · next room =>
        cases advanced
        exact ⟨.sent holds listens room, nofun⟩
      · cases advanced
    · next gone =>
      cases advanced
      exact ⟨.skipped holds (Bool.eq_false_iff.mpr gone), nofun⟩

end Fanout

/-! ### What labels say -/

/-- The messages begun, each with its caller. -/
def begun (labels : List (Label Message)) : List (Nat × Message) :=
  labels.filterMap fun
    | .began caller message => some (caller, message)
    | _ => none

/-- The messages sent to one subscriber, each with its caller. -/
def handed (subscriber : Nat) (labels : List (Label Message)) : List (Nat × Message) :=
  labels.filterMap fun
    | .sent caller target message => if target = subscriber then some (caller, message) else none
    | _ => none

/-- The messages of one caller. -/
def byCaller (caller : Nat) (messages : List (Nat × Message)) : List Message :=
  (messages.filter fun entry => entry.1 = caller).map Prod.snd

theorem begun_snoc (labels : List (Label Message)) (label : Label Message) :
    begun (labels ++ [label]) = begun labels ++ begun [label] :=
  List.filterMap_append

theorem handed_snoc (subscriber : Nat) (labels : List (Label Message)) (label : Label Message) :
    handed subscriber (labels ++ [label]) = handed subscriber labels ++ handed subscriber [label] :=
  List.filterMap_append

theorem byCaller_append (caller : Nat) (first last : List (Nat × Message)) :
    byCaller caller (first ++ last) = byCaller caller first ++ byCaller caller last := by
  rw [byCaller, List.filter_append, List.map_append]
  rfl

/-- Messages sorted by their callers. -/
theorem perm_byCaller (messages : List (Nat × Message)) (below : ∀ entry ∈ messages, entry.1 < bound) :
    (messages.map Prod.snd).Perm ((List.range bound).flatMap fun caller => byCaller caller messages) := by
  have upTo : ∀ count, ((messages.filter fun entry => entry.1 < count).map Prod.snd).Perm
      ((List.range count).flatMap fun caller => byCaller caller messages) := by
    intro count
    induction count with
    | zero => simp
    | succ count ih =>
      have parted := (List.filter_append_perm (fun entry : Nat × Message => decide (entry.1 < count))
        (messages.filter fun entry => entry.1 < count + 1)).symm.map Prod.snd
      rw [List.filter_filter, List.filter_filter, List.map_append] at parted
      have lower : (messages.filter fun entry => decide (entry.1 < count) && decide (entry.1 < count + 1)) =
          messages.filter fun entry => entry.1 < count :=
        List.filter_congr fun entry _ => by grind
      have own : (messages.filter fun entry => !decide (entry.1 < count) && decide (entry.1 < count + 1)) =
          messages.filter fun entry => entry.1 = count :=
        List.filter_congr fun entry _ => by grind
      rw [lower, own] at parted
      rw [List.range_succ, List.flatMap_append, List.flatMap_singleton]
      exact parted.trans (ih.append_right _)
  have all : messages.filter (fun entry => entry.1 < bound) = messages :=
    List.filter_eq_self.mpr fun entry member => decide_eq_true (below entry member)
  rw [← all]
  refine (upTo bound).trans ?_
  rw [all]

/-! ### The list of subscribers -/

/-- Whoever listens is on the list, once; callers send to subscribers that were
opened, once each; and nobody calls under a number not given out yet. -/
structure Kept (capacity : Nat) (fanout : Fanout Message) : Prop where
  listedOnce : fanout.listed.Nodup
  listedOpened : ∀ subscriber ∈ fanout.listed, subscriber < fanout.opened
  heard : ∀ subscriber < fanout.opened, fanout.listens subscriber = true → subscriber ∈ fanout.listed
  targetsOnce : ∀ caller, (fanout.callers caller).targets.Nodup
  targetsOpened : ∀ caller, ∀ subscriber ∈ (fanout.callers caller).targets, subscriber < fanout.opened
  room : ∀ subscriber < fanout.opened, (fanout.channels subscriber).capacity = capacity
  silent : ∀ caller, fanout.called ≤ caller → fanout.callers caller = .between []

theorem Kept.start : Kept capacity (Fanout.start : Fanout Message) where
  listedOnce := .nil
  listedOpened := List.forall_mem_nil _
  heard _ opened := absurd opened (Nat.not_lt_zero _)
  targetsOnce _ := .nil
  targetsOpened _ := List.forall_mem_nil _
  room _ opened := absurd opened (Nat.not_lt_zero _)
  silent _ _ := rfl

/-- A caller moves on to targets that are fewer, or those on the list. -/
theorem Kept.setCaller {fanout : Fanout Message} (kept : Kept capacity fanout) (known : caller < fanout.called)
    (targets : state.targets.Sublist fanout.listed ∨ state.targets.Sublist (fanout.callers caller).targets) :
    Kept capacity (fanout.setCaller caller state) where
  listedOnce := kept.listedOnce
  listedOpened := kept.listedOpened
  heard := kept.heard
  targetsOnce other := by
    unfold Fanout.setCaller
    dsimp only
    by_cases same : other = caller
    · subst same
      rw [Function.update_self]
      rcases targets with listed | fewer
      · exact kept.listedOnce.sublist listed
      · exact (kept.targetsOnce other).sublist fewer
    · rw [Function.update_of_ne same]
      exact kept.targetsOnce other
  targetsOpened other subscriber member := by
    unfold Fanout.setCaller at member ⊢
    dsimp only at member ⊢
    by_cases same : other = caller
    · subst same
      rw [Function.update_self] at member
      rcases targets with listed | fewer
      · exact kept.listedOpened subscriber (listed.subset member)
      · exact kept.targetsOpened other subscriber (fewer.subset member)
    · rw [Function.update_of_ne same] at member
      exact kept.targetsOpened other subscriber member
  room := kept.room
  silent other beyond := by
    unfold Fanout.setCaller at beyond ⊢
    dsimp only at beyond ⊢
    rw [Function.update_of_ne (by omega)]
    exact kept.silent other beyond

/-- A channel changes, without anyone coming back. -/
theorem Kept.setChannel {fanout : Fanout Message} (kept : Kept capacity fanout)
    (room : channel.capacity = (fanout.channels subscriber).capacity)
    (gone : channel.receiving = true → fanout.listens subscriber = true) :
    Kept capacity (fanout.setChannel subscriber channel) where
  listedOnce := kept.listedOnce
  listedOpened := kept.listedOpened
  heard other opened listens := by
    unfold Fanout.listens Fanout.setChannel at listens
    dsimp only at listens
    by_cases same : other = subscriber
    · subst same
      rw [Function.update_self] at listens
      exact kept.heard other opened (gone listens)
    · rw [Function.update_of_ne same] at listens
      exact kept.heard other opened listens
  targetsOnce := kept.targetsOnce
  targetsOpened := kept.targetsOpened
  room other opened := by
    unfold Fanout.setChannel
    dsimp only
    by_cases same : other = subscriber
    · subst same
      rw [Function.update_self, room]
      exact kept.room other opened
    · rw [Function.update_of_ne same]
      exact kept.room other opened
  silent := kept.silent

theorem Kept.setQueue {fanout : Fanout Message} (kept : Kept capacity fanout) (subscriber : Nat)
    (queue : List Message) : Kept capacity (fanout.setQueue subscriber queue) :=
  kept.setChannel rfl fun receiving => receiving

theorem Kept.sweep {fanout : Fanout Message} (kept : Kept capacity fanout) : Kept capacity fanout.sweep where
  listedOnce := kept.listedOnce.sublist List.filter_sublist
  listedOpened subscriber member := kept.listedOpened subscriber (List.mem_filter.mp member).1
  heard subscriber opened listens := List.mem_filter.mpr ⟨kept.heard subscriber opened listens, listens⟩
  targetsOnce := kept.targetsOnce
  targetsOpened := kept.targetsOpened
  room := kept.room
  silent := kept.silent

theorem Kept.subscribe {fanout : Fanout Message} (kept : Kept capacity fanout) :
    Kept capacity (fanout.subscribe capacity) where
  listedOnce := by
    refine List.nodup_append.mpr ⟨kept.listedOnce, List.nodup_singleton _, fun subscriber member other last => ?_⟩
    rw [List.mem_singleton.mp last]
    exact (kept.listedOpened subscriber member).ne
  listedOpened subscriber member := by
    rcases List.mem_append.mp member with old | new
    · exact Nat.lt_succ_of_lt (kept.listedOpened subscriber old)
    · rw [List.mem_singleton.mp new]
      exact Nat.lt_succ_self _
  heard subscriber opened listens := by
    rcases Nat.lt_succ_iff_lt_or_eq.mp opened with old | rfl
    · unfold Fanout.listens Fanout.subscribe at listens
      dsimp only at listens
      rw [Function.update_of_ne old.ne] at listens
      exact List.mem_append_left _ (kept.heard subscriber old listens)
    · exact List.mem_append_right _ (List.mem_singleton_self _)
  targetsOnce := kept.targetsOnce
  targetsOpened caller subscriber member := Nat.lt_succ_of_lt (kept.targetsOpened caller subscriber member)
  room subscriber opened := by
    unfold Fanout.subscribe
    dsimp only
    rcases Nat.lt_succ_iff_lt_or_eq.mp opened with old | rfl
    · rw [Function.update_of_ne old.ne]
      exact kept.room subscriber old
    · rw [Function.update_self]
      rfl
  silent := kept.silent

theorem Kept.call {fanout : Fanout Message} (kept : Kept capacity fanout) (messages : List Message) :
    Kept capacity (fanout.call messages) where
  listedOnce := kept.listedOnce
  listedOpened := kept.listedOpened
  heard := kept.heard
  targetsOnce caller := by
    unfold Fanout.call
    dsimp only
    by_cases same : caller = fanout.called
    · rw [same, Function.update_self]
      exact .nil
    · rw [Function.update_of_ne same]
      exact kept.targetsOnce caller
  targetsOpened caller subscriber member := by
    unfold Fanout.call at member
    dsimp only at member
    by_cases same : caller = fanout.called
    · rw [same, Function.update_self] at member
      cases member
    · rw [Function.update_of_ne same] at member
      exact kept.targetsOpened caller subscriber member
  room := kept.room
  silent caller beyond := by
    unfold Fanout.call at beyond ⊢
    dsimp only at beyond ⊢
    rw [Function.update_of_ne (by omega)]
    exact kept.silent caller (by omega)

/-- A caller with something to do was called. -/
theorem Kept.known {fanout : Fanout Message} (kept : Kept capacity fanout) (caller : Nat)
    (busy : fanout.callers caller ≠ .between []) : caller < fanout.called := by
  by_contra beyond
  exact busy (kept.silent caller (not_lt.mp beyond))

theorem Kept.step {fanout next : Fanout Message} (kept : Kept capacity fanout)
    (moves : Moves capacity fanout label next) : Kept capacity next := by
  cases moves with
  | subscribed => exact kept.subscribe
  | called messages => exact kept.call messages
  | began holds => exact kept.setCaller (kept.known _ (by simp [holds])) (Or.inl (List.Sublist.refl _))
  | @sent caller message subscriber targets rest holds listens room =>
    have known := kept.known caller (by simp [holds])
    refine (kept.setQueue _ _).setCaller known (Or.inr ?_)
    change targets.Sublist (fanout.callers caller).targets
    rw [holds]
    exact List.sublist_cons_self _ _
  | @skipped caller message subscriber targets rest holds gone =>
    refine kept.setCaller (kept.known _ (by simp [holds])) (Or.inr ?_)
    rw [holds]
    exact List.sublist_cons_self _ _
  | @finished caller message rest holds =>
    exact kept.sweep.setCaller (kept.known _ (by simp [holds])) (Or.inl (List.nil_sublist _))
  | @received subscriber message rest front =>
    have taken := kept.setQueue subscriber rest
    exact ⟨taken.1, taken.2, taken.3, taken.4, taken.5, taken.6, taken.7⟩
  | hungUp opened => exact kept.setChannel rfl fun receiving => nomatch receiving

theorem kept_of_run {first fanout : Fanout Message} (kept : Kept capacity first)
    (run : Path (Moves capacity) first labels fanout) : Kept capacity fanout := by
  induction run with
  | start => exact kept
  | step _ moves ih => exact ih.step moves

/-! ### What a subscriber gets -/

/-- The account of one subscriber since it subscribed: every message begun was
handed to it or is on its way, caller by caller in order, as long as it listens;
and what it was handed is what it took and what waits for it. -/
structure Served (subscriber : Nat) (labels : List (Label Message)) (fanout : Fanout Message) : Prop where
  opened : subscriber < fanout.opened
  balanced : fanout.listens subscriber = true → ∀ caller,
    byCaller caller (handed subscriber labels) ++ (fanout.callers caller).waiting subscriber =
      byCaller caller (begun labels)
  delivered : fanout.delivered subscriber = (handed subscriber labels).map Prod.snd
  fromCallers : ∀ entry ∈ handed subscriber labels ++ begun labels, entry.1 < fanout.called

/-- A new subscriber has missed nothing. -/
theorem Served.start {fanout : Fanout Message} (kept : Kept capacity fanout) :
    Served fanout.opened [] (fanout.subscribe capacity) where
  opened := Nat.lt_succ_self _
  balanced _ caller := by
    unfold Fanout.subscribe
    dsimp only
    cases holds : fanout.callers caller with
    | between rest => rfl
    | sending message targets rest =>
      have absent : fanout.opened ∉ targets := fun member =>
        absurd (kept.targetsOpened caller _ (by rw [holds]; exact member)) (lt_irrefl _)
      simp [Caller.waiting, absent, handed, begun, byCaller]
  delivered := by
    simp [Fanout.delivered, Fanout.subscribe, Channel.fresh, handed]
  fromCallers := List.forall_mem_nil _

theorem waiting_setCaller (fanout : Fanout Message) (caller other : Nat) (state : Caller Message) (subscriber : Nat) :
    ((fanout.setCaller caller state).callers other).waiting subscriber =
      if other = caller then state.waiting subscriber else (fanout.callers other).waiting subscriber := by
  unfold Fanout.setCaller
  dsimp only
  rw [Function.update_apply]
  split <;> rfl

theorem byCaller_single (caller other : Nat) (message : Message) :
    byCaller caller [(other, message)] = if caller = other then [message] else [] := by
  unfold byCaller
  by_cases same : caller = other
  · simp [same]
  · simp [same, Ne.symm same]

/-- Nothing was begun or handed over: the account stands. -/
theorem Served.quiet {fanout next : Fanout Message} (served : Served subscriber labels fanout)
    (label : Label Message) (nothingBegun : begun [label] = []) (nothingHanded : handed subscriber [label] = [])
    (opened : fanout.opened ≤ next.opened) (called : fanout.called ≤ next.called)
    (listens : next.listens subscriber = true → fanout.listens subscriber = true ∧
      ∀ caller, (next.callers caller).waiting subscriber = (fanout.callers caller).waiting subscriber)
    (delivered : next.delivered subscriber = fanout.delivered subscriber) :
    Served subscriber (labels ++ [label]) next where
  opened := lt_of_lt_of_le served.opened opened
  balanced hears caller := by
    obtain ⟨heard, same⟩ := listens hears
    rw [begun_snoc, handed_snoc, nothingBegun, nothingHanded, List.append_nil, List.append_nil, same caller]
    exact served.balanced heard caller
  delivered := by
    rw [handed_snoc, nothingHanded, List.append_nil, delivered]
    exact served.delivered
  fromCallers := by
    rw [begun_snoc, handed_snoc, nothingBegun, nothingHanded, List.append_nil, List.append_nil]
    exact fun entry member => lt_of_lt_of_le (served.fromCallers entry member) called

theorem Served.subscribed {fanout : Fanout Message} (served : Served subscriber labels fanout) :
    Served subscriber (labels ++ [.subscribed fanout.opened]) (fanout.subscribe capacity) := by
  have other := served.opened.ne
  refine served.quiet _ rfl rfl (Nat.le_succ _) (le_refl _) (fun hears => ⟨?_, fun _ => rfl⟩) ?_
  · unfold Fanout.listens Fanout.subscribe at hears
    dsimp only at hears
    rw [Function.update_of_ne other] at hears
    exact hears
  · unfold Fanout.delivered Fanout.subscribe
    dsimp only
    rw [Function.update_of_ne other, Function.update_of_ne other]

theorem Served.called {fanout : Fanout Message} (served : Served subscriber labels fanout) (kept : Kept capacity fanout)
    (messages : List Message) :
    Served subscriber (labels ++ [.called fanout.called messages]) (fanout.call messages) := by
  refine served.quiet _ rfl rfl (le_refl _) (Nat.le_succ _) (fun hears => ⟨hears, fun caller => ?_⟩) rfl
  unfold Fanout.call
  dsimp only
  by_cases same : caller = fanout.called
  · rw [same, Function.update_self, kept.silent _ (le_refl _)]
    rfl
  · rw [Function.update_of_ne same]

/-- A message begun is on its way to whoever listens. -/
theorem Served.began {fanout : Fanout Message} (served : Served subscriber labels fanout) (kept : Kept capacity fanout)
    (holds : fanout.callers caller = .between (message :: rest)) :
    Served subscriber (labels ++ [.began caller message])
      (fanout.setCaller caller (.sending message fanout.listed rest)) := by
  have known := kept.known caller (by simp [holds])
  refine ⟨served.opened, fun hears other => ?_, ?_, ?_⟩
  · have before := served.balanced hears other
    have listed := kept.heard subscriber served.opened hears
    rw [begun_snoc, handed_snoc, waiting_setCaller]
    change byCaller other (handed subscriber labels ++ []) ++ _ = byCaller other (begun labels ++ [(caller, message)])
    rw [List.append_nil, byCaller_append, byCaller_single, ← before]
    by_cases same : other = caller
    · rw [if_pos same, if_pos same, same, holds]
      simp [Caller.waiting, listed]
    · rw [if_neg same, if_neg same, List.append_nil]
  · rw [handed_snoc]
    exact served.delivered.trans (congrArg _ (List.append_nil _).symm)
  · intro entry member
    rw [begun_snoc, handed_snoc] at member
    simp only [handed, begun, List.filterMap_cons, List.filterMap_nil, List.append_nil] at member
    rcases List.mem_append.mp member with old | new
    · exact served.fromCallers entry (List.mem_append_left _ old)
    · rcases List.mem_append.mp new with old | own
      · exact served.fromCallers entry (List.mem_append_right _ old)
      · rw [List.mem_singleton.mp own]
        exact known

/-- The message a subscriber was sent was on its way to it. -/
theorem Served.sent_own {fanout : Fanout Message} (served : Served subscriber labels fanout) (kept : Kept capacity fanout)
    (holds : fanout.callers caller = .sending message (subscriber :: targets) rest)
    (listens : fanout.listens subscriber = true) :
    Served subscriber (labels ++ [.sent caller subscriber message])
      ((fanout.setQueue subscriber ((fanout.channels subscriber).queue ++ [message])).setCaller caller
        (.sending message targets rest)) := by
  have known := kept.known caller (by simp [holds])
  have once : (subscriber :: targets).Nodup := by
    have targets := kept.targetsOnce caller
    rwa [holds] at targets
  refine ⟨served.opened, fun _ other => ?_, ?_, ?_⟩
  · have before := served.balanced listens other
    rw [begun_snoc, handed_snoc, waiting_setCaller]
    simp only [handed, begun, List.filterMap_cons, List.filterMap_nil, if_true, List.append_nil] at before ⊢
    rw [byCaller_append, byCaller_single, ← before]
    by_cases same : other = caller
    · rw [if_pos same, if_pos same, same, holds]
      simp [Caller.waiting, (List.nodup_cons.mp once).1]
    · rw [if_neg same, if_neg same, List.append_nil]
      rfl
  · rw [handed_snoc, List.map_append, ← served.delivered]
    unfold Fanout.delivered Fanout.setCaller Fanout.setQueue Fanout.setChannel
    simp [handed]
  · intro entry member
    rw [begun_snoc, handed_snoc] at member
    simp only [handed, begun, List.filterMap_cons, List.filterMap_nil, if_true, List.append_nil] at member
    rcases List.mem_append.mp member with given | old
    · rcases List.mem_append.mp given with old | own
      · exact served.fromCallers entry (List.mem_append_left _ old)
      · rw [List.mem_singleton.mp own]
        exact known
    · exact served.fromCallers entry (List.mem_append_right _ old)

theorem Served.sent_other {fanout : Fanout Message} (served : Served subscriber labels fanout)
    (holds : fanout.callers caller = .sending message (target :: targets) rest) (own : target ≠ subscriber) :
    Served subscriber (labels ++ [.sent caller target message])
      ((fanout.setQueue target ((fanout.channels target).queue ++ [message])).setCaller caller
        (.sending message targets rest)) := by
  refine served.quiet _ rfl (by simp [handed, own]) (le_refl _) (le_refl _) (fun hears => ⟨?_, fun other => ?_⟩) ?_
  · unfold Fanout.listens Fanout.setCaller Fanout.setQueue Fanout.setChannel at hears
    dsimp only at hears
    rwa [Function.update_of_ne (Ne.symm own)] at hears
  · rw [waiting_setCaller]
    split
    · next same =>
      rw [same, holds]
      simp [Caller.waiting, Ne.symm own]
    · rfl
  · unfold Fanout.delivered Fanout.setCaller Fanout.setQueue Fanout.setChannel
    dsimp only
    rw [Function.update_of_ne (Ne.symm own)]

theorem Served.skipped {fanout : Fanout Message} (served : Served subscriber labels fanout)
    (holds : fanout.callers caller = .sending message (target :: targets) rest)
    (gone : fanout.listens target = false) :
    Served subscriber (labels ++ [.skipped caller target])
      (fanout.setCaller caller (.sending message targets rest)) := by
  refine served.quiet _ rfl rfl (le_refl _) (le_refl _) (fun hears => ⟨hears, fun other => ?_⟩) rfl
  have own : subscriber ≠ target := by
    rintro rfl
    have heard : fanout.listens subscriber = true := hears
    rw [gone] at heard
    cases heard
  rw [waiting_setCaller]
  split
  · next same =>
    rw [same, holds]
    simp [Caller.waiting, own]
  · rfl

theorem Served.finished {fanout : Fanout Message} (served : Served subscriber labels fanout)
    (holds : fanout.callers caller = .sending message [] rest) :
    Served subscriber (labels ++ [.finished caller]) (fanout.sweep.setCaller caller (.between rest)) := by
  refine served.quiet _ rfl rfl (le_refl _) (le_refl _) (fun hears => ⟨hears, fun other => ?_⟩) rfl
  rw [waiting_setCaller]
  split
  · next same =>
    rw [same, holds]
    rfl
  · rfl

theorem Served.received {fanout : Fanout Message} (served : Served subscriber labels fanout)
    (front : (fanout.channels target).queue = message :: rest) :
    Served subscriber (labels ++ [.received target message])
      { fanout.setQueue target rest with
        received := Function.update fanout.received target (fanout.received target ++ [message]) } := by
  refine served.quiet _ rfl rfl (le_refl _) (le_refl _) (fun hears => ⟨?_, fun _ => rfl⟩) ?_
  · unfold Fanout.listens Fanout.setQueue Fanout.setChannel at hears
    dsimp only at hears
    by_cases own : subscriber = target
    · subst own
      rwa [Function.update_self] at hears
    · rwa [Function.update_of_ne own] at hears
  · unfold Fanout.delivered Fanout.setQueue Fanout.setChannel
    dsimp only
    by_cases own : subscriber = target
    · subst own
      rw [Function.update_self, Function.update_self, front, List.append_assoc]
      rfl
    · rw [Function.update_of_ne own, Function.update_of_ne own]

theorem Served.hungUp {fanout : Fanout Message} (served : Served subscriber labels fanout) (target : Nat) :
    Served subscriber (labels ++ [.hungUp target])
      (fanout.setChannel target { fanout.channels target with receiving := false }) := by
  refine served.quiet _ rfl rfl (le_refl _) (le_refl _) (fun hears => ⟨?_, fun _ => rfl⟩) ?_
  · unfold Fanout.listens Fanout.setChannel at hears
    dsimp only at hears
    by_cases own : subscriber = target
    · subst own
      rw [Function.update_self] at hears
      cases hears
    · rwa [Function.update_of_ne own] at hears
  · unfold Fanout.delivered Fanout.setChannel
    dsimp only
    by_cases own : subscriber = target
    · subst own
      rw [Function.update_self]
    · rw [Function.update_of_ne own]

theorem Served.step {fanout next : Fanout Message} (served : Served subscriber labels fanout)
    (kept : Kept capacity fanout) (moves : Moves capacity fanout label next) :
    Served subscriber (labels ++ [label]) next := by
  cases moves with
  | subscribed => exact served.subscribed
  | called messages => exact served.called kept messages
  | began holds => exact served.began kept holds
  | @sent caller message target targets rest holds listens room =>
    by_cases own : target = subscriber
    · subst own
      exact served.sent_own kept holds listens
    · exact served.sent_other holds own
  | skipped holds gone => exact served.skipped holds gone
  | finished holds => exact served.finished holds
  | received front => exact served.received front
  | hungUp => exact served.hungUp _

theorem served_of_run {first fanout : Fanout Message} (run : Path (Moves capacity) .start before first)
    (onward : Path (Moves capacity) (first.subscribe capacity) labels fanout) :
    Served first.opened labels fanout := by
  have kept := kept_of_run .start run
  induction onward with
  | start => exact .start kept
  | step path moves ih => exact ih.step (kept_of_run kept.subscribe path) moves

/-- All together: what was begun is what the subscriber got and what is on its way to it. -/
theorem Served.perm {fanout : Fanout Message} (served : Served subscriber labels fanout)
    (listens : fanout.listens subscriber = true) :
    (fanout.delivered subscriber ++
      (List.range fanout.called).flatMap fun caller => (fanout.callers caller).waiting subscriber).Perm
        ((begun labels).map Prod.snd) := by
  have handedBelow : ∀ entry ∈ handed subscriber labels, entry.1 < fanout.called :=
    fun entry member => served.fromCallers entry (List.mem_append_left _ member)
  have begunBelow : ∀ entry ∈ begun labels, entry.1 < fanout.called :=
    fun entry member => served.fromCallers entry (List.mem_append_right _ member)
  rw [served.delivered]
  refine ((perm_byCaller _ handedBelow).append_right _).trans ?_
  refine (List.flatMap_append_perm _ _ _).trans ?_
  have callers : (fun caller => byCaller caller (handed subscriber labels) ++
      (fanout.callers caller).waiting subscriber) = fun caller => byCaller caller (begun labels) :=
    funext fun caller => served.balanced listens caller
  rw [callers]
  exact (perm_byCaller _ begunBelow).symm

/-! ### Progress -/

/-- The steps of callers and receivers that go on. -/
def Onward : Label Message → Prop
  | .began .. | .sent .. | .skipped .. | .finished _ | .received .. => True
  | .subscribed _ | .called .. | .hungUp _ => False

/-- Callers and receivers get there by themselves. -/
structure Reaches (capacity : Nat) (fanout final : Fanout Message) : Prop where
  run : ∃ labels, Path (Moves capacity) fanout labels final ∧ ∀ label ∈ labels, Onward label
  called : final.called = fanout.called

theorem Reaches.refl (fanout : Fanout Message) : Reaches capacity fanout fanout :=
  ⟨⟨[], .start, List.forall_mem_nil _⟩, rfl⟩

theorem Reaches.trans {fanout middle final : Fanout Message} (first : Reaches capacity fanout middle)
    (second : Reaches capacity middle final) : Reaches capacity fanout final := by
  obtain ⟨⟨labels, run, onward⟩, called⟩ := first
  obtain ⟨⟨more, next, further⟩, kept⟩ := second
  refine ⟨⟨labels ++ more, run.append next, fun label member => ?_⟩, kept.trans called⟩
  rcases List.mem_append.mp member with old | new
  · exact onward label old
  · exact further label new

theorem Reaches.of_move {fanout next : Fanout Message} (moves : Moves capacity fanout label next)
    (onward : Onward label) (called : next.called = fanout.called) : Reaches capacity fanout next :=
  ⟨⟨[label], .step .start moves, fun _ member => List.mem_singleton.mp member ▸ onward⟩, called⟩

theorem Reaches.kept {fanout final : Fanout Message} (reaches : Reaches capacity fanout final)
    (kept : Kept capacity fanout) : Kept capacity final := by
  obtain ⟨⟨labels, run, -⟩, -⟩ := reaches
  exact kept_of_run kept run

/-- A subscriber takes all that waits for it. -/
theorem reaches_taken (capacity : Nat) (fanout : Fanout Message) (subscriber : Nat) :
    ∃ final, Reaches capacity fanout final ∧ (final.channels subscriber).queue = [] ∧
      final.listens subscriber = fanout.listens subscriber ∧ final.callers = fanout.callers := by
  induction front : (fanout.channels subscriber).queue generalizing fanout with
  | nil => exact ⟨fanout, .refl fanout, front, rfl, rfl⟩
  | cons message rest ih =>
    let next : Fanout Message := { fanout.setQueue subscriber rest with
      received := Function.update fanout.received subscriber (fanout.received subscriber ++ [message]) }
    have channel : next.channels subscriber = { fanout.channels subscriber with queue := rest } :=
      Function.update_self ..
    obtain ⟨final, reaches, taken, listens, callers⟩ := ih next (by rw [channel])
    refine ⟨final, (Reaches.of_move (.received front) trivial rfl).trans reaches, taken, ?_, callers⟩
    rw [listens, Fanout.listens, channel]
    rfl

/-- The next target of a caller is served or skipped. -/
theorem reaches_next_target (positive : 0 < capacity) {fanout : Fanout Message} (kept : Kept capacity fanout)
    (holds : fanout.callers caller = .sending message (target :: targets) rest) :
    ∃ final, Reaches capacity fanout final ∧
      final.callers = Function.update fanout.callers caller (.sending message targets rest) := by
  cases hears : fanout.listens target with
  | false => exact ⟨_, .of_move (.skipped holds hears) trivial rfl, rfl⟩
  | true =>
    have opened : target < fanout.opened :=
      kept.targetsOpened caller target (by rw [holds]; exact List.mem_cons_self)
    obtain ⟨emptied, reaches, taken, listens, callers⟩ := reaches_taken capacity fanout target
    have later := reaches.kept kept
    have still : target < emptied.opened :=
      later.targetsOpened caller target (by rw [callers, holds]; exact List.mem_cons_self)
    have sends : Moves capacity emptied (.sent caller target message) _ :=
      .sent (by rw [callers, holds]) (by rw [listens, hears]) (by rw [taken, later.room target still]; exact positive)
    refine ⟨_, reaches.trans (.of_move sends trivial rfl), ?_⟩
    exact congrArg (fun states => Function.update states caller (.sending message targets rest)) callers

/-- A broadcast comes to its end. -/
theorem reaches_between (positive : 0 < capacity) {fanout : Fanout Message} (kept : Kept capacity fanout)
    (holds : fanout.callers caller = .sending message targets rest) :
    ∃ final, Reaches capacity fanout final ∧
      final.callers = Function.update fanout.callers caller (.between rest) := by
  induction targets generalizing fanout with
  | nil => exact ⟨_, .of_move (.finished holds) trivial rfl, rfl⟩
  | cons target targets ih =>
    obtain ⟨served, reaches, callers⟩ := reaches_next_target positive kept holds
    obtain ⟨final, onward, done⟩ := ih (reaches.kept kept) (by rw [callers, Function.update_self])
    refine ⟨final, reaches.trans onward, ?_⟩
    rw [done, callers, Function.update_idem]

/-- A caller gets through all its messages. -/
theorem reaches_done (positive : 0 < capacity) {fanout : Fanout Message} (kept : Kept capacity fanout)
    (holds : fanout.callers caller = .between messages) :
    ∃ final, Reaches capacity fanout final ∧
      final.callers = Function.update fanout.callers caller (.between []) := by
  induction messages generalizing fanout with
  | nil => exact ⟨fanout, .refl fanout, by rw [← holds, Function.update_eq_self]⟩
  | cons message rest ih =>
    have begins : Reaches capacity fanout _ := .of_move (.began holds) trivial rfl
    obtain ⟨sent, reaches, callers⟩ := reaches_between positive (begins.kept kept)
      (show (fanout.setCaller caller _).callers caller = _ from Function.update_self ..)
    have so := begins.trans reaches
    obtain ⟨final, onward, done⟩ := ih (so.kept kept) (by rw [callers, Function.update_self])
    refine ⟨final, so.trans onward, ?_⟩
    rw [done, callers, Fanout.setCaller, Function.update_idem, Function.update_idem]

/-- As long as receivers take what they are sent, every caller gets through. -/
theorem reaches_quiet (positive : 0 < capacity) {fanout : Fanout Message} (kept : Kept capacity fanout) :
    ∃ final, Reaches capacity fanout final ∧ ∀ caller, final.callers caller = .between [] := by
  have upTo : ∀ count, ∃ final, Reaches capacity fanout final ∧
      ∀ caller < count, final.callers caller = .between [] := by
    intro count
    induction count with
    | zero => exact ⟨fanout, .refl fanout, fun _ below => absurd below (Nat.not_lt_zero _)⟩
    | succ count ih =>
      obtain ⟨middle, reaches, quiet⟩ := ih
      have through : ∃ final, Reaches capacity middle final ∧
          final.callers = Function.update middle.callers count (.between []) := by
        cases holds : middle.callers count with
        | between messages => exact reaches_done positive (reaches.kept kept) holds
        | sending message targets rest =>
          obtain ⟨sent, toEnd, callers⟩ := reaches_between positive (reaches.kept kept) holds
          obtain ⟨final, onward, done⟩ := reaches_done positive ((reaches.trans toEnd).kept kept)
            (show sent.callers count = .between rest by rw [callers, Function.update_self])
          exact ⟨final, toEnd.trans onward, by rw [done, callers, Function.update_idem]⟩
      obtain ⟨final, onward, callers⟩ := through
      refine ⟨final, reaches.trans onward, fun caller below => ?_⟩
      rw [callers]
      by_cases same : caller = count
      · rw [same, Function.update_self]
      · rw [Function.update_of_ne same]
        exact quiet caller (by omega)
  obtain ⟨final, reaches, quiet⟩ := upTo fanout.called
  refine ⟨final, reaches, fun caller => ?_⟩
  by_cases known : caller < fanout.called
  · exact quiet caller known
  · exact (reaches.kept kept).silent caller (by rw [reaches.called]; exact not_lt.mp known)

end FeynmanEngine.Fanouts
