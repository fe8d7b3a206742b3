import FeynmanEngine.BookReplacements
import FeynmanEngine.SubmissionFailures

/-! The accounts of a paper venue whose calls come one after the other. What was
executed of an order, at its submission or on a later book and in calls that
failed as well, is its filled quantity while it is open and never more than its
quantity; it leaves the open orders when it is complete or cancelled, and only
then. A client order id that was acknowledged is answered with its first ack. -/
namespace FeynmanEngine.PaperAccounts
open Ids Orders Orderbooks VenueOrders FillSimulation Tables Traces PaperVenue PaperExecutions PaperOrdering
open PaperSections SubmissionFailures BookReplacements

/-- A call starts only when no other is running. -/
def alone (system : System) : Label → Bool
  | .called _ => system.calls.isEmpty
  | .answered .. | .passed | .inserted .. | .taken .. | .replaced .. | .cancelled .. | .broadcast _ |
    .returned => true

def cancelledOf (labels : List Label) : List VenueOrderId :=
  labels.filterMap fun
    | .cancelled venueOrderId (.ok _) => some venueOrderId
    | .cancelled _ (.error _) | .called _ | .answered .. | .passed | .inserted .. | .taken .. | .replaced .. |
      .broadcast _ | .returned => none

theorem cancelledOf_snoc (labels : List Label) (label : Label) :
    cancelledOf (labels ++ [label]) = cancelledOf labels ++ cancelledOf [label] :=
  List.filterMap_append

/-- A submission past the duplicate check is not cached yet. -/
def Fresh (state : PaperAdapterState) : Call → Prop
  | .pricing submission | .inserting submission _ =>
    state.idempotencyCache.lookup submission.clientOrderId = none
  | .submitting _ | .taking _ | .replacing _ | .cancelling _ | .broadcasting _ => True

/-- At most one call runs, and its duplicate check still holds. -/
structure Single (system : System) : Prop where
  calls : system.calls.length ≤ 1
  fresh : ∀ call ∈ system.calls, Fresh system.state call

section Sections
variable [LibraryText]

/-- A call that goes on is as fresh as before: only its last section fills the cache. -/
theorem fresh_next (fresh : Fresh state call)
    (onward : (call.run adapter iteration state).next = some next) :
    Fresh (call.run adapter iteration state).state next := by
  have step := ran adapter iteration state call
  generalize call.run adapter iteration state = outcome at step onward ⊢
  cases step with
  | answered | inserted | missed | refused | cancelled | unknown | returned => cases onward
  | passed connected valid unseen =>
    cases onward
    exact unseen
  | priced =>
    cases onward
    exact fresh
  | taken | retaken | broadcast =>
    cases onward
    trivial
  | replaced =>
    dsimp only at onward
    split at onward
    · cases onward
    · cases onward
      trivial

theorem Single.step {adapter : PaperAdapter} (single : Single system) (moves : Moves adapter system label next)
    (sequential : alone system label = true) : Single next := by
  cases moves with
  | called call entry =>
    have idle : system.calls = [] := List.isEmpty_iff.mp sequential
    rw [idle]
    refine ⟨le_refl 1, fun running member => ?_⟩
    obtain rfl := List.mem_singleton.mp member
    cases running <;> trivial
  | @ran before after call iteration running visits =>
    have fresh := single.fresh call (by simp [running])
    have short := single.calls
    rw [running] at short
    simp only [List.length_append, List.length_cons] at short
    obtain rfl : before = [] := List.eq_nil_of_length_eq_zero (by omega)
    obtain rfl : after = [] := List.eq_nil_of_length_eq_zero (by omega)
    refine ⟨?_, fun onward member => ?_⟩
    · simp
    · rw [List.nil_append, List.append_nil] at member
      exact fresh_next fresh (Option.mem_toList.mp member)

/-- So no insertion is raced. -/
theorem Single.unraced {adapter : PaperAdapter} (single : Single system)
    (moves : Moves adapter system label next) : unraced system label = true := by
  cases moves with
  | called call entry => rfl
  | @ran before after call iteration running visits =>
    have fresh := single.fresh call (by simp [running])
    have write := written adapter iteration system.state call
    generalize call.run adapter iteration system.state = outcome at write ⊢
    cases write with
    | @nothing label call next idle cached =>
      cases label with
      | inserted => cases idle
      | called | answered | passed | taken | replaced | cancelled | broadcast | returned => rfl
    | inserted prepared => exact Option.isNone_iff_eq_none.mpr fresh
    | taken found => rfl
    | replaced accepted repriced => rfl
    | cancelled found => rfl

end Sections

/-- Each fill is kept under the venue order of its client order. -/
def Paired (fills : List VenueFill) : Prop :=
  ∀ fill ∈ fills, fill.venueOrderId = paperOrderId fill.clientOrderId

/-- Then the totals are those of the fills of the venue order. -/
theorem total_paired (paired : Paired fills) (clientOrderId : ClientOrderId) :
    total clientOrderId fills = ((ofOrder (paperOrderId clientOrderId) fills).map VenueFill.qty).sum := by
  unfold total ofOrder
  rw [List.filter_congr fun fill member => ?_]
  rw [decide_eq_decide, paired fill member]
  exact ⟨fun same => congrArg paperOrderId same, paperOrderId_injective⟩

/-- The fills of an update are paired when the open orders are kept under their own ids. -/
theorem paired_of_announces (announces : Announces before after fills)
    (named : ∀ venueOrderId order, before.openOrders.lookup venueOrderId = some order →
      venueOrderId = paperOrderId order.submission.clientOrderId) : Paired fills := by
  intro fill member
  have applied := announces fill.venueOrderId
  have own : fill ∈ ofOrder fill.venueOrderId fills :=
    List.mem_filter.mpr ⟨member, decide_eq_true rfl⟩
  generalize found : before.openOrders.lookup fill.venueOrderId = earlier at applied
  generalize after.openOrders.lookup fill.venueOrderId = later at applied
  generalize ofOrder fill.venueOrderId fills = few at applied own
  cases applied with
  | untouched => cases own
  | grown owner positive partly =>
    rw [List.mem_singleton.mp own] at found ⊢
    rw [owner]
    exact named _ _ found
  | completed owner positive whole =>
    rw [List.mem_singleton.mp own] at found ⊢
    rw [owner]
    exact named _ _ found

/-- What was executed of each order is accounted for. -/
structure Accounts (labels : List Label) (state : PaperAdapterState) : Prop where
  within : Within state (acceptedBy labels) (executionsOf labels)
  filled : ∀ venueOrderId order, state.openOrders.lookup venueOrderId = some order →
    total order.submission.clientOrderId (executionsOf labels) = order.filledQty
  cancelled : ∀ venueOrderId ∈ cancelledOf labels, ∃ submission ∈ acceptedBy labels,
    venueOrderId = paperOrderId submission.clientOrderId
  rested : ∀ submission insertion, .inserted submission insertion ∈ labels → insertion.openOrder.isSome →
    ((state.openOrders.lookup (paperOrderId submission.clientOrderId)).isSome ↔
      total submission.clientOrderId (executionsOf labels) < submission.qty ∧
        paperOrderId submission.clientOrderId ∉ cancelledOf labels)

theorem Accounts.start : Accounts [] .default where
  within := Sound.start.within
  filled _ _ found := by cases found
  cancelled := List.forall_mem_nil _
  rested _ _ member := by cases member

theorem mem_acceptedBy (member : .inserted submission insertion ∈ labels) : submission ∈ acceptedBy labels :=
  List.mem_filterMap.mpr ⟨_, member, rfl⟩

namespace Accounts

/-- A step that executes, accepts and cancels nothing and leaves the open orders as they are. -/
theorem quiet (accounts : Accounts labels state) (label : Label)
    (silent : executionsOf [label] = []) (none : acceptedBy [label] = []) (kept : cancelledOf [label] = [])
    (opened : next.openOrders = state.openOrders) (cache : next.idempotencyCache = state.idempotencyCache)
    (actions : ∀ venueOrderId queued, next.postAckActions.lookup venueOrderId = some queued →
      state.postAckActions.lookup venueOrderId = some queued) :
    Accounts (labels ++ [label]) next := by
  have executions : executionsOf (labels ++ [label]) = executionsOf labels := by
    rw [executionsOf_snoc, silent, List.append_nil]
  have accepted : acceptedBy (labels ++ [label]) = acceptedBy labels := by
    rw [acceptedBy_snoc, none, List.append_nil]
  have cancellations : cancelledOf (labels ++ [label]) = cancelledOf labels := by
    rw [cancelledOf_snoc, kept, List.append_nil]
  refine ⟨?_, ?_, ?_, fun submission insertion member => ?_⟩
  · rw [accepted, executions]
    exact accounts.within.closed next (fun _ _ found => by rwa [opened] at found) cache actions
  · rw [opened, executions]
    exact accounts.filled
  · rw [accepted, cancellations]
    exact accounts.cancelled
  · rcases List.mem_append.mp member with old | new
    · rw [opened, executions, cancellations]
      exact accounts.rested submission insertion old
    · obtain rfl := List.mem_singleton.mp new
      cases none

theorem cancel (accounts : Accounts labels state)
    (found : state.openOrders.lookup venueOrderId = some order) :
    Accounts (labels ++ [.cancelled venueOrderId (.ok ())])
      { state with openOrders := state.openOrders.erase venueOrderId } := by
  have executions : executionsOf (labels ++ [Label.cancelled venueOrderId (.ok ())]) = executionsOf labels := by
    rw [executionsOf_snoc]
    exact List.append_nil _
  have accepted : acceptedBy (labels ++ [.cancelled venueOrderId (.ok ())]) = acceptedBy labels := by
    rw [acceptedBy_snoc]
    exact List.append_nil _
  have cancellations : cancelledOf (labels ++ [.cancelled venueOrderId (.ok ())]) =
      cancelledOf labels ++ [venueOrderId] := cancelledOf_snoc _ _
  obtain ⟨member, named, -⟩ := accounts.within.opened venueOrderId order found
  refine ⟨?_, ?_, ?_, fun submission insertion inserted => ?_⟩
  · rw [accepted, executions]
    exact accounts.within.closed _ (fun _ _ opened => lookup_of_erase opened) rfl fun _ _ queued => queued
  · rw [executions]
    exact fun probe other opened => accounts.filled probe other (lookup_of_erase opened)
  · rw [accepted, cancellations]
    exact List.forall_mem_append.mpr
      ⟨accounts.cancelled, List.forall_mem_singleton.mpr ⟨order.submission, member, named⟩⟩
  · rcases List.mem_append.mp inserted with old | new
    swap
    · cases List.mem_singleton.mp new
    intro opened
    have before := accounts.rested submission insertion old opened
    rw [executions, cancellations, lookup_erase_if]
    by_cases hit : paperOrderId submission.clientOrderId = venueOrderId
    · simp [hit]
    · simp [hit, before]

/-- What an update, failed or not, makes of an order that rested. -/
private theorem rested_of_announces (accounts : Accounts labels state) (announces : Announces state after fills)
    (accepted : submission ∈ acceptedBy labels)
    (before : (state.openOrders.lookup (paperOrderId submission.clientOrderId)).isSome ↔
      total submission.clientOrderId (executionsOf labels) < submission.qty ∧
        paperOrderId submission.clientOrderId ∉ cancelledOf labels) :
    (after.openOrders.lookup (paperOrderId submission.clientOrderId)).isSome ↔
      total submission.clientOrderId (executionsOf labels ++ fills) < submission.qty ∧
        paperOrderId submission.clientOrderId ∉ cancelledOf labels := by
  have paired := paired_of_announces announces fun venueOrderId order found =>
    (accounts.within.opened venueOrderId order found).2.1
  rw [total_append, total_paired paired]
  have applied := announces (paperOrderId submission.clientOrderId)
  generalize found : state.openOrders.lookup (paperOrderId submission.clientOrderId) = earlier at applied before
  generalize after.openOrders.lookup (paperOrderId submission.clientOrderId) = later at applied ⊢
  generalize ofOrder (paperOrderId submission.clientOrderId) fills = few at applied ⊢
  have itself : ∀ order, earlier = some order → order.submission = submission ∧
      total submission.clientOrderId (executionsOf labels) = order.filledQty := by
    rintro order rfl
    obtain ⟨member, named, -⟩ := accounts.within.opened _ order found
    have same := accounts.within.same accepted member (paperOrderId_injective named)
    refine ⟨same.symm, ?_⟩
    rw [same]
    exact accounts.filled _ order found
  cases applied with
  | untouched => simpa using before
  | @grown order fill owner positive partly =>
    obtain ⟨rfl, covered⟩ := itself order rfl
    simpa [covered, partly] using (before.mp rfl).2
  | @completed order fill owner positive whole =>
    obtain ⟨rfl, covered⟩ := itself order rfl
    simp [covered, whole]

theorem update {snapshot : OrderbookSnapshot} (accounts : Accounts labels state) (adapter : PaperAdapter)
    (unfinished : Unfinished state) (distinct : iteration.Nodup)
    (repriced : collectRepricedFills adapter snapshot (withOrderbook state snapshot) iteration = collected) :
    Accounts (labels ++ [Label.replaced snapshot collected.fills collected.error]) collected.state := by
  have announces : Announces state collected.state collected.fills := by
    rw [← repriced]
    exact @collect_announces (withOrderbook state snapshot) iteration adapter snapshot unfinished distinct
  have executions : executionsOf (labels ++ [Label.replaced snapshot collected.fills collected.error]) =
      executionsOf labels ++ collected.fills := by
    rw [executionsOf_snoc]
    simp [executionsOf]
  have accepted : acceptedBy (labels ++ [.replaced snapshot collected.fills collected.error]) =
      acceptedBy labels := by
    rw [acceptedBy_snoc]
    exact List.append_nil _
  have cancellations : cancelledOf (labels ++ [.replaced snapshot collected.fills collected.error]) =
      cancelledOf labels := by
    rw [cancelledOf_snoc]
    exact List.append_nil _
  have within : Within collected.state (acceptedBy labels) (executionsOf labels ++ collected.fills) := by
    have stored : Within (withOrderbook state snapshot) (acceptedBy labels) (executionsOf labels) :=
      accounts.within.closed _ (fun _ _ opened => opened) rfl fun _ _ queued => queued
    rw [← repriced]
    exact (stored.collected adapter snapshot iteration).1
  refine ⟨?_, ?_, ?_, fun submission insertion inserted => ?_⟩
  · rw [accepted, executions]
    exact within
  · rw [executions]
    intro venueOrderId order found
    have paired := paired_of_announces announces fun venueOrderId order found =>
      (accounts.within.opened venueOrderId order found).2.1
    have named := (within.opened venueOrderId order found).2.1
    rw [total_append, total_paired paired, ← named]
    have applied := announces venueOrderId
    rw [found] at applied
    generalize earlier : state.openOrders.lookup venueOrderId = before at applied
    generalize ofOrder venueOrderId collected.fills = few at applied ⊢
    cases applied with
    | untouched => simpa using accounts.filled venueOrderId order earlier
    | @grown order fill owner positive partly =>
      simpa using accounts.filled venueOrderId order earlier
  · rw [accepted, cancellations]
    exact accounts.cancelled
  · rcases List.mem_append.mp inserted with old | new
    swap
    · cases List.mem_singleton.mp new
    intro opened
    rw [executions, cancellations]
    exact accounts.rested_of_announces announces (mem_acceptedBy old)
      (accounts.rested submission insertion old opened)

theorem insert (accounts : Accounts labels state) (prepared : InsertionOf submission insertion)
    (unseen : state.idempotencyCache.lookup submission.clientOrderId = none)
    (partly : ∀ order, insertion.openOrder = some order → order.filledQty < submission.qty) :
    Accounts (labels ++ [Label.inserted submission insertion]) (PaperVenue.insert state insertion) := by
  have executions : executionsOf (labels ++ [Label.inserted submission insertion]) =
      executionsOf labels ++ insertion.fills := by
    rw [executionsOf_snoc]
    simp [executionsOf]
  have accepted : acceptedBy (labels ++ [.inserted submission insertion]) =
      acceptedBy labels ++ [submission] := acceptedBy_snoc _ _
  have cancellations : cancelledOf (labels ++ [.inserted submission insertion]) = cancelledOf labels := by
    rw [cancelledOf_snoc]
    exact List.append_nil _
  have fresh : ∀ earlier ∈ acceptedBy labels, earlier.clientOrderId ≠ submission.clientOrderId := by
    intro earlier member same
    have cached := accounts.within.cached earlier member
    rw [same, unseen] at cached
    cases cached
  -- the first insertion finds nothing executed of its order, and nothing else is
  have unfilled : total submission.clientOrderId (executionsOf labels) = 0 := by
    refine total_other fun fill member same => ?_
    obtain ⟨earlier, accept, owner⟩ := accounts.within.owned fill member
    exact fresh earlier accept (owner.trans same)
  have itself : total submission.clientOrderId (executionsOf labels ++ insertion.fills) =
      total submission.clientOrderId insertion.fills := by
    rw [total_append, unfilled, zero_add]
  have elsewhere : ∀ earlier ∈ acceptedBy labels,
      total earlier.clientOrderId (executionsOf labels ++ insertion.fills) =
        total earlier.clientOrderId (executionsOf labels) :=
    fun earlier member => total_append_other _ (fun fill member => (prepared.fills fill member).1)
      (fresh earlier member)
  refine ⟨?_, ?_, ?_, fun probe inserted member opened => ?_⟩
  · rw [accepted, executions]
    exact accounts.within.inserted prepared unseen
  · rw [executions]
    intro venueOrderId order found
    rcases lookup_of_insertIfSome found with ⟨own, written⟩ | old
    · obtain ⟨same, filled⟩ := prepared.openOrder order written
      rw [same, itself, filled]
    · obtain ⟨member, -⟩ := accounts.within.opened venueOrderId order old
      rw [elsewhere _ member]
      exact accounts.filled venueOrderId order old
  · rw [accepted, cancellations]
    intro venueOrderId member
    obtain ⟨earlier, accept, named⟩ := accounts.cancelled venueOrderId member
    exact ⟨earlier, List.mem_append_left _ accept, named⟩
  · rw [executions, cancellations]
    rcases List.mem_append.mp member with old | new
    · have accept := mem_acceptedBy old
      have other : paperOrderId probe.clientOrderId ≠ insertion.ack.venueOrderId := by
        rw [prepared.venueOrderId]
        exact fun same => fresh probe accept (paperOrderId_injective same)
      have kept : (PaperVenue.insert state insertion).openOrders.lookup (paperOrderId probe.clientOrderId) =
          state.openOrders.lookup (paperOrderId probe.clientOrderId) := by
        cases written : insertion.openOrder with
        | none => simp only [PaperVenue.insert, written, insertIfSome]
        | some order => simp only [PaperVenue.insert, written, insertIfSome, lookup_insert_if, if_neg other]
      rw [kept, elsewhere probe accept]
      exact accounts.rested probe inserted old opened
    · obtain ⟨rfl, rfl⟩ : probe = submission ∧ inserted = insertion := by
        simpa using List.mem_singleton.mp new
      obtain ⟨order, written⟩ := Option.isSome_iff_exists.mp opened
      have filled := (prepared.openOrder order written).2
      have there : (PaperVenue.insert state inserted).openOrders.lookup (paperOrderId probe.clientOrderId) =
          some order := by
        simp only [PaperVenue.insert, written, insertIfSome, lookup_insert_if, prepared.venueOrderId, if_true]
      rw [there, itself, ← filled]
      refine iff_of_true rfl ⟨partly order written, fun member => ?_⟩
      obtain ⟨earlier, accept, named⟩ := accounts.cancelled _ member
      exact fresh earlier accept (paperOrderId_injective named).symm

section Steps
variable [LibraryText]

theorem step {adapter : PaperAdapter} (accounts : Accounts labels system.state)
    (standing : Standing adapter system) (single : Single system)
    (moves : Moves adapter system label next) : Accounts (labels ++ [label]) next.state := by
  cases moves with
  | called call entry => exact accounts.quiet _ rfl rfl rfl rfl rfl fun _ _ queued => queued
  | @ran before after call iteration running visits =>
    have member : call ∈ system.calls := by simp [running]
    have fresh := single.fresh call member
    have checked := standing.checked call member
    have write := written adapter iteration system.state call
    generalize call.run adapter iteration system.state = outcome at write ⊢
    cases write with
    | @nothing label call next idle cached =>
      refine accounts.quiet label (executionsOf_idle idle) ?_ ?_ rfl rfl fun _ _ queued => queued
      · cases label with
        | inserted => cases idle
        | called | answered | passed | taken | replaced | cancelled | broadcast | returned => rfl
      · cases label with
        | cancelled venueOrderId answer => cases answer with
          | error error => rfl
          | ok => cases idle
        | called | answered | passed | inserted | taken | replaced | broadcast | returned => rfl
    | inserted prepared =>
      refine accounts.insert (prepare_ok prepared) fresh fun order written => ?_
      have live := live_of_prepare checked prepared written
      rw [← ((prepare_ok prepared).openOrder order written).1]
      exact live.unfilled
    | taken found => exact accounts.quiet _ rfl rfl rfl rfl rfl fun _ _ queued => lookup_of_erase queued
    | replaced accepted repriced =>
      refine accounts.update adapter (fun venueOrderId order found =>
        (standing.live venueOrderId order found).remains) ?_ repriced
      exact visits.nodup_iff.mpr (marketOrders_nodup system.state.openOrders _)
    | cancelled found => exact accounts.cancel found

end Steps

end Accounts

section Runs
variable [LibraryText]

structure Sequential (adapter : PaperAdapter) (labels : List Label) (system : System) : Prop where
  standing : Standing adapter system
  single : Single system
  sound : Sound labels system
  accounts : Accounts labels system.state

theorem sequential_of_run {adapter : PaperAdapter}
    (run : Path (fun system label next => Moves adapter system label next ∧ alone system label = true)
      .start labels system) : Sequential adapter labels system := by
  induction run with
  | start => exact ⟨.start adapter, ⟨Nat.zero_le 1, List.forall_mem_nil _⟩, .start, .start⟩
  | step _ move ih =>
    obtain ⟨standing, single, sound, accounts⟩ := ih
    exact ⟨standing.step move.1, single.step move.1 move.2, sound.step move.1 (single.unraced move.1),
      accounts.step standing single move.1⟩

/-- A cached client order id is answered with its ack if the submission is valid,
and refused otherwise; nothing is written. -/
theorem submitOrder_cached {ack : VenueOrderAck} (connected : adapter.connection = .connected)
    (cached : state.idempotencyCache.lookup submission.clientOrderId = some ack) :
    submitOrder adapter state submission =
      ⟨state, .answered submission ((validateSubmission adapter submission).map fun _ => ack), none⟩ := by
  have checked : checkDuplicate adapter state submission =
      ⟨state, .answered submission ((validateSubmission adapter submission).map fun _ => ack), none⟩ := by
    unfold checkDuplicate
    rw [if_neg (not_not.mpr connected)]
    cases validateSubmission adapter submission with
    | error error => rfl
    | ok =>
      dsimp only
      rw [cached]
      rfl
  simp only [submitOrder, onward, Call.run, checked]

/-- The paper venue never overfills, in every sequential run of a connected
adapter and whatever its simulator. The executions of an accepted order sum to at
most its quantity and there are no others; an open order is filled in part, by
exactly its executions; an order that rested is open until it is complete or
cancelled; and an acknowledged client order id that is submitted again is
answered with its first ack, or with the error of `validate_submission`, and
nothing is written. -/
theorem paper_venue_never_overfills {adapter : PaperAdapter} (connected : adapter.connection = .connected)
    (run : Path (fun system label next => Moves adapter system label next ∧ alone system label = true)
      .start labels system) :
    (∀ submission ∈ acceptedBy labels,
      total submission.clientOrderId (executionsOf labels) ≤ submission.qty) ∧
    (∀ fill ∈ executionsOf labels, ∃ submission ∈ acceptedBy labels,
      submission.clientOrderId = fill.clientOrderId) ∧
    (∀ venueOrderId order, system.state.openOrders.lookup venueOrderId = some order →
      0 ≤ order.filledQty ∧ order.filledQty < order.submission.qty ∧
        order.filledQty = total order.submission.clientOrderId (executionsOf labels)) ∧
    (∀ submission insertion, .inserted submission insertion ∈ labels → insertion.openOrder.isSome →
      ((system.state.openOrders.lookup (paperOrderId submission.clientOrderId)).isSome ↔
        total submission.clientOrderId (executionsOf labels) < submission.qty ∧
          paperOrderId submission.clientOrderId ∉ cancelledOf labels)) ∧
    ∀ submission ack, (submission.clientOrderId, ack) ∈ acksOf labels →
      submitOrder adapter system.state submission =
        ⟨system.state, .answered submission ((validateSubmission adapter submission).map fun _ => ack),
          none⟩ := by
  obtain ⟨standing, -, sound, accounts⟩ := sequential_of_run run
  refine ⟨accounts.within.bound, accounts.within.owned, fun venueOrderId order found => ?_, accounts.rested,
    fun submission ack member => submitOrder_cached connected (sound.acks _ member)⟩
  have live := standing.live venueOrderId order found
  exact ⟨live.filled, live.unfilled, (accounts.filled venueOrderId order found).symm⟩

end Runs

section Samples
open Plain

/-- The order of the ordering tests fills in part, then completely on a later book. -/
def filledTwice : List Turn :=
  [.call (.replacing (sampleOrderbook ⟨0⟩)), .advance 0, .advance 0,
    .call (.submitting crossing), .advance 0, .advance 0, .advance 0,
    .call (.replacing (sampleOrderbook ⟨1⟩)), .advance 0, .advance 0, .advance 0]

/-- Both fills make up the order, and its retry is answered with its ack. -/
theorem paper_venue_never_overfills_twice : ∃ labels system ack, Path (Moves paperAdapter) .start labels system ∧
    (executionsOf labels).map VenueFill.qty = [1, 1] ∧
    total crossing.clientOrderId (executionsOf labels) ≤ crossing.qty ∧
    submitOrder paperAdapter system.state crossing =
      ⟨system.state, .answered crossing (.ok ack), none⟩ := by
  have played : ((play paperAdapter alone .start filledTwice).map fun played =>
      (acceptedBy played.1, (executionsOf played.1).map VenueFill.qty, (acksOf played.1).map Prod.fst)) =
        some ([crossing], [1, 1], [crossing.clientOrderId]) := by decide +kernel
  obtain ⟨⟨labels, system⟩, reached, views⟩ := Option.map_eq_some_iff.mp played
  simp only [Prod.mk.injEq] at views
  obtain ⟨accepted, executed, answered⟩ := views
  have run := path_of_play reached
  have connected : paperAdapter.connection = .connected := rfl
  obtain ⟨bound, -, -, -, again⟩ := paper_venue_never_overfills connected run
  obtain ⟨ack, member⟩ := ack_of_answered answered
  refine ⟨labels, system, ack, run.mono fun _ _ _ move => move.1, executed, ?_, again crossing ack member⟩
  exact bound crossing (by rw [accepted]; exact List.mem_singleton.mpr rfl)

/-- The same client order id with a time in force that the adapter does not support. -/
def expiring : OrderSubmission := { crossing with timeInForce := .gtd ⟨5⟩ }

/-- Submitted again so, an acknowledged client order id gets an error and not its ack. -/
theorem invalid_retry_is_refused : ∃ labels system ack,
    Path (fun system label next => Moves paperAdapter system label next ∧ alone system label = true)
      .start labels system ∧
    paperAdapter.connection = .connected ∧ (expiring.clientOrderId, ack) ∈ acksOf labels ∧
    answerOf (submitOrder paperAdapter system.state expiring).label =
      some (.error (.unsupported "paper adapter does not support GTD expiry handling yet")) := by
  have played : ((play paperAdapter alone .start filledTwice).map fun played =>
      ((acksOf played.1).map Prod.fst,
        answerOf (submitOrder paperAdapter played.2.state expiring).label)) =
        some ([expiring.clientOrderId],
          some (.error (.unsupported "paper adapter does not support GTD expiry handling yet"))) := by
    decide +kernel
  obtain ⟨⟨labels, system⟩, reached, views⟩ := Option.map_eq_some_iff.mp played
  obtain ⟨answered, refused⟩ := Prod.mk.inj views
  obtain ⟨ack, member⟩ := ack_of_answered answered
  exact ⟨labels, system, ack, path_of_play reached, rfl, member, refused⟩

end Samples

end FeynmanEngine.PaperAccounts
