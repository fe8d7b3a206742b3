import FeynmanEngine.PaperAccounts

/-! What `query_open_orders` of the paper adapter tells. A report is one section of
the lock, between any two sections of the calls that run; it lists the open orders,
each with what has been executed of it. Two reports differ by what happened between
them and by nothing else. -/
namespace FeynmanEngine.OpenOrderReports
open Ids Orders Orderbooks VenueOrders FillSimulation Tables Traces PaperVenue PaperExecutions PaperOrdering
open PaperSections SubmissionFailures BookReplacements PaperAccounts

structure VenueOpenOrder where
  venueOrderId : VenueOrderId
  clientOrderId : Option ClientOrderId
  instrumentId : InstrumentId
  side : Side
  qty : Decimal
  filledQty : Decimal
  price : Option Decimal
  state : OrderState
  createdAt : DateTime

def PaperOpenOrder.asOpenOrder (order : PaperOpenOrder) : VenueOpenOrder where
  venueOrderId := order.venueOrderId
  clientOrderId := some order.submission.clientOrderId
  instrumentId := order.submission.instrumentId
  side := order.submission.side
  qty := order.submission.qty
  filledQty := order.filledQty
  price := order.submission.price
  state := if order.filledQty = 0 then .accepted else .partiallyFilled
  createdAt := order.acceptedAt

/-- `query_open_orders`, in the table's own order. -/
def queryOpenOrders (state : PaperAdapterState) : List VenueOpenOrder :=
  (values state.openOrders).map PaperOpenOrder.asOpenOrder

/-- The fills of updates that failed. -/
def droppedOf (labels : List Label) : List VenueFill :=
  labels.flatMap fun
    | .replaced _ fills (some _) => fills
    | .replaced _ _ none | .called _ | .answered .. | .passed | .inserted .. | .taken .. | .cancelled .. |
      .broadcast _ | .returned => []

theorem droppedOf_snoc (labels : List Label) (label : Label) :
    droppedOf (labels ++ [label]) = droppedOf labels ++ droppedOf [label] := List.flatMap_append

/-- The submissions that were inserted, with what was written. -/
def insertionsOf (labels : List Label) : List (OrderSubmission × Insertion) :=
  labels.filterMap fun
    | .inserted submission insertion => some (submission, insertion)
    | .called _ | .answered .. | .passed | .taken .. | .replaced .. | .cancelled .. | .broadcast _ |
      .returned => none

theorem mem_insertionsOf : (submission, insertion) ∈ insertionsOf labels ↔ .inserted submission insertion ∈ labels := by
  constructor
  · intro member
    obtain ⟨label, inside, same⟩ := List.mem_filterMap.mp member
    cases label <;> cases same
    exact inside
  · exact fun member => List.mem_filterMap.mpr ⟨_, member, rfl⟩

theorem acceptedBy_eq_insertions (labels : List Label) : acceptedBy labels = (insertionsOf labels).map Prod.fst := by
  rw [insertionsOf, List.map_filterMap]
  refine List.filterMap_congr fun label _ => ?_
  cases label <;> rfl

/-- A submission is inserted once. -/
theorem insertion_unique (distinct : ((acceptedBy labels).map OrderSubmission.clientOrderId).Nodup)
    (first : .inserted submission left ∈ labels) (second : .inserted other right ∈ labels)
    (same : submission.clientOrderId = other.clientOrderId) : submission = other ∧ left = right := by
  rw [acceptedBy_eq_insertions, List.map_map] at distinct
  exact Prod.mk.inj (List.inj_on_of_nodup_map distinct (mem_insertionsOf.mpr first) (mem_insertionsOf.mpr second) same)

section Sections
variable [LibraryText]

/-- An order that is inserted as open has the id and time of its ack. -/
theorem openOrder_of_prepare (prepared : prepare adapter submission book = .ok insertion)
    (written : insertion.openOrder = some order) :
    order.venueOrderId = insertion.ack.venueOrderId ∧ order.acceptedAt = insertion.ack.acceptedAt := by
  unfold prepare at prepared
  dsimp only at prepared
  split at prepared
  · cases prepared
  · unfold settle at prepared
    dsimp only at prepared
    split at prepared <;> cases prepared <;> cases written
    exact ⟨rfl, rfl⟩
  · split at prepared
    · cases prepared
    · unfold settle at prepared
      dsimp only at prepared
      split at prepared
      · cases prepared
        cases written
      · split at prepared
        · split at prepared <;> cases prepared
          cases written
          exact ⟨rfl, rfl⟩
        · cases prepared
          cases written
        · cases prepared
        · cases prepared

/-- An open order is as it was inserted, but for what has been filled of it since. -/
structure Opened (labels : List Label) (order : PaperOpenOrder) (insertion : Insertion) : Prop where
  inserted : .inserted order.submission insertion ∈ labels
  rested : insertion.openOrder.isSome
  venueOrderId : order.venueOrderId = paperOrderId order.submission.clientOrderId
  acceptedAt : order.acceptedAt = insertion.ack.acceptedAt

omit [LibraryText] in
theorem Opened.mono (opened : Opened labels order insertion) (more : List Label) :
    Opened (labels ++ more) order insertion :=
  { opened with inserted := List.mem_append_left _ opened.inserted }

/-- What a step executes was shown or queued, was in flight or is dropped. -/
theorem executed_run (within : Within state accepted shown) (call : Call)
    (unraced : unraced ⟨state, calls⟩ (call.run adapter iteration state).label = true) :
    (broadcastsOf [(call.run adapter iteration state).label] ++
      inFlight (call.run adapter iteration state).next.toList ++
      queuedFills (call.run adapter iteration state).state ++ droppedOf [(call.run adapter iteration state).label]).Perm
        (call.inFlight ++ queuedFills state ++ executionsOf [(call.run adapter iteration state).label]) := by
  have step := ran adapter iteration state call
  generalize call.run adapter iteration state = outcome at step unraced ⊢
  cases step with
  | answered landed => simp [broadcastsOf, inFlight, droppedOf, executionsOf, landed]
  | passed | priced | retaken | missed | refused | unknown | returned | broadcast =>
    simp [broadcastsOf, inFlight, droppedOf, executionsOf, Call.inFlight]
  | cancelled found => simp [broadcastsOf, inFlight, droppedOf, executionsOf, Call.inFlight, queuedFills]
  | taken found =>
    simpa [broadcastsOf, inFlight, droppedOf, executionsOf, Call.inFlight] using (queuedFills_erase found).symm
  | @inserted submission book insertion prepared =>
    have facts := prepare_ok prepared
    have unseen : state.idempotencyCache.lookup submission.clientOrderId = none :=
      Option.isNone_iff_eq_none.mp unraced
    rw [queuedFills_insert state insertion (within.unqueued facts unseen)]
    simp [broadcastsOf, inFlight, droppedOf, executionsOf, Call.inFlight, List.perm_append_comm]
  | @replaced snapshot collected home valid repriced =>
    have kept := (collectRepricedFills_frame adapter snapshot (withOrderbook state snapshot) iteration).1
    rw [repriced] at kept
    have queued : queuedFills collected.state = queuedFills state := queuedFills_same kept
    cases failed : collected.error with
    | some error => simp [broadcastsOf, inFlight, droppedOf, executionsOf, Call.inFlight, queued]
    | none =>
      simp [broadcastsOf, inFlight, droppedOf, executionsOf, Call.inFlight, queued, List.perm_append_comm]

omit [LibraryText] in
/-- The fill an insertion queues is of something. -/
theorem fills_positive (prepared : InsertionOf submission insertion) : ∀ fill ∈ insertion.fills, 0 < fill.qty := by
  unfold Insertion.fills
  split
  · next actions written =>
    intro fill member
    obtain ⟨queued, held, rfl⟩ := List.mem_map.mp member
    exact ((prepared.actions actions written).fills queued held).2.1
  · exact List.forall_mem_nil _

/-- What holds in every run without a raced insertion. -/
structure Booked (labels : List Label) (system : System) : Prop where
  accounts : Accounts labels system.state
  opened : ∀ venueOrderId order, system.state.openOrders.lookup venueOrderId = some order →
    ∃ insertion, Opened labels order insertion
  positive : ∀ fill ∈ executionsOf labels, 0 < fill.qty
  seen : (executionsOf labels).Perm (shownFills labels system ++ droppedOf labels)

omit [LibraryText] in
theorem Booked.start : Booked [] .start where
  accounts := .start
  opened _ _ found := by cases found
  positive := List.forall_mem_nil _
  seen := List.Perm.refl _

/-- The accounts under any interleaving. -/
theorem Booked.accounts_step {adapter : PaperAdapter} (booked : Booked labels system)
    (standing : Standing adapter system) (moves : Moves adapter system label next)
    (unraced : unraced system label = true) : Accounts (labels ++ [label]) next.state := by
  cases moves with
  | called call entry => exact booked.accounts.quiet _ rfl rfl rfl rfl rfl fun _ _ queued => queued
  | @ran before after call iteration running visits =>
    have checked := standing.checked call (by simp [running])
    have write := written adapter iteration system.state call
    generalize call.run adapter iteration system.state = outcome at write unraced ⊢
    cases write with
    | @nothing label call next idle cached =>
      refine booked.accounts.quiet label (executionsOf_idle idle) ?_ ?_ rfl rfl fun _ _ queued => queued
      · cases label with
        | inserted => cases idle
        | called | answered | passed | taken | replaced | cancelled | broadcast | returned => rfl
      · cases label with
        | cancelled venueOrderId answer =>
          cases answer with
          | error error => rfl
          | ok => cases idle
        | called | answered | passed | inserted | taken | replaced | broadcast | returned => rfl
    | inserted prepared =>
      refine booked.accounts.insert (prepare_ok prepared) (Option.isNone_iff_eq_none.mp unraced) fun order written => ?_
      have live := live_of_prepare checked prepared written
      rw [← ((prepare_ok prepared).openOrder order written).1]
      exact live.unfilled
    | taken found => exact booked.accounts.quiet _ rfl rfl rfl rfl rfl fun _ _ queued => lookup_of_erase queued
    | replaced accepted repriced =>
      refine booked.accounts.update adapter (fun venueOrderId order found =>
        (standing.live venueOrderId order found).remains) ?_ repriced
      exact visits.nodup_iff.mpr (marketOrders_nodup system.state.openOrders _)
    | cancelled found => exact booked.accounts.cancel found

/-- Open orders stay as they were inserted. -/
theorem Booked.opened_step {adapter : PaperAdapter} (booked : Booked labels system)
    (standing : Standing adapter system) (moves : Moves adapter system label next)
    (found : next.state.openOrders.lookup venueOrderId = some order) :
    ∃ insertion, Opened (labels ++ [label]) order insertion := by
  have before (probe : VenueOrderId) (old : PaperOpenOrder)
      (held : system.state.openOrders.lookup probe = some old) (label : Label) :
      ∃ insertion, Opened (labels ++ [label]) old insertion := by
    obtain ⟨insertion, opened⟩ := booked.opened probe old held
    exact ⟨insertion, opened.mono [label]⟩
  cases moves with
  | called call entry => exact before venueOrderId order found _
  | @ran earlier later call iteration running visits =>
    have write := written adapter iteration system.state call
    generalize call.run adapter iteration system.state = outcome at write found ⊢
    cases write with
    | nothing idle cached => exact before venueOrderId order found _
    | @inserted submission book insertion prepared =>
      rcases lookup_of_insertIfSome found with ⟨-, written⟩ | old
      · obtain ⟨named, stamped⟩ := openOrder_of_prepare prepared written
        obtain ⟨rfl, -⟩ := (prepare_ok prepared).openOrder order written
        refine ⟨insertion, ?_, by rw [written]; rfl, named.trans (prepare_ok prepared).venueOrderId, stamped⟩
        exact List.mem_append_right _ (List.mem_singleton.mpr rfl)
      · exact before venueOrderId order old _
    | taken held => exact before venueOrderId order found _
    | cancelled held => exact before venueOrderId order (lookup_of_erase found) _
    | @replaced snapshot collected accepted repriced =>
      have unfinished : Unfinished system.state := fun probe old held => (standing.live probe old held).remains
      have distinct := visits.nodup_iff.mpr (marketOrders_nodup system.state.openOrders snapshot.marketId)
      have announces : Announces system.state collected.state collected.fills := by
        rw [← repriced]
        exact @collect_announces (withOrderbook system.state snapshot) iteration adapter snapshot unfinished distinct
      have applied := announces venueOrderId
      rw [found] at applied
      generalize held : system.state.openOrders.lookup venueOrderId = old at applied
      generalize ofOrder venueOrderId collected.fills = fills at applied
      cases applied with
      | untouched => exact before venueOrderId order held _
      | @grown resting fill owner positive partly =>
        obtain ⟨insertion, opened⟩ :=
          before venueOrderId resting held (.replaced snapshot collected.fills collected.error)
        exact ⟨insertion, opened.inserted, opened.rested, opened.venueOrderId, opened.acceptedAt⟩

/-- Executions are of something. -/
theorem Booked.positive_step {adapter : PaperAdapter} (booked : Booked labels system)
    (moves : Moves adapter system label next) : ∀ fill ∈ executionsOf [label], 0 < fill.qty := by
  cases moves with
  | called call entry => exact List.forall_mem_nil _
  | @ran earlier later call iteration running visits =>
    have write := written adapter iteration system.state call
    generalize call.run adapter iteration system.state = outcome at write ⊢
    cases write with
    | nothing idle cached =>
      rw [executionsOf_idle idle]
      exact List.forall_mem_nil _
    | @inserted submission book insertion prepared =>
      simpa [executionsOf] using fills_positive (prepare_ok prepared)
    | taken held => exact List.forall_mem_nil _
    | cancelled held => exact List.forall_mem_nil _
    | @replaced snapshot collected accepted repriced =>
      have updated : Within (withOrderbook system.state snapshot) (acceptedBy labels) (executionsOf labels) :=
        booked.accounts.within.closed _ (fun _ _ opened => opened) rfl fun _ _ queued => queued
      have positive := (updated.collected adapter snapshot iteration).2
      rw [repriced] at positive
      simpa [executionsOf] using positive

theorem Booked.seen_step {adapter : PaperAdapter} (booked : Booked labels system)
    (moves : Moves adapter system label next) (unraced : unraced system label = true) :
    (executionsOf (labels ++ [label])).Perm (shownFills (labels ++ [label]) next ++ droppedOf (labels ++ [label])) := by
  refine List.perm_iff_count.mpr fun fill => ?_
  have before := booked.seen.count_eq fill
  cases moves with
  | called call entry =>
    simp only [shownFills, executionsOf_snoc, broadcastsOf_snoc, droppedOf_snoc, inFlight, List.flatMap_append,
      List.count_append, List.flatMap_cons, List.flatMap_nil, inFlight_entry entry] at before ⊢
    simpa [executionsOf, broadcastsOf, droppedOf] using before
  | @ran earlier later call iteration running visits =>
    obtain ⟨state, calls⟩ := system
    obtain rfl : calls = earlier ++ call :: later := running
    have moved := (executed_run booked.accounts.within call unraced).count_eq fill
    simp only [shownFills, executionsOf_snoc, broadcastsOf_snoc, droppedOf_snoc, inFlight, List.flatMap_append,
      List.flatMap_cons, List.count_append] at before moved ⊢
    omega

theorem Booked.step {adapter : PaperAdapter} (booked : Booked labels system) (standing : Standing adapter system)
    (moves : Moves adapter system label next) (unraced : unraced system label = true) :
    Booked (labels ++ [label]) next where
  accounts := booked.accounts_step standing moves unraced
  opened _ _ found := booked.opened_step standing moves found
  positive := by
    rw [executionsOf_snoc]
    exact List.forall_mem_append.mpr ⟨booked.positive, booked.positive_step moves⟩
  seen := booked.seen_step moves unraced

theorem booked_of_run {adapter : PaperAdapter}
    (run : Path (fun system label next => Moves adapter system label next ∧ unraced system label = true)
      .start labels system) : Booked labels system ∧ Standing adapter system := by
  induction run with
  | start => exact ⟨.start, .start adapter⟩
  | step _ move ih => exact ⟨ih.1.step ih.2 move.1 move.2, ih.2.step move.1⟩

/-- An order that was left open, is not filled and was not cancelled. -/
structure Rests (labels : List Label) (submission : OrderSubmission) (insertion : Insertion) : Prop where
  inserted : .inserted submission insertion ∈ labels
  rested : insertion.openOrder.isSome
  unfilled : total submission.clientOrderId (executionsOf labels) < submission.qty
  uncancelled : paperOrderId submission.clientOrderId ∉ cancelledOf labels

/-- The order as its insertion left it, filled as far as it has been executed. -/
def executed (labels : List Label) (submission : OrderSubmission) (insertion : Insertion) : PaperOpenOrder :=
  ⟨submission, paperOrderId submission.clientOrderId, insertion.ack.acceptedAt,
    total submission.clientOrderId (executionsOf labels)⟩

omit [LibraryText] in
/-- An open order is one that rests, filled as far as it has been executed. -/
theorem Booked.rests (booked : Booked labels system)
    (found : system.state.openOrders.lookup venueOrderId = some order) :
    ∃ insertion, Rests labels order.submission insertion ∧ order = executed labels order.submission insertion := by
  obtain ⟨insertion, opened⟩ := booked.opened venueOrderId order found
  have filled := booked.accounts.filled venueOrderId order found
  have named := (booked.accounts.within.opened venueOrderId order found).2.1
  have there : (system.state.openOrders.lookup (paperOrderId order.submission.clientOrderId)).isSome := by
    rw [← named, found]
    rfl
  obtain ⟨unfilled, uncancelled⟩ := (booked.accounts.rested _ _ opened.inserted opened.rested).mp there
  refine ⟨insertion, ⟨opened.inserted, opened.rested, unfilled, uncancelled⟩, ?_⟩
  rw [executed, filled, ← opened.venueOrderId, ← opened.acceptedAt]

omit [LibraryText] in
/-- An order that rests is open. -/
theorem Booked.open_of_rests (booked : Booked labels system) (rests : Rests labels submission insertion) :
    system.state.openOrders.lookup (paperOrderId submission.clientOrderId) =
      some (executed labels submission insertion) := by
  have there := (booked.accounts.rested _ _ rests.inserted rests.rested).mpr ⟨rests.unfilled, rests.uncancelled⟩
  obtain ⟨order, found⟩ := Option.isSome_iff_exists.mp there
  obtain ⟨other, again, same⟩ := booked.rests found
  have named := paperOrderId_injective (booked.accounts.within.opened _ order found).2.1
  obtain ⟨rfl, rfl⟩ := insertion_unique booked.accounts.within.distinct rests.inserted again.inserted named
  rw [found, same]
  rfl

omit [LibraryText] in
theorem Booked.mem_report_iff (booked : Booked labels system) (entry : VenueOpenOrder) :
    entry ∈ queryOpenOrders system.state ↔ ∃ submission insertion, Rests labels submission insertion ∧
      entry = PaperOpenOrder.asOpenOrder (executed labels submission insertion) := by
  constructor
  · intro member
    obtain ⟨order, stored, rfl⟩ := List.mem_map.mp member
    obtain ⟨venueOrderId, found⟩ := (mem_values _ order).mp stored
    obtain ⟨insertion, rests, same⟩ := booked.rests found
    exact ⟨order.submission, insertion, rests, congrArg PaperOpenOrder.asOpenOrder same⟩
  · rintro ⟨submission, insertion, rests, rfl⟩
    exact List.mem_map_of_mem ((mem_values _ _).mpr ⟨_, booked.open_of_rests rests⟩)

omit [LibraryText] in
/-- Every order is listed under an id of its own. -/
theorem Booked.ids_nodup (booked : Booked labels system) :
    ((queryOpenOrders system.state).map VenueOpenOrder.venueOrderId).Nodup := by
  have keys : (queryOpenOrders system.state).map VenueOpenOrder.venueOrderId = system.state.openOrders.keys := by
    unfold queryOpenOrders values
    rw [List.map_map, List.map_map]
    refine List.map_congr_left fun entry member => ?_
    have found := AList.mem_lookup_iff.mpr member
    obtain ⟨insertion, opened⟩ := booked.opened entry.1 entry.2 found
    exact opened.venueOrderId.trans (booked.accounts.within.opened entry.1 entry.2 found).2.1.symm
  rw [keys]
  exact system.state.openOrders.nodupKeys

omit [LibraryText] in
/-- Executed and shown or dropped is the same. -/
theorem Booked.total_seen (booked : Booked labels system) (clientOrderId : ClientOrderId) :
    total clientOrderId (executionsOf labels) =
      total clientOrderId (shownFills labels system) + total clientOrderId (droppedOf labels) := by
  rw [total_perm clientOrderId booked.seen, total_append]

omit [LibraryText] in
/-- Nothing adds up to nothing only where there is nothing. -/
theorem total_eq_zero_iff (positive : ∀ fill ∈ fills, 0 < fill.qty) (clientOrderId : ClientOrderId) :
    total clientOrderId fills = 0 ↔ ∀ fill ∈ fills, fill.clientOrderId ≠ clientOrderId := by
  refine ⟨fun nothing fill member own => ?_, total_other⟩
  have counted : fill.qty ∈ (fills.filter fun fill => fill.clientOrderId = clientOrderId).map VenueFill.qty :=
    List.mem_map_of_mem (List.mem_filter.mpr ⟨member, decide_eq_true own⟩)
  have least : fill.qty ≤ total clientOrderId fills := by
    refine List.single_le_sum (fun qty inside => ?_) _ counted
    obtain ⟨other, kept, rfl⟩ := List.mem_map.mp inside
    exact (positive other (List.mem_filter.mp kept).1).le
  rw [nothing] at least
  exact absurd least (not_le.mpr (positive fill member))

omit [LibraryText] in
/-- An entry is accepted as long as nothing was executed of its order. -/
theorem Booked.accepted_iff (booked : Booked labels system) (member : entry ∈ queryOpenOrders system.state) :
    entry.state = .accepted ↔ ∀ fill ∈ executionsOf labels, some fill.clientOrderId ≠ entry.clientOrderId := by
  obtain ⟨submission, insertion, -, rfl⟩ := (booked.mem_report_iff entry).mp member
  have shown : (PaperOpenOrder.asOpenOrder (executed labels submission insertion)).state = .accepted ↔
      total submission.clientOrderId (executionsOf labels) = 0 := by
    show (if total submission.clientOrderId (executionsOf labels) = 0 then OrderState.accepted
      else .partiallyFilled) = .accepted ↔ _
    split
    · next nothing => exact iff_of_true rfl nothing
    · next something => exact iff_of_false OrderState.noConfusion something
  rw [shown, total_eq_zero_iff booked.positive]
  exact forall₂_congr fun fill _ => not_congr (Option.some_inj.symm)

omit [LibraryText] in
theorem executionsOf_append (labels more : List Label) :
    executionsOf (labels ++ more) = executionsOf labels ++ executionsOf more := List.flatMap_append

omit [LibraryText] in
theorem cancelledOf_append (labels more : List Label) :
    cancelledOf (labels ++ more) = cancelledOf labels ++ cancelledOf more := List.filterMap_append

omit [LibraryText] in
/-- An order that rests goes on resting until it is complete or cancelled. -/
theorem Rests.later (rests : Rests labels submission insertion) (booked : Booked (labels ++ more) final) :
    Rests (labels ++ more) submission insertion ∨
      total submission.clientOrderId (executionsOf (labels ++ more)) = submission.qty ∨
      paperOrderId submission.clientOrderId ∈ cancelledOf more := by
  have inserted : .inserted submission insertion ∈ labels ++ more := List.mem_append_left _ rests.inserted
  have bound := booked.accounts.within.bound submission (mem_acceptedBy inserted)
  by_cases cancelled : paperOrderId submission.clientOrderId ∈ cancelledOf more
  · exact .inr (.inr cancelled)
  rcases lt_or_eq_of_le bound with unfilled | filled
  · refine .inl ⟨inserted, rests.rested, unfilled, fun member => ?_⟩
    rw [cancelledOf_append] at member
    rcases List.mem_append.mp member with old | new
    · exact rests.uncancelled old
    · exact cancelled new
  · exact .inr (.inl filled)

omit [LibraryText] in
/-- An order that rests has rested since it was inserted. -/
theorem Rests.earlier (rests : Rests (labels ++ more) submission insertion) (booked : Booked (labels ++ more) final) :
    Rests labels submission insertion ∨ .inserted submission insertion ∈ more := by
  rcases List.mem_append.mp rests.inserted with old | new
  swap
  · exact .inr new
  have unfilled := rests.unfilled
  have uncancelled := rests.uncancelled
  have positive := booked.positive
  rw [executionsOf_append] at unfilled positive
  rw [cancelledOf_append] at uncancelled
  have since := total_nonneg submission.clientOrderId (List.forall_mem_append.mp positive).2
  rw [total_append] at unfilled
  exact .inl ⟨old, rests.rested, by linarith, fun member => uncancelled (List.mem_append_left _ member)⟩

/-- Reports of the paper adapter, in every interleaving in which no insertion is
raced. A report lists, under an id of its own each, exactly the orders that were
left open and have neither been filled nor cancelled, as they were inserted and
filled by what has been executed of them; an order is accepted as long as that is
nothing. What was executed is what has been or will be shown, and what failed
updates dropped. Of two reports the later lists the orders of the earlier that
were not completed or cancelled between them, and of others only what was
inserted between them. -/
theorem open_orders_reported {adapter : PaperAdapter}
    (run : Path (fun system label next => Moves adapter system label next ∧ unraced system label = true)
      .start labels system) :
    (∀ entry, entry ∈ queryOpenOrders system.state ↔ ∃ submission insertion, Rests labels submission insertion ∧
      entry = PaperOpenOrder.asOpenOrder (executed labels submission insertion)) ∧
    ((queryOpenOrders system.state).map VenueOpenOrder.venueOrderId).Nodup ∧
    (∀ entry ∈ queryOpenOrders system.state,
      entry.state = .accepted ↔ ∀ fill ∈ executionsOf labels, some fill.clientOrderId ≠ entry.clientOrderId) ∧
    (∀ clientOrderId, total clientOrderId (executionsOf labels) =
      total clientOrderId (shownFills labels system) + total clientOrderId (droppedOf labels)) ∧
    ∀ more final,
      Path (fun system label next => Moves adapter system label next ∧ unraced system label = true)
        system more final →
      ∀ submission insertion,
        (Rests labels submission insertion → Rests (labels ++ more) submission insertion ∨
          total submission.clientOrderId (executionsOf (labels ++ more)) = submission.qty ∨
          paperOrderId submission.clientOrderId ∈ cancelledOf more) ∧
        (Rests (labels ++ more) submission insertion →
          Rests labels submission insertion ∨ .inserted submission insertion ∈ more) := by
  have booked := (booked_of_run run).1
  refine ⟨booked.mem_report_iff, booked.ids_nodup, fun entry member => booked.accepted_iff member, booked.total_seen,
    fun more final onward submission insertion => ?_⟩
  have afterwards := (booked_of_run (run.append onward)).1
  exact ⟨fun rests => rests.later afterwards, fun rests => rests.earlier afterwards⟩

end Sections

section Samples
open Plain

/-- The order of the ordering tests, on the first of its books. -/
def filledOnce : List Turn :=
  [.call (.replacing (sampleOrderbook ⟨0⟩)), .advance 0, .advance 0,
    .call (.submitting crossing), .advance 0, .advance 0, .advance 0]

/-- It is reported with what has been filled of it. -/
theorem open_orders_reported_partly : ∃ labels system entry insertion,
    Path (Moves paperAdapter) .start labels system ∧ queryOpenOrders system.state = [entry] ∧
      entry.filledQty = 1 ∧ entry.state = .partiallyFilled ∧ Rests labels crossing insertion := by
  have played : ((play paperAdapter unraced .start filledOnce).map fun played =>
      (acceptedBy played.1, (queryOpenOrders played.2.state).map fun entry => (entry.filledQty, entry.state))) =
        some ([crossing], [(1, .partiallyFilled)]) := by decide +kernel
  obtain ⟨⟨labels, system⟩, reached, views⟩ := Option.map_eq_some_iff.mp played
  obtain ⟨accepted, shown⟩ := Prod.mk.inj views
  have run := path_of_play reached
  obtain ⟨entry, alone, figures⟩ := List.map_eq_singleton_iff.mp shown
  obtain ⟨filled, partly⟩ := Prod.mk.inj figures
  obtain ⟨listed, -⟩ := open_orders_reported run
  obtain ⟨submission, insertion, rests, -⟩ := (listed entry).mp (alone ▸ List.mem_singleton.mpr rfl)
  have same : submission ∈ acceptedBy labels := mem_acceptedBy rests.inserted
  rw [accepted] at same
  obtain rfl := List.mem_singleton.mp same
  exact ⟨labels, system, entry, insertion, run.mono fun _ _ _ move => move.1, alone, filled, partly, rests⟩

end Samples

end FeynmanEngine.OpenOrderReports
