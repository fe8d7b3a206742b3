import FeynmanEngine.OptimalWalk
import FeynmanEngine.PaperSections

/-! What a new book does to the open orders of a paper adapter. An update that
returns `Ok` broadcasts one fill for each order it executed and touches no other.
One that fails has stored the book before, and has executed the orders it met
before the one whose simulation failed; their fills are dropped. -/
namespace FeynmanEngine.BookReplacements
open Ids Orders Orderbooks VenueOrders FillSimulation Tables Traces PaperVenue PaperExecutions PaperOrdering
open PaperSections OptimalWalk

/-! ### What an update may do to an order -/

/-- Nothing, or one execution: the filled quantity grows by that of its fill, or
the order is complete with it and closed. -/
inductive Applied : Option PaperOpenOrder → Option PaperOpenOrder → List VenueFill → Prop
  | untouched : Applied before before []
  | grown (owner : fill.clientOrderId = order.submission.clientOrderId) (positive : 0 < fill.qty)
      (partly : order.filledQty + fill.qty < order.submission.qty) :
      Applied (some order) (some { order with filledQty := order.filledQty + fill.qty }) [fill]
  | completed (owner : fill.clientOrderId = order.submission.clientOrderId) (positive : 0 < fill.qty)
      (whole : order.filledQty + fill.qty = order.submission.qty) : Applied (some order) none [fill]

/-- Each order got one of these, with its fills among those of the update. -/
def Announces (before after : PaperAdapterState) (fills : List VenueFill) : Prop :=
  ∀ venueOrderId, Applied (before.openOrders.lookup venueOrderId) (after.openOrders.lookup venueOrderId)
    (ofOrder venueOrderId fills)

theorem Applied.unfilled (applied : Applied before after []) : after = before := by
  cases applied
  rfl

theorem Applied.changed (applied : Applied before after fills) (filled : fills ≠ []) : after ≠ before := by
  cases applied with
  | untouched => exact absurd rfl filled
  | @grown order fill owner positive partly =>
    intro same
    have kept : order.filledQty + fill.qty = order.filledQty :=
      congrArg PaperOpenOrder.filledQty (Option.some.inj same)
    linarith
  | completed owner positive whole =>
    intro same
    cases same

/-- The simulation of what is left of an open order ends in an error. -/
def stuck (adapter : PaperAdapter) (snapshot : OrderbookSnapshot) (state : PaperAdapterState)
    (venueOrderId : VenueOrderId) : Bool :=
  match state.openOrders.lookup venueOrderId with
  | none => false
  | some existing =>
    if existing.remainingQty ≤ 0 then false
    else
      match simulateRest adapter snapshot venueOrderId existing with
      | .ok _ => false
      | .error _ => true

def Unfinished (state : PaperAdapterState) : Prop :=
  ∀ venueOrderId order, state.openOrders.lookup venueOrderId = some order → 0 < order.remainingQty

/-! ### One order -/

theorem repriceOrder_own (repriced : repriceOrder adapter snapshot state venueOrderId = .ok (next, fills)) :
    ∀ fill ∈ fills, fill.venueOrderId = venueOrderId := by
  intro fill member
  have named := List.mem_map_of_mem (f := VenueFill.venueOrderId) member
  rcases (repriceOrder_ok repriced).1 with none | ⟨one, -⟩
  · rw [none] at named
    cases named
  · rw [one] at named
    exact List.mem_singleton.mp named

theorem repriceOrder_error_iff (adapter : PaperAdapter) (snapshot : OrderbookSnapshot)
    (state : PaperAdapterState) (venueOrderId : VenueOrderId) :
    (∃ error, repriceOrder adapter snapshot state venueOrderId = .error error) ↔
      stuck adapter snapshot state venueOrderId := by
  unfold repriceOrder stuck
  cases found : state.openOrders.lookup venueOrderId with
  | none => simp
  | some existing =>
    dsimp only
    by_cases finished : existing.remainingQty ≤ 0
    · simp [finished]
    · rw [if_neg finished, if_neg finished]
      cases simulateRest adapter snapshot venueOrderId existing with
      | error error => simp
      | ok outcome => cases outcome <;> simp

theorem repriceOrder_applied (unfinished : Unfinished state)
    (repriced : repriceOrder adapter snapshot state venueOrderId = .ok (next, fills)) :
    Applied (state.openOrders.lookup venueOrderId) (next.openOrders.lookup venueOrderId) fills ∧
      (fills ≠ [] ↔ executes adapter snapshot state venueOrderId) := by
  unfold repriceOrder at repriced
  unfold executes
  split at repriced
  · next none =>
    cases repriced
    rw [none]
    exact ⟨.untouched, by simp⟩
  · next existing found =>
    have remains := unfinished venueOrderId existing found
    rw [if_neg (not_le.mpr remains)] at repriced
    simp only [found]
    rw [if_neg (not_le.mpr remains)]
    split at repriced
    · cases repriced
    · next rests =>
      cases repriced
      rw [rests, found]
      exact ⟨.untouched, by simp⟩
    · next simulated executed =>
      cases repriced
      rw [executed]
      refine ⟨?_, by simp⟩
      have fills := adapter.fillSimulator.fills executed
      have positive : 0 < (repricedFill venueOrderId existing simulated.fill).qty := fills.positive
      have whole := fills.whole
      simp only [orderCoreFromSubmission, PaperOpenOrder.remainingQty] at whole
      dsimp only
      split
      · next complete =>
        have rest : simulated.remainingQty = 0 := of_decide_eq_true complete
        rw [lookup_erase_if, if_pos rfl]
        exact .completed rfl positive (by simp only [repricedFill]; linarith)
      · next incomplete =>
        have partly := fills.partly (Bool.eq_false_iff.mpr incomplete)
        simp only [orderCoreFromSubmission, PaperOpenOrder.remainingQty] at partly
        rw [lookup_insert_if, if_pos rfl]
        exact .grown rfl positive (by simp only [repricedFill]; linarith)

theorem repriceOrder_unfinished (unfinished : Unfinished state)
    (repriced : repriceOrder adapter snapshot state venueOrderId = .ok (next, fills)) : Unfinished next := by
  intro probe order found
  by_cases hit : probe = venueOrderId
  · subst hit
    have applied := (repriceOrder_applied unfinished repriced).1
    rw [found] at applied
    generalize before : state.openOrders.lookup probe = earlier at applied
    cases applied with
    | untouched => exact unfinished probe order before
    | grown owner positive partly => exact sub_pos.mpr partly
  · rw [(repriceOrder_ok repriced).2.1 probe hit] at found
    exact unfinished probe order found

/-- Whether an order trades or fails depends on that order alone. -/
theorem stuck_congr (same : next.openOrders.lookup venueOrderId = state.openOrders.lookup venueOrderId) :
    stuck adapter snapshot next venueOrderId = stuck adapter snapshot state venueOrderId := by
  unfold stuck
  rw [same]

theorem executes_congr (same : next.openOrders.lookup venueOrderId = state.openOrders.lookup venueOrderId) :
    executes adapter snapshot next venueOrderId = executes adapter snapshot state venueOrderId := by
  unfold executes
  rw [same]

/-! ### One update -/

/-- The orders still to come are as they were before this one. -/
theorem later_kept {rest : List VenueOrderId}
    (repriced : repriceOrder adapter snapshot state first = .ok (next, fills)) (absent : first ∉ rest) (member : later ∈ rest) :
    next.openOrders.lookup later = state.openOrders.lookup later :=
  (repriceOrder_ok repriced).2.1 later fun same => absent (same ▸ member)

theorem collect_untouched (adapter : PaperAdapter) (snapshot : OrderbookSnapshot) (state : PaperAdapterState)
    (absent : venueOrderId ∉ iteration) :
    (collectRepricedFills adapter snapshot state iteration).state.openOrders.lookup venueOrderId =
        state.openOrders.lookup venueOrderId ∧
      ofOrder venueOrderId (collectRepricedFills adapter snapshot state iteration).fills = [] := by
  induction iteration generalizing state with
  | nil => exact ⟨rfl, rfl⟩
  | cons first rest ih =>
    obtain ⟨other, later⟩ := not_or.mp (mt List.mem_cons.mpr absent)
    unfold collectRepricedFills
    split
    · exact ⟨rfl, rfl⟩
    · next next fills repriced =>
      obtain ⟨kept, silent⟩ := ih next later
      refine ⟨kept.trans ((repriceOrder_ok repriced).2.1 venueOrderId other), ?_⟩
      have own : ofOrder venueOrderId fills = [] :=
        ofOrder_none fun fill member same => other (same.symm.trans (repriceOrder_own repriced fill member))
      rw [ofOrder_append, own, silent]
      rfl

/-- An update fails at the first order whose simulation does, and does before
that what an update of the orders before that one does. -/
theorem collect_stops (adapter : PaperAdapter) (snapshot : OrderbookSnapshot) (state : PaperAdapterState)
    (distinct : iteration.Nodup) (fails : VenueOrderId → Bool)
    (same : ∀ venueOrderId ∈ iteration, stuck adapter snapshot state venueOrderId = fails venueOrderId) :
    ((collectRepricedFills adapter snapshot state iteration).error.isSome ↔
        ∃ venueOrderId ∈ iteration, fails venueOrderId) ∧
      (collectRepricedFills adapter snapshot state iteration).state =
        (collectRepricedFills adapter snapshot state
          (iteration.takeWhile fun venueOrderId => !fails venueOrderId)).state ∧
      (collectRepricedFills adapter snapshot state iteration).fills =
        (collectRepricedFills adapter snapshot state
          (iteration.takeWhile fun venueOrderId => !fails venueOrderId)).fills := by
  induction iteration generalizing state with
  | nil => exact ⟨by simp [collectRepricedFills], rfl, rfl⟩
  | cons first rest ih =>
    obtain ⟨absent, distinct⟩ := List.nodup_cons.mp distinct
    obtain ⟨head, tail⟩ := List.forall_mem_cons.mp same
    cases outcome : repriceOrder adapter snapshot state first with
    | error error =>
      have failed : fails first = true :=
        head.symm.trans ((repriceOrder_error_iff adapter snapshot state first).mp ⟨error, outcome⟩)
      refine ⟨?_, ?_, ?_⟩
      · simp [collectRepricedFills, outcome, failed]
      · simp [collectRepricedFills, outcome, failed]
      · simp [collectRepricedFills, outcome, failed]
    | ok repriced =>
      obtain ⟨next, fills⟩ := repriced
      have passed : fails first = false := by
        rw [← head, Bool.eq_false_iff]
        intro failed
        obtain ⟨error, ended⟩ := (repriceOrder_error_iff adapter snapshot state first).mpr failed
        rw [outcome] at ended
        cases ended
      have onward : ∀ venueOrderId ∈ rest, stuck adapter snapshot next venueOrderId = fails venueOrderId := by
        intro venueOrderId member
        rw [stuck_congr (later_kept outcome absent member)]
        exact tail venueOrderId member
      obtain ⟨failure, reached, filled⟩ := ih next distinct onward
      refine ⟨?_, ?_, ?_⟩
      · simp [collectRepricedFills, outcome, passed, failure]
      · simp [collectRepricedFills, outcome, passed, reached]
      · simp [collectRepricedFills, outcome, passed, filled]

/-- Where no simulation fails, every order gets nothing or one execution, the
latter when it is met and trades. -/
theorem collect_applied (adapter : PaperAdapter) (snapshot : OrderbookSnapshot)
    (unfinished : Unfinished state) (distinct : iteration.Nodup)
    (clear : ∀ venueOrderId ∈ iteration, stuck adapter snapshot state venueOrderId = false)
    (venueOrderId : VenueOrderId) :
    Applied (state.openOrders.lookup venueOrderId)
        ((collectRepricedFills adapter snapshot state iteration).state.openOrders.lookup venueOrderId)
        (ofOrder venueOrderId (collectRepricedFills adapter snapshot state iteration).fills) ∧
      (ofOrder venueOrderId (collectRepricedFills adapter snapshot state iteration).fills ≠ [] ↔
        venueOrderId ∈ iteration ∧ executes adapter snapshot state venueOrderId) := by
  induction iteration generalizing state with
  | nil => exact ⟨.untouched, by simp [collectRepricedFills, ofOrder]⟩
  | cons first rest ih =>
    obtain ⟨absent, distinct⟩ := List.nodup_cons.mp distinct
    obtain ⟨head, tail⟩ := List.forall_mem_cons.mp clear
    cases outcome : repriceOrder adapter snapshot state first with
    | error error =>
      have failed := (repriceOrder_error_iff adapter snapshot state first).mp ⟨error, outcome⟩
      rw [head] at failed
      cases failed
    | ok repriced =>
      obtain ⟨next, fills⟩ := repriced
      obtain ⟨applied, trades⟩ := repriceOrder_applied unfinished outcome
      simp only [collectRepricedFills, outcome, ofOrder_append]
      by_cases hit : venueOrderId = first
      · -- met here, and by none of the orders to come
        subst hit
        obtain ⟨kept, silent⟩ := collect_untouched adapter snapshot next absent
        rw [kept, silent, List.append_nil, ofOrder_all (repriceOrder_own outcome)]
        exact ⟨applied, trades.trans (by simp)⟩
      · have untouched := (repriceOrder_ok outcome).2.1 venueOrderId hit
        have onward : ∀ later ∈ rest, stuck adapter snapshot next later = false := by
          intro later member
          rw [stuck_congr (later_kept outcome absent member)]
          exact tail later member
        have own : ofOrder venueOrderId fills = [] :=
          ofOrder_none fun fill member same => hit (same.symm.trans (repriceOrder_own outcome fill member))
        obtain ⟨applied, trades⟩ := ih (repriceOrder_unfinished unfinished outcome) distinct onward
        rw [untouched] at applied
        rw [executes_congr untouched] at trades
        rw [own, List.nil_append]
        exact ⟨applied, trades.trans (by simp [hit])⟩

/-- So too in an update that fails, with the fills it drops. -/
theorem collect_announces (adapter : PaperAdapter) (snapshot : OrderbookSnapshot) (unfinished : Unfinished state)
    (distinct : iteration.Nodup) :
    Announces state (collectRepricedFills adapter snapshot state iteration).state
      (collectRepricedFills adapter snapshot state iteration).fills := by
  obtain ⟨-, stops, filled⟩ := collect_stops adapter snapshot state distinct (stuck adapter snapshot state)
    fun _ _ => rfl
  rw [stops, filled]
  refine fun venueOrderId => (collect_applied adapter snapshot unfinished
    (distinct.sublist (List.takeWhile_sublist _)) (fun probe member => ?_) venueOrderId).1
  simpa using List.all_eq_true.mp List.all_takeWhile probe member

theorem collect_orderbooks (adapter : PaperAdapter) (snapshot : OrderbookSnapshot) (state : PaperAdapterState)
    (iteration : List VenueOrderId) :
    (collectRepricedFills adapter snapshot state iteration).state.orderbooks = state.orderbooks := by
  induction iteration generalizing state with
  | nil => rfl
  | cons first rest ih =>
    unfold collectRepricedFills
    split
    · rfl
    · next next fills repriced =>
      refine (ih next).trans ?_
      unfold repriceOrder at repriced
      split at repriced
      · cases repriced
        rfl
      · split at repriced
        · cases repriced
          rfl
        · split at repriced <;> cases repriced <;> rfl

/-! ### One call -/

def Unchanged (before after : PaperAdapterState) : Prop :=
  (∀ marketId, after.orderbooks.lookup marketId = before.orderbooks.lookup marketId) ∧
    ∀ venueOrderId, after.openOrders.lookup venueOrderId = before.openOrders.lookup venueOrderId

/-- An update that returns `Ok` goes on to broadcast one fill for each execution,
and one that fails changes neither books nor open orders. -/
structure LosesNone (before : PaperAdapterState) (outcome : Outcome) : Prop where
  ok : ∀ snapshot fills, outcome.label = .replaced snapshot fills none →
    Announces before outcome.state fills ∧ outcome.next = some (.broadcasting fills)
  failed : ∀ snapshot fills error, outcome.label = .replaced snapshot fills (some error) →
    Unchanged before outcome.state

section Sections
variable [LibraryText]

/-- The update meets no order whose simulation fails, or else the snapshot is the
stored book already and no order it meets before the first such order trades. -/
def Harmless (adapter : PaperAdapter) (state : PaperAdapterState) (snapshot : OrderbookSnapshot)
    (iteration : List VenueOrderId) : Prop :=
  Accepted adapter snapshot → (∃ venueOrderId ∈ iteration, stuck adapter snapshot state venueOrderId) →
    state.orderbooks.lookup snapshot.marketId = some snapshot ∧
      ∀ earlier ∈ iteration.takeWhile fun venueOrderId => !stuck adapter snapshot state venueOrderId,
        executes adapter snapshot state earlier = false

theorem replaceOrderbook_refused (state : PaperAdapterState) (iteration : List VenueOrderId)
    (refused : ¬ Accepted adapter snapshot) :
    ∃ error, replaceOrderbook adapter state snapshot iteration =
      ⟨state, .replaced snapshot [] (some error), none⟩ := by
  unfold replaceOrderbook
  split
  · exact ⟨_, rfl⟩
  · next home =>
    split
    · exact ⟨_, rfl⟩
    · next valid => exact absurd ⟨not_not.mp home, valid⟩ refused

theorem replaceOrderbook_accepted (accepted : Accepted adapter snapshot)
    (repriced : collectRepricedFills adapter snapshot (withOrderbook state snapshot) iteration = collected) :
    replaceOrderbook adapter state snapshot iteration =
      ⟨collected.state, .replaced snapshot collected.fills collected.error,
        if collected.error.isSome then none else some (.broadcasting collected.fills)⟩ := by
  unfold replaceOrderbook
  rw [if_neg (not_not.mpr accepted.1), accepted.2, repriced]

omit [LibraryText] in
/-- After an error in the middle, all is as before just when the book is and no
order met before the error traded. -/
theorem unchanged_iff (unfinished : Unfinished state) (distinct : met.Nodup)
    (clear : ∀ venueOrderId ∈ met, stuck adapter snapshot state venueOrderId = false) :
    Unchanged state (collectRepricedFills adapter snapshot (withOrderbook state snapshot) met).state ↔
      state.orderbooks.lookup snapshot.marketId = some snapshot ∧
        ∀ earlier ∈ met, executes adapter snapshot state earlier = false := by
  have applied := @collect_applied (withOrderbook state snapshot) met adapter snapshot unfinished distinct clear
  have books := collect_orderbooks adapter snapshot (withOrderbook state snapshot) met
  generalize collectRepricedFills adapter snapshot (withOrderbook state snapshot) met = collected at *
  have stored : ∀ marketId, collected.state.orderbooks.lookup marketId =
      if marketId = snapshot.marketId then some snapshot else state.orderbooks.lookup marketId := by
    intro marketId
    rw [books, withOrderbook, lookup_insert_if]
  constructor
  · rintro ⟨sameBooks, sameOrders⟩
    constructor
    · rw [← sameBooks, stored, if_pos rfl]
    · intro earlier member
      rw [Bool.eq_false_iff]
      intro trades
      obtain ⟨change, filled⟩ := applied earlier
      exact change.changed (filled.mpr ⟨member, trades⟩) (sameOrders earlier)
  · rintro ⟨book, silent⟩
    constructor
    · intro marketId
      rw [stored]
      split
      · next same => rw [same, book]
      · rfl
    · intro venueOrderId
      obtain ⟨change, filled⟩ := applied venueOrderId
      have none : ofOrder venueOrderId collected.fills = [] := by
        by_contra some
        obtain ⟨member, trades⟩ := filled.mp some
        have idle : executes adapter snapshot (withOrderbook state snapshot) venueOrderId = false :=
          silent venueOrderId member
        rw [idle] at trades
        cases trades
      rw [none] at change
      exact change.unfilled

/-- A call loses no fills exactly when it is harmless. -/
theorem losesNone_iff (unfinished : Unfinished state) (distinct : iteration.Nodup) :
    LosesNone state (replaceOrderbook adapter state snapshot iteration) ↔
      Harmless adapter state snapshot iteration := by
  by_cases accepted : Accepted adapter snapshot
  swap
  · obtain ⟨error, refused⟩ := replaceOrderbook_refused state iteration accepted
    rw [refused]
    refine iff_of_true ⟨?_, ?_⟩ fun admitted => absurd admitted accepted
    · rintro snapshot fills ⟨⟩
    · rintro snapshot fills error ⟨⟩
      exact ⟨fun _ => rfl, fun _ => rfl⟩
  obtain ⟨failure, stops, -⟩ := collect_stops adapter snapshot (withOrderbook state snapshot) distinct
    (stuck adapter snapshot state) fun _ _ => rfl
  have applied := @collect_applied (withOrderbook state snapshot) iteration adapter snapshot unfinished
    distinct
  rw [replaceOrderbook_accepted accepted rfl]
  by_cases failing : ∃ venueOrderId ∈ iteration, stuck adapter snapshot state venueOrderId
  · obtain ⟨error, failed⟩ := Option.isSome_iff_exists.mp (failure.mpr failing)
    have first := @unchanged_iff state (iteration.takeWhile fun probe => !stuck adapter snapshot state probe)
      adapter snapshot unfinished (distinct.sublist (List.takeWhile_sublist _)) fun probe member => by
        simpa using List.all_eq_true.mp List.all_takeWhile probe member
    constructor
    · intro loses _ _
      apply first.mp
      rw [← stops]
      exact loses.failed snapshot _ error (by rw [failed])
    · intro harmless
      refine ⟨fun snapshot fills ended => ?_, fun _ fills error ended => ?_⟩
      · rw [failed] at ended
        cases ended
      · dsimp only
        rw [stops]
        exact first.mpr (harmless accepted failing)
  · have none : (collectRepricedFills adapter snapshot (withOrderbook state snapshot) iteration).error = none :=
      Option.not_isSome_iff_eq_none.mp (mt failure.mp failing)
    refine iff_of_true ⟨?_, ?_⟩ fun _ some => absurd some failing
    · rintro book fills ended
      rw [none] at ended ⊢
      cases ended
      refine ⟨fun venueOrderId => (applied (fun probe member => ?_) venueOrderId).1, rfl⟩
      rw [Bool.eq_false_iff]
      exact fun failed => failing ⟨probe, member, failed⟩
    · rintro book fills error ended
      rw [none] at ended
      cases ended

/-! ### The depth-walking simulator -/

/-- What the adapter asks the simulator about an open order. -/
def restOf (order : PaperOpenOrder) : OrderCore :=
  orderCoreFromSubmission order.submission order.acceptedAt order.remainingQty

omit [LibraryText] in
/-- A checked submission is for the adapter's venue and has the limit its type needs. -/
theorem limited_of_valid (valid : validateSubmission adapter submission = .ok ()) (createdAt : DateTime)
    (qty : Decimal) : submission.venueId = adapter.venueId ∧
      ∃ limit, Limited (orderCoreFromSubmission submission createdAt qty) limit := by
  unfold validateSubmission at valid
  split at valid
  · cases valid
  · next home =>
    refine ⟨not_not.mp home, ?_⟩
    cases kind : submission.orderType with
    | market => exact ⟨none, Or.inl ⟨kind, rfl⟩⟩
    | limit =>
      have priced : submission.price ≠ none := by
        intro missing
        simp only [kind, missing, and_self, if_true] at valid
        split at valid <;> cases valid
      obtain ⟨price, found⟩ := Option.ne_none_iff_exists'.mp priced
      exact ⟨some price, Or.inr ⟨kind, price, found, rfl⟩⟩
    | stopMarket | stopLimit | trailingStop =>
      simp only [kind] at valid
      cases valid

/-- With a fee model that does not fail, the simulation of an open order fails
exactly where the book is for another instrument of the market or has nothing
on the side the order trades against. -/
theorem stuck_iff (live : adapter.fillSimulator = liveOrderbookFillSimulator)
    (fees : ∀ fill, ∃ fee, adapter.feeModel.calculate fill = .ok fee) (accepted : Accepted adapter snapshot)
    (open_ : ∀ order, state.openOrders.lookup venueOrderId = some order → Live adapter venueOrderId order) :
    stuck adapter snapshot state venueOrderId ↔
      ∃ order, state.openOrders.lookup venueOrderId = some order ∧
        (order.submission.instrumentId ≠ snapshot.instrumentId ∨ opposite (restOf order) snapshot = []) := by
  unfold stuck
  cases found : state.openOrders.lookup venueOrderId with
  | none => simp
  | some order =>
    have standing := open_ order found
    obtain ⟨home, limit, limited⟩ : order.submission.venueId = adapter.venueId ∧
        ∃ limit, Limited (restOf order) limit :=
      limited_of_valid standing.admitted.valid order.acceptedAt order.remainingQty
    have venue : (restOf order).venueId = snapshot.venueId := home.trans accepted.1.symm
    have sized : 0 < (restOf order).qty := standing.remains
    dsimp only
    rw [if_neg (not_le.mpr standing.remains)]
    have simulated : simulateRest adapter snapshot venueOrderId order =
        liveSimulate (restOf order) venueOrderId snapshot adapter.feeModel := by
      rw [simulateRest, live]
      rfl
    rw [simulated]
    constructor
    · intro failed
      refine ⟨order, rfl, ?_⟩
      by_contra priced
      obtain ⟨instrument, levels⟩ := not_or.mp priced
      obtain ⟨outcome, answered, -⟩ := simulate_optimal (restOf order) snapshot adapter.feeModel venueOrderId
        limit accepted.2 levels limited sized venue (not_not.mp instrument) fees
      have answered : liveSimulate (restOf order) venueOrderId snapshot adapter.feeModel = .ok outcome :=
        answered
      rw [answered] at failed
      cases failed
    · rintro ⟨same, ⟨⟩, reason⟩
      unfold liveSimulate
      rw [if_neg (not_le.mpr sized), if_neg (not_not.mpr venue)]
      by_cases foreign : (restOf order).instrumentId ≠ snapshot.instrumentId
      · rw [if_pos foreign]
      · have empty := reason.resolve_left foreign
        rw [if_neg foreign, accepted.2, limited.priceLimitOf, empty]
        rfl

/-! ### Every interleaving -/

def announcedOf (labels : List Label) : List VenueFill :=
  labels.flatMap fun
    | .taken _ (.ok actions) => venueFills actions
    | .replaced _ fills none => fills
    | .taken _ (.error _) | .replaced _ _ (some _) | .called _ | .answered .. | .passed | .inserted .. |
      .cancelled .. | .broadcast _ | .returned => []

/-- A step broadcasts, or leaves to broadcast, what was to be broadcast before it
and what it announces. -/
theorem announced_by (adapter : PaperAdapter) (iteration : List VenueOrderId) (state : PaperAdapterState)
    (call : Call) :
    broadcastsOf [(call.run adapter iteration state).label] ++
        inFlight (call.run adapter iteration state).next.toList =
      call.inFlight ++ announcedOf [(call.run adapter iteration state).label] := by
  have step := ran adapter iteration state call
  generalize call.run adapter iteration state = outcome at step ⊢
  cases step with
  | answered landed =>
    rw [landed]
    rfl
  | passed | priced | inserted | retaken | missed | refused | cancelled | unknown | returned => rfl
  | taken => simp [broadcastsOf, announcedOf, inFlight, Call.inFlight]
  | @replaced snapshot collected =>
    cases failed : collected.error <;> simp [broadcastsOf, announcedOf, inFlight, Call.inFlight]
  | broadcast => simp [broadcastsOf, announcedOf, inFlight, Call.inFlight]

/-- What was announced is what was broadcast and what running calls still broadcast. -/
theorem announced_of_run {adapter : PaperAdapter} (run : Path (Moves adapter) .start labels system) :
    (broadcastsOf labels ++ inFlight system.calls).Perm (announcedOf labels) := by
  induction run with
  | start => exact List.Perm.refl _
  | @step labels system label next _ move ih =>
    refine List.perm_iff_count.mpr fun fill => ?_
    have before := ih.count_eq fill
    have grown : announcedOf (labels ++ [label]) = announcedOf labels ++ announcedOf [label] :=
      List.flatMap_append
    rw [broadcastsOf_snoc, grown]
    cases move with
    | called call entry =>
      have landed : inFlight [call] = [] := by simp [inFlight, inFlight_entry entry]
      have silent : announcedOf [.called call] = [] ∧ broadcastsOf [.called call] = [] := ⟨rfl, rfl⟩
      have calls : inFlight (system.calls ++ [call]) = inFlight system.calls ++ inFlight [call] :=
        List.flatMap_append
      rw [silent.1, silent.2, calls, landed]
      simpa using before
    | @ran first last call iteration running visits =>
      have step := congrArg (List.count fill) (announced_by adapter iteration system.state call)
      rw [running, inFlight_split] at before
      rw [inFlight_swap]
      simp only [List.count_append] at before step ⊢
      omega

/-- Book updates lose no fills. In every adapter reached, an update loses none
exactly when it is harmless, in whatever order it meets the open orders; with
the depth-walking simulator and a fee model that does not fail, the orders whose
simulation fails are those of another instrument or without a side to trade
against. What was announced is broadcast once each, or still to be broadcast. -/
theorem updates_lose_no_fills {adapter : PaperAdapter} (run : Path (Moves adapter) .start labels system) :
    (∀ snapshot iteration, iteration.Perm (marketOrders system.state.openOrders snapshot.marketId) →
      (LosesNone system.state (replaceOrderbook adapter system.state snapshot iteration) ↔
        Harmless adapter system.state snapshot iteration)) ∧
    (adapter.fillSimulator = liveOrderbookFillSimulator →
      (∀ fill, ∃ fee, adapter.feeModel.calculate fill = .ok fee) →
      ∀ snapshot, Accepted adapter snapshot → ∀ venueOrderId,
        (stuck adapter snapshot system.state venueOrderId ↔
          ∃ order, system.state.openOrders.lookup venueOrderId = some order ∧
            (order.submission.instrumentId ≠ snapshot.instrumentId ∨
              opposite (restOf order) snapshot = []))) ∧
    (broadcastsOf labels ++ inFlight system.calls).Perm (announcedOf labels) := by
  have standing := standing_of_run run
  refine ⟨fun snapshot iteration visits => ?_, fun live fees snapshot accepted venueOrderId => ?_,
    announced_of_run run⟩
  · have distinct : iteration.Nodup :=
      visits.nodup_iff.mpr (marketOrders_nodup system.state.openOrders snapshot.marketId)
    exact losesNone_iff (fun venueOrderId order found => (standing.live venueOrderId order found).remains)
      distinct
  · exact stuck_iff live fees accepted (standing.live venueOrderId)

end Sections

/-! ### Two resting orders -/

section Samples
open Plain

/-- A buy below the best ask of the sample book. -/
def bidder : OrderSubmission := sampleSubmission "athena-bid" .limit 1 (some 9995) .gtc

def offerer : OrderSubmission :=
  { sampleSubmission "athena-offer" .limit 1 (some 9996) .gtc with side := .sell }

def bothRest : List Turn :=
  [.call (.replacing (sampleOrderbook ⟨0⟩)), .advance 0, .advance 0,
    .call (.submitting bidder), .advance 0, .advance 0, .advance 0,
    .call (.submitting offerer), .advance 0, .advance 0, .advance 0]

/-- A book whose best bid takes the sell. -/
def raisedBook : OrderbookSnapshot :=
  { sampleOrderbook ⟨1⟩ with bids := [⟨9996, 1⟩], asks := [⟨10000, 1⟩] }

/-- The same without asks. -/
def bidsOnly : OrderbookSnapshot := { raisedBook with asks := [] }

/-- The book with both sides loses no fill. -/
theorem updates_lose_no_fills_raised : ∃ labels system, Path (Moves paperAdapter) .start labels system ∧
    LosesNone system.state (replaceOrderbook paperAdapter system.state raisedBook
      (marketOrders system.state.openOrders raisedBook.marketId)) := by
  have played : ((play paperAdapter (fun _ _ => true) .start bothRest).map fun played =>
      (marketOrders played.2.state.openOrders raisedBook.marketId).map
        (stuck paperAdapter raisedBook played.2.state)) = some [false, false] := by decide +kernel
  obtain ⟨⟨labels, system⟩, reached, views⟩ := Option.map_eq_some_iff.mp played
  have run := (path_of_play reached).mono fun _ _ _ move => move.1
  refine ⟨labels, system, run, ((updates_lose_no_fills run).1 raisedBook _ (List.Perm.refl _)).mpr ?_⟩
  rintro - ⟨venueOrderId, member, failed⟩
  have listed := List.mem_map_of_mem (f := stuck paperAdapter raisedBook system.state) member
  rw [views, failed] at listed
  simp at listed

/-- The book without asks cannot price the buy. When the sell is met first, it is
filled and closed, its fill is dropped, and the book is stored. -/
theorem failed_update_drops_fill : ∃ labels system iteration fills error,
    Path (Moves paperAdapter) .start labels system ∧
    iteration.Perm (marketOrders system.state.openOrders bidsOnly.marketId) ∧
    replaceOrderbook paperAdapter system.state bidsOnly iteration =
      ⟨(replaceOrderbook paperAdapter system.state bidsOnly iteration).state,
        .replaced bidsOnly fills (some error), none⟩ ∧
    fills.map VenueFill.qty = [1] ∧
    (system.state.openOrders.lookup (paperOrderId offerer.clientOrderId)).isSome ∧
    (replaceOrderbook paperAdapter system.state bidsOnly iteration).state.openOrders.lookup
      (paperOrderId offerer.clientOrderId) = none ∧
    (replaceOrderbook paperAdapter system.state bidsOnly iteration).state.orderbooks.lookup
      bidsOnly.marketId ≠ system.state.orderbooks.lookup bidsOnly.marketId := by
  let iteration := [paperOrderId offerer.clientOrderId, paperOrderId bidder.clientOrderId]
  have played : ((play paperAdapter (fun _ _ => true) .start bothRest).map fun played =>
      let collected := collectRepricedFills paperAdapter bidsOnly (withOrderbook played.2.state bidsOnly) iteration
      decide (marketOrders played.2.state.openOrders bidsOnly.marketId = iteration ∧
        collected.error = some (.priceUnavailable "BTC") ∧ collected.fills.map VenueFill.qty = [1] ∧
        (played.2.state.openOrders.lookup (paperOrderId offerer.clientOrderId)).isSome ∧
        collected.state.openOrders.lookup (paperOrderId offerer.clientOrderId) = none ∧
        collected.state.orderbooks.lookup bidsOnly.marketId ≠
          played.2.state.orderbooks.lookup bidsOnly.marketId)) = some true := by decide +kernel
  have accepted : Accepted paperAdapter bidsOnly := ⟨rfl, by decide +kernel⟩
  obtain ⟨⟨labels, system⟩, reached, views⟩ := Option.map_eq_some_iff.mp played
  obtain ⟨listed, failed, filled, before, after, stored⟩ := of_decide_eq_true views
  have updated := replaceOrderbook_accepted accepted
    (Eq.refl (collectRepricedFills paperAdapter bidsOnly (withOrderbook system.state bidsOnly) iteration))
  refine ⟨labels, system, iteration, _, .priceUnavailable "BTC", (path_of_play reached).mono fun _ _ _ move => move.1,
    List.Perm.of_eq listed.symm, ?_, filled, before, ?_, ?_⟩
  · rw [updated, failed]
    rfl
  · rw [updated]
    exact after
  · rw [updated]
    exact stored

end Samples

end FeynmanEngine.BookReplacements
