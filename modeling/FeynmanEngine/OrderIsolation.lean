import Mathlib.Data.List.ReduceOption
import FeynmanEngine.IterationOrders

/-! Orders of the paper adapter do not see each other. Each is simulated alone
against the whole book, and every table is keyed by its id, so that what happens
to an order is what would happen if the calls about every other order were left
out. Only an update that fails is felt by an order it is not about. -/
namespace FeynmanEngine.OrderIsolation
open Ids Orders Orderbooks VenueOrders FillSimulation Tables Traces PaperVenue PaperExecutions PaperOrdering
open PaperSections BookReplacements OpenOrderReports IterationOrders

/-! ### What concerns an order -/

/-- The call is about the order, or brings a new book. -/
def concerns (own : ClientOrderId) : Call → Bool
  | .submitting submission | .pricing submission | .inserting submission _ => submission.clientOrderId = own
  | .taking venueOrderId | .cancelling venueOrderId => venueOrderId = paperOrderId own
  | .replacing _ => true
  | .broadcasting _ => false

/-- What a label tells of the order: its calls and their answers, its fills, and
every new book. -/
def viewed (own : ClientOrderId) : Label → Option Label
  | .called call => if concerns own call then some (.called call) else none
  | .answered submission answer =>
    if submission.clientOrderId = own then some (.answered submission answer) else none
  | .inserted submission insertion =>
    if submission.clientOrderId = own then some (.inserted submission insertion) else none
  | .taken venueOrderId answer =>
    if venueOrderId = paperOrderId own then some (.taken venueOrderId answer) else none
  | .cancelled venueOrderId answer =>
    if venueOrderId = paperOrderId own then some (.cancelled venueOrderId answer) else none
  | .replaced snapshot fills error => some (.replaced snapshot (ofOrder (paperOrderId own) fills) error)
  | .broadcast fill => if fill.venueOrderId = paperOrderId own then some (.broadcast fill) else none
  | .passed | .returned => none

/-- The label tells nothing of any other order. -/
def About (own : ClientOrderId) (label : Label) : Prop :=
  viewed own label = some label ∨ label = .passed ∨ label = .returned

/-- How a call is seen from the order: as it is, or with the order's fills only, or
not at all. -/
inductive Seen (own : ClientOrderId) : Call → Option Call → Prop
  | kept (concerned : concerns own call = true) : Seen own call (some call)
  | foreign (other : concerns own call = false) (silent : ofOrder (paperOrderId own) call.inFlight = []) :
      Seen own call none
  | broadcasting (fills : List VenueFill) :
      Seen own (.broadcasting fills) (some (.broadcasting (ofOrder (paperOrderId own) fills)))

/-- The second state has of the first the books and what is kept under the order's
ids, and no other open order. -/
structure SeenState (own : ClientOrderId) (left right : PaperAdapterState) : Prop where
  orderbooks : ∀ marketId, left.orderbooks.lookup marketId = right.orderbooks.lookup marketId
  cached : left.idempotencyCache.lookup own = right.idempotencyCache.lookup own
  acknowledged : paperOrderId own ∈ left.acknowledgedOrders ↔ paperOrderId own ∈ right.acknowledgedOrders
  opened : left.openOrders.lookup (paperOrderId own) = right.openOrders.lookup (paperOrderId own)
  actions : left.postAckActions.lookup (paperOrderId own) = right.postAckActions.lookup (paperOrderId own)
  alone : ∀ venueOrderId, (right.openOrders.lookup venueOrderId).isSome → venueOrderId = paperOrderId own
  owned : ∀ venueOrderId, ∀ fill ∈ queuedAt left venueOrderId, fill.venueOrderId = venueOrderId

/-- What a step of a seen call comes to on the other side: nothing, or a step of
the call as it is seen. -/
inductive Follows [LibraryText] (adapter : PaperAdapter) (own : ClientOrderId) (right : PaperAdapterState)
    (outcome : Outcome) : Option Call → Prop
  | stays (state : SeenState own outcome.state right) (unseen : viewed own outcome.label = none)
      (next : List.Forall₂ (Seen own) outcome.next.toList marks) (same : marks.reduceOption = mark.toList) :
      Follows adapter own right outcome mark
  | steps (iteration : List VenueOrderId) (visits : Visits right iteration call)
      (state : SeenState own outcome.state (call.run adapter iteration right).state)
      (view : viewed own (call.run adapter iteration right).label = viewed own outcome.label)
      (about : About own (call.run adapter iteration right).label)
      (next : List.Forall₂ (Seen own) outcome.next.toList marks)
      (same : marks.reduceOption = (call.run adapter iteration right).next.toList) :
      Follows adapter own right outcome (some call)

theorem viewed_singleton (own : ClientOrderId) (label : Label) :
    [label].filterMap (viewed own) = (viewed own label).toList := by
  cases seen : viewed own label <;> simp [seen]

/-- A call that starts is about the order or is not seen. -/
theorem seen_entry (entry : call.IsEntry) (other : concerns own call = false) : Seen own call none :=
  .foreign other (by rw [inFlight_entry entry]; rfl)

/-- Of the fills broadcast the order sees its own. -/
theorem broadcastsOf_viewed (own : ClientOrderId) (labels : List Label) :
    broadcastsOf (labels.filterMap (viewed own)) = ofOrder (paperOrderId own) (broadcastsOf labels) := by
  unfold broadcastsOf ofOrder
  rw [List.filterMap_filterMap, List.filter_filterMap]
  refine List.filterMap_congr fun label _ => ?_
  cases label with
  | broadcast fill => by_cases mine : fill.venueOrderId = paperOrderId own <;> simp [viewed, mine, Option.filter]
  | passed | replaced | returned => rfl
  | called | answered | inserted | taken | cancelled => simp only [viewed]; split <;> rfl

/-- A run about the order broadcasts its fills only. -/
theorem broadcastsOf_about (about : ∀ label ∈ labels, About own label) :
    broadcastsOf (labels.filterMap (viewed own)) = broadcastsOf labels := by
  induction labels with
  | nil => rfl
  | cons label rest ih =>
    obtain ⟨here, later⟩ := List.forall_mem_cons.mp about
    rcases here with shown | rfl | rfl
    · rw [List.filterMap_cons_some shown]
      show (broadcastsOf ([label] ++ _)) = broadcastsOf ([label] ++ rest)
      unfold broadcastsOf at ih ⊢
      rw [List.filterMap_append, List.filterMap_append, ih later]
    · exact ih later
    · exact ih later

/-! ### States seen from the order -/

theorem paperOrderId_ne (other : left ≠ right) : paperOrderId left ≠ paperOrderId right :=
  fun same => other (paperOrderId_injective same)

/-- The fills under way of another order are none of this one's. -/
theorem silent_of_owned (own : ∀ fill ∈ fills, fill.venueOrderId = venueOrderId) (other : venueOrderId ≠ probe) :
    ofOrder probe fills = [] :=
  ofOrder_none fun fill member same => other ((own fill member).symm.trans same)

/-- An insertion queues its own order's fills. -/
theorem owned_insert (prepared : InsertionOf submission insertion)
    (owned : ∀ venueOrderId, ∀ fill ∈ queuedAt state venueOrderId, fill.venueOrderId = venueOrderId) :
    ∀ venueOrderId, ∀ fill ∈ queuedAt (PaperVenue.insert state insertion) venueOrderId,
      fill.venueOrderId = venueOrderId := by
  intro venueOrderId fill member
  rcases queuedAt_insert prepared state venueOrderId with ⟨kept, -⟩ | ⟨rfl, written⟩
  · rw [kept] at member
    exact owned venueOrderId fill member
  · rw [written] at member
    exact (prepared.fills fill member).2

/-- Taking actions leaves the other queues as they are. -/
theorem owned_erase (owned : ∀ venueOrderId, ∀ fill ∈ queuedAt state venueOrderId, fill.venueOrderId = venueOrderId)
    (erased : VenueOrderId) :
    ∀ venueOrderId, ∀ fill ∈ queuedAt { state with postAckActions := state.postAckActions.erase erased } venueOrderId,
      fill.venueOrderId = venueOrderId := by
  intro venueOrderId fill member
  unfold queuedAt at member
  split at member
  · next actions found =>
    refine owned venueOrderId fill ?_
    unfold queuedAt
    rw [lookup_of_erase found]
    exact member
  · cases member

/-- A write under another key leaves what is found under this one. -/
theorem lookup_insertIfSome_ne {K V : Type} [DecidableEq K] (table : Table K V) (written : Option V)
    {key probe : K} (other : probe ≠ key) : (insertIfSome table key written).lookup probe = table.lookup probe := by
  cases written with
  | none => rfl
  | some value => rw [insertIfSome, lookup_insert_if, if_neg other]

theorem SeenState.start (own : ClientOrderId) : SeenState own .default .default where
  orderbooks _ := rfl
  cached := rfl
  acknowledged := Iff.rfl
  opened := rfl
  actions := rfl
  alone _ found := by cases found
  owned _ := List.forall_mem_nil _

/-- An insertion under another id is not seen. -/
theorem SeenState.inserted_other (seen : SeenState own left right) (prepared : InsertionOf submission insertion)
    (other : submission.clientOrderId ≠ own) : SeenState own (PaperVenue.insert left insertion) right := by
  have venue : paperOrderId own ≠ insertion.ack.venueOrderId := by
    rw [prepared.venueOrderId]
    exact Ne.symm (paperOrderId_ne other)
  refine ⟨seen.orderbooks, ?_, ?_, ?_, ?_, seen.alone, owned_insert prepared seen.owned⟩
  · rw [← seen.cached]
    show AList.lookup own (AList.insert _ _ _) = _
    rw [lookup_insert_if, if_neg (by rw [prepared.clientOrderId]; exact Ne.symm other)]
  · rw [← seen.acknowledged]
    simp [PaperVenue.insert, venue]
  · exact (lookup_insertIfSome_ne _ _ venue).trans seen.opened
  · exact (lookup_insertIfSome_ne _ _ venue).trans seen.actions

theorem SeenState.inserted (seen : SeenState own left right) (prepared : InsertionOf submission insertion)
    (mine : submission.clientOrderId = own) :
    SeenState own (PaperVenue.insert left insertion) (PaperVenue.insert right insertion) := by
  have venue : insertion.ack.venueOrderId = paperOrderId own := by rw [prepared.venueOrderId, mine]
  refine ⟨seen.orderbooks, ?_, ?_, ?_, ?_, fun venueOrderId found => ?_, owned_insert prepared seen.owned⟩
  · show AList.lookup _ (AList.insert _ _ _) = AList.lookup _ (AList.insert _ _ _)
    rw [lookup_insert_if, lookup_insert_if, seen.cached]
  · simp [PaperVenue.insert, venue]
  · exact lookup_insertIfSome_congr seen.opened _ _
  · exact lookup_insertIfSome_congr seen.actions _ _
  · obtain ⟨order, found⟩ := Option.isSome_iff_exists.mp found
    rcases lookup_of_insertIfSome found with ⟨same, -⟩ | old
    · rw [same, venue]
    · exact seen.alone venueOrderId (by rw [old]; rfl)

/-- Taking another order's actions is not seen. -/
theorem SeenState.taken_other (seen : SeenState own left right) (other : venueOrderId ≠ paperOrderId own) :
    SeenState own { left with postAckActions := left.postAckActions.erase venueOrderId } right where
  orderbooks := seen.orderbooks
  cached := seen.cached
  acknowledged := seen.acknowledged
  opened := seen.opened
  actions := by
    rw [← seen.actions]
    show AList.lookup _ (AList.erase _ _) = _
    rw [lookup_erase_if, if_neg (Ne.symm other)]
  alone := seen.alone
  owned := owned_erase seen.owned venueOrderId

theorem SeenState.taken (seen : SeenState own left right) :
    SeenState own { left with postAckActions := left.postAckActions.erase (paperOrderId own) }
      { right with postAckActions := right.postAckActions.erase (paperOrderId own) } where
  orderbooks := seen.orderbooks
  cached := seen.cached
  acknowledged := seen.acknowledged
  opened := seen.opened
  actions := by
    show AList.lookup _ (AList.erase _ _) = AList.lookup _ (AList.erase _ _)
    rw [lookup_erase_if, lookup_erase_if, if_pos rfl, if_pos rfl]
  alone := seen.alone
  owned := owned_erase seen.owned _

/-- Nor is cancelling another order. -/
theorem SeenState.cancelled_other (seen : SeenState own left right) (other : venueOrderId ≠ paperOrderId own) :
    SeenState own { left with openOrders := left.openOrders.erase venueOrderId } right where
  orderbooks := seen.orderbooks
  cached := seen.cached
  acknowledged := seen.acknowledged
  opened := by
    rw [← seen.opened]
    show AList.lookup _ (AList.erase _ _) = _
    rw [lookup_erase_if, if_neg (Ne.symm other)]
  actions := seen.actions
  alone := seen.alone
  owned := seen.owned

theorem SeenState.cancelled (seen : SeenState own left right) :
    SeenState own { left with openOrders := left.openOrders.erase (paperOrderId own) }
      { right with openOrders := right.openOrders.erase (paperOrderId own) } where
  orderbooks := seen.orderbooks
  cached := seen.cached
  acknowledged := seen.acknowledged
  opened := by
    show AList.lookup _ (AList.erase _ _) = AList.lookup _ (AList.erase _ _)
    rw [lookup_erase_if, lookup_erase_if, if_pos rfl, if_pos rfl]
  actions := seen.actions
  alone venueOrderId there := by
    obtain ⟨order, stored⟩ := Option.isSome_iff_exists.mp there
    exact seen.alone venueOrderId (by rw [lookup_of_erase stored]; rfl)
  owned := seen.owned

/-- The fills queued under an id are among those of the queue. -/
theorem SeenState.owned_actions (seen : SeenState own left right)
    (found : left.postAckActions.lookup venueOrderId = some queued) :
    ∀ fill ∈ venueFills queued, fill.venueOrderId = venueOrderId := by
  intro fill member
  refine seen.owned venueOrderId fill ?_
  unfold queuedAt
  rw [found]
  exact member

/-! ### Collections seen from the order -/

/-- A collection writes open orders and nothing else. -/
theorem collect_frame (adapter : PaperAdapter) (snapshot : OrderbookSnapshot) (state : PaperAdapterState)
    (iteration : List VenueOrderId) :
    (collectRepricedFills adapter snapshot state iteration).state =
      { state with openOrders := (collectRepricedFills adapter snapshot state iteration).state.openOrders } := by
  induction iteration generalizing state with
  | nil => rfl
  | cons venueOrderId rest ih =>
    unfold collectRepricedFills
    split
    · rfl
    · next next fills repriced =>
      dsimp only
      rw [ih next, repriceOrder_frame repriced]

/-- In a collection without a failure each order met is repriced as if alone. -/
theorem collect_one (distinct : iteration.Nodup)
    (clear : (collectRepricedFills adapter snapshot state iteration).error = none) (met : venueOrderId ∈ iteration) :
    ∃ next fills, repriceOrder adapter snapshot state venueOrderId = .ok (next, fills) ∧
      (collectRepricedFills adapter snapshot state iteration).state.openOrders.lookup venueOrderId =
        next.openOrders.lookup venueOrderId ∧
      ofOrder venueOrderId (collectRepricedFills adapter snapshot state iteration).fills = fills := by
  induction iteration generalizing state with
  | nil => cases met
  | cons first rest ih =>
    obtain ⟨absent, distinct⟩ := List.nodup_cons.mp distinct
    unfold collectRepricedFills at clear ⊢
    cases outcome : repriceOrder adapter snapshot state first with
    | error error =>
      rw [outcome] at clear
      cases clear
    | ok repriced =>
      obtain ⟨next, fills⟩ := repriced
      rw [outcome] at clear
      dsimp only at clear ⊢
      rw [ofOrder_append]
      by_cases here : venueOrderId = first
      · subst here
        obtain ⟨kept, silent⟩ := collect_untouched adapter snapshot next absent
        refine ⟨next, fills, outcome, kept, ?_⟩
        rw [silent, List.append_nil, ofOrder_all (repriceOrder_own outcome)]
      · obtain ⟨next', fills', later, found, own⟩ := ih distinct clear ((List.mem_cons.mp met).resolve_left here)
        obtain ⟨alone, repriced, same⟩ := repriceOrder_congr ((repriceOrder_ok outcome).2.1 venueOrderId here) later
        refine ⟨alone, fills', repriced, found.trans same.symm, ?_⟩
        rw [own, ofOrder_none fun fill member same => here (same.symm.trans (repriceOrder_own outcome fill member))]
        rfl

/-- A state without other open orders has the one of a market, or none. -/
theorem marketOrders_alone (alone : ∀ venueOrderId, (openOrders.lookup venueOrderId).isSome → venueOrderId = only)
    (marketId : MarketId) :
    (only ∈ marketOrders openOrders marketId → marketOrders openOrders marketId = [only]) ∧
      (only ∉ marketOrders openOrders marketId → marketOrders openOrders marketId = []) := by
  have same : ∀ venueOrderId ∈ marketOrders openOrders marketId, venueOrderId = only := by
    intro venueOrderId member
    obtain ⟨order, found, -⟩ := (mem_marketOrders_iff openOrders marketId venueOrderId).mp member
    exact alone venueOrderId (by rw [found]; rfl)
  have distinct := marketOrders_nodup openOrders marketId
  generalize marketOrders openOrders marketId = listed at same distinct
  match listed with
  | [] => exact ⟨fun member => absurd member List.not_mem_nil, fun _ => rfl⟩
  | [first] =>
    obtain rfl := same first (List.mem_singleton.mpr rfl)
    exact ⟨fun _ => rfl, fun absent => absurd (List.mem_singleton.mpr rfl) absent⟩
  | first :: second :: rest =>
    have equal : first = second := (same first List.mem_cons_self).trans
      (same second (List.mem_cons_of_mem _ List.mem_cons_self)).symm
    exact absurd (equal ▸ List.mem_cons_self) (List.nodup_cons.mp distinct).1

/-- With the other orders left out a collection does the same to this one. -/
theorem collect_seen (seen : SeenState own left right)
    (visits : iteration.Perm (marketOrders left.openOrders snapshot.marketId))
    (clear : (collectRepricedFills adapter snapshot left iteration).error = none) :
    ∃ right', collectRepricedFills adapter snapshot right (marketOrders right.openOrders snapshot.marketId) =
        ⟨right', ofOrder (paperOrderId own) (collectRepricedFills adapter snapshot left iteration).fills, none⟩ ∧
      SeenState own (collectRepricedFills adapter snapshot left iteration).state right' := by
  have distinct : iteration.Nodup := visits.nodup_iff.mpr (marketOrders_nodup _ _)
  have listed : paperOrderId own ∈ iteration ↔ paperOrderId own ∈ marketOrders right.openOrders snapshot.marketId := by
    rw [visits.mem_iff, mem_marketOrders_iff, mem_marketOrders_iff, seen.opened]
  obtain ⟨one, none⟩ := marketOrders_alone seen.alone snapshot.marketId
  by_cases met : paperOrderId own ∈ iteration
  · obtain ⟨next, fills, repriced, found, shown⟩ := collect_one distinct clear met
    obtain ⟨next', repriced', same⟩ := repriceOrder_congr seen.opened repriced
    rw [one (listed.mp met), shown]
    refine ⟨next', by simp [collectRepricedFills, repriced'], ?_⟩
    have alone := (repriceOrder_ok repriced').2.2
    rw [collect_frame, repriceOrder_frame repriced']
    exact { seen with
      opened := found.trans same.symm
      alone := fun venueOrderId there => seen.alone venueOrderId (alone venueOrderId there) }
  · obtain ⟨kept, silent⟩ := collect_untouched adapter snapshot left met
    rw [none (mt listed.mpr met), silent]
    refine ⟨right, rfl, ?_⟩
    rw [collect_frame]
    exact { seen with opened := kept.trans seen.opened }

section Sections
variable [LibraryText]

/-! ### Calls about other orders -/

/-- A call about another order goes on unseen. -/
theorem follows_foreign (seen : SeenState own left right) (other : concerns own call = false)
    (silent : ofOrder (paperOrderId own) call.inFlight = []) :
    Follows adapter own right (call.run adapter iteration left) none := by
  cases call with
  | submitting submission =>
    have foreign : submission.clientOrderId ≠ own := of_decide_eq_false other
    simp only [Call.run, checkDuplicate]
    split
    · exact .stays seen (if_neg foreign) .nil rfl
    · split
      · exact .stays seen (if_neg foreign) .nil rfl
      · split
        · exact .stays seen (if_neg foreign) .nil rfl
        · exact .stays seen rfl (.cons (.foreign other rfl) .nil) rfl
  | pricing submission =>
    have foreign : submission.clientOrderId ≠ own := of_decide_eq_false other
    simp only [Call.run, readBook]
    split
    · exact .stays seen (if_neg foreign) .nil rfl
    · exact .stays seen rfl (.cons (.foreign other rfl) .nil) rfl
  | inserting submission book =>
    have foreign : submission.clientOrderId ≠ own := of_decide_eq_false other
    simp only [Call.run, insertOrder]
    split
    · exact .stays seen (if_neg foreign) .nil rfl
    · next insertion prepared =>
      exact .stays (seen.inserted_other (prepare_ok prepared) foreign) (if_neg foreign) .nil rfl
  | taking venueOrderId =>
    have foreign : venueOrderId ≠ paperOrderId own := of_decide_eq_false other
    simp only [Call.run, takeActions]
    split
    · next actions found =>
      have theirs := silent_of_owned (seen.owned_actions found) foreign
      exact .stays (seen.taken_other foreign) (if_neg foreign) (.cons (.foreign rfl theirs) .nil) rfl
    · split
      · exact .stays seen (if_neg foreign) (.cons (.foreign rfl rfl) .nil) rfl
      · exact .stays seen (if_neg foreign) .nil rfl
  | replacing snapshot => cases other
  | cancelling venueOrderId =>
    have foreign : venueOrderId ≠ paperOrderId own := of_decide_eq_false other
    simp only [Call.run, cancelOrder]
    split
    · exact .stays (seen.cancelled_other foreign) (if_neg foreign) .nil rfl
    · exact .stays seen (if_neg foreign) .nil rfl
  | broadcasting fills =>
    cases fills with
    | nil => exact .stays seen rfl .nil rfl
    | cons fill rest =>
      obtain ⟨theirs, later⟩ := List.forall_mem_cons.mp (List.filter_eq_nil_iff.mp silent)
      have foreign : fill.venueOrderId ≠ paperOrderId own := fun same => theirs (decide_eq_true same)
      exact .stays seen (if_neg foreign) (.cons (.foreign rfl (List.filter_eq_nil_iff.mpr later)) .nil) rfl

/-- The order's fills of a broadcast under way are broadcast in turn. -/
theorem follows_broadcasting (seen : SeenState own left right) (fills : List VenueFill) :
    Follows adapter own right ((Call.broadcasting fills).run adapter iteration left)
      (some (.broadcasting (ofOrder (paperOrderId own) fills))) := by
  cases fills with
  | nil => exact .steps [] trivial seen rfl (Or.inr (Or.inr rfl)) .nil rfl
  | cons fill rest =>
    by_cases mine : fill.venueOrderId = paperOrderId own
    · have shown : ofOrder (paperOrderId own) (fill :: rest) = fill :: ofOrder (paperOrderId own) rest :=
        List.filter_cons_of_pos (decide_eq_true mine)
      rw [shown]
      exact .steps [] trivial seen rfl (Or.inl (if_pos mine)) (.cons (.broadcasting rest) .nil) rfl
    · have hidden : ofOrder (paperOrderId own) (fill :: rest) = ofOrder (paperOrderId own) rest :=
        List.filter_cons_of_neg (by simpa using mine)
      rw [hidden]
      exact .stays seen (if_neg mine) (.cons (.broadcasting rest) .nil) rfl

/-! ### Calls about the order -/

/-- A step that ends the call on both sides. -/
theorem Follows.ended (iteration : List VenueOrderId) (visits : Visits right iteration call)
    (same : call.run adapter iteration right = ⟨right', label, none⟩) (state : SeenState own left' right')
    (about : About own label) : Follows adapter own right ⟨left', label, none⟩ (some call) :=
  .steps iteration visits (by rw [same]; exact state) (by rw [same]) (by rw [same]; exact about)
    .nil (by rw [same]; rfl)

/-- A step after which the call goes on as it is, on both sides. -/
theorem Follows.onward (iteration : List VenueOrderId) (visits : Visits right iteration call)
    (same : call.run adapter iteration right = ⟨right', label, some later⟩) (state : SeenState own left' right')
    (about : About own label) (concerned : Seen own later (some later)) :
    Follows adapter own right ⟨left', label, some later⟩ (some call) :=
  .steps iteration visits (by rw [same]; exact state) (by rw [same]) (by rw [same]; exact about)
    (.cons concerned .nil) (by rw [same]; rfl)

theorem follows_submitting (seen : SeenState own left right) (mine : submission.clientOrderId = own) :
    Follows adapter own right (checkDuplicate adapter left submission) (some (.submitting submission)) := by
  have cached : left.idempotencyCache.lookup submission.clientOrderId =
      right.idempotencyCache.lookup submission.clientOrderId := by rw [mine, seen.cached]
  unfold checkDuplicate
  rw [cached]
  split
  · next offline =>
    exact .ended [] trivial (by simp [Call.run, checkDuplicate, offline]) seen (Or.inl (if_pos mine))
  · next connected =>
    split
    · next error invalid =>
      exact .ended [] trivial (by simp [Call.run, checkDuplicate, connected, invalid]) seen
        (Or.inl (if_pos mine))
    · next valid =>
      split
      · next existing found =>
        exact .ended [] trivial (by simp [Call.run, checkDuplicate, connected, valid, found]) seen
          (Or.inl (if_pos mine))
      · next unseen =>
        exact .onward [] trivial (by simp [Call.run, checkDuplicate, connected, valid, unseen]) seen
          (Or.inr (Or.inl rfl)) (.kept (decide_eq_true mine))

theorem follows_pricing (seen : SeenState own left right) (mine : submission.clientOrderId = own) :
    Follows adapter own right (readBook left submission) (some (.pricing submission)) := by
  unfold readBook
  rw [seen.orderbooks]
  split
  · next missing =>
    exact .ended [] trivial (by simp [Call.run, readBook, missing]) seen (Or.inl (if_pos mine))
  · next book found =>
    exact .onward [] trivial (by simp [Call.run, readBook, found]) seen (Or.inr (Or.inl rfl))
      (.kept (decide_eq_true mine))

theorem follows_inserting (seen : SeenState own left right) (mine : submission.clientOrderId = own) :
    Follows adapter own right (insertOrder adapter left submission book) (some (.inserting submission book)) := by
  unfold insertOrder
  split
  · next error failed =>
    exact .ended [] trivial (by simp [Call.run, insertOrder, failed]) seen (Or.inl (if_pos mine))
  · next insertion prepared =>
    exact .ended [] trivial (by simp [Call.run, insertOrder, prepared])
      (seen.inserted (prepare_ok prepared) mine) (Or.inl (if_pos mine))

theorem follows_taking (seen : SeenState own left right) :
    Follows adapter own right (takeActions left (paperOrderId own)) (some (.taking (paperOrderId own))) := by
  unfold takeActions
  rw [seen.actions]
  split
  · next actions found =>
    have mine := ofOrder_all (seen.owned_actions (seen.actions.trans found))
    have flying : Seen own (.broadcasting (venueFills actions)) (some (.broadcasting (venueFills actions))) := by
      have cut : Seen own (.broadcasting (venueFills actions))
          (some (.broadcasting (ofOrder (paperOrderId own) (venueFills actions)))) := .broadcasting (venueFills actions)
      rwa [mine] at cut
    exact .onward [] trivial (by simp [Call.run, takeActions, found]) seen.taken (Or.inl (if_pos rfl)) flying
  · next missing =>
    by_cases acknowledged : paperOrderId own ∈ left.acknowledgedOrders
    · rw [if_pos acknowledged]
      exact .onward [] trivial (by simp [Call.run, takeActions, missing, seen.acknowledged.mp acknowledged]) seen
        (Or.inl (if_pos rfl)) (.broadcasting [])
    · rw [if_neg acknowledged]
      have unknown : paperOrderId own ∉ right.acknowledgedOrders :=
        fun there => acknowledged (seen.acknowledged.mpr there)
      exact .ended [] trivial (by simp [Call.run, takeActions, missing, unknown]) seen (Or.inl (if_pos rfl))

theorem follows_cancelling (seen : SeenState own left right) :
    Follows adapter own right (cancelOrder left (paperOrderId own)) (some (.cancelling (paperOrderId own))) := by
  unfold cancelOrder
  rw [seen.opened]
  split
  · next order found =>
    exact .ended [] trivial (by simp only [Call.run, cancelOrder, found]) seen.cancelled (Or.inl (if_pos rfl))
  · next missing =>
    exact .ended [] trivial (by simp only [Call.run, cancelOrder, missing]) seen (Or.inl (if_pos rfl))

/-! ### New books -/

/-- A new book, unless it breaks, does to the order what it does to it alone. -/
theorem follows_replacing (seen : SeenState own left right)
    (visits : iteration.Perm (marketOrders left.openOrders snapshot.marketId))
    (completes : ¬ Breaks adapter (replaceOrderbook adapter left snapshot iteration).label) :
    Follows adapter own right (replaceOrderbook adapter left snapshot iteration) (some (.replacing snapshot)) := by
  by_cases accepted : Accepted adapter snapshot
  · have outcome := replaceOrderbook_accepted accepted
      (Eq.refl (collectRepricedFills adapter snapshot (withOrderbook left snapshot) iteration))
    have clear : (collectRepricedFills adapter snapshot (withOrderbook left snapshot) iteration).error = none := by
      cases failed : (collectRepricedFills adapter snapshot (withOrderbook left snapshot) iteration).error with
      | none => rfl
      | some error =>
        rw [outcome, failed] at completes
        exact absurd ⟨snapshot, _, error, rfl, accepted⟩ completes
    have stored : SeenState own (withOrderbook left snapshot) (withOrderbook right snapshot) := by
      refine { seen with orderbooks := fun probe => ?_ }
      show AList.lookup probe (AList.insert _ _ _) = AList.lookup probe (AList.insert _ _ _)
      rw [lookup_insert_if, lookup_insert_if, seen.orderbooks]
    obtain ⟨right', collected, reached⟩ := collect_seen stored visits clear
    rw [outcome, clear]
    generalize (collectRepricedFills adapter snapshot (withOrderbook left snapshot) iteration).fills = fills
      at collected
    have outcome' : replaceOrderbook adapter right snapshot (marketOrders right.openOrders snapshot.marketId) =
        ⟨right', .replaced snapshot (ofOrder (paperOrderId own) fills) none,
          some (.broadcasting (ofOrder (paperOrderId own) fills))⟩ := replaceOrderbook_accepted accepted collected
    have mine : ofOrder (paperOrderId own) (ofOrder (paperOrderId own) fills) = ofOrder (paperOrderId own) fills :=
      ofOrder_all fun fill member => of_decide_eq_true (List.mem_filter.mp member).2
    refine .steps (marketOrders right.openOrders snapshot.marketId) (List.Perm.refl _) ?_ ?_ ?_
      (.cons (.broadcasting _) .nil) ?_
    · rw [Call.run, outcome']
      exact reached
    · rw [Call.run, outcome']
      simp only [viewed, mine]
    · rw [Call.run, outcome']
      exact Or.inl (by simp only [viewed, mine])
    · rw [Call.run, outcome']
      rfl
  · unfold replaceOrderbook
    by_cases foreign : snapshot.venueId ≠ adapter.venueId
    · rw [if_pos foreign]
      exact .ended (marketOrders right.openOrders snapshot.marketId) (List.Perm.refl _)
        (by rw [Call.run, replaceOrderbook, if_pos foreign]) seen (Or.inl rfl)
    · rw [if_neg foreign]
      split
      · next error invalid =>
        exact .ended (marketOrders right.openOrders snapshot.marketId) (List.Perm.refl _)
          (by rw [Call.run, replaceOrderbook, if_neg foreign, invalid]) seen (Or.inl rfl)
      · next valid => exact absurd ⟨not_not.mp foreign, valid⟩ accepted

/-- Every step of a call is followed by the call as it is seen. -/
theorem follows (seen : SeenState own left right) (mark : Seen own call marked)
    (visits : Visits left iteration call) (completes : ¬ Breaks adapter (call.run adapter iteration left).label) :
    Follows adapter own right (call.run adapter iteration left) marked := by
  cases mark with
  | foreign other silent => exact follows_foreign seen other silent
  | broadcasting fills => exact follows_broadcasting seen fills
  | kept concerned =>
    cases call with
    | submitting submission => exact follows_submitting seen (of_decide_eq_true concerned)
    | pricing submission => exact follows_pricing seen (of_decide_eq_true concerned)
    | inserting submission book => exact follows_inserting seen (of_decide_eq_true concerned)
    | taking venueOrderId =>
      obtain rfl : venueOrderId = paperOrderId own := of_decide_eq_true concerned
      exact follows_taking seen
    | replacing snapshot => exact follows_replacing seen visits completes
    | cancelling venueOrderId =>
      obtain rfl : venueOrderId = paperOrderId own := of_decide_eq_true concerned
      exact follows_cancelling seen
    | broadcasting fills => cases concerned

/-! ### Runs -/

/-- A system as it is seen from the order. -/
structure Isolated (own : ClientOrderId) (left right : System) : Prop where
  state : SeenState own left.state right.state
  calls : ∃ marks, List.Forall₂ (Seen own) left.calls marks ∧ right.calls = marks.reduceOption

/-- A step that breaks nothing is followed by at most one. -/
theorem Isolated.step (isolated : Isolated own left right) (moves : Moves adapter left label next)
    (completes : ¬ Breaks adapter label) :
    ∃ labels next', Path (Moves adapter) right labels next' ∧ (∀ label ∈ labels, About own label) ∧
      labels.filterMap (viewed own) = (viewed own label).toList ∧ Isolated own next next' := by
  obtain ⟨marks, calls, same⟩ := isolated.calls
  cases moves with
  | called call entry =>
    by_cases concerned : concerns own call = true
    · have view : viewed own (.called call) = some (.called call) := if_pos concerned
      refine ⟨[.called call], ⟨right.state, right.calls ++ [call]⟩, Path.start.step (.called call entry),
        List.forall_mem_singleton.mpr (Or.inl view), by simp [view], isolated.state, marks ++ [some call],
        List.rel_append calls (.cons (.kept concerned) .nil), ?_⟩
      rw [same, List.reduceOption_append]
      rfl
    · have other : concerns own call = false := by simpa using concerned
      refine ⟨[], right, .start, List.forall_mem_nil _, by simp [viewed, other], isolated.state, marks ++ [none],
        List.rel_append calls (.cons (seen_entry entry other) .nil), ?_⟩
      rw [same, List.reduceOption_append]
      exact (List.append_nil _).symm
  | @ran before after call iteration running visits =>
    rw [running] at calls
    obtain ⟨early', mark, late', rfl, -, early, here, late⟩ := forall₂_around calls
    rw [List.reduceOption_append] at same
    cases follows isolated.state here visits completes with
    | stays state unseen next kept =>
      rename_i marks
      refine ⟨[], right, .start, List.forall_mem_nil _, by rw [unseen]; rfl, state, early' ++ marks ++ late',
        List.rel_append (List.rel_append early next) late, ?_⟩
      rw [same, List.reduceOption_append, List.reduceOption_append, kept]
      cases mark <;> simp
    | @steps call' marks iteration' visits' state view about next kept =>
      have running' : right.calls = early'.reduceOption ++ call' :: late'.reduceOption := by
        rw [same, List.reduceOption_cons_of_some]
      refine ⟨_, _, Path.start.step (.ran iteration' running' visits'), List.forall_mem_singleton.mpr about, ?_, state,
        early' ++ marks ++ late', List.rel_append (List.rel_append early next) late, ?_⟩
      · rw [← view, List.nil_append, viewed_singleton]
      · rw [List.reduceOption_append, List.reduceOption_append, kept]

/-- A run without a failed update is seen from an order as a run about that order only. -/
theorem isolated_run (run : Path (Moves adapter) .start labels system)
    (completes : ∀ label ∈ labels, ¬ Breaks adapter label) (own : ClientOrderId) :
    ∃ alone final, Path (Moves adapter) .start alone final ∧ (∀ label ∈ alone, About own label) ∧
      alone.filterMap (viewed own) = labels.filterMap (viewed own) ∧ Isolated own system final := by
  induction run with
  | start => exact ⟨[], .start, .start, List.forall_mem_nil _, rfl, .start own, [], .nil, rfl⟩
  | @step labels system label next run moves ih =>
    obtain ⟨before, last⟩ := List.forall_mem_append.mp completes
    obtain ⟨alone, final, path, about, view, isolated⟩ := ih before
    obtain ⟨more, final', onward, about', view', isolated'⟩ :=
      isolated.step moves (last label (List.mem_singleton.mpr rfl))
    refine ⟨alone ++ more, final', path.append onward, List.forall_mem_append.mpr ⟨about, about'⟩, ?_, isolated'⟩
    rw [List.filterMap_append, List.filterMap_append, view, view', viewed_singleton]

/-- Orders of the paper adapter do not see each other. Of every run, with any calls
about any orders, in which no update fails, there is a run with the calls about one
order and the new books only, in which these calls get the same answers, the order
the same fills at the same books, and ends in the same standing. -/
theorem orders_isolated (run : Path (Moves adapter) .start labels system)
    (completes : ∀ label ∈ labels, ¬ Breaks adapter label) (own : ClientOrderId) :
    ∃ alone final, Path (Moves adapter) .start alone final ∧ (∀ label ∈ alone, About own label) ∧
      alone.filterMap (viewed own) = labels.filterMap (viewed own) ∧
      final.state.openOrders.lookup (paperOrderId own) = system.state.openOrders.lookup (paperOrderId own) ∧
      final.state.postAckActions.lookup (paperOrderId own) =
        system.state.postAckActions.lookup (paperOrderId own) := by
  obtain ⟨alone, final, path, about, view, isolated⟩ := isolated_run run completes own
  exact ⟨alone, final, path, about, view, isolated.state.opened.symm, isolated.state.actions.symm⟩

end Sections

/-! ### Two resting buys that fill -/

section Samples
open Plain

/-- Both rest until the lowered book fills them. -/
def bothFilled : List Turn :=
  bothBid ++ [.call (.replacing loweredBook), .advance 0, .advance 0, .advance 0, .advance 0]

/-- Two orders are filled; in the run without the second the first has its fill. -/
theorem orders_isolated_on_two : ∃ labels system alone final,
    Path (Moves paperAdapter) .start labels system ∧ Path (Moves paperAdapter) .start alone final ∧
      (broadcastsOf labels).length = 2 ∧
      (broadcastsOf alone).map VenueFill.clientOrderId = [bidder.clientOrderId] := by
  have played : ((play paperAdapter (fun _ label => updated label) .start bothFilled).map fun played =>
      decide (played.1.all updated = true ∧ (broadcastsOf played.1).length = 2 ∧
        (ofOrder (paperOrderId bidder.clientOrderId) (broadcastsOf played.1)).map VenueFill.clientOrderId =
          [bidder.clientOrderId])) = some true := by decide +kernel
  obtain ⟨⟨labels, system⟩, reached, views⟩ := Option.map_eq_some_iff.mp played
  obtain ⟨fine, both, one⟩ := of_decide_eq_true views
  have run := (path_of_play reached).mono fun _ _ _ move => move.1
  obtain ⟨alone, final, path, about, view, -⟩ := orders_isolated run
    (fun label member => not_breaks_of_updated (List.all_eq_true.mp fine label member)) bidder.clientOrderId
  refine ⟨labels, system, alone, final, run, path, both, ?_⟩
  rw [← broadcastsOf_about about, view, broadcastsOf_viewed, one]

end Samples

end FeynmanEngine.OrderIsolation
