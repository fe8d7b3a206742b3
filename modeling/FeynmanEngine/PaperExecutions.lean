import Mathlib.Algebra.Order.BigOperators.Group.List
import Mathlib.Tactic.Linarith
import FeynmanEngine.PaperVenue

/-! The paper adapter fills an order at most once. What was broadcast, is being
broadcast and is queued of an order never exceeds its quantity, because an open
order's filled quantity covers all of it, and the duplicate check lets only one
insertion per client order id through. That last part is a condition: the check
and the insertion are separate sections. -/
namespace FeynmanEngine.PaperExecutions
open Ids Orders Orderbooks VenueOrders FillSimulation Tables Traces PaperVenue

/-! ### Totals -/

/-- What the fills of one order add up to. -/
def total (clientOrderId : ClientOrderId) (fills : List VenueFill) : Decimal :=
  ((fills.filter fun fill => fill.clientOrderId = clientOrderId).map VenueFill.qty).sum

theorem total_append (clientOrderId : ClientOrderId) (first last : List VenueFill) :
    total clientOrderId (first ++ last) = total clientOrderId first + total clientOrderId last := by
  simp [total]

theorem total_perm (clientOrderId : ClientOrderId) (same : first.Perm last) :
    total clientOrderId first = total clientOrderId last :=
  ((same.filter _).map _).sum_eq

theorem total_other (other : ∀ fill ∈ fills, fill.clientOrderId ≠ clientOrderId) :
    total clientOrderId fills = 0 := by
  have none : fills.filter (fun fill => fill.clientOrderId = clientOrderId) = [] :=
    List.filter_eq_nil_iff.mpr fun fill member same => other fill member (of_decide_eq_true same)
  rw [total, none]
  rfl

/-- Fills of one order leave the totals of the others. -/
theorem total_append_other (shown : List VenueFill) (owned : ∀ fill ∈ fills, fill.clientOrderId = owner)
    (other : clientOrderId ≠ owner) : total clientOrderId (shown ++ fills) = total clientOrderId shown := by
  have silent : total clientOrderId fills = 0 :=
    total_other fun fill member same => other (same.symm.trans (owned fill member))
  rw [total_append, silent, add_zero]

theorem total_single (own : fill.clientOrderId = clientOrderId) : total clientOrderId [fill] = fill.qty := by
  simp [total, own]

theorem total_nonneg (clientOrderId : ClientOrderId) (positive : ∀ fill ∈ fills, 0 < fill.qty) :
    0 ≤ total clientOrderId fills := by
  refine List.sum_nonneg fun qty member => ?_
  obtain ⟨fill, kept, rfl⟩ := List.mem_map.mp member
  exact le_of_lt (positive fill (List.mem_filter.mp kept).1)

/-! ### What a submission is turned into -/

/-- What the insertion of a submission writes. -/
structure InsertionOf (submission : OrderSubmission) (insertion : Insertion) : Prop where
  clientOrderId : insertion.ack.clientOrderId = submission.clientOrderId
  venueOrderId : insertion.ack.venueOrderId = paperOrderId submission.clientOrderId
  answer : ∀ ack, insertion.answer = .ok ack → ack = insertion.ack
  fills : ∀ fill ∈ insertion.fills, fill.clientOrderId = submission.clientOrderId ∧
    fill.venueOrderId = paperOrderId submission.clientOrderId
  total : 0 ≤ total submission.clientOrderId insertion.fills ∧
    PaperExecutions.total submission.clientOrderId insertion.fills ≤ submission.qty
  actions : ∀ actions, insertion.actions = some actions →
    actions.Settles submission.orderId submission.qty
  openOrder : ∀ order, insertion.openOrder = some order → order.submission = submission ∧
    order.filledQty = PaperExecutions.total submission.clientOrderId insertion.fills
  held : insertion.openOrder.isSome → insertion.actions.isSome

/-- It queues one fill at most. -/
theorem InsertionOf.single (prepared : InsertionOf submission insertion) : insertion.fills.length ≤ 1 := by
  unfold Insertion.fills
  split
  · next actions written =>
    rw [venueFills, List.length_map]
    exact (prepared.actions actions written).single
  · exact Nat.zero_le 1

/-- Without a fill at once there is nothing to cancel but the order. -/
private theorem settles_unfilled (orderId : OrderId) (qty : Decimal) (reason : Option String) :
    PostAckActions.Settles ⟨[], reason⟩ orderId qty :=
  ⟨Nat.zero_le 1, List.forall_mem_nil _, fun _ => List.forall_mem_nil _⟩

/-- A fill queued whole or in part. -/
private theorem settles_filled {simulated : SimulatedFill} {order : OrderCore}
    (fills : simulated.Fills order venueOrderId) (clientOrderId : ClientOrderId)
    (cancels : reason.isSome → simulated.isComplete = false) :
    PostAckActions.Settles ⟨[⟨clientOrderId, simulated.fill⟩], reason⟩ order.id order.qty where
  single := le_refl 1
  fills queued member := by
    obtain rfl := List.mem_singleton.mp member
    exact ⟨fills.orderId, fills.positive, fills.within⟩
  cancels cancelled queued member := by
    obtain rfl := List.mem_singleton.mp member
    exact fills.partly (cancels cancelled)

/-- An insertion that queues no fill. -/
private theorem insertionOf_unfilled {insertion : Insertion} (sized : 0 < submission.qty)
    (clientOrderId : insertion.ack.clientOrderId = submission.clientOrderId)
    (venueOrderId : insertion.ack.venueOrderId = paperOrderId submission.clientOrderId)
    (answer : ∀ ack, insertion.answer = .ok ack → ack = insertion.ack)
    (actions : ∀ actions, insertion.actions = some actions → actions.fills = [])
    (openOrder : ∀ order, insertion.openOrder = some order →
      order.submission = submission ∧ order.filledQty = 0)
    (held : insertion.openOrder.isSome → insertion.actions.isSome) :
    InsertionOf submission insertion := by
  have unfilled : insertion.fills = [] := by
    unfold Insertion.fills
    split
    · next queued found => rw [venueFills, actions queued found, List.map_nil]
    · rfl
  have nothing : total submission.clientOrderId insertion.fills = 0 := by
    rw [unfilled]
    rfl
  refine ⟨clientOrderId, venueOrderId, answer, ?_, ?_, ?_, ?_, held⟩
  · rw [unfilled]
    exact List.forall_mem_nil _
  · rw [nothing]
    exact ⟨le_refl _, le_of_lt sized⟩
  · rintro ⟨fills, reason⟩ found
    obtain rfl : fills = [] := actions _ found
    exact settles_unfilled _ _ reason
  · rw [nothing]
    exact openOrder

/-- An insertion that queues the fill just simulated. -/
private theorem insertionOf_filled {insertion : Insertion} {simulated : SimulatedFill}
    (fills : simulated.Fills (orderCoreFromSubmission submission createdAt submission.qty)
      (paperOrderId submission.clientOrderId))
    (clientOrderId : insertion.ack.clientOrderId = submission.clientOrderId)
    (venueOrderId : insertion.ack.venueOrderId = paperOrderId submission.clientOrderId)
    (answer : ∀ ack, insertion.answer = .ok ack → ack = insertion.ack)
    (actions : insertion.actions = some ⟨[⟨submission.clientOrderId, simulated.fill⟩], reason⟩)
    (cancels : reason.isSome → simulated.isComplete = false)
    (openOrder : ∀ order, insertion.openOrder = some order →
      order.submission = submission ∧ order.filledQty = simulated.fill.qty) :
    InsertionOf submission insertion := by
  have queued : insertion.fills =
      [PostAckFill.venueFill ⟨submission.clientOrderId, simulated.fill⟩] := by
    rw [Insertion.fills, actions]
    rfl
  have filled : total submission.clientOrderId insertion.fills = simulated.fill.qty := by
    rw [queued]
    exact total_single rfl
  refine ⟨clientOrderId, venueOrderId, answer, ?_, ?_, ?_, ?_, fun _ => by rw [actions]; rfl⟩
  · rw [queued]
    intro fill member
    obtain rfl := List.mem_singleton.mp member
    exact ⟨rfl, fills.venueOrderId⟩
  · rw [filled]
    exact ⟨le_of_lt fills.positive, fills.within⟩
  · intro held found
    rw [actions] at found
    cases found
    exact settles_filled fills submission.clientOrderId cancels
  · rw [filled]
    exact openOrder

/-- Every insertion that `submit_order` prepares is one for its submission. -/
theorem prepare_ok [LibraryText] (prepared : prepare adapter submission book = .ok insertion) :
    InsertionOf submission insertion := by
  unfold prepare at prepared
  dsimp only at prepared
  split at prepared
  · cases prepared
  · next simulated =>
    have sized : 0 < submission.qty := adapter.fillSimulator.sized simulated
    simp only [settle, Except.ok.injEq] at prepared
    subst prepared
    split
    · refine insertionOf_unfilled sized rfl rfl ?_ ?_ ?_ fun _ => rfl
      · rintro ack ⟨⟩
        rfl
      · rintro actions ⟨⟩
        rfl
      · rintro order ⟨⟩
        exact ⟨rfl, rfl⟩
    · refine insertionOf_unfilled sized rfl rfl ?_ ?_ ?_ fun _ => rfl
      · rintro ack ⟨⟩
        rfl
      · rintro actions ⟨⟩
        rfl
      · rintro order ⟨⟩
    · exact insertionOf_unfilled sized rfl rfl (by rintro ack ⟨⟩) (by rintro actions ⟨⟩)
        (by rintro order ⟨⟩) (by rintro ⟨⟩)
    · exact insertionOf_unfilled sized rfl rfl (by rintro ack ⟨⟩) (by rintro actions ⟨⟩)
        (by rintro order ⟨⟩) (by rintro ⟨⟩)
  · next simulated executed =>
    have fills := adapter.fillSimulator.fills executed
    split at prepared
    · cases prepared
    · unfold settle at prepared
      dsimp only at prepared
      split at prepared
      · cases prepared
        refine insertionOf_filled fills rfl rfl ?_ rfl (by rintro ⟨⟩) (by rintro order ⟨⟩)
        rintro ack ⟨⟩
        rfl
      · next incomplete =>
        have partly : simulated.isComplete = false := Bool.eq_false_iff.mpr incomplete
        split at prepared
        · split at prepared
          · cases prepared
            refine insertionOf_filled fills rfl rfl ?_ rfl (by rintro ⟨⟩) ?_
            · rintro ack ⟨⟩
              rfl
            · rintro order ⟨⟩
              exact ⟨rfl, rfl⟩
          · cases prepared
        · cases prepared
          refine insertionOf_filled fills rfl rfl ?_ rfl (fun _ => partly) (by rintro order ⟨⟩)
          rintro ack ⟨⟩
          rfl
        · cases prepared
        · cases prepared

/-! ### What an accepted order can still be filled for -/

/-- The fills shown so far stay within the accepted submissions, and an open
order's filled quantity covers what was shown of it. -/
structure Within (state : PaperAdapterState) (accepted : List OrderSubmission)
    (shown : List VenueFill) : Prop where
  owned : ∀ fill ∈ shown, ∃ submission ∈ accepted, submission.clientOrderId = fill.clientOrderId
  bound : ∀ submission ∈ accepted, total submission.clientOrderId shown ≤ submission.qty
  opened : ∀ venueOrderId order, state.openOrders.lookup venueOrderId = some order →
    order.submission ∈ accepted ∧ venueOrderId = paperOrderId order.submission.clientOrderId ∧
      total order.submission.clientOrderId shown ≤ order.filledQty ∧
      order.filledQty ≤ order.submission.qty
  cached : ∀ submission ∈ accepted,
    (state.idempotencyCache.lookup submission.clientOrderId).isSome
  distinct : (accepted.map OrderSubmission.clientOrderId).Nodup
  queued : ∀ venueOrderId actions, state.postAckActions.lookup venueOrderId = some actions →
    ∃ submission ∈ accepted, venueOrderId = paperOrderId submission.clientOrderId ∧
      actions.Settles submission.orderId submission.qty

namespace Within

/-- An accepted submission is known by its client order id. -/
theorem same (within : Within state accepted shown) (first : left ∈ accepted) (second : right ∈ accepted)
    (ids : left.clientOrderId = right.clientOrderId) : left = right :=
  List.inj_on_of_nodup_map within.distinct first second ids

/-- Only the totals of the shown fills matter. -/
theorem perm (within : Within state accepted shown) (same : shown.Perm rearranged) :
    Within state accepted rearranged where
  owned fill member := within.owned fill (same.mem_iff.mpr member)
  bound submission member := by
    rw [← total_perm _ same]
    exact within.bound submission member
  opened venueOrderId order found := by
    rw [← total_perm _ same]
    exact within.opened venueOrderId order found
  cached := within.cached
  distinct := within.distinct
  queued := within.queued

/-- Fills that were never shown leave the bounds as they are. -/
theorem forget (within : Within state accepted (shown ++ lost)) (positive : ∀ fill ∈ lost, 0 < fill.qty) :
    Within state accepted shown where
  owned fill member := within.owned fill (List.mem_append_left _ member)
  bound submission member := by
    have bound := within.bound submission member
    have more := total_nonneg submission.clientOrderId positive
    rw [total_append] at bound
    linarith
  opened venueOrderId order found := by
    obtain ⟨member, named, covered, fits⟩ := within.opened venueOrderId order found
    have more := total_nonneg order.submission.clientOrderId positive
    rw [total_append] at covered
    exact ⟨member, named, by linarith, fits⟩
  cached := within.cached
  distinct := within.distinct
  queued := within.queued

/-- Closing an order, or writing a book, changes no bound. -/
theorem closed (within : Within state accepted shown) (next : PaperAdapterState)
    (opened : ∀ venueOrderId order, next.openOrders.lookup venueOrderId = some order →
      state.openOrders.lookup venueOrderId = some order)
    (cache : next.idempotencyCache = state.idempotencyCache)
    (actions : ∀ venueOrderId queued, next.postAckActions.lookup venueOrderId = some queued →
      state.postAckActions.lookup venueOrderId = some queued) : Within next accepted shown where
  owned := within.owned
  bound := within.bound
  opened venueOrderId order found := within.opened venueOrderId order (opened venueOrderId order found)
  cached := by
    rw [cache]
    exact within.cached
  distinct := within.distinct
  queued venueOrderId queued found := within.queued venueOrderId queued (actions venueOrderId queued found)

/-- An open order filled for at most its rest: what was shown of it and the
fill are covered by the new filled quantity, open or not. -/
private theorem filled (within : Within state accepted shown)
    (found : state.openOrders.lookup venueOrderId = some existing)
    (owner : fill.clientOrderId = existing.submission.clientOrderId)
    (rest : fill.qty ≤ existing.remainingQty) (openOrders : Table VenueOrderId PaperOpenOrder)
    (others : ∀ probe order, openOrders.lookup probe = some order →
      (probe ≠ venueOrderId ∧ state.openOrders.lookup probe = some order) ∨
      (probe = venueOrderId ∧
        order = { existing with filledQty := existing.filledQty + fill.qty })) :
    Within { state with openOrders := openOrders } accepted (shown ++ [fill]) := by
  obtain ⟨member, named, covered, fits⟩ := within.opened venueOrderId existing found
  have grown : existing.filledQty + fill.qty ≤ existing.submission.qty := by
    unfold PaperOpenOrder.remainingQty at rest
    linarith
  have itself : total existing.submission.clientOrderId (shown ++ [fill]) ≤
      existing.filledQty + fill.qty := by
    rw [total_append, total_single owner]
    linarith
  have elsewhere : ∀ probe, probe ≠ existing.submission.clientOrderId →
      total probe (shown ++ [fill]) = total probe shown :=
    fun probe => total_append_other shown (List.forall_mem_singleton.mpr owner)
  refine { within with
    owned := fun shownFill shownMember => ?_
    bound := fun submission accept => ?_
    opened := fun probe order opened => ?_ }
  · rcases List.mem_append.mp shownMember with old | new
    · exact within.owned shownFill old
    · obtain rfl := List.mem_singleton.mp new
      exact ⟨existing.submission, member, owner.symm⟩
  · by_cases hit : submission.clientOrderId = existing.submission.clientOrderId
    · rw [within.same accept member hit]
      exact le_trans itself grown
    · rw [elsewhere _ hit]
      exact within.bound submission accept
  · rcases others probe order opened with ⟨other, kept⟩ | ⟨rfl, rfl⟩
    · obtain ⟨accept, name, cover, fit⟩ := within.opened probe order kept
      have distinct : order.submission.clientOrderId ≠ existing.submission.clientOrderId := by
        intro same
        rw [name, named, same] at other
        exact other rfl
      exact ⟨accept, name, by rw [elsewhere _ distinct]; exact cover, fit⟩
    · exact ⟨member, named, itself, grown⟩

end Within

/-- One repriced order. -/
theorem Within.repriced (within : Within state accepted shown)
    (repriced : repriceOrder adapter snapshot state venueOrderId = .ok (next, fills)) :
    Within next accepted (shown ++ fills) ∧ ∀ fill ∈ fills, 0 < fill.qty := by
  unfold repriceOrder at repriced
  split at repriced
  · cases repriced
    rw [List.append_nil]
    exact ⟨within, List.forall_mem_nil _⟩
  · next existing found =>
    split at repriced
    · cases repriced
      rw [List.append_nil]
      exact ⟨within.closed _ (fun _ _ opened => lookup_of_erase opened) rfl fun _ _ queued => queued,
        List.forall_mem_nil _⟩
    · split at repriced
      · cases repriced
      · cases repriced
        rw [List.append_nil]
        exact ⟨within, List.forall_mem_nil _⟩
      · next simulated executed =>
        cases repriced
        have fills := adapter.fillSimulator.fills executed
        have owner : (repricedFill venueOrderId existing simulated.fill).clientOrderId =
          existing.submission.clientOrderId := rfl
        have filled := within.filled found owner fills.within
        constructor
        · refine filled _ fun probe order opened => ?_
          split at opened
          · rw [lookup_erase_if] at opened
            split at opened
            · cases opened
            · next other => exact Or.inl ⟨other, opened⟩
          · rw [lookup_insert_if] at opened
            split at opened
            · next hit =>
              cases opened
              exact Or.inr ⟨hit, rfl⟩
            · next other => exact Or.inl ⟨other, opened⟩
        · intro fill member
          obtain rfl := List.mem_singleton.mp member
          exact fills.positive

/-- A whole repricing, even one that ends in an error. -/
theorem Within.collected (within : Within state accepted shown) (adapter : PaperAdapter)
    (snapshot : OrderbookSnapshot) (iteration : List VenueOrderId) :
    Within (collectRepricedFills adapter snapshot state iteration).state accepted
        (shown ++ (collectRepricedFills adapter snapshot state iteration).fills) ∧
      ∀ fill ∈ (collectRepricedFills adapter snapshot state iteration).fills,
        0 < fill.qty := by
  induction iteration generalizing state shown with
  | nil =>
    rw [collectRepricedFills, List.append_nil]
    exact ⟨within, List.forall_mem_nil _⟩
  | cons venueOrderId rest ih =>
    unfold collectRepricedFills
    split
    · rw [List.append_nil]
      exact ⟨within, List.forall_mem_nil _⟩
    · next next fills repriced =>
      obtain ⟨after, positive⟩ := within.repriced repriced
      obtain ⟨final, others⟩ := ih after
      rw [List.append_assoc] at final
      exact ⟨final, List.forall_mem_append.mpr ⟨positive, others⟩⟩

/-- The first insertion under a client order id. -/
theorem Within.inserted (within : Within state accepted shown) (prepared : InsertionOf submission insertion)
    (unseen : state.idempotencyCache.lookup submission.clientOrderId = none) :
    Within (insert state insertion) (accepted ++ [submission]) (shown ++ insertion.fills) := by
  have fresh : ∀ earlier ∈ accepted, earlier.clientOrderId ≠ submission.clientOrderId := by
    intro earlier member same
    have cached := within.cached earlier member
    rw [same, unseen] at cached
    cases cached
  have unfilled : total submission.clientOrderId shown = 0 := by
    refine total_other fun fill member same => ?_
    obtain ⟨earlier, accept, owner⟩ := within.owned fill member
    exact fresh earlier accept (owner.trans same)
  have itself : total submission.clientOrderId (shown ++ insertion.fills) =
      total submission.clientOrderId insertion.fills := by
    rw [total_append, unfilled, zero_add]
  have elsewhere : ∀ probe, probe ≠ submission.clientOrderId →
      total probe (shown ++ insertion.fills) = total probe shown :=
    fun probe => total_append_other shown fun fill member => (prepared.fills fill member).1
  have last : submission ∈ accepted ++ [submission] :=
    List.mem_append_right _ (List.mem_singleton.mpr rfl)
  refine ⟨fun fill member => ?_, fun probe member => ?_, fun venueOrderId order found => ?_,
    fun probe member => ?_, ?_, fun venueOrderId actions found => ?_⟩
  · rcases List.mem_append.mp member with old | new
    · obtain ⟨earlier, accept, owner⟩ := within.owned fill old
      exact ⟨earlier, List.mem_append_left _ accept, owner⟩
    · exact ⟨submission, last, (prepared.fills fill new).1.symm⟩
  · rcases List.mem_append.mp member with old | new
    · rw [elsewhere _ (fresh probe old)]
      exact within.bound probe old
    · obtain rfl := List.mem_singleton.mp new
      rw [itself]
      exact prepared.total.2
  · rcases lookup_of_insertIfSome found with ⟨own, written⟩ | old
    · obtain ⟨rfl, filled⟩ := prepared.openOrder order written
      rw [itself, filled]
      exact ⟨last, own.trans prepared.venueOrderId, le_refl _, prepared.total.2⟩
    · obtain ⟨accept, named, covered, fits⟩ := within.opened venueOrderId order old
      rw [elsewhere _ (fresh _ accept)]
      exact ⟨List.mem_append_left _ accept, named, covered, fits⟩
  · simp only [PaperVenue.insert, lookup_insert_if, prepared.clientOrderId]
    split
    · rfl
    · next other =>
      rcases List.mem_append.mp member with old | new
      · exact within.cached probe old
      · obtain rfl := List.mem_singleton.mp new
        exact absurd rfl other
  · rw [List.map_append]
    refine List.nodup_append'.mpr ⟨within.distinct, List.nodup_singleton _, fun id old new => ?_⟩
    obtain rfl := List.mem_singleton.mp new
    obtain ⟨earlier, accept, same⟩ := List.mem_map.mp old
    exact fresh earlier accept same
  · rcases lookup_of_insertIfSome found with ⟨own, written⟩ | old
    · exact ⟨submission, last, own.trans prepared.venueOrderId, prepared.actions actions written⟩
    · obtain ⟨earlier, accept, settled⟩ := within.queued venueOrderId actions old
      exact ⟨earlier, List.mem_append_left _ accept, settled⟩

/-! ### Views of a run -/

/-- The fills queued for after an ack. -/
def queuedFills (state : PaperAdapterState) : List VenueFill :=
  (values state.postAckActions).flatMap venueFills

/-- The fills that running calls have yet to broadcast. -/
def inFlight (calls : List Call) : List VenueFill := calls.flatMap Call.inFlight

/-- The fills broadcast, in flight and queued. -/
def shownFills (labels : List Label) (system : System) : List VenueFill :=
  broadcastsOf labels ++ inFlight system.calls ++ queuedFills system.state

/-- The submissions that were inserted. -/
def acceptedBy (labels : List Label) : List OrderSubmission :=
  labels.filterMap fun
    | .inserted submission _ => some submission
    | .called _ | .answered .. | .passed | .taken .. | .replaced .. | .cancelled .. | .broadcast _ |
      .returned => none

/-- The acks that calls of `submit_order` returned. -/
def acksOf (labels : List Label) : List (ClientOrderId × VenueOrderAck) :=
  labels.filterMap fun
    | .answered submission (.ok ack) => some (submission.clientOrderId, ack)
    | .inserted submission insertion => match insertion.answer with
      | .ok ack => some (submission.clientOrderId, ack)
      | .error _ => none
    | .called _ | .answered _ (.error _) | .passed | .taken .. | .replaced .. | .cancelled .. |
      .broadcast _ | .returned => none

theorem acceptedBy_snoc (labels : List Label) (label : Label) :
    acceptedBy (labels ++ [label]) = acceptedBy labels ++ acceptedBy [label] :=
  List.filterMap_append

theorem acksOf_snoc (labels : List Label) (label : Label) :
    acksOf (labels ++ [label]) = acksOf labels ++ acksOf [label] :=
  List.filterMap_append

/-- No insertion finds an ack already cached for its client order id. -/
def unraced (system : System) : Label → Bool
  | .inserted submission _ => (system.state.idempotencyCache.lookup submission.clientOrderId).isNone
  | .called _ | .answered .. | .passed | .taken .. | .replaced .. | .cancelled .. | .broadcast _ |
    .returned => true

theorem queuedFills_insert (state : PaperAdapterState) (insertion : Insertion)
    (fresh : state.postAckActions.lookup insertion.ack.venueOrderId = none) :
    queuedFills (insert state insertion) = insertion.fills ++ queuedFills state := by
  cases written : insertion.actions with
  | none => simp [queuedFills, PaperVenue.insert, insertIfSome, Insertion.fills, written]
  | some actions =>
    simp [queuedFills, PaperVenue.insert, insertIfSome, Insertion.fills, written,
      values_insert_fresh _ actions fresh]

theorem queuedFills_erase {state : PaperAdapterState}
    (found : state.postAckActions.lookup venueOrderId = some actions) :
    (queuedFills state).Perm (venueFills actions ++
      queuedFills { state with postAckActions := state.postAckActions.erase venueOrderId }) := by
  have split := (values_erase state.postAckActions found).flatMap_right venueFills
  simpa [queuedFills] using split

/-- A repricing touches the open orders only. -/
theorem collectRepricedFills_frame (adapter : PaperAdapter) (snapshot : OrderbookSnapshot)
    (state : PaperAdapterState) (iteration : List VenueOrderId) :
    (collectRepricedFills adapter snapshot state iteration).state.postAckActions =
        state.postAckActions ∧
      (collectRepricedFills adapter snapshot state iteration).state.idempotencyCache =
        state.idempotencyCache := by
  induction iteration generalizing state with
  | nil => exact ⟨rfl, rfl⟩
  | cons venueOrderId rest ih =>
    unfold collectRepricedFills
    split
    · exact ⟨rfl, rfl⟩
    · next next fills repriced =>
      have kept : next.postAckActions = state.postAckActions ∧
          next.idempotencyCache = state.idempotencyCache := by
        unfold repriceOrder at repriced
        split at repriced
        · cases repriced
          exact ⟨rfl, rfl⟩
        · split at repriced
          · cases repriced
            exact ⟨rfl, rfl⟩
          · split at repriced <;> cases repriced <;> exact ⟨rfl, rfl⟩
      exact ⟨(ih next).1.trans kept.1, (ih next).2.trans kept.2⟩

/-- Nothing is queued under a client order id that is not cached. -/
theorem Within.unqueued (within : Within state accepted shown) (prepared : InsertionOf submission insertion)
    (unseen : state.idempotencyCache.lookup submission.clientOrderId = none) :
    state.postAckActions.lookup insertion.ack.venueOrderId = none := by
  cases found : state.postAckActions.lookup insertion.ack.venueOrderId with
  | none => rfl
  | some actions =>
    obtain ⟨earlier, accept, named, -⟩ := within.queued _ actions found
    have same := paperOrderId_injective (prepared.venueOrderId.symm.trans named)
    have cached := within.cached earlier accept
    rw [← same, unseen] at cached
    cases cached

theorem queuedFills_same {next : PaperAdapterState} (same : next.postAckActions = state.postAckActions) :
    queuedFills next = queuedFills state := by
  unfold queuedFills
  rw [same]

/-- A step that shows nothing, of a call with nothing to broadcast. -/
theorem nothing_moved (state : PaperAdapterState) {label : Label} {call : Call} {next : Option Call}
    (silent : broadcastsOf [label] = []) (landed : call.inFlight = []) (waiting : inFlight next.toList = []) :
    (broadcastsOf [label] ++ inFlight next.toList ++ queuedFills state).Perm
      (call.inFlight ++ queuedFills state ++ []) := by
  rw [silent, landed, waiting, List.append_nil, List.append_nil]

section Steps
variable [LibraryText]

/-- One step of a call: nothing shown is lost or doubled, and what is new stays
within the order it is of. -/
theorem Within.run (within : Within state accepted shown) (call : Call)
    (unraced : unraced ⟨state, calls⟩ (call.run adapter iteration state).label = true) :
    ∃ fills,
      (broadcastsOf [(call.run adapter iteration state).label] ++
        inFlight (call.run adapter iteration state).next.toList ++
        queuedFills (call.run adapter iteration state).state).Perm
          (call.inFlight ++ queuedFills state ++ fills) ∧
      Within (call.run adapter iteration state).state
        (accepted ++ acceptedBy [(call.run adapter iteration state).label]) (shown ++ fills) := by
  have idle : Within state (accepted ++ []) (shown ++ []) := by simpa using within
  have step := ran adapter iteration state call
  generalize call.run adapter iteration state = outcome at step unraced ⊢
  cases step with
  | answered landed => exact ⟨[], nothing_moved state rfl landed rfl, idle⟩
  | passed | priced | retaken | missed | refused | unknown | returned =>
    exact ⟨[], nothing_moved state rfl rfl rfl, idle⟩
  | @inserted submission book insertion prepared =>
    have facts := prepare_ok prepared
    have unseen : state.idempotencyCache.lookup submission.clientOrderId = none :=
      Option.isNone_iff_eq_none.mp unraced
    refine ⟨insertion.fills, ?_, within.inserted facts unseen⟩
    rw [queuedFills_insert state insertion (within.unqueued facts unseen)]
    simp [broadcastsOf, inFlight, Call.inFlight, List.perm_append_comm]
  | @taken venueOrderId actions found =>
    refine ⟨[], ?_, ?_⟩
    · simpa [broadcastsOf, inFlight, Call.inFlight] using (queuedFills_erase found).symm
    · have erased := within.closed { state with postAckActions := state.postAckActions.erase venueOrderId }
        (fun _ _ opened => opened) rfl fun _ _ queued => lookup_of_erase queued
      simpa [acceptedBy] using erased
  | @replaced snapshot collected home valid repriced =>
    have updated : Within (withOrderbook state snapshot) accepted shown :=
      within.closed _ (fun _ _ opened => opened) rfl fun _ _ queued => queued
    obtain ⟨within', positive⟩ := updated.collected adapter snapshot iteration
    have kept := (collectRepricedFills_frame adapter snapshot (withOrderbook state snapshot) iteration).1
    rw [repriced] at within' positive kept
    have queued : queuedFills collected.state = queuedFills state := queuedFills_same kept
    cases failed : collected.error with
    | some error =>
      refine ⟨[], ?_, ?_⟩
      · simp [broadcastsOf, inFlight, Call.inFlight, queued]
      · simpa [acceptedBy] using within'.forget positive
    | none =>
      refine ⟨collected.fills, ?_, ?_⟩
      · simp [broadcastsOf, inFlight, Call.inFlight, queued, List.perm_append_comm]
      · simpa [acceptedBy] using within'
  | @cancelled venueOrderId order found =>
    refine ⟨[], ?_, ?_⟩
    · simp [broadcastsOf, inFlight, Call.inFlight, queuedFills]
    · have closed := within.closed { state with openOrders := state.openOrders.erase venueOrderId }
        (fun _ _ opened => lookup_of_erase opened) rfl fun _ _ queued => queued
      simpa [acceptedBy] using closed
  | broadcast => exact ⟨[], by simp [broadcastsOf, inFlight, Call.inFlight], idle⟩

/-- Every ack a step returns is the one cached after it, and none is forgotten. -/
theorem acks_cached (adapter : PaperAdapter) (iteration : List VenueOrderId) (state : PaperAdapterState)
    (call : Call) (unraced : unraced ⟨state, calls⟩ (call.run adapter iteration state).label = true) :
    (∀ answer ∈ acksOf [(call.run adapter iteration state).label],
      (call.run adapter iteration state).state.idempotencyCache.lookup answer.1 = some answer.2) ∧
    ∀ clientOrderId ack, state.idempotencyCache.lookup clientOrderId = some ack →
      (call.run adapter iteration state).state.idempotencyCache.lookup clientOrderId = some ack := by
  have step := ran adapter iteration state call
  generalize call.run adapter iteration state = outcome at step unraced ⊢
  cases step with
  | @answered answer call submission landed known =>
    refine ⟨fun given member => ?_, fun _ _ cached => cached⟩
    cases answer with
    | error error => cases member
    | ok ack =>
      obtain rfl := List.mem_singleton.mp member
      exact known ack rfl
  | passed | priced | taken | retaken | missed | refused | cancelled | unknown | broadcast | returned =>
    exact ⟨List.forall_mem_nil _, fun _ _ cached => cached⟩
  | @inserted submission book insertion prepared =>
    have facts := prepare_ok prepared
    have unseen : state.idempotencyCache.lookup submission.clientOrderId = none :=
      Option.isNone_iff_eq_none.mp unraced
    simp only [PaperVenue.insert, lookup_insert_if, facts.clientOrderId]
    constructor
    · intro answer member
      cases answered : insertion.answer with
      | error error => simp [acksOf, answered] at member
      | ok ack =>
        obtain rfl : answer = (submission.clientOrderId, ack) := by
          simpa [acksOf, answered] using member
        rw [if_pos rfl, facts.answer ack answered]
    · intro clientOrderId ack cached
      have other : clientOrderId ≠ submission.clientOrderId := by
        rintro rfl
        rw [unseen] at cached
        cases cached
      rw [if_neg other]
      exact cached
  | @replaced snapshot collected home valid repriced =>
    have kept := (collectRepricedFills_frame adapter snapshot (withOrderbook state snapshot) iteration).2
    rw [repriced] at kept
    rw [kept]
    exact ⟨List.forall_mem_nil _, fun _ _ cached => cached⟩

end Steps

/-! ### Every interleaving -/

/-- The invariant of a run. -/
structure Sound (labels : List Label) (system : System) : Prop where
  within : Within system.state (acceptedBy labels) (shownFills labels system)
  acks : ∀ answer ∈ acksOf labels,
    system.state.idempotencyCache.lookup answer.1 = some answer.2

theorem Sound.start : Sound [] System.start where
  within := {
    owned := List.forall_mem_nil _
    bound := List.forall_mem_nil _
    opened := fun _ _ found => by cases found
    cached := List.forall_mem_nil _
    distinct := List.nodup_nil
    queued := fun _ _ found => by cases found }
  acks := List.forall_mem_nil _

/-- A call begins with nothing to broadcast. -/
theorem inFlight_entry {call : Call} (entry : call.IsEntry) : call.inFlight = [] := by
  cases call <;> first | rfl | cases entry

theorem Sound.step [LibraryText] {adapter : PaperAdapter} (sound : Sound labels system)
    (moves : Moves adapter system label next) (unraced : unraced system label = true) :
    Sound (labels ++ [label]) next := by
  cases moves with
  | called call entry =>
    have none : inFlight (system.calls ++ [call]) = inFlight system.calls := by
      simp [inFlight, inFlight_entry entry]
    have same : shownFills (labels ++ [.called call]) ⟨system.state, system.calls ++ [call]⟩ =
        shownFills labels system := by
      unfold shownFills
      rw [broadcastsOf_snoc, none]
      simp [broadcastsOf]
    refine ⟨?_, fun answer member => ?_⟩
    · rw [same, acceptedBy_snoc]
      simpa [acceptedBy] using sound.within
    · rw [acksOf_snoc] at member
      exact sound.acks answer (by simpa [acksOf] using member)
  | @ran before after call iteration running visits =>
    obtain ⟨state, calls⟩ := system
    obtain rfl : calls = before ++ call :: after := running
    obtain ⟨fills, moved, within⟩ := sound.within.run call unraced
    obtain ⟨answered, kept⟩ := acks_cached adapter iteration state call unraced
    refine ⟨?_, fun answer member => ?_⟩
    · rw [acceptedBy_snoc]
      refine within.perm (List.perm_iff_count.mpr fun fill => ?_)
      have counts := moved.count_eq fill
      simp only [shownFills, broadcastsOf_snoc, inFlight, List.flatMap_append, List.flatMap_cons,
        List.count_append] at counts ⊢
      omega
    · rw [acksOf_snoc] at member
      rcases List.mem_append.mp member with old | new
      · exact kept _ _ (sound.acks answer old)
      · exact answered answer new

theorem sound_of_run [LibraryText] {adapter : PaperAdapter}
    (run : Path (fun system label next => Moves adapter system label next ∧ unraced system label = true)
      System.start labels system) : Sound labels system := by
  induction run with
  | start => exact .start
  | step _ move ih => exact ih.step move.1 move.2

/-- The paper adapter executes an order at most once, in every interleaving in
which no insertion finds its client order id cached: the fills queued, in
flight and broadcast total at most the accepted quantity, no others exist, and
all acks returned for a client order id are the same. -/
theorem executes_at_most_once [LibraryText] {adapter : PaperAdapter}
    (run : Path (fun system label next => Moves adapter system label next ∧ unraced system label = true)
      System.start labels system) :
    (∀ submission ∈ acceptedBy labels,
      total submission.clientOrderId (shownFills labels system) ≤ submission.qty) ∧
    (∀ fill ∈ shownFills labels system, ∃ submission ∈ acceptedBy labels,
      submission.clientOrderId = fill.clientOrderId) ∧
    ∀ clientOrderId first second, (clientOrderId, first) ∈ acksOf labels →
      (clientOrderId, second) ∈ acksOf labels → first = second := by
  have sound := sound_of_run run
  refine ⟨sound.within.bound, sound.within.owned, fun clientOrderId first second left right => ?_⟩
  have cached := sound.acks _ left
  rw [sound.acks _ right] at cached
  exact (Option.some.inj cached).symm

/-! ### The duplicate submission test, in sequence and in parallel -/

open Plain

/-- The submission of the test. -/
def retried : OrderSubmission := sampleSubmission "athena-idem" .market 1 none .ioc

/-- A submission after a book, then its retry. -/
def inSequence : List Turn :=
  [.call (.replacing (sampleOrderbook ⟨0⟩)), .advance 0, .advance 0,
    .call (.submitting retried), .advance 0, .advance 0, .advance 0,
    .call (.submitting retried), .advance 0]

/-- The retry has passed the duplicate check when the first call inserts; it
inserts once the first fill is broadcast. -/
def inParallel : List Turn :=
  [.call (.replacing (sampleOrderbook ⟨0⟩)), .advance 0, .advance 0,
    .call (.submitting retried), .call (.submitting retried), .advance 0, .advance 1,
    .advance 0, .advance 0, .call (.taking (paperOrderId retried.clientOrderId)), .advance 1, .advance 1,
    .advance 0, .advance 0]

/-- Both calls of the sequential test return the one ack, and one fill is queued. -/
theorem executes_at_most_once_in_sequence : ∃ labels system ack,
    acksOf labels = [(retried.clientOrderId, ack), (retried.clientOrderId, ack)] ∧
    total retried.clientOrderId (shownFills labels system) ≤ retried.qty := by
  have played : ((play paperAdapter unraced .start inSequence).map fun played =>
      (acceptedBy played.1, (acksOf played.1).map Prod.fst)) =
        some ([retried], [retried.clientOrderId, retried.clientOrderId]) := by decide +kernel
  obtain ⟨⟨labels, system⟩, reached, views⟩ := Option.map_eq_some_iff.mp played
  obtain ⟨accepted, answered⟩ := Prod.mk.inj views
  obtain ⟨bound, -, same⟩ := executes_at_most_once (path_of_play reached)
  match acks : acksOf labels with
  | [] => simp [acks] at answered
  | [_] => simp [acks] at answered
  | _ :: _ :: _ :: _ => simp [acks] at answered
  | [(firstId, first), (secondId, second)] =>
    rw [acks] at answered
    obtain ⟨rfl, rfl⟩ : firstId = retried.clientOrderId ∧ secondId = retried.clientOrderId := by
      simpa using answered
    have agree : first = second := same retried.clientOrderId first second (by simp [acks]) (by simp [acks])
    rw [agree] at acks
    exact ⟨labels, system, second, acks, bound retried (by simp [accepted])⟩

/-- Two calls that both pass the duplicate check execute the order twice. -/
theorem racing_retries_execute_twice : ∃ labels system,
    Path (Moves paperAdapter) .start labels system ∧ acceptedBy labels = [retried, retried] ∧
    total retried.clientOrderId (shownFills labels system) = 2 ∧ retried.qty = 1 := by
  have played : ((play paperAdapter (fun _ _ => true) .start inParallel).map fun played =>
      (acceptedBy played.1, total retried.clientOrderId (shownFills played.1 played.2))) =
        some ([retried, retried], 2) := by decide +kernel
  obtain ⟨⟨labels, system⟩, reached, views⟩ := Option.map_eq_some_iff.mp played
  obtain ⟨accepted, doubled⟩ := Prod.mk.inj views
  exact ⟨labels, system, (path_of_play reached).mono fun _ _ _ move => move.1, accepted, doubled, rfl⟩

end FeynmanEngine.PaperExecutions
