import FeynmanEngine.PaperExecutions

/-! Fills after their ack, and in order. A fill of an order is broadcast only
once its post-ack actions were taken, and the fills of one order in the order in
which they were executed, provided a repricing fills no order whose first fill
is still held back or under way. The adapter does not check that proviso. -/
namespace FeynmanEngine.PaperOrdering
open Ids Orders Orderbooks VenueOrders FillSimulation Tables Traces PaperVenue PaperExecutions

/-! ### Views of a run -/

/-- The fills of one order. -/
def ofOrder (venueOrderId : VenueOrderId) (fills : List VenueFill) : List VenueFill :=
  fills.filter fun fill => fill.venueOrderId = venueOrderId

/-- Everything that was executed, in order: by a submission, then by repricings. -/
def executionsOf (labels : List Label) : List VenueFill :=
  labels.flatMap fun
    | .inserted _ insertion => insertion.fills
    | .replaced _ fills _ => fills
    | .called _ | .answered .. | .passed | .taken .. | .cancelled .. | .broadcast _ | .returned => []

/-- The orders whose post-ack actions were taken. -/
def takenOf (labels : List Label) : List VenueOrderId :=
  labels.filterMap fun
    | .taken venueOrderId (.ok _) => some venueOrderId
    | .taken _ (.error _) | .called _ | .answered .. | .passed | .inserted .. | .replaced .. |
      .cancelled .. | .broadcast _ | .returned => none

def queuedAt (state : PaperAdapterState) (venueOrderId : VenueOrderId) : List VenueFill :=
  match state.postAckActions.lookup venueOrderId with
  | some actions => venueFills actions
  | none => []

/-- The fills of an order that were executed and not yet broadcast. -/
def pending (state : PaperAdapterState) (calls : List Call) (venueOrderId : VenueOrderId) :
    List VenueFill :=
  ofOrder venueOrderId (inFlight calls) ++ queuedAt state venueOrderId

theorem ofOrder_append (venueOrderId : VenueOrderId) (first last : List VenueFill) :
    ofOrder venueOrderId (first ++ last) = ofOrder venueOrderId first ++ ofOrder venueOrderId last :=
  List.filter_append ..

theorem ofOrder_all (own : ∀ fill ∈ fills, fill.venueOrderId = venueOrderId) :
    ofOrder venueOrderId fills = fills :=
  List.filter_eq_self.mpr fun fill member => decide_eq_true (own fill member)

theorem ofOrder_none (other : ∀ fill ∈ fills, fill.venueOrderId ≠ venueOrderId) :
    ofOrder venueOrderId fills = [] :=
  List.filter_eq_nil_iff.mpr fun fill member same => other fill member (of_decide_eq_true same)

theorem executionsOf_snoc (labels : List Label) (label : Label) :
    executionsOf (labels ++ [label]) = executionsOf labels ++ executionsOf [label] :=
  List.flatMap_append

theorem takenOf_snoc (labels : List Label) (label : Label) :
    takenOf (labels ++ [label]) = takenOf labels ++ takenOf [label] :=
  List.filterMap_append

theorem inFlight_split (before after : List Call) (call : Call) :
    inFlight (before ++ call :: after) = inFlight before ++ call.inFlight ++ inFlight after := by
  simp [inFlight]

theorem inFlight_swap (before after middle : List Call) :
    inFlight (before ++ middle ++ after) = inFlight before ++ inFlight middle ++ inFlight after := by
  simp [inFlight]

/-- What a call with nothing in flight leaves behind when it turns to broadcasting. -/
theorem mem_inFlight_broadcasting {call : Call} (idle : call.inFlight = [])
    (member : fill ∈ inFlight (before ++ [Call.broadcasting fills] ++ after)) :
    fill ∈ fills ∨ fill ∈ inFlight (before ++ call :: after) := by
  rw [inFlight_split, idle, List.append_nil]
  rw [inFlight_swap] at member
  rcases List.mem_append.mp member with sofar | later
  · rcases List.mem_append.mp sofar with earlier | now
    · exact Or.inr (List.mem_append_left _ earlier)
    · exact Or.inl (by simpa [inFlight, Call.inFlight] using now)
  · exact Or.inr (List.mem_append_right _ later)

/-! ### Repricing one book -/

/-- The open order trades against the book. -/
def executes (adapter : PaperAdapter) (snapshot : OrderbookSnapshot) (state : PaperAdapterState)
    (venueOrderId : VenueOrderId) : Bool :=
  match state.openOrders.lookup venueOrderId with
  | none => false
  | some existing =>
    if existing.remainingQty ≤ 0 then false
    else
      match simulateRest adapter snapshot venueOrderId existing with
      | .ok (.executed _) => true
      | .ok .resting | .error _ => false

/-- One order's repricing fills it if it trades, and touches no other. -/
theorem repriceOrder_ok (repriced : repriceOrder adapter snapshot state venueOrderId = .ok (next, fills)) :
    (fills.map VenueFill.venueOrderId = [] ∨
      fills.map VenueFill.venueOrderId = [venueOrderId] ∧ executes adapter snapshot state venueOrderId) ∧
    (∀ probe, probe ≠ venueOrderId → next.openOrders.lookup probe = state.openOrders.lookup probe) ∧
    ∀ probe, (next.openOrders.lookup probe).isSome → (state.openOrders.lookup probe).isSome := by
  unfold repriceOrder at repriced
  split at repriced
  · cases repriced
    exact ⟨Or.inl rfl, fun _ _ => rfl, fun _ opened => opened⟩
  · next existing found =>
    split at repriced
    · cases repriced
      refine ⟨Or.inl rfl, fun probe other => ?_, fun probe opened => ?_⟩
      · rw [lookup_erase_if, if_neg other]
      · obtain ⟨order, there⟩ := Option.isSome_iff_exists.mp opened
        rw [lookup_of_erase there]
        rfl
    · next remains =>
      split at repriced
      · cases repriced
      · cases repriced
        exact ⟨Or.inl rfl, fun _ _ => rfl, fun _ opened => opened⟩
      · next simulated executed =>
        cases repriced
        refine ⟨Or.inr ⟨rfl, ?_⟩, fun probe other => ?_, fun probe opened => ?_⟩
        · unfold executes
          simp only [found, if_neg remains, executed]
        · dsimp only
          split
          · rw [lookup_erase_if, if_neg other]
          · rw [lookup_insert_if, if_neg other]
        · by_cases hit : probe = venueOrderId
          · rw [hit, found]
            rfl
          · dsimp only at opened
            split at opened
            · rwa [lookup_erase_if, if_neg hit] at opened
            · rwa [lookup_insert_if, if_neg hit] at opened

/-- Over orders met once each: a fill for each order that trades, at most. -/
theorem collectRepricedFills_executes (adapter : PaperAdapter) (snapshot : OrderbookSnapshot)
    (state : PaperAdapterState) (distinct : iteration.Nodup) :
    ((collectRepricedFills adapter snapshot state iteration).fills.map VenueFill.venueOrderId).Sublist
        iteration ∧
      (∀ fill ∈ (collectRepricedFills adapter snapshot state iteration).fills,
        executes adapter snapshot state fill.venueOrderId) ∧
      ∀ probe, ((collectRepricedFills adapter snapshot state iteration).state.openOrders.lookup
        probe).isSome → (state.openOrders.lookup probe).isSome := by
  induction iteration generalizing state with
  | nil => exact ⟨List.nil_sublist _, List.forall_mem_nil _, fun _ opened => opened⟩
  | cons venueOrderId rest ih =>
    obtain ⟨absent, distinct⟩ := List.nodup_cons.mp distinct
    unfold collectRepricedFills
    split
    · exact ⟨List.nil_sublist _, List.forall_mem_nil _, fun _ opened => opened⟩
    · next next fills repriced =>
      obtain ⟨once, untouched, shrinks⟩ := repriceOrder_ok repriced
      obtain ⟨later, trades, further⟩ := ih next distinct
      -- the orders still to come are as they were before this one
      have earlier : ∀ fill ∈ (collectRepricedFills adapter snapshot next rest).fills,
          executes adapter snapshot state fill.venueOrderId := by
        intro fill member
        have other : fill.venueOrderId ≠ venueOrderId := by
          intro same
          exact absent (same ▸ later.subset (List.mem_map_of_mem member))
        have there := trades fill member
        unfold executes at there ⊢
        rwa [untouched _ other] at there
      dsimp only
      rw [List.map_append]
      rcases once with none | ⟨one, trading⟩
      · have empty : fills = [] := List.map_eq_nil_iff.mp none
        subst empty
        exact ⟨later.cons _, earlier, fun probe opened => shrinks probe (further probe opened)⟩
      · rw [one]
        refine ⟨later.cons_cons _, ?_, fun probe opened => shrinks probe (further probe opened)⟩
        intro fill member
        rcases List.mem_append.mp member with now | then_
        · have named := List.mem_map_of_mem (f := VenueFill.venueOrderId) now
          rw [one] at named
          rw [List.mem_singleton.mp named]
          exact trading
        · exact earlier fill then_

/-! ### Pending fills -/

/-- Each order has at most one fill pending, and what was broadcast of it and
what is pending are its executions in order. -/
structure InOrder (labels : List Label) (state : PaperAdapterState) (calls : List Call) : Prop where
  owned : ∀ venueOrderId, ∀ fill ∈ queuedAt state venueOrderId, fill.venueOrderId = venueOrderId
  single : ∀ venueOrderId, (pending state calls venueOrderId).length ≤ 1
  opened : ∀ venueOrderId, (state.openOrders.lookup venueOrderId).isSome →
    (state.postAckActions.lookup venueOrderId).isSome ∨ venueOrderId ∈ takenOf labels
  flying : ∀ fill ∈ inFlight calls, fill.venueOrderId ∈ takenOf labels
  ordered : ∀ venueOrderId,
    (ofOrder venueOrderId (broadcastsOf labels) ++ pending state calls venueOrderId).Sublist
      (ofOrder venueOrderId (executionsOf labels))

theorem InOrder.start : InOrder [] .default [] where
  owned _ := List.forall_mem_nil _
  single _ := Nat.zero_le 1
  opened _ found := by cases found
  flying := List.forall_mem_nil _
  ordered _ := List.Sublist.refl _

/-- What is found among at most one fill is found in order. -/
theorem sublist_of_subperm {fills few : List VenueFill} (inside : fills.Subperm few)
    (single : few.length ≤ 1) : fills.Sublist few := by
  rcases few with _ | ⟨fill, _ | ⟨other, rest⟩⟩
  · rw [List.subperm_nil.mp inside]
  · rcases List.subperm_singleton_iff.mp inside with rfl | rfl
    · exact List.nil_sublist _
    · exact List.Sublist.refl _
  · simp only [List.length_cons] at single
    omega

/-- A step keeps the order if what it broadcasts or leaves pending of an order
was pending, or if it executed the only pending fill. -/
theorem InOrder.advance (inOrder : InOrder labels state calls) (label : Label)
    (owned : ∀ venueOrderId, ∀ fill ∈ queuedAt next venueOrderId, fill.venueOrderId = venueOrderId)
    (opened : ∀ venueOrderId, (next.openOrders.lookup venueOrderId).isSome →
      (next.postAckActions.lookup venueOrderId).isSome ∨ venueOrderId ∈ takenOf (labels ++ [label]))
    (flying : ∀ fill ∈ inFlight running, fill.venueOrderId ∈ takenOf (labels ++ [label]))
    (moved : ∀ venueOrderId,
      (ofOrder venueOrderId (broadcastsOf [label]) ++ pending next running venueOrderId).Subperm
          (pending state calls venueOrderId) ∨
        (broadcastsOf [label] = [] ∧
          pending next running venueOrderId = ofOrder venueOrderId (executionsOf [label]) ∧
          (ofOrder venueOrderId (executionsOf [label])).length ≤ 1)) :
    InOrder (labels ++ [label]) next running := by
  refine ⟨owned, fun venueOrderId => ?_, opened, flying, fun venueOrderId => ?_⟩
  · rcases moved venueOrderId with inside | ⟨-, same, single⟩
    · have counts := (sublist_of_subperm inside (inOrder.single venueOrderId)).length_le
      have bound := inOrder.single venueOrderId
      rw [List.length_append] at counts
      omega
    · rw [same]
      exact single
  · rw [broadcastsOf_snoc, executionsOf_snoc, ofOrder_append, ofOrder_append, List.append_assoc]
    have held := inOrder.ordered venueOrderId
    rcases moved venueOrderId with inside | ⟨silent, same, -⟩
    · have kept := sublist_of_subperm inside (inOrder.single venueOrderId)
      exact ((List.Sublist.refl _).append kept).trans (held.trans (List.sublist_append_left ..))
    · rw [silent, same]
      exact ((List.sublist_append_left ..).trans held).append (List.Sublist.refl _)

theorem takenOf_grows (member : venueOrderId ∈ takenOf labels) (label : Label) :
    venueOrderId ∈ takenOf (labels ++ [label]) := by
  rw [takenOf_snoc]
  exact List.mem_append_left _ member

/-- The queue looks at the post-ack actions only. -/
theorem queuedAt_same (same : next.postAckActions = state.postAckActions) (venueOrderId : VenueOrderId) :
    queuedAt next venueOrderId = queuedAt state venueOrderId := by
  rw [queuedAt, queuedAt, same]

/-- A step that at most closes orders. -/
theorem InOrder.quiet (inOrder : InOrder labels state calls) (label : Label)
    (silent : broadcastsOf [label] = []) (same : inFlight running = inFlight calls)
    (actions : next.postAckActions = state.postAckActions)
    (shrinks : ∀ probe, (next.openOrders.lookup probe).isSome → (state.openOrders.lookup probe).isSome) :
    InOrder (labels ++ [label]) next running := by
  refine inOrder.advance label (fun venueOrderId => ?_) (fun venueOrderId opened => ?_)
    (fun fill member => ?_) fun venueOrderId => Or.inl ?_
  · rw [queuedAt_same actions]
    exact inOrder.owned venueOrderId
  · rw [actions]
    exact (inOrder.opened venueOrderId (shrinks venueOrderId opened)).imp_right fun taken =>
      takenOf_grows taken label
  · rw [same] at member
    exact takenOf_grows (inOrder.flying fill member) label
  · rw [silent, pending, pending, same, queuedAt_same actions]
    exact List.Subperm.refl _

/-! ### Steps -/

/-- The queue of an order after an insertion. -/
theorem queuedAt_insert (prepared : InsertionOf submission insertion) (state : PaperAdapterState)
    (venueOrderId : VenueOrderId) :
    queuedAt (insert state insertion) venueOrderId = queuedAt state venueOrderId ∧
        (venueOrderId = paperOrderId submission.clientOrderId → insertion.fills = []) ∨
      venueOrderId = paperOrderId submission.clientOrderId ∧
        queuedAt (insert state insertion) venueOrderId = insertion.fills := by
  unfold queuedAt PaperVenue.insert Insertion.fills
  cases written : insertion.actions with
  | none => exact Or.inl ⟨rfl, fun _ => rfl⟩
  | some actions =>
    simp only [insertIfSome, lookup_insert_if, prepared.venueOrderId]
    by_cases own : venueOrderId = paperOrderId submission.clientOrderId
    · rw [if_pos own]
      exact Or.inr ⟨own, rfl⟩
    · rw [if_neg own]
      exact Or.inl ⟨rfl, fun same => absurd same own⟩

theorem InOrder.inserted (inOrder : InOrder labels state calls) (prepared : InsertionOf submission insertion)
    (same : inFlight running = inFlight calls)
    (clear : insertion.fills = [] ∨ ofOrder (paperOrderId submission.clientOrderId) (inFlight calls) = []) :
    InOrder (labels ++ [Label.inserted submission insertion]) (insert state insertion) running := by
  have silent : broadcastsOf [.inserted submission insertion] = [] := rfl
  have executed : executionsOf [.inserted submission insertion] = insertion.fills := by
    simp [executionsOf]
  refine inOrder.advance _ (fun venueOrderId fill member => ?_) (fun venueOrderId opened => ?_)
    (fun fill member => ?_) fun venueOrderId => ?_
  · rcases queuedAt_insert prepared state venueOrderId with ⟨kept, -⟩ | ⟨rfl, written⟩
    · rw [kept] at member
      exact inOrder.owned venueOrderId fill member
    · rw [written] at member
      exact (prepared.fills fill member).2
  · -- an order opened here has its actions queued here
    simp only [PaperVenue.insert] at opened ⊢
    obtain ⟨order, found⟩ := Option.isSome_iff_exists.mp opened
    rcases lookup_of_insertIfSome found with ⟨own, written⟩ | old
    · obtain ⟨actions, queued⟩ := Option.isSome_iff_exists.mp (prepared.held (by rw [written]; rfl))
      rw [queued, insertIfSome, lookup_insert_if, if_pos own]
      exact Or.inl rfl
    · exact (inOrder.opened venueOrderId (by rw [old]; rfl)).imp (isSome_insertIfSome _ _) fun taken =>
        takenOf_grows taken _
  · rw [same] at member
    exact takenOf_grows (inOrder.flying fill member) _
  · rw [silent, executed, pending, pending, same]
    rcases queuedAt_insert prepared state venueOrderId with ⟨kept, -⟩ | ⟨rfl, written⟩
    · rw [kept]
      exact Or.inl (List.Subperm.refl _)
    · rw [written]
      rcases clear with unfilled | landed
      · rw [unfilled]
        exact Or.inl ((List.append_nil _).symm ▸ (List.sublist_append_left _ _).subperm)
      · rw [landed, ofOrder_all fun fill member => (prepared.fills fill member).2]
        exact Or.inr ⟨rfl, rfl, prepared.single⟩

/-- Taking the post-ack actions puts the queued fills under way. -/
theorem InOrder.taken (inOrder : InOrder labels state (before ++ call :: after))
    (idle : call.inFlight = [])
    (found : state.postAckActions.lookup venueOrderId = some actions) :
    InOrder (labels ++ [Label.taken venueOrderId (.ok actions)])
      { state with postAckActions := state.postAckActions.erase venueOrderId }
      (before ++ [Call.broadcasting (venueFills actions)] ++ after) := by
  have queued : queuedAt state venueOrderId = venueFills actions := by rw [queuedAt, found]
  have elsewhere : ∀ probe, probe ≠ venueOrderId →
      queuedAt { state with postAckActions := state.postAckActions.erase venueOrderId } probe =
        queuedAt state probe := by
    intro probe other
    rw [queuedAt, lookup_erase_if, if_neg other, queuedAt]
  have emptied : queuedAt { state with postAckActions := state.postAckActions.erase venueOrderId }
      venueOrderId = [] := by
    rw [queuedAt, lookup_erase_if, if_pos rfl]
  have taken : venueOrderId ∈ takenOf (labels ++ [.taken venueOrderId (.ok actions)]) := by
    rw [takenOf_snoc]
    exact List.mem_append_right _ (List.mem_singleton.mpr rfl)
  have own : ∀ fill ∈ venueFills actions, fill.venueOrderId = venueOrderId :=
    queued ▸ inOrder.owned venueOrderId
  refine inOrder.advance _ (fun probe fill member => ?_) (fun probe opened => ?_) (fun fill member => ?_)
    fun probe => Or.inl ?_
  · by_cases hit : probe = venueOrderId
    · rw [hit, emptied] at member
      cases member
    · rw [elsewhere probe hit] at member
      exact inOrder.owned probe fill member
  · by_cases hit : probe = venueOrderId
    · rw [hit]
      exact Or.inr taken
    · rw [lookup_erase_if, if_neg hit]
      exact (inOrder.opened probe opened).imp_right fun old => takenOf_grows old _
  · rcases mem_inFlight_broadcasting idle member with now | flying
    · rw [own fill now]
      exact taken
    · exact takenOf_grows (inOrder.flying fill flying) _
  · refine List.subperm_ext_iff.mpr fun fill _ => le_of_eq ?_
    have silent : broadcastsOf [.taken venueOrderId (.ok actions)] = [] := rfl
    rw [silent, pending, pending, inFlight_swap, inFlight_split, idle]
    by_cases hit : probe = venueOrderId
    · rw [hit, emptied, queued]
      have flown : ofOrder venueOrderId (inFlight [.broadcasting (venueFills actions)]) =
          venueFills actions := by
        simp [inFlight, Call.inFlight, ofOrder_all own]
      simp only [ofOrder_append, flown, List.count_append]
      simp [ofOrder]
      omega
    · rw [elsewhere probe hit]
      have flown : ofOrder probe (inFlight [.broadcasting (venueFills actions)]) = [] := by
        refine ofOrder_none fun fill member same => hit ?_
        rw [← same]
        exact own fill (by simpa [inFlight, Call.inFlight] using member)
      simp only [ofOrder_append, flown, List.count_append]
      simp [ofOrder]

theorem InOrder.broadcast
    (inOrder : InOrder labels state (before ++ Call.broadcasting (fill :: rest) :: after)) :
    InOrder (labels ++ [Label.broadcast fill]) state (before ++ [Call.broadcasting rest] ++ after) := by
  have lands : ∀ probe ∈ inFlight (before ++ [Call.broadcasting rest] ++ after),
      probe ∈ inFlight (before ++ Call.broadcasting (fill :: rest) :: after) := by
    intro probe member
    simp only [inFlight, List.flatMap_append, List.flatMap_cons, Call.inFlight, List.mem_append,
      List.mem_cons, List.flatMap_nil, List.append_nil] at member ⊢
    tauto
  refine inOrder.advance _ inOrder.owned (fun venueOrderId opened => ?_) (fun probe member => ?_)
    fun venueOrderId => Or.inl ?_
  · exact (inOrder.opened venueOrderId opened).imp_right fun taken => takenOf_grows taken _
  · exact takenOf_grows (inOrder.flying probe (lands probe member)) _
  · refine List.subperm_ext_iff.mpr fun probe _ => le_of_eq ?_
    have shown : broadcastsOf [.broadcast fill] = [fill] := rfl
    have ahead : inFlight [.broadcasting rest] = rest := by simp [inFlight, Call.inFlight]
    have split : ofOrder venueOrderId (fill :: rest) = ofOrder venueOrderId [fill] ++ ofOrder venueOrderId rest :=
      ofOrder_append venueOrderId [fill] rest
    rw [shown, pending, pending, inFlight_swap, inFlight_split, ahead]
    simp only [ofOrder_append, Call.inFlight, split, List.count_append]
    omega

/-- A repricing whose fills go under way. -/
theorem InOrder.replaced {call : Call} (inOrder : InOrder labels state (before ++ call :: after))
    (idle : call.inFlight = []) (snapshot : OrderbookSnapshot)
    (actions : next.postAckActions = state.postAckActions)
    (shrinks : ∀ probe, (next.openOrders.lookup probe).isSome → (state.openOrders.lookup probe).isSome)
    (distinct : (fills.map VenueFill.venueOrderId).Nodup)
    (clear : ∀ fill ∈ fills, (state.openOrders.lookup fill.venueOrderId).isSome ∧
      state.postAckActions.lookup fill.venueOrderId = none ∧
      ofOrder fill.venueOrderId (inFlight (before ++ call :: after)) = []) :
    InOrder (labels ++ [Label.replaced snapshot fills none]) next
      (before ++ [Call.broadcasting fills] ++ after) := by
  have executed : executionsOf [.replaced snapshot fills none] = fills := by simp [executionsOf]
  have silent : broadcastsOf [.replaced snapshot fills none] = [] := rfl
  have ahead : inFlight [.broadcasting fills] = fills := by simp [inFlight, Call.inFlight]
  have around : ∀ probe, ofOrder probe (inFlight (before ++ call :: after)) =
      ofOrder probe (inFlight before) ++ ofOrder probe (inFlight after) := by
    intro probe
    rw [inFlight_split, idle, List.append_nil, ofOrder_append]
  refine inOrder.advance _ (fun venueOrderId => ?_) (fun venueOrderId opened => ?_)
    (fun fill member => ?_) fun venueOrderId => ?_
  · rw [queuedAt_same actions]
    exact inOrder.owned venueOrderId
  · rw [actions]
    exact (inOrder.opened venueOrderId (shrinks venueOrderId opened)).imp_right fun taken =>
      takenOf_grows taken _
  · rcases mem_inFlight_broadcasting idle member with now | flying
    · -- the order is open and has nothing queued, so its actions were taken
      obtain ⟨opened, settled, -⟩ := clear fill now
      rcases inOrder.opened fill.venueOrderId opened with queued | taken
      · rw [settled] at queued
        cases queued
      · exact takenOf_grows taken _
    · exact takenOf_grows (inOrder.flying fill flying) _
  · rw [silent, executed, pending, pending, queuedAt_same actions, inFlight_swap, ahead, around]
    rw [ofOrder_append, ofOrder_append]
    by_cases trades : ∃ fill ∈ fills, fill.venueOrderId = venueOrderId
    · obtain ⟨fill, member, rfl⟩ := trades
      obtain ⟨-, settled, landed⟩ := clear fill member
      obtain ⟨first, last⟩ := List.append_eq_nil_iff.mp ((around fill.venueOrderId).symm.trans landed)
      rw [first, last, queuedAt, settled]
      refine Or.inr ⟨rfl, by simp, ?_⟩
      have once := List.nodup_iff_count_le_one.mp distinct fill.venueOrderId
      rw [List.count_eq_countP, List.countP_map, List.countP_eq_length_filter] at once
      have same : ofOrder fill.venueOrderId fills =
          fills.filter fun other => other.venueOrderId == fill.venueOrderId := rfl
      simpa [same, Function.comp_def] using once
    · have none : ofOrder venueOrderId fills = [] :=
        ofOrder_none fun fill member same => trades ⟨fill, member, same⟩
      rw [none, List.append_nil]
      exact Or.inl (List.Subperm.refl _)

/-! ### Every interleaving -/

/-- No fill overtakes another one of its order. A repricing that goes on to
broadcast fills no order that has post-ack actions left or a fill in flight, and
no submission queues a fill of an order that has one in flight. -/
def orderly (adapter : PaperAdapter) (system : System) : Label → Bool
  | .replaced snapshot _ none =>
    (marketOrders system.state.openOrders snapshot.marketId).all fun venueOrderId =>
      !executes adapter snapshot system.state venueOrderId ||
        ((system.state.postAckActions.lookup venueOrderId).isNone &&
          ofOrder venueOrderId (inFlight system.calls) = [])
  | .inserted submission insertion => insertion.fills = [] ||
    ofOrder (paperOrderId submission.clientOrderId) (inFlight system.calls) = []
  | .replaced _ _ (some _) | .called _ | .answered .. | .passed | .taken .. | .cancelled .. |
    .broadcast _ | .returned => true

theorem marketOrders_nodup (openOrders : Table VenueOrderId PaperOpenOrder) (marketId : MarketId) :
    (marketOrders openOrders marketId).Nodup := by
  have keys : (openOrders.entries.map Sigma.fst).Nodup := openOrders.nodupKeys
  exact keys.sublist (List.filter_sublist.map _)

theorem executes_open (trades : executes adapter snapshot state venueOrderId) :
    (state.openOrders.lookup venueOrderId).isSome := by
  unfold executes at trades
  split at trades
  · cases trades
  · next existing found => rw [found]; rfl

/-- A step of a call that has nothing to broadcast, before or after it. -/
theorem InOrder.idle (inOrder : InOrder labels state (before ++ call :: after))
    (landed : call.inFlight = []) (label : Label) (next : Option Call)
    (silent : broadcastsOf [label] = []) (waiting : inFlight next.toList = [])
    (actions : later.postAckActions = state.postAckActions)
    (shrinks : ∀ probe, (later.openOrders.lookup probe).isSome → (state.openOrders.lookup probe).isSome) :
    InOrder (labels ++ [label]) later (before ++ next.toList ++ after) := by
  refine inOrder.quiet label silent ?_ actions shrinks
  rw [inFlight_swap, inFlight_split, waiting, landed]

section Steps
variable [LibraryText]

theorem InOrder.run (inOrder : InOrder labels state (before ++ call :: after))
    (visits : Visits state iteration call)
    (meets : orderly adapter ⟨state, before ++ call :: after⟩
      (call.run adapter iteration state).label = true) :
    InOrder (labels ++ [(call.run adapter iteration state).label])
      (call.run adapter iteration state).state
      (before ++ (call.run adapter iteration state).next.toList ++ after) := by
  have kept : ∀ probe, (state.openOrders.lookup probe).isSome → (state.openOrders.lookup probe).isSome :=
    fun _ opened => opened
  have step := ran adapter iteration state call
  generalize call.run adapter iteration state = outcome at step meets ⊢
  cases step with
  | answered landed => exact inOrder.idle landed _ _ rfl rfl rfl kept
  | passed | priced | retaken | missed | refused | unknown | returned =>
    exact inOrder.idle rfl _ _ rfl rfl rfl kept
  | inserted prepared =>
    simp only [orderly, Bool.or_eq_true, decide_eq_true_eq] at meets
    exact inOrder.inserted (prepare_ok prepared) (by rw [inFlight_swap, inFlight_split]; rfl) meets
  | taken found => exact inOrder.taken rfl found
  | @replaced snapshot collected home valid repriced =>
    have distinct : iteration.Nodup :=
      visits.nodup_iff.mpr (marketOrders_nodup state.openOrders snapshot.marketId)
    obtain ⟨once, trades, shrinks⟩ := collectRepricedFills_executes adapter snapshot
      (withOrderbook state snapshot) distinct
    have actions := (collectRepricedFills_frame adapter snapshot (withOrderbook state snapshot) iteration).1
    rw [repriced] at once trades shrinks actions
    cases failed : collected.error with
    | some error => exact inOrder.idle rfl _ _ rfl rfl actions shrinks
    | none =>
      rw [failed] at meets
      simp only [orderly, List.all_eq_true, Bool.or_eq_true, Bool.and_eq_true, Bool.not_eq_true',
        Option.isNone_iff_eq_none, decide_eq_true_eq] at meets
      refine inOrder.replaced rfl snapshot actions shrinks (once.nodup distinct) fun fill member => ?_
      have listed : fill.venueOrderId ∈ marketOrders state.openOrders snapshot.marketId :=
        visits.mem_iff.mp (once.subset (List.mem_map_of_mem member))
      have trading : executes adapter snapshot state fill.venueOrderId = true := trades fill member
      rcases meets fill.venueOrderId listed with silent | ⟨settled, landed⟩
      · rw [trading] at silent
        cases silent
      · exact ⟨executes_open trading, settled, landed⟩
  | cancelled found =>
    refine inOrder.idle rfl _ _ rfl rfl rfl fun probe opened => ?_
    obtain ⟨order, found⟩ := Option.isSome_iff_exists.mp opened
    rw [lookup_of_erase found]
    rfl
  | broadcast => exact inOrder.broadcast

theorem InOrder.step {adapter : PaperAdapter} (inOrder : InOrder labels system.state system.calls)
    (moves : Moves adapter system label next) (meets : orderly adapter system label = true) :
    InOrder (labels ++ [label]) next.state next.calls := by
  cases moves with
  | called call entry =>
    refine inOrder.quiet _ rfl ?_ rfl fun _ opened => opened
    simp [inFlight, inFlight_entry entry]
  | ran iteration running visits =>
    obtain ⟨state, calls⟩ := system
    obtain rfl : calls = _ := running
    exact inOrder.run visits meets

theorem inOrder_of_run {adapter : PaperAdapter}
    (run : Path (fun system label next => Moves adapter system label next ∧
      orderly adapter system label = true) System.start labels system) :
    InOrder labels system.state system.calls := by
  induction run with
  | start => exact .start
  | step _ move ih => exact ih.step move.1 move.2

theorem broadcast_inFlight {adapter : PaperAdapter} (moves : Moves adapter system (.broadcast fill) next) :
    fill ∈ inFlight system.calls := by
  generalize shown : Label.broadcast fill = label at moves
  cases moves with
  | called call entry => cases shown
  | @ran before after call iteration running visits =>
    rw [running, inFlight_split]
    refine List.mem_append_left _ (List.mem_append_right _ ?_)
    have step := ran adapter iteration system.state call
    generalize call.run adapter iteration system.state = outcome at step shown
    cases step with
    | broadcast =>
      cases shown
      exact List.mem_cons_self
    | _ => cases shown

/-- No fill is broadcast before the post-ack actions of its order were taken,
and the fills of one order are broadcast in the order of their execution, in
every interleaving whose steps are orderly. -/
theorem fills_follow_acks {adapter : PaperAdapter}
    (run : Path (fun system label next => Moves adapter system label next ∧
      orderly adapter system label = true) System.start labels system) :
    (∀ before fill after, labels = before ++ .broadcast fill :: after →
      fill.venueOrderId ∈ takenOf before) ∧
    ∀ venueOrderId, (ofOrder venueOrderId (broadcastsOf labels)).Sublist
      (ofOrder venueOrderId (executionsOf labels)) := by
  constructor
  · rintro before fill after rfl
    obtain ⟨earlier, next, reached, ⟨moves, -⟩, -⟩ := run.at_label
    exact (inOrder_of_run reached).flying fill (broadcast_inFlight moves)
  · intro venueOrderId
    exact (List.sublist_append_left ..).trans ((inOrder_of_run run).ordered venueOrderId)

end Steps

/-! ### A resting order, before and after its ack -/

open Plain

/-- A limit order for more than the sample book offers at its price. -/
def crossing : OrderSubmission := sampleSubmission "athena-rest" .limit 2 (some 10000) .gtc

/-- The order fills in part, its actions are taken, and a later book fills the rest. -/
def afterAck : List Turn :=
  [.call (.replacing (sampleOrderbook ⟨0⟩)), .advance 0, .advance 0,
    .call (.submitting crossing), .advance 0, .advance 0, .advance 0,
    .call (.taking (paperOrderId crossing.clientOrderId)), .advance 0, .advance 0, .advance 0,
    .call (.replacing (sampleOrderbook ⟨1⟩)), .advance 0, .advance 0]

/-- The later book comes before the actions are taken. -/
def beforeAck : List Turn :=
  [.call (.replacing (sampleOrderbook ⟨0⟩)), .advance 0, .advance 0,
    .call (.submitting crossing), .advance 0, .advance 0, .advance 0,
    .call (.replacing (sampleOrderbook ⟨1⟩)), .advance 0, .advance 0]

/-- Then they are taken, and the first fill is broadcast last. -/
def thenAck : List Turn :=
  beforeAck ++ [.advance 0, .call (.taking (paperOrderId crossing.clientOrderId)), .advance 0, .advance 0]

/-- The fills of the order, by their times. -/
def fillTimes (fills : List VenueFill) : List DateTime :=
  (ofOrder (paperOrderId crossing.clientOrderId) fills).map VenueFill.filledAt

/-- In the orderly schedule the fills come after the ack, first to last. -/
theorem fills_follow_acks_in_turn : ∃ labels system,
    Path (Moves paperAdapter) .start labels system ∧
    fillTimes (broadcastsOf labels) = [⟨0⟩, ⟨1⟩] ∧
    (ofOrder (paperOrderId crossing.clientOrderId) (broadcastsOf labels)).Sublist
      (ofOrder (paperOrderId crossing.clientOrderId) (executionsOf labels)) := by
  have played : ((play paperAdapter (orderly paperAdapter) .start afterAck).map fun played =>
      fillTimes (broadcastsOf played.1)) = some [⟨0⟩, ⟨1⟩] := by decide +kernel
  obtain ⟨⟨labels, system⟩, reached, times⟩ := Option.map_eq_some_iff.mp played
  have run := path_of_play reached
  exact ⟨labels, system, run.mono fun _ _ _ move => move.1, times,
    (fills_follow_acks run).2 (paperOrderId crossing.clientOrderId)⟩

/-- A book that comes before the ack is recorded has its fill broadcast before
the actions are taken, and ahead of the fill executed earlier. -/
theorem repricing_overtakes_ack :
    (∃ labels system, Path (Moves paperAdapter) .start labels system ∧
      fillTimes (broadcastsOf labels) = [⟨1⟩] ∧ takenOf labels = []) ∧
    ∃ labels system, Path (Moves paperAdapter) .start labels system ∧
      fillTimes (executionsOf labels) = [⟨0⟩, ⟨1⟩] ∧ fillTimes (broadcastsOf labels) = [⟨1⟩, ⟨0⟩] := by
  have early : ((play paperAdapter (fun _ _ => true) .start beforeAck).map fun played =>
      (fillTimes (broadcastsOf played.1), takenOf played.1)) = some ([⟨1⟩], []) := by decide +kernel
  have late : ((play paperAdapter (fun _ _ => true) .start thenAck).map fun played =>
      (fillTimes (executionsOf played.1), fillTimes (broadcastsOf played.1))) =
        some ([⟨0⟩, ⟨1⟩], [⟨1⟩, ⟨0⟩]) := by decide +kernel
  obtain ⟨⟨labels, system⟩, reached, views⟩ := Option.map_eq_some_iff.mp early
  obtain ⟨⟨more, final⟩, played, times⟩ := Option.map_eq_some_iff.mp late
  obtain ⟨shown, unacked⟩ := Prod.mk.inj views
  obtain ⟨executed, broadcast⟩ := Prod.mk.inj times
  exact ⟨⟨labels, system, (path_of_play reached).mono fun _ _ _ move => move.1, shown, unacked⟩,
    more, final, (path_of_play played).mono fun _ _ _ move => move.1, executed, broadcast⟩

end FeynmanEngine.PaperOrdering
