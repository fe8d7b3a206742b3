import FeynmanEngine.OpenOrderReports
import FeynmanEngine.CommutingVisits

/-! The order in which a hash map hands out its entries. A new book reprices the
open orders of its market in the map's order, which is anyone's guess. Each
order is simulated alone against the whole book, so that repricings of different
orders commute, and short of one that fails no caller can tell the order. -/
namespace FeynmanEngine.IterationOrders
open Ids Orders Orderbooks VenueOrders FillSimulation Tables Traces PaperVenue PaperExecutions PaperOrdering
open PaperSections BookReplacements OpenOrderReports CommutingVisits

/-- Two states that no look-up tells apart. -/
structure Alike (left right : PaperAdapterState) : Prop where
  acknowledged : left.acknowledgedOrders = right.acknowledgedOrders
  orderbooks : ∀ marketId, left.orderbooks.lookup marketId = right.orderbooks.lookup marketId
  openOrders : ∀ venueOrderId, left.openOrders.lookup venueOrderId = right.openOrders.lookup venueOrderId
  cached : ∀ clientOrderId, left.idempotencyCache.lookup clientOrderId = right.idempotencyCache.lookup clientOrderId
  actions : ∀ venueOrderId, left.postAckActions.lookup venueOrderId = right.postAckActions.lookup venueOrderId

theorem Alike.refl (state : PaperAdapterState) : Alike state state :=
  ⟨rfl, fun _ => rfl, fun _ => rfl, fun _ => rfl, fun _ => rfl⟩

theorem Alike.trans (first : Alike left middle) (second : Alike middle right) : Alike left right where
  acknowledged := first.acknowledged.trans second.acknowledged
  orderbooks marketId := (first.orderbooks marketId).trans (second.orderbooks marketId)
  openOrders venueOrderId := (first.openOrders venueOrderId).trans (second.openOrders venueOrderId)
  cached clientOrderId := (first.cached clientOrderId).trans (second.cached clientOrderId)
  actions venueOrderId := (first.actions venueOrderId).trans (second.actions venueOrderId)

/-- A repricing writes open orders and nothing else. -/
theorem repriceOrder_frame (repriced : repriceOrder adapter snapshot state venueOrderId = .ok (next, fills)) :
    next = { state with openOrders := next.openOrders } := by
  unfold repriceOrder at repriced
  split at repriced
  · cases repriced
    rfl
  · split at repriced
    · cases repriced
      rfl
    · split at repriced <;> cases repriced <;> rfl

/-- With the other orders as they were, states stay alike. -/
theorem Alike.repriced (alike : Alike left right)
    (one : repriceOrder adapter snapshot left venueOrderId = .ok (next, fills))
    (other : repriceOrder adapter snapshot right venueOrderId = .ok (next', fills'))
    (same : next'.openOrders.lookup venueOrderId = next.openOrders.lookup venueOrderId) : Alike next next' := by
  have found (probe : VenueOrderId) : next.openOrders.lookup probe = next'.openOrders.lookup probe := by
    by_cases hit : probe = venueOrderId
    · rw [hit, same]
    · rw [(repriceOrder_ok one).2.1 probe hit, (repriceOrder_ok other).2.1 probe hit, alike.openOrders]
  rw [repriceOrder_frame one, repriceOrder_frame other]
  exact ⟨alike.acknowledged, alike.orderbooks, found, alike.cached, alike.actions⟩

/-- What a repricing does to its order depends on that order alone. -/
theorem repriceOrder_congr (same : left.openOrders.lookup venueOrderId = right.openOrders.lookup venueOrderId)
    (repriced : repriceOrder adapter snapshot left venueOrderId = .ok (next, fills)) :
    ∃ next', repriceOrder adapter snapshot right venueOrderId = .ok (next', fills) ∧
      next'.openOrders.lookup venueOrderId = next.openOrders.lookup venueOrderId := by
  unfold repriceOrder at repriced ⊢
  rw [← same]
  cases found : left.openOrders.lookup venueOrderId with
  | none =>
    simp only [found] at repriced ⊢
    cases repriced
    exact ⟨right, rfl, by rw [← same, found]⟩
  | some existing =>
    simp only [found] at repriced ⊢
    by_cases finished : existing.remainingQty ≤ 0
    · rw [if_pos finished] at repriced ⊢
      cases repriced
      refine ⟨_, rfl, ?_⟩
      rw [lookup_erase_if, lookup_erase_if, if_pos rfl, if_pos rfl]
    · rw [if_neg finished] at repriced ⊢
      cases simulated : simulateRest adapter snapshot venueOrderId existing with
      | error error =>
        rw [simulated] at repriced
        cases repriced
      | ok outcome =>
        cases outcome with
        | resting =>
          rw [simulated] at repriced
          cases repriced
          exact ⟨right, rfl, same.symm⟩
        | executed fill =>
          rw [simulated] at repriced
          cases repriced
          refine ⟨_, rfl, ?_⟩
          dsimp only
          split
          · rw [lookup_erase_if, lookup_erase_if, if_pos rfl, if_pos rfl]
          · rw [lookup_insert_if, lookup_insert_if, if_pos rfl, if_pos rfl]

/-- Repricings of different orders commute. -/
theorem repricings_commute (adapter : PaperAdapter) (snapshot : OrderbookSnapshot) :
    Commuting (fun venueOrderId state => repriceOrder adapter snapshot state venueOrderId) Alike where
  refl := Alike.refl
  trans := Alike.trans
  congr := by
    intro venueOrderId left right next fills alike repriced
    obtain ⟨next', repriced', same⟩ := repriceOrder_congr (alike.openOrders venueOrderId) repriced
    exact ⟨next', repriced', alike.repriced repriced repriced' same⟩
  swap := by
    intro first second state middle final fills more differ one two
    have apart : middle.openOrders.lookup second = state.openOrders.lookup second :=
      (repriceOrder_ok one).2.1 second (Ne.symm differ)
    obtain ⟨middle', two', own⟩ := repriceOrder_congr apart two
    have apart' : state.openOrders.lookup first = middle'.openOrders.lookup first :=
      ((repriceOrder_ok two').2.1 first differ).symm
    obtain ⟨final', one', own'⟩ := repriceOrder_congr apart' one
    refine ⟨middle', final', two', one', ?_⟩
    have found (probe : VenueOrderId) : final.openOrders.lookup probe = final'.openOrders.lookup probe := by
      by_cases hit : probe = second
      · rw [hit, ← own, (repriceOrder_ok one').2.1 second (Ne.symm differ)]
      · rw [(repriceOrder_ok two).2.1 probe hit]
        by_cases hit' : probe = first
        · rw [hit', own']
        · rw [(repriceOrder_ok one).2.1 probe hit', (repriceOrder_ok one').2.1 probe hit',
            (repriceOrder_ok two').2.1 probe hit]
    rw [repriceOrder_frame two, repriceOrder_frame one, repriceOrder_frame one', repriceOrder_frame two']
    exact ⟨rfl, fun _ => rfl, found, fun _ => rfl, fun _ => rfl⟩

/-- A collection without a failure is a visit of the orders it meets. -/
theorem collect_ok_iff (adapter : PaperAdapter) (snapshot : OrderbookSnapshot) (state : PaperAdapterState)
    (iteration : List VenueOrderId) :
    visitAll (fun venueOrderId state => repriceOrder adapter snapshot state venueOrderId) state iteration =
        .ok (final, fills) ↔
      collectRepricedFills adapter snapshot state iteration = ⟨final, fills, none⟩ := by
  induction iteration generalizing state fills with
  | nil => simp [visitAll, collectRepricedFills]
  | cons venueOrderId rest ih =>
    rw [visitAll_cons_ok_iff]
    constructor
    · rintro ⟨next, first, more, repriced, others, rfl⟩
      simp only [collectRepricedFills, repriced, (ih next).mp others]
    · intro collected
      unfold collectRepricedFills at collected
      split at collected
      · cases collected
      · next next first repriced =>
        cases others : collectRepricedFills adapter snapshot next rest with
        | mk reached more error =>
          rw [others] at collected
          cases collected
          exact ⟨next, first, more, repriced, (ih next).mpr others, rfl⟩

/-- One collection that does not fail gives every other order of the same open
orders: the same open orders are left, and the same fills are collected. -/
theorem collect_perm (alike : Alike left right) (order : iteration.Perm iteration') (distinct : iteration.Nodup)
    (clear : (collectRepricedFills adapter snapshot left iteration).error = none) :
    (collectRepricedFills adapter snapshot right iteration').error = none ∧
      Alike (collectRepricedFills adapter snapshot left iteration).state
        (collectRepricedFills adapter snapshot right iteration').state ∧
      (collectRepricedFills adapter snapshot left iteration).fills.Perm
        (collectRepricedFills adapter snapshot right iteration').fills := by
  cases collected : collectRepricedFills adapter snapshot left iteration with
  | mk final fills error =>
    rw [collected] at clear
    obtain rfl : error = none := clear
    have visited := (collect_ok_iff adapter snapshot left iteration).mpr collected
    obtain ⟨final', fills', visited', reached, put⟩ :=
      (repricings_commute adapter snapshot).visitAll_perm order distinct alike visited
    rw [(collect_ok_iff adapter snapshot right iteration').mp visited']
    exact ⟨rfl, reached, put⟩

theorem mem_marketOrders_iff (openOrders : Table VenueOrderId PaperOpenOrder) (marketId : MarketId)
    (venueOrderId : VenueOrderId) :
    venueOrderId ∈ marketOrders openOrders marketId ↔
      ∃ order, openOrders.lookup venueOrderId = some order ∧ order.submission.marketId = marketId := by
  unfold marketOrders
  rw [List.mem_map]
  constructor
  · rintro ⟨⟨key, order⟩, listed, rfl⟩
    obtain ⟨stored, own⟩ := List.mem_filter.mp listed
    exact ⟨order, AList.mem_lookup_iff.mpr stored, of_decide_eq_true own⟩
  · rintro ⟨order, found, own⟩
    exact ⟨⟨venueOrderId, order⟩, List.mem_filter.mpr ⟨AList.mem_lookup_iff.mp found, decide_eq_true own⟩, rfl⟩

/-- A market's open orders are the same in both states, in some order. -/
theorem Alike.marketOrders (alike : Alike left right) (marketId : MarketId) :
    (marketOrders left.openOrders marketId).Perm (marketOrders right.openOrders marketId) := by
  refine (List.perm_ext_iff_of_nodup (marketOrders_nodup _ _) (marketOrders_nodup _ _)).mpr fun venueOrderId => ?_
  rw [mem_marketOrders_iff, mem_marketOrders_iff, alike.openOrders]

/-- Reports of states alike list the same orders, in some order. -/
theorem Alike.reports (alike : Alike left right) : (queryOpenOrders left).Perm (queryOpenOrders right) := by
  have entries : left.openOrders.entries.Perm right.openOrders.entries := by
    refine (List.perm_ext_iff_of_nodup left.openOrders.nodupKeys.nodup right.openOrders.nodupKeys.nodup).mpr ?_
    rintro ⟨venueOrderId, order⟩
    rw [← AList.mem_lookup_iff, ← AList.mem_lookup_iff, alike.openOrders]
  exact (entries.map Sigma.snd).map PaperOpenOrder.asOpenOrder

/-- Calls that go on alike: they may broadcast different fills, as many of them. -/
inductive SameCall : Call → Call → Prop
  | same (call : Call) : SameCall call call
  | broadcasting (length : fills.length = others.length) : SameCall (.broadcasting fills) (.broadcasting others)

/-- Labels that tell a caller the same. A broadcast answers no one. -/
inductive SameLabel : Label → Label → Prop
  | same (label : Label) : SameLabel label label
  | replaced (order : fills.Perm others) : SameLabel (.replaced snapshot fills none) (.replaced snapshot others none)
  | broadcast (fill other : VenueFill) : SameLabel (.broadcast fill) (.broadcast other)

/-- A new book that the adapter takes, and then fails to reprice an open order with. -/
def Breaks (adapter : PaperAdapter) (label : Label) : Prop :=
  ∃ snapshot fills error, label = .replaced snapshot fills (some error) ∧ Accepted adapter snapshot

/-- What tells a caller the same breaks nothing. -/
theorem SameLabel.completes (same : SameLabel label label') (completes : ¬ Breaks adapter label) :
    ¬ Breaks adapter label' := by
  cases same with
  | same => exact completes
  | replaced order =>
    rintro ⟨snapshot, fills, error, shape, -⟩
    cases shape
  | broadcast fill other =>
    rintro ⟨snapshot, fills, error, shape, -⟩
    cases shape

/-- Two steps of calls alike: the states and calls stay so, and what is shown or on
its way has changed by the same fills. -/
structure SameOutcome (call other : Call) (left right : Outcome) : Prop where
  state : Alike left.state right.state
  label : SameLabel left.label right.label
  next : List.Forall₂ SameCall left.next.toList right.next.toList
  shown : (broadcastsOf [left.label] ++ inFlight left.next.toList ++ other.inFlight).Perm
    (broadcastsOf [right.label] ++ inFlight right.next.toList ++ call.inFlight)

theorem SameCall.toList (next : Option Call) : List.Forall₂ SameCall next.toList next.toList := by
  cases next with
  | none => exact .nil
  | some call => exact .cons (.same call) .nil

/-- A step that did the same to states alike. -/
theorem SameOutcome.of_eq (state : Alike left.state right.state) (label : left.label = right.label)
    (next : left.next = right.next) : SameOutcome call call left right where
  state := state
  label := label ▸ .same _
  next := next ▸ SameCall.toList _
  shown := by rw [label, next]

theorem readBook_alike (alike : Alike left right) (submission : OrderSubmission) :
    SameOutcome call call (readBook left submission) (readBook right submission) := by
  unfold readBook
  rw [alike.orderbooks]
  split
  · exact .of_eq alike rfl rfl
  · exact .of_eq alike rfl rfl

theorem takeActions_alike (alike : Alike left right) (venueOrderId : VenueOrderId) :
    SameOutcome call call (takeActions left venueOrderId) (takeActions right venueOrderId) := by
  unfold takeActions
  rw [alike.actions, alike.acknowledged]
  split
  · refine .of_eq ⟨rfl, alike.orderbooks, alike.openOrders, alike.cached, fun probe => ?_⟩ rfl rfl
    show AList.lookup probe (AList.erase _ _) = AList.lookup probe (AList.erase _ _)
    rw [lookup_erase_if, lookup_erase_if, alike.actions]
  · split
    · exact .of_eq alike rfl rfl
    · exact .of_eq alike rfl rfl

theorem cancelOrder_alike (alike : Alike left right) (venueOrderId : VenueOrderId) :
    SameOutcome call call (cancelOrder left venueOrderId) (cancelOrder right venueOrderId) := by
  unfold cancelOrder
  rw [alike.openOrders]
  split
  · refine .of_eq { alike with openOrders := fun probe => ?_ } rfl rfl
    rw [lookup_erase_if, lookup_erase_if, alike.openOrders]
  · exact .of_eq alike rfl rfl

theorem lookup_insertIfSome_congr {K V : Type} [DecidableEq K] {left right : Table K V} {probe : K}
    (same : left.lookup probe = right.lookup probe) (key : K) (written : Option V) :
    (insertIfSome left key written).lookup probe = (insertIfSome right key written).lookup probe := by
  cases written with
  | none => exact same
  | some value => rw [insertIfSome, insertIfSome, lookup_insert_if, lookup_insert_if, same]

theorem Alike.inserted (alike : Alike left right) (insertion : Insertion) :
    Alike (PaperVenue.insert left insertion) (PaperVenue.insert right insertion) where
  acknowledged := congrArg (Insert.insert insertion.ack.venueOrderId) alike.acknowledged
  orderbooks := alike.orderbooks
  openOrders venueOrderId := lookup_insertIfSome_congr (alike.openOrders venueOrderId) _ _
  cached probe := by
    show AList.lookup probe (AList.insert _ _ _) = AList.lookup probe (AList.insert _ _ _)
    rw [lookup_insert_if, lookup_insert_if, alike.cached]
  actions venueOrderId := lookup_insertIfSome_congr (alike.actions venueOrderId) _ _

/-- Lists related one by one are so around any position. -/
theorem forall₂_around {A B : Type} {R : A → B → Prop} {one : A} {before after : List A} {others : List B}
    (related : List.Forall₂ R (before ++ one :: after) others) :
    ∃ before' other after', others = before' ++ other :: after' ∧ before.length = before'.length ∧
      List.Forall₂ R before before' ∧ R one other ∧ List.Forall₂ R after after' := by
  induction before generalizing others with
  | nil =>
    obtain ⟨other, after', here, behind, rfl⟩ := List.forall₂_cons_left_iff.mp related
    exact ⟨[], other, after', rfl, rfl, .nil, here, behind⟩
  | cons first before ih =>
    obtain ⟨first', rest, ahead, later, rfl⟩ := List.forall₂_cons_left_iff.mp related
    obtain ⟨before', other, after', rfl, length, early, here, behind⟩ := ih later
    exact ⟨first' :: before', other, after', rfl, congrArg Nat.succ length, .cons ahead early, here, behind⟩

section Sections
variable [LibraryText]

theorem checkDuplicate_alike (alike : Alike left right) (submission : OrderSubmission) :
    SameOutcome call call (checkDuplicate adapter left submission) (checkDuplicate adapter right submission) := by
  unfold checkDuplicate
  rw [alike.cached]
  split
  · exact .of_eq alike rfl rfl
  · split
    · exact .of_eq alike rfl rfl
    · split
      · exact .of_eq alike rfl rfl
      · exact .of_eq alike rfl rfl

/-- What an order is simulated against was read before; the state is only written. -/
theorem insertOrder_alike (alike : Alike left right) (submission : OrderSubmission) (book : OrderbookSnapshot) :
    SameOutcome call call (insertOrder adapter left submission book) (insertOrder adapter right submission book) := by
  unfold insertOrder
  split
  · exact .of_eq alike rfl rfl
  · exact .of_eq (alike.inserted _) rfl rfl

/-- A new book, unless it breaks, leaves the same open orders and goes on with the same fills. -/
theorem replaceOrderbook_alike (alike : Alike left right)
    (visits : iteration.Perm (marketOrders left.openOrders snapshot.marketId))
    (visits' : iteration'.Perm (marketOrders right.openOrders snapshot.marketId))
    (completes : ¬ Breaks adapter (replaceOrderbook adapter left snapshot iteration).label) :
    SameOutcome (.replacing snapshot) (.replacing snapshot) (replaceOrderbook adapter left snapshot iteration)
      (replaceOrderbook adapter right snapshot iteration') := by
  unfold replaceOrderbook at completes ⊢
  by_cases foreign : snapshot.venueId ≠ adapter.venueId
  · rw [if_pos foreign, if_pos foreign]
    exact .of_eq alike rfl rfl
  · rw [if_neg foreign] at completes ⊢
    rw [if_neg foreign]
    cases valid : snapshot.validate with
    | error error => exact .of_eq alike rfl rfl
    | ok checked =>
      obtain ⟨⟩ := checked
      rw [valid] at completes
      dsimp only at completes ⊢
      have stored : Alike (withOrderbook left snapshot) (withOrderbook right snapshot) := by
        refine { alike with orderbooks := fun probe => ?_ }
        show AList.lookup probe (AList.insert _ _ _) = AList.lookup probe (AList.insert _ _ _)
        rw [lookup_insert_if, lookup_insert_if, alike.orderbooks]
      have order : iteration.Perm iteration' := (visits.trans (alike.marketOrders _)).trans visits'.symm
      have distinct : iteration.Nodup := visits.nodup_iff.mpr (marketOrders_nodup _ _)
      have clear : (collectRepricedFills adapter snapshot (withOrderbook left snapshot) iteration).error = none := by
        cases failed : (collectRepricedFills adapter snapshot (withOrderbook left snapshot) iteration).error with
        | none => rfl
        | some error =>
          rw [failed] at completes
          exact absurd ⟨snapshot, _, error, rfl, not_not.mp foreign, valid⟩ completes
      obtain ⟨clear', reached, put⟩ := collect_perm stored order distinct clear
      rw [clear, clear']
      exact {
        state := reached
        label := .replaced put
        next := .cons (.broadcasting put.length_eq) .nil
        shown := by simpa [broadcastsOf, inFlight, Call.inFlight] using put }

/-- Steps of calls alike stay alike, whatever orders the map hands its entries out in. -/
theorem run_alike (alike : Alike left right) (same : SameCall call other)
    (visits : Visits left iteration call) (visits' : Visits right iteration' other)
    (completes : ¬ Breaks adapter (call.run adapter iteration left).label) :
    SameOutcome call other (call.run adapter iteration left) (other.run adapter iteration' right) := by
  cases same with
  | same =>
    cases call with
    | submitting submission => exact checkDuplicate_alike alike submission
    | pricing submission => exact readBook_alike alike submission
    | inserting submission book => exact insertOrder_alike alike submission book
    | taking venueOrderId => exact takeActions_alike alike venueOrderId
    | replacing snapshot => exact replaceOrderbook_alike alike visits visits' completes
    | cancelling venueOrderId => exact cancelOrder_alike alike venueOrderId
    | broadcasting fills => cases fills <;> exact .of_eq alike rfl rfl
  | @broadcasting fills others length =>
    cases fills with
    | nil =>
      obtain rfl := List.eq_nil_of_length_eq_zero length.symm
      exact .of_eq alike rfl rfl
    | cons fill rest =>
      cases others with
      | nil => cases length
      | cons fill' rest' => exact {
          state := alike
          label := .broadcast fill fill'
          next := .cons (.broadcasting (Nat.succ.inj length)) .nil
          shown := by
            simpa [Call.run, broadcastsOf, inFlight, Call.inFlight] using
              (List.perm_append_comm : (fill :: rest ++ (fill' :: rest')).Perm _) }

/-- The steps of a schedule: a new call, or the next step of the call at a position. -/
inductive Turned (adapter : PaperAdapter) (system : System) : Turn × Label → System → Prop
  | called (call : Call) (entry : call.IsEntry) :
      Turned adapter system (.call call, .called call) ⟨system.state, system.calls ++ [call]⟩
  | ran {before after : List Call} {call : Call} (iteration : List VenueOrderId) (position : before.length = index)
      (running : system.calls = before ++ call :: after) (visits : Visits system.state iteration call) :
      Turned adapter system (.advance index, (call.run adapter iteration system.state).label)
        ⟨(call.run adapter iteration system.state).state,
          before ++ (call.run adapter iteration system.state).next.toList ++ after⟩

theorem Turned.moves (turned : Turned adapter system entry next) : Moves adapter system entry.2 next := by
  cases turned with
  | called call entry => exact .called call entry
  | ran iteration position running visits => exact .ran iteration running visits

/-- Every run follows some schedule. -/
theorem turned_of_run (run : Path (Moves adapter) first labels last) :
    ∃ steps, Path (Turned adapter) first steps last ∧ steps.map Prod.snd = labels := by
  induction run with
  | start => exact ⟨[], .start, rfl⟩
  | step run moves ih =>
    obtain ⟨steps, turned, rfl⟩ := ih
    cases moves with
    | called call entry => exact ⟨_, turned.step (.called call entry), List.map_append⟩
    | ran iteration running visits => exact ⟨_, turned.step (.ran iteration rfl running visits), List.map_append⟩

/-- Two runs of one schedule so far. -/
structure Twins (left right : System) (leftLabels rightLabels : List Label) : Prop where
  state : Alike left.state right.state
  calls : List.Forall₂ SameCall left.calls right.calls
  labels : List.Forall₂ SameLabel leftLabels rightLabels
  shown : (broadcastsOf leftLabels ++ inFlight left.calls).Perm (broadcastsOf rightLabels ++ inFlight right.calls)

/-- A turn that breaks nothing keeps two runs alike. -/
theorem Twins.step (twins : Twins left right leftLabels rightLabels)
    (moves : Turned adapter left (turn, label) next) (moves' : Turned adapter right (turn, label') next')
    (completes : ¬ Breaks adapter label) :
    Twins next next' (leftLabels ++ [label]) (rightLabels ++ [label']) := by
  cases moves with
  | called call entry =>
    cases moves' with
    | called call entry' => exact {
        state := twins.state
        calls := List.rel_append twins.calls (.cons (.same call) .nil)
        labels := List.rel_append twins.labels (.cons (.same _) .nil)
        shown := by
          rw [broadcastsOf_snoc, broadcastsOf_snoc]
          simpa [inFlight, inFlight_entry entry, broadcastsOf] using twins.shown }
  | ran iteration position running visits =>
    cases moves' with
    | ran iteration' position' running' visits' =>
      obtain ⟨state, calls⟩ := left
      obtain ⟨state', calls'⟩ := right
      obtain rfl : calls = _ := running
      obtain rfl : calls' = _ := running'
      obtain ⟨early', other, late', shape, length, early, here, late⟩ := forall₂_around twins.calls
      obtain ⟨rfl, same⟩ := List.append_inj shape (position'.trans (position.symm.trans length))
      obtain ⟨rfl, rfl⟩ := List.cons.inj same
      have outcome := run_alike twins.state here visits visits' completes
      refine ⟨outcome.state, List.rel_append (List.rel_append early outcome.next) late,
        List.rel_append twins.labels (.cons outcome.label .nil), ?_⟩
      have before := twins.shown
      have now := outcome.shown
      rw [List.perm_iff_count] at before now ⊢
      intro fill
      have before := before fill
      have now := now fill
      simp only [broadcastsOf_snoc, inFlight_split, inFlight_swap, List.count_append] at before now ⊢
      omega

/-- Runs of one schedule stay alike. -/
theorem twins_of_runs (left : Path (Turned adapter) .start steps leftEnd)
    (right : Path (Turned adapter) .start steps' rightEnd) (schedule : steps.map Prod.fst = steps'.map Prod.fst)
    (completes : ∀ step ∈ steps, ¬ Breaks adapter step.2) :
    Twins leftEnd rightEnd (steps.map Prod.snd) (steps'.map Prod.snd) := by
  induction left generalizing steps' rightEnd with
  | start =>
    obtain rfl := List.map_eq_nil_iff.mp schedule.symm
    generalize none : ([] : List (Turn × Label)) = steps' at right
    cases right with
    | start => exact ⟨.refl _, .nil, .nil, .nil⟩
    | step right moves => simp at none
  | @step steps left entry next run moves ih =>
    cases right with
    | start => simp at schedule
    | @step steps' right entry' next' run' moves' =>
      rw [List.map_append, List.map_append] at schedule
      obtain ⟨earlier, newest⟩ := List.append_inj' schedule rfl
      have twins := ih run' earlier fun step member => completes step (List.mem_append_left _ member)
      obtain ⟨turn, label⟩ := entry
      obtain ⟨turn', label'⟩ := entry'
      obtain rfl : turn = turn' := by simpa using newest
      rw [List.map_append, List.map_append]
      exact twins.step moves moves' (completes _ (List.mem_append_right _ (List.mem_singleton.mpr rfl)))

/-- Any two runs of one schedule, in which the map hands its entries out in whatever
orders. Unless an update breaks in one of them none does in the other; the states
cannot be told apart, the reports list the same open orders and the calls got the
same answers; and the fills broadcast or still on their way are the same, in
another order. -/
theorem iterations_unseen (left : Path (Turned adapter) .start steps leftEnd)
    (right : Path (Turned adapter) .start steps' rightEnd) (schedule : steps.map Prod.fst = steps'.map Prod.fst)
    (completes : ∀ step ∈ steps, ¬ Breaks adapter step.2) :
    (∀ step ∈ steps', ¬ Breaks adapter step.2) ∧
    Alike leftEnd.state rightEnd.state ∧ (queryOpenOrders leftEnd.state).Perm (queryOpenOrders rightEnd.state) ∧
    List.Forall₂ SameLabel (steps.map Prod.snd) (steps'.map Prod.snd) ∧
    List.Forall₂ SameCall leftEnd.calls rightEnd.calls ∧
    (broadcastsOf (steps.map Prod.snd) ++ inFlight leftEnd.calls).Perm
      (broadcastsOf (steps'.map Prod.snd) ++ inFlight rightEnd.calls) := by
  have twins := twins_of_runs left right schedule completes
  refine ⟨fun step member => ?_, twins.state, twins.state.reports, twins.labels, twins.calls, twins.shown⟩
  obtain ⟨position, bound, rfl⟩ := List.mem_iff_getElem.mp member
  have length : steps.length = steps'.length := by simpa using congrArg List.length schedule
  have same := twins.labels.get (i := position) (by simpa [length] using bound) (by simpa using bound)
  simp only [List.get_eq_getElem, List.getElem_map] at same
  exact same.completes (completes _ (List.getElem_mem (length ▸ bound)))

end Sections

section Samples
open Plain

/-- Another buy below the best ask of the sample book. -/
def otherBidder : OrderSubmission := sampleSubmission "satoshi-bid" .limit 1 (some 9995) .gtc

/-- Both rest. -/
def bothBid : List Turn :=
  [.call (.replacing (sampleOrderbook ⟨0⟩)), .advance 0, .advance 0,
    .call (.submitting bidder), .advance 0, .advance 0, .advance 0,
    .call (.submitting otherBidder), .advance 0, .advance 0, .advance 0]

/-- A book whose best ask takes both. -/
def loweredBook : OrderbookSnapshot := { sampleOrderbook ⟨1⟩ with bids := [⟨9980, 1⟩], asks := [⟨9990, 1⟩] }

/-- One of the orders in which the two come, and the other. -/
def bidderFirst : List VenueOrderId := [paperOrderId bidder.clientOrderId, paperOrderId otherBidder.clientOrderId]

/-- The label of no update that fails. -/
def updated : Label → Bool
  | .replaced _ _ (some _) => false
  | .replaced _ _ none | .called _ | .answered .. | .passed | .inserted .. | .taken .. | .cancelled .. |
    .broadcast _ | .returned => true

theorem not_breaks_of_updated (fine : updated label = true) : ¬ Breaks adapter label := by
  rintro ⟨snapshot, fills, error, rfl, -⟩
  cases fine

/-- The lowered book comes, and meets the orders in this order. -/
theorem turned_lowered (run : Path (Turned paperAdapter) .start steps system) (idle : system.calls = [])
    (visits : iteration.Perm (marketOrders system.state.openOrders loweredBook.marketId))
    (clear : (collectRepricedFills paperAdapter loweredBook (withOrderbook system.state loweredBook) iteration).error =
      none) :
    ∃ label next, Path (Turned paperAdapter) .start
        (steps ++ [(.call (.replacing loweredBook), .called (.replacing loweredBook))] ++ [(.advance 0, label)]) next ∧
      updated label = true ∧ inFlight next.calls =
        (collectRepricedFills paperAdapter loweredBook (withOrderbook system.state loweredBook) iteration).fills := by
  have accepted : Accepted paperAdapter loweredBook := ⟨rfl, by decide +kernel⟩
  have outcome := replaceOrderbook_accepted accepted
    (Eq.refl (collectRepricedFills paperAdapter loweredBook (withOrderbook system.state loweredBook) iteration))
  rw [clear] at outcome
  have running : system.calls ++ [.replacing loweredBook] = [] ++ Call.replacing loweredBook :: [] := by rw [idle]
  have called := run.step (.called (.replacing loweredBook) trivial)
  have ran := called.step (.ran iteration rfl running visits)
  refine ⟨_, _, ran, ?_, ?_⟩
  · simp only [Call.run, outcome]
    rfl
  · simp [Call.run, outcome, inFlight, Call.inFlight]

/-- Met in one order or the other, both are filled; the fills on their way differ in
their order only. -/
theorem iterations_unseen_on_two : ∃ steps steps' left right,
    Path (Turned paperAdapter) .start steps left ∧ Path (Turned paperAdapter) .start steps' right ∧
      (inFlight left.calls).map VenueFill.clientOrderId = [bidder.clientOrderId, otherBidder.clientOrderId] ∧
      (inFlight right.calls).map VenueFill.clientOrderId = [otherBidder.clientOrderId, bidder.clientOrderId] ∧
      Alike left.state right.state := by
  have played : ((play paperAdapter (fun _ label => updated label) .start bothBid).map fun played =>
      let collected := collectRepricedFills paperAdapter loweredBook (withOrderbook played.2.state loweredBook)
      decide (played.2.calls.length = 0 ∧ played.1.all updated = true ∧
        marketOrders played.2.state.openOrders loweredBook.marketId = bidderFirst.reverse ∧
        (collected bidderFirst).error = none ∧ (collected bidderFirst.reverse).error = none ∧
        (collected bidderFirst).fills.map VenueFill.clientOrderId =
          [bidder.clientOrderId, otherBidder.clientOrderId] ∧
        (collected bidderFirst.reverse).fills.map VenueFill.clientOrderId =
          [otherBidder.clientOrderId, bidder.clientOrderId])) = some true := by decide +kernel
  obtain ⟨⟨labels, system⟩, reached, views⟩ := Option.map_eq_some_iff.mp played
  obtain ⟨idle, fine, listed, clear, clear', shown, shown'⟩ := of_decide_eq_true views
  obtain ⟨steps, run, rfl⟩ := turned_of_run ((path_of_play reached).mono fun _ _ _ move => move.1)
  have idle := List.eq_nil_of_length_eq_zero idle
  obtain ⟨label, next, left, whole, flight⟩ :=
    turned_lowered run idle (by rw [listed]; exact List.reverse_perm bidderFirst |>.symm) clear
  obtain ⟨label', next', right, -, flight'⟩ := turned_lowered run idle (by rw [listed]) clear'
  refine ⟨_, _, next, next', left, right, by rw [flight, shown], by rw [flight', shown'], ?_⟩
  refine (iterations_unseen left right (by simp) fun step member => not_breaks_of_updated ?_).2.1
  rcases List.mem_append.mp member with earlier | newest
  · rcases List.mem_append.mp earlier with earlier | called
    · exact List.all_eq_true.mp fine _ (List.mem_map_of_mem earlier)
    · rw [List.mem_singleton.mp called]
      rfl
  · rw [List.mem_singleton.mp newest]
    exact whole

end Samples

end FeynmanEngine.IterationOrders
