import Mathlib.Data.Finset.Insert
import FeynmanEngine.FillSimulation
import FeynmanEngine.Portfolio
import FeynmanEngine.Traces

/-! The paper adapter of `gateway/src/lib.rs`. Every section that holds the lock
is one step, and so is every broadcast of a fill; between them the sections of
any number of concurrent calls interleave. What a section learned is carried in
its call and may be out of date in the next one. -/
namespace FeynmanEngine.PaperVenue
open Ids Orders Orderbooks VenueOrders FillSimulation Portfolio Tables Traces

/-! ### Adapter and state -/

/-- What the calls read of a `PaperAdapter` without locking. -/
structure PaperAdapter where
  venueId : VenueId
  connection : ConnectionState
  fillSimulator : FillSimulator
  feeModel : FeeModel

structure PaperOpenOrder where
  submission : OrderSubmission
  venueOrderId : VenueOrderId
  acceptedAt : DateTime
  filledQty : Decimal
  deriving DecidableEq

def PaperOpenOrder.remainingQty (order : PaperOpenOrder) : Decimal :=
  order.submission.qty - order.filledQty

/-- `PaperAdapterState`, all of it under one lock. -/
structure PaperAdapterState where
  acknowledgedOrders : Finset VenueOrderId
  orderbooks : Table MarketId OrderbookSnapshot
  openOrders : Table VenueOrderId PaperOpenOrder
  idempotencyCache : Table ClientOrderId VenueOrderAck
  postAckActions : Table VenueOrderId PostAckActions

def PaperAdapterState.default : PaperAdapterState := ⟨∅, ∅, ∅, ∅, ∅⟩

def orderCoreFromSubmission (submission : OrderSubmission) (createdAt : DateTime) (qty : Decimal) :
    OrderCore where
  id := submission.orderId
  basketId := none
  agentId := submission.agentId
  instrumentId := submission.instrumentId
  marketId := submission.marketId
  venueId := submission.venueId
  side := submission.side
  orderType := submission.orderType
  timeInForce := submission.timeInForce
  qty := qty
  price := submission.price
  triggerPrice := submission.triggerPrice
  stopLoss := submission.stopLoss
  takeProfit := submission.takeProfit
  postOnly := submission.postOnly
  reduceOnly := submission.reduceOnly
  dryRun := submission.dryRun
  execHint := submission.execHint
  createdAt := createdAt

def paperOrderId (clientOrderId : ClientOrderId) : VenueOrderId := ⟨"paper-" ++ clientOrderId.value⟩

theorem paperOrderId_injective (same : paperOrderId left = paperOrderId right) : left = right := by
  obtain ⟨left⟩ := left
  obtain ⟨right⟩ := right
  have texts := congrArg String.toList (congrArg VenueOrderId.value same)
  simp only [paperOrderId, String.toList_append, List.append_cancel_left_eq] at texts
  exact congrArg ClientOrderId.mk (String.toList_injective texts)

/-! ### Calls and their labels -/

/-- What the last section of an accepted submission writes, and its answer. -/
structure Insertion where
  ack : VenueOrderAck
  openOrder : Option PaperOpenOrder
  actions : Option PostAckActions
  answer : Except GatewayError VenueOrderAck

/-- A call between two of its steps. -/
inductive Call where
  /-- `submit_order` before its first lock. -/
  | submitting (submission : OrderSubmission)
  /-- No ack was cached; the book is read next. -/
  | pricing (submission : OrderSubmission)
  /-- The order is simulated against this book, then inserted. -/
  | inserting (submission : OrderSubmission) (book : OrderbookSnapshot)
  | taking (venueOrderId : VenueOrderId)
  | replacing (snapshot : OrderbookSnapshot)
  | cancelling (venueOrderId : VenueOrderId)
  /-- Fills to broadcast before the call returns. -/
  | broadcasting (fills : List VenueFill)

/-- A call as its caller starts it. -/
def Call.IsEntry : Call → Prop
  | .submitting _ | .taking _ | .replacing _ | .cancelling _ => True
  | .pricing _ | .inserting .. | .broadcasting _ => False

instance : DecidablePred Call.IsEntry
  | .submitting _ | .taking _ | .replacing _ | .cancelling _ => isTrue trivial
  | .pricing _ | .inserting .. | .broadcasting _ => isFalse not_false

inductive Label where
  | called (call : Call)
  /-- `submit_order` returned without inserting anything. -/
  | answered (submission : OrderSubmission) (answer : Except GatewayError VenueOrderAck)
  | passed
  | inserted (submission : OrderSubmission) (insertion : Insertion)
  | taken (venueOrderId : VenueOrderId) (answer : Except GatewayError PostAckActions)
  /-- The fills of the section, lost if it ended in an error. -/
  | replaced (snapshot : OrderbookSnapshot) (fills : List VenueFill) (error : Option GatewayError)
  | cancelled (venueOrderId : VenueOrderId) (answer : Except GatewayError Unit)
  | broadcast (fill : VenueFill)
  | returned

/-- The end of a step: the call goes on, or it has returned. -/
structure Outcome where
  state : PaperAdapterState
  label : Label
  next : Option Call

/-! ### Fills -/

def PostAckFill.venueFill (queued : PostAckFill) : VenueFill where
  venueOrderId := queued.fill.venueOrderId
  clientOrderId := queued.clientOrderId
  instrumentId := queued.fill.instrumentId
  side := queued.fill.side
  qty := queued.fill.qty
  price := queued.fill.price
  fee := queued.fill.fee
  isMaker := queued.fill.isMaker
  filledAt := queued.fill.filledAt

def venueFills (actions : PostAckActions) : List VenueFill := actions.fills.map PostAckFill.venueFill

def Insertion.fills (insertion : Insertion) : List VenueFill :=
  match insertion.actions with
  | some actions => venueFills actions
  | none => []

/-- The fills a call has yet to broadcast. -/
def Call.inFlight : Call → List VenueFill
  | .broadcasting fills => fills
  | .submitting _ | .pricing _ | .inserting .. | .taking _ | .replacing _ | .cancelling _ => []

/-- The fills that have been broadcast, in order. -/
def broadcastsOf (labels : List Label) : List VenueFill :=
  labels.filterMap fun
    | .broadcast fill => some fill
    | .called _ | .answered .. | .passed | .inserted .. | .taken .. | .replaced .. | .cancelled .. |
      .returned => none

theorem broadcastsOf_snoc (labels : List Label) (label : Label) :
    broadcastsOf (labels ++ [label]) = broadcastsOf labels ++ broadcastsOf [label] :=
  List.filterMap_append

section Sections
variable [LibraryText]

/-! ### `submit_order` -/

def validateSubmission (adapter : PaperAdapter) (submission : OrderSubmission) :
    Except GatewayError Unit :=
  if submission.venueId ≠ adapter.venueId then
    .error (.validation ("paper adapter " ++ adapter.venueId.value ++
      " cannot accept order for venue " ++ submission.venueId.value))
  else
    match submission.orderType with
    | .stopMarket | .stopLimit | .trailingStop => .error (.unsupported
        ("paper adapter does not support order type " ++ submission.orderType.toText))
    | .market | .limit =>
      match submission.timeInForce with
      | .gtd _ => .error (.unsupported "paper adapter does not support GTD expiry handling yet")
      | .gtc | .ioc | .fok =>
        if submission.orderType = .limit ∧ submission.price = none then
          .error (.validation "limit order missing price")
        else .ok ()

/-- Up to and including the first lock: the duplicate check. -/
def checkDuplicate (adapter : PaperAdapter) (state : PaperAdapterState) (submission : OrderSubmission) :
    Outcome :=
  if adapter.connection ≠ .connected then
    ⟨state, .answered submission (.error
      (.venueNotConnected adapter.venueId.value adapter.connection.debug)), none⟩
  else
    match validateSubmission adapter submission with
    | .error error => ⟨state, .answered submission (.error error), none⟩
    | .ok () =>
      match state.idempotencyCache.lookup submission.clientOrderId with
      | some existing => ⟨state, .answered submission (.ok existing), none⟩
      | none => ⟨state, .passed, some (.pricing submission)⟩

/-- The second lock: the latest book of the market. -/
def readBook (state : PaperAdapterState) (submission : OrderSubmission) : Outcome :=
  match state.orderbooks.lookup submission.marketId with
  | none => ⟨state, .answered submission (.error (.priceUnavailable submission.instrumentId.value)), none⟩
  | some book => ⟨state, .passed, some (.inserting submission book)⟩

/-- What follows from the simulation: an error, or what the third lock writes. -/
def settle (submission : OrderSubmission) (ack : VenueOrderAck) :
    FillSimulationOutcome → Except GatewayError Insertion
  | .resting => .ok (match submission.timeInForce with
    | .gtc => ⟨ack, some ⟨submission, ack.venueOrderId, ack.acceptedAt, 0⟩, some .default, .ok ack⟩
    | .ioc => ⟨ack, none,
        some ⟨[], some "IOC order received no immediate fill on paper adapter"⟩, .ok ack⟩
    | .fok => ⟨ack, none, none,
        .error (.venueRejected "FOK order could not be fully filled on paper adapter")⟩
    | .gtd _ => ⟨ack, none, none,
        .error (.unsupported "paper adapter does not support GTD expiry handling yet")⟩)
  | .executed simulated =>
    let postAckFill : PostAckFill := ⟨submission.clientOrderId, simulated.fill⟩
    let unsupported : GatewayError := .venueRejected
      ("paper adapter only supports partial execution for GTC limit or IOC orders; " ++
        submission.orderType.toText ++ " " ++ submission.timeInForce.toText ++ " left " ++
        LibraryText.decimal simulated.remainingQty ++ " unfilled")
    if simulated.isComplete then .ok ⟨ack, none, some ⟨[postAckFill], none⟩, .ok ack⟩
    else
      match submission.timeInForce with
      | .gtc =>
        if submission.orderType = .limit then
          .ok ⟨ack, some ⟨submission, ack.venueOrderId, ack.acceptedAt, simulated.fill.qty⟩,
            some ⟨[postAckFill], none⟩, .ok ack⟩
        else .error unsupported
      | .ioc => .ok ⟨ack, none,
          some ⟨[postAckFill], some "IOC residual quantity cancelled on paper adapter"⟩, .ok ack⟩
      | .fok => .error (.venueRejected "FOK order could not be fully filled on paper adapter")
      | .gtd _ => .error unsupported

/-- Between the second and the third lock. -/
def prepare (adapter : PaperAdapter) (submission : OrderSubmission) (book : OrderbookSnapshot) :
    Except GatewayError Insertion :=
  let venueOrderId := paperOrderId submission.clientOrderId
  let ack : VenueOrderAck := ⟨venueOrderId, submission.clientOrderId, book.receivedAt⟩
  let orderCore := orderCoreFromSubmission submission book.receivedAt submission.qty
  match adapter.fillSimulator.simulate orderCore venueOrderId book adapter.feeModel with
  | .error error => .error error
  | .ok .resting => settle submission ack .resting
  | .ok (.executed simulated) =>
    if submission.postOnly then
      .error (.venueRejected "post-only order would take liquidity on paper adapter")
    else settle submission ack (.executed simulated)

def insertIfSome {K V : Type} [DecidableEq K] (table : Table K V) (key : K) : Option V → Table K V
  | some value => table.insert key value
  | none => table

omit [LibraryText] in
/-- What is found after the write is what was written or was there before. -/
theorem lookup_of_insertIfSome {K V : Type} [DecidableEq K] {table : Table K V} {key probe : K} {value : V}
    {written : Option V} (found : (insertIfSome table key written).lookup probe = some value) :
    probe = key ∧ written = some value ∨ table.lookup probe = some value := by
  cases written with
  | none => exact Or.inr found
  | some entry =>
    rw [insertIfSome, lookup_insert_if] at found
    split at found
    · next own => exact Or.inl ⟨own, found⟩
    · exact Or.inr found

omit [LibraryText] in
theorem isSome_insertIfSome {K V : Type} [DecidableEq K] {table : Table K V} (key : K) {probe : K}
    (written : Option V) (there : (table.lookup probe).isSome) :
    ((insertIfSome table key written).lookup probe).isSome := by
  cases written with
  | none => exact there
  | some entry =>
    rw [insertIfSome, lookup_insert_if]
    split
    · rfl
    · exact there

/-- The writes of the third lock. -/
def insert (state : PaperAdapterState) (insertion : Insertion) : PaperAdapterState :=
  { state with
    idempotencyCache := state.idempotencyCache.insert insertion.ack.clientOrderId insertion.ack
    acknowledgedOrders := Insert.insert insertion.ack.venueOrderId state.acknowledgedOrders
    openOrders := insertIfSome state.openOrders insertion.ack.venueOrderId insertion.openOrder
    postAckActions := insertIfSome state.postAckActions insertion.ack.venueOrderId insertion.actions }

/-- The simulation and the third lock. -/
def insertOrder (adapter : PaperAdapter) (state : PaperAdapterState) (submission : OrderSubmission)
    (book : OrderbookSnapshot) : Outcome :=
  match prepare adapter submission book with
  | .error error => ⟨state, .answered submission (.error error), none⟩
  | .ok insertion => ⟨insert state insertion, .inserted submission insertion, none⟩

/-! ### `take_post_ack_actions`, `cancel_order` -/

/-- The lock of `take_post_ack_actions`; its fills are broadcast after it. -/
def takeActions (state : PaperAdapterState) (venueOrderId : VenueOrderId) : Outcome :=
  match state.postAckActions.lookup venueOrderId with
  | some actions => ⟨{ state with postAckActions := state.postAckActions.erase venueOrderId },
      .taken venueOrderId (.ok actions), some (.broadcasting (venueFills actions))⟩
  | none =>
    if venueOrderId ∈ state.acknowledgedOrders then
      ⟨state, .taken venueOrderId (.ok .default), some (.broadcasting [])⟩
    else ⟨state, .taken venueOrderId (.error (.orderNotFound venueOrderId.value)), none⟩

def cancelOrder (state : PaperAdapterState) (venueOrderId : VenueOrderId) : Outcome :=
  match state.openOrders.lookup venueOrderId with
  | some _ => ⟨{ state with openOrders := state.openOrders.erase venueOrderId },
      .cancelled venueOrderId (.ok ()), none⟩
  | none => ⟨state, .cancelled venueOrderId (.error (.orderNotFound venueOrderId.value)), none⟩

/-! ### `replace_orderbook` -/

/-- The open orders of a market, in the table's own order. -/
def marketOrders (openOrders : Table VenueOrderId PaperOpenOrder) (marketId : MarketId) :
    List VenueOrderId :=
  (openOrders.entries.filter fun entry => entry.2.submission.marketId = marketId).map Sigma.fst

def repricedFill (venueOrderId : VenueOrderId) (existing : PaperOpenOrder) (fill : Fill) : VenueFill where
  venueOrderId := venueOrderId
  clientOrderId := existing.submission.clientOrderId
  instrumentId := fill.instrumentId
  side := fill.side
  qty := fill.qty
  price := fill.price
  fee := fill.fee
  isMaker := fill.isMaker
  filledAt := fill.filledAt

/-- The simulation of what is left of an open order. -/
def simulateRest (adapter : PaperAdapter) (snapshot : OrderbookSnapshot) (venueOrderId : VenueOrderId)
    (existing : PaperOpenOrder) : Except GatewayError FillSimulationOutcome :=
  adapter.fillSimulator.simulate
    (orderCoreFromSubmission existing.submission existing.acceptedAt existing.remainingQty)
    venueOrderId snapshot adapter.feeModel

/-- One open order of `collect_repriced_fills`. -/
def repriceOrder (adapter : PaperAdapter) (snapshot : OrderbookSnapshot) (state : PaperAdapterState)
    (venueOrderId : VenueOrderId) : Except GatewayError (PaperAdapterState × List VenueFill) :=
  match state.openOrders.lookup venueOrderId with
  | none => .ok (state, [])
  | some existing =>
    if existing.remainingQty ≤ 0 then
      .ok ({ state with openOrders := state.openOrders.erase venueOrderId }, [])
    else
      match simulateRest adapter snapshot venueOrderId existing with
      | .error error => .error error
      | .ok .resting => .ok (state, [])
      | .ok (.executed simulated) =>
        let openOrders :=
          if simulated.isComplete then state.openOrders.erase venueOrderId
          else state.openOrders.insert venueOrderId
            { existing with filledQty := existing.filledQty + simulated.fill.qty }
        .ok ({ state with openOrders := openOrders },
          [repricedFill venueOrderId existing simulated.fill])

/-- What a repricing did before it ended, perhaps in an error. -/
structure Repriced where
  state : PaperAdapterState
  fills : List VenueFill
  error : Option GatewayError

/-- `collect_repriced_fills` over the open orders of the market. -/
def collectRepricedFills (adapter : PaperAdapter) (snapshot : OrderbookSnapshot) :
    PaperAdapterState → List VenueOrderId → Repriced
  | state, [] => ⟨state, [], none⟩
  | state, venueOrderId :: rest =>
    match repriceOrder adapter snapshot state venueOrderId with
    | .error error => ⟨state, [], some error⟩
    | .ok (next, fills) =>
      let repriced := collectRepricedFills adapter snapshot next rest
      { repriced with fills := fills ++ repriced.fills }

def withOrderbook (state : PaperAdapterState) (snapshot : OrderbookSnapshot) : PaperAdapterState :=
  { state with orderbooks := state.orderbooks.insert snapshot.marketId snapshot }

/-- The lock of `replace_orderbook`; its fills are broadcast after it. The order
in which open orders come is the hash map's. -/
def replaceOrderbook (adapter : PaperAdapter) (state : PaperAdapterState) (snapshot : OrderbookSnapshot)
    (iteration : List VenueOrderId) : Outcome :=
  if snapshot.venueId ≠ adapter.venueId then
    ⟨state, .replaced snapshot [] (some (.validation ("paper adapter for " ++ adapter.venueId.value ++
      " cannot ingest snapshot for " ++ snapshot.venueId.value))), none⟩
  else
    match snapshot.validate with
    | .error error => ⟨state, .replaced snapshot [] (some (.validation error.toText)), none⟩
    | .ok () =>
      let repriced := collectRepricedFills adapter snapshot (withOrderbook state snapshot) iteration
      ⟨repriced.state, .replaced snapshot repriced.fills repriced.error,
        if repriced.error.isSome then none else some (.broadcasting repriced.fills)⟩

/-! ### Interleavings -/

/-- The next step of a call; `iteration` is the order in which a repricing
meets the open orders. -/
def Call.run (adapter : PaperAdapter) (iteration : List VenueOrderId) (state : PaperAdapterState) :
    Call → Outcome
  | .submitting submission => checkDuplicate adapter state submission
  | .pricing submission => readBook state submission
  | .inserting submission book => insertOrder adapter state submission book
  | .taking venueOrderId => takeActions state venueOrderId
  | .replacing snapshot => replaceOrderbook adapter state snapshot iteration
  | .cancelling venueOrderId => cancelOrder state venueOrderId
  | .broadcasting [] => ⟨state, .returned, none⟩
  | .broadcasting (fill :: rest) => ⟨state, .broadcast fill, some (.broadcasting rest)⟩

/-- What the next step of a call can be, and what it takes. Nothing else looks
into the sections: everything about single steps follows from this. -/
inductive Ran (adapter : PaperAdapter) (iteration : List VenueOrderId) (state : PaperAdapterState) :
    Call → Outcome → Prop
  | answered (landed : call.inFlight = [])
      (cached : ∀ ack, answer = .ok ack → state.idempotencyCache.lookup submission.clientOrderId = some ack) :
      Ran adapter iteration state call ⟨state, .answered submission answer, none⟩
  | passed (connected : adapter.connection = .connected) (valid : validateSubmission adapter submission = .ok ())
      (unseen : state.idempotencyCache.lookup submission.clientOrderId = none) :
      Ran adapter iteration state (.submitting submission) ⟨state, .passed, some (.pricing submission)⟩
  | priced (found : state.orderbooks.lookup submission.marketId = some book) :
      Ran adapter iteration state (.pricing submission) ⟨state, .passed, some (.inserting submission book)⟩
  | inserted (prepared : prepare adapter submission book = .ok insertion) :
      Ran adapter iteration state (.inserting submission book)
        ⟨insert state insertion, .inserted submission insertion, none⟩
  | taken (found : state.postAckActions.lookup venueOrderId = some actions) :
      Ran adapter iteration state (.taking venueOrderId)
        ⟨{ state with postAckActions := state.postAckActions.erase venueOrderId },
          .taken venueOrderId (.ok actions), some (.broadcasting (venueFills actions))⟩
  | retaken (acknowledged : venueOrderId ∈ state.acknowledgedOrders) :
      Ran adapter iteration state (.taking venueOrderId)
        ⟨state, .taken venueOrderId (.ok .default), some (.broadcasting [])⟩
  | missed : Ran adapter iteration state (.taking venueOrderId) ⟨state, .taken venueOrderId (.error error), none⟩
  | refused :
      Ran adapter iteration state (.replacing snapshot) ⟨state, .replaced snapshot [] (some error), none⟩
  | replaced (home : snapshot.venueId = adapter.venueId) (valid : snapshot.validate = .ok ())
      (repriced : collectRepricedFills adapter snapshot (withOrderbook state snapshot) iteration = collected) :
      Ran adapter iteration state (.replacing snapshot)
        ⟨collected.state, .replaced snapshot collected.fills collected.error,
          if collected.error.isSome then none else some (.broadcasting collected.fills)⟩
  | cancelled (found : state.openOrders.lookup venueOrderId = some order) :
      Ran adapter iteration state (.cancelling venueOrderId)
        ⟨{ state with openOrders := state.openOrders.erase venueOrderId }, .cancelled venueOrderId (.ok ()), none⟩
  | unknown :
      Ran adapter iteration state (.cancelling venueOrderId) ⟨state, .cancelled venueOrderId (.error error), none⟩
  | broadcast :
      Ran adapter iteration state (.broadcasting (fill :: rest)) ⟨state, .broadcast fill, some (.broadcasting rest)⟩
  | returned : Ran adapter iteration state (.broadcasting []) ⟨state, .returned, none⟩

theorem ran (adapter : PaperAdapter) (iteration : List VenueOrderId) (state : PaperAdapterState) (call : Call) :
    Ran adapter iteration state call (call.run adapter iteration state) := by
  cases call with
  | submitting submission =>
    simp only [Call.run, checkDuplicate]
    split
    · exact .answered rfl nofun
    · next connected =>
      split
      · exact .answered rfl nofun
      · next valid =>
        split
        · next existing cached =>
          refine .answered rfl fun ack same => ?_
          cases same
          exact cached
        · next unseen => exact .passed (not_not.mp connected) valid unseen
  | pricing submission =>
    simp only [Call.run, readBook]
    split
    · exact .answered rfl nofun
    · next book found => exact .priced found
  | inserting submission book =>
    simp only [Call.run, insertOrder]
    split
    · exact .answered rfl nofun
    · next insertion prepared => exact .inserted prepared
  | taking venueOrderId =>
    simp only [Call.run, takeActions]
    split
    · next actions found => exact .taken found
    · split
      · next acknowledged => exact .retaken acknowledged
      · exact .missed
  | replacing snapshot =>
    simp only [Call.run, replaceOrderbook]
    split
    · exact .refused
    · next home =>
      split
      · exact .refused
      · next valid => exact .replaced (not_not.mp home) valid rfl
  | cancelling venueOrderId =>
    simp only [Call.run, cancelOrder]
    split
    · next order found => exact .cancelled found
    · exact .unknown
  | broadcasting fills =>
    cases fills with
    | nil => exact .returned
    | cons fill rest => exact .broadcast

/-- The adapter and the calls that have not returned. -/
structure System where
  state : PaperAdapterState
  calls : List Call

def System.start : System := ⟨.default, []⟩

/-- A repricing meets every open order of its market once, in some order. -/
def Visits (state : PaperAdapterState) (iteration : List VenueOrderId) : Call → Prop
  | .replacing snapshot => iteration.Perm (marketOrders state.openOrders snapshot.marketId)
  | .submitting _ | .pricing _ | .inserting .. | .taking _ | .cancelling _ | .broadcasting _ => True

/-- Calls start at any time, and any running call may take the next step. -/
inductive Moves (adapter : PaperAdapter) (system : System) : Label → System → Prop
  | called (call : Call) (entry : call.IsEntry) :
      Moves adapter system (.called call) ⟨system.state, system.calls ++ [call]⟩
  | ran {before after : List Call} {call : Call} (iteration : List VenueOrderId)
      (running : system.calls = before ++ call :: after)
      (visits : Visits system.state iteration call) :
      Moves adapter system (call.run adapter iteration system.state).label
        ⟨(call.run adapter iteration system.state).state,
          before ++ (call.run adapter iteration system.state).next.toList ++ after⟩

/-! ### Schedules -/

/-- The step of a running call, between the calls before and after it; repricings
meet open orders in table order. -/
def sectionAt (adapter : PaperAdapter) (state : PaperAdapterState) (calls : List Call) (index : Nat) :
    Option (List Call × Outcome × List Call) :=
  calls[index]?.map fun call =>
    let iteration := match call with
      | .replacing snapshot => marketOrders state.openOrders snapshot.marketId
      | .submitting _ | .pricing _ | .inserting .. | .taking _ | .cancelling _ | .broadcasting _ => []
    (calls.take index, call.run adapter iteration state, calls.drop (index + 1))

theorem runs_of_sectionAt (found : sectionAt adapter state calls index = some (before, outcome, after)) :
    ∃ call iteration, calls = before ++ call :: after ∧ Visits state iteration call ∧
      outcome = call.run adapter iteration state := by
  obtain ⟨call, at_index, same⟩ := Option.map_eq_some_iff.mp found
  obtain ⟨bound, held⟩ := List.getElem?_eq_some_iff.mp at_index
  cases same
  refine ⟨call, _, ?_, ?_, rfl⟩
  · rw [← held, ← List.drop_eq_getElem_cons bound, List.take_append_drop]
  · cases call <;> first | exact trivial | exact List.Perm.refl _

/-- One choice of a scheduler: a new call, or a step of a running one. -/
inductive Turn where
  | call (call : Call)
  | advance (index : Nat)

def take (adapter : PaperAdapter) (system : System) : Turn → Option (Label × System)
  | .call call => if call.IsEntry then some (.called call, ⟨system.state, system.calls ++ [call]⟩) else none
  | .advance index => (sectionAt adapter system.state system.calls index).map fun (before, outcome, after) =>
      (outcome.label, ⟨outcome.state, before ++ outcome.next.toList ++ after⟩)

theorem take_moves (taken : take adapter system turn = some (label, next)) :
    Moves adapter system label next := by
  cases turn with
  | call call =>
    obtain ⟨entry, same⟩ := Option.ite_none_right_eq_some.mp taken
    cases same
    exact .called call entry
  | advance index =>
    obtain ⟨⟨before, outcome, after⟩, found, same⟩ := Option.map_eq_some_iff.mp taken
    cases same
    obtain ⟨call, iteration, running, visits, rfl⟩ := runs_of_sectionAt found
    exact .ran iteration running visits

/-- A whole schedule, as long as every step meets a condition. -/
def play (adapter : PaperAdapter) (meets : System → Label → Bool) :
    System → List Turn → Option (List Label × System) :=
  follow fun system turn => (take adapter system turn).filter fun taken => meets system taken.1

/-- A played schedule is a run. -/
theorem path_of_play (played : play adapter meets system turns = some (labels, final)) :
    Path (fun system label next => Moves adapter system label next ∧ meets system label = true)
      system labels final := by
  refine .of_follow (fun system turn label next taken => ?_) played
  obtain ⟨moved, met⟩ := Option.filter_eq_some_iff.mp taken
  exact ⟨take_moves moved, met⟩

end Sections

/-! ### The tests' adapter -/

namespace Plain

scoped instance : LibraryText := wholeText

def zeroFee : FeeModel := ⟨fun _ => .ok ⟨0, 0, 0, 0, 0⟩⟩

/-- The connected adapter of the tests. -/
def paperAdapter : PaperAdapter := ⟨⟨"paper"⟩, .connected, liveOrderbookFillSimulator, zeroFee⟩

def sampleOrderbook (now : DateTime) : OrderbookSnapshot where
  venueId := ⟨"paper"⟩
  instrumentId := ⟨"BTC"⟩
  marketId := ⟨"BTCUSDT"⟩
  bids := [⟨9990, 2⟩, ⟨9980, 3⟩]
  asks := [⟨10000, 1⟩, ⟨10010, 3⟩]
  observedAt := now
  receivedAt := now

/-- `sample_submission`, a buy. -/
def sampleSubmission (clientOrderId : String) (orderType : Orders.OrderType) (qty : Decimal)
    (price : Option Decimal) (timeInForce : TimeInForce) : OrderSubmission where
  orderId := ⟨"ord-" ++ clientOrderId⟩
  clientOrderId := ⟨clientOrderId⟩
  agentId := ⟨"athena"⟩
  instrumentId := ⟨"BTC"⟩
  marketId := ⟨"BTCUSDT"⟩
  venueId := ⟨"paper"⟩
  side := .buy
  orderType := orderType
  timeInForce := timeInForce
  qty := qty
  price := price
  triggerPrice := none
  stopLoss := none
  takeProfit := none
  postOnly := false
  reduceOnly := false
  dryRun := true
  execHint := {}

end Plain

end FeynmanEngine.PaperVenue
