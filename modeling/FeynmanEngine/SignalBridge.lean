import Mathlib.Algebra.Order.Ring.Rat
import FeynmanEngine.Engine
import FeynmanEngine.VenueOrders

/-! The signal bridge of `gateway/src/lib.rs`: a signal becomes at most one
draft order, sized from its conviction or its hint, priced at the side of the
book it crosses and routed to a venue that lists its instrument. The order's id
is made from the id the agent gave its signal. -/
namespace FeynmanEngine.SignalBridge
open Ids Orders Portfolio Engine Tables VenueOrders

/-- One venue-native listing for an instrument. -/
structure VenueSymbol where
  venueId : VenueId
  symbol : String
  deriving DecidableEq

/-- Mapping between venue-native symbols and instruments: an instrument lists a
symbol exactly if the symbol is mapped to it. -/
structure SymbolMap where
  forward : Table (VenueId × String) InstrumentId
  reverse : Table InstrumentId (List VenueSymbol)
  listed : ∀ instrumentId listing, listing ∈ (reverse.lookup instrumentId).getD [] ↔
    forward.lookup (listing.venueId, listing.symbol) = some instrumentId

namespace SymbolMap

/-- `SymbolMap::default()`. -/
def default : SymbolMap := ⟨∅, ∅, fun instrumentId listing => by simp⟩

/-- A listing is added once. -/
def pushListing (listings : List VenueSymbol) (listing : VenueSymbol) : List VenueSymbol :=
  if listings.any fun candidate => candidate.venueId = listing.venueId ∧ candidate.symbol = listing.symbol
  then listings else listings ++ [listing]

theorem mem_pushListing (listings : List VenueSymbol) (listing : VenueSymbol) :
    other ∈ pushListing listings listing ↔ other ∈ listings ∨ other = listing := by
  unfold pushListing
  split
  · next present =>
    simp only [List.any_eq_true, decide_eq_true_eq] at present
    obtain ⟨⟨venueId, symbol⟩, member, rfl, rfl⟩ := present
    constructor
    · exact Or.inl
    · rintro (old | rfl)
      · exact old
      · exact member
  · simp

/-- A symbol that is not mapped yet is listed under its instrument. -/
private theorem listed_insert (map : SymbolMap) (listing : VenueSymbol) (instrumentId : InstrumentId)
    (fresh : map.forward.lookup (listing.venueId, listing.symbol) = none) (probe : InstrumentId)
    (other : VenueSymbol) :
    other ∈ ((map.reverse.insert instrumentId
        (pushListing ((map.reverse.lookup instrumentId).getD []) listing)).lookup probe).getD [] ↔
      (map.forward.insert (listing.venueId, listing.symbol) instrumentId).lookup
        (other.venueId, other.symbol) = some probe := by
  have before := map.listed
  have same : (other.venueId, other.symbol) = (listing.venueId, listing.symbol) ↔ other = listing := by
    constructor
    · intro keys
      obtain ⟨venues, symbols⟩ := Prod.mk.inj keys
      cases other
      cases listing
      cases venues
      cases symbols
      rfl
    · rintro rfl
      rfl
  rw [lookup_insert_if, lookup_insert_if]
  simp only [same]
  by_cases hit : other = listing
  · subst hit
    by_cases own : probe = instrumentId
    · simp [own, mem_pushListing]
    · rw [if_neg own, if_pos rfl, before probe other, fresh]
      simp [Ne.symm own]
  · by_cases own : probe = instrumentId
    · subst own
      rw [if_pos rfl, if_neg hit, ← before probe other]
      simp [hit, mem_pushListing]
    · rw [if_neg own, if_neg hit]
      exact before probe other

/-- `insert`: a symbol keeps the instrument it was first mapped to. -/
def insert (map : SymbolMap) (venueId : VenueId) (symbol : String) (instrumentId : InstrumentId) :
    Except GatewayError SymbolMap :=
  match fresh : map.forward.lookup (venueId, symbol) with
  | some existing =>
    if existing ≠ instrumentId then
      .error (.validation ("symbol map conflict for " ++ venueId.value ++ ":" ++ symbol ++
        ": already mapped to " ++ existing.value))
    else .ok map
  | none =>
    .ok ⟨map.forward.insert (venueId, symbol) instrumentId,
      map.reverse.insert instrumentId
        (pushListing ((map.reverse.lookup instrumentId).getD []) ⟨venueId, symbol⟩),
      listed_insert map ⟨venueId, symbol⟩ instrumentId fresh⟩

def instrumentFor (map : SymbolMap) (venueId : VenueId) (symbol : String) : Option InstrumentId :=
  map.forward.lookup (venueId, symbol)

def venuesFor (map : SymbolMap) (instrumentId : InstrumentId) : Option (List VenueSymbol) :=
  map.reverse.lookup instrumentId

/-- A listing found for an instrument is mapped to it. -/
theorem instrumentFor_of_venuesFor {map : SymbolMap} (found : map.venuesFor instrumentId = some listings)
    (member : listing ∈ listings) :
    map.instrumentFor listing.venueId listing.symbol = some instrumentId := by
  apply (map.listed instrumentId listing).mp
  rw [show map.reverse.lookup instrumentId = some listings from found]
  exact member

end SymbolMap

/-- Current routing inputs for one venue. -/
structure VenueRouteState where
  connectionHealth : VenueConnectionHealth
  availableBalance : Decimal

def VenueRouteState.venueId (state : VenueRouteState) : VenueId := state.connectionHealth.venueId

inductive SignalRoutingPolicy where
  | firstListed
  | highestAvailableBalance

structure SignalOrderBridgeConfig where
  defaultOrderType : Orders.OrderType
  defaultTimeInForce : TimeInForce
  dryRun : Bool
  routingPolicy : SignalRoutingPolicy
  maxPriceAge : Nat

/-- `SignalOrderBridgeConfig::default()`; the age is 30 seconds. -/
def SignalOrderBridgeConfig.default : SignalOrderBridgeConfig :=
  ⟨.market, .ioc, true, .highestAvailableBalance, 30000000000⟩

structure SignalOrderBridge where
  config : SignalOrderBridgeConfig
  symbolMap : SymbolMap

/-- The characters `str::trim` removes. -/
def isWhiteSpace (c : Char) : Bool :=
  (0x9 ≤ c.val ∧ c.val ≤ 0xd) || c.val = 0x20 || c.val = 0x85 || c.val = 0xa0 || c.val = 0x1680 ||
    (0x2000 ≤ c.val ∧ c.val ≤ 0x200a) || c.val = 0x2028 || c.val = 0x2029 || c.val = 0x202f ||
    c.val = 0x205f || c.val = 0x3000

def orderIdForSignal (signalId : SignalId) : OrderId := ⟨"ord-" ++ signalId.value⟩

theorem orderIdForSignal_injective (same : orderIdForSignal left = orderIdForSignal right) : left = right := by
  obtain ⟨left⟩ := left
  obtain ⟨right⟩ := right
  have texts := congrArg String.toList (congrArg OrderId.value same)
  simp only [orderIdForSignal, String.toList_append, List.append_cancel_left_eq] at texts
  exact congrArg SignalId.mk (String.toList_injective texts)

/-- The last of the best funded venues, as `max_by` finds it. -/
def bestFunded : VenueSymbol × VenueRouteState → List (VenueSymbol × VenueRouteState) →
    VenueSymbol × VenueRouteState
  | best, [] => best
  | best, next :: rest =>
    bestFunded (if next.2.availableBalance < best.2.availableBalance then best else next) rest

/-- The venue picked is one of those offered, and none has a higher balance. -/
theorem bestFunded_spec (first : VenueSymbol × VenueRouteState)
    (rest : List (VenueSymbol × VenueRouteState)) :
    bestFunded first rest ∈ first :: rest ∧
      ∀ other ∈ first :: rest, other.2.availableBalance ≤ (bestFunded first rest).2.availableBalance := by
  induction rest generalizing first with
  | nil => exact ⟨List.mem_singleton.mpr rfl, fun other member => by rw [List.mem_singleton.mp member]; rfl⟩
  | cons next rest ih =>
    unfold bestFunded
    split
    · next smaller =>
      obtain ⟨member, best⟩ := ih first
      refine ⟨?_, fun other offered => ?_⟩
      · rcases List.mem_cons.mp member with same | later
        · rw [same]
          exact List.mem_cons_self
        · exact List.mem_cons_of_mem _ (List.mem_cons_of_mem _ later)
      · have own := best first List.mem_cons_self
        rcases List.mem_cons.mp offered with rfl | offered
        · exact own
        · rcases List.mem_cons.mp offered with rfl | later
          · exact le_trans (le_of_lt smaller) own
          · exact best other (List.mem_cons_of_mem _ later)
    · next larger =>
      obtain ⟨member, best⟩ := ih next
      refine ⟨List.mem_cons_of_mem _ member, fun other offered => ?_⟩
      rcases List.mem_cons.mp offered with rfl | offered
      · exact le_trans (not_lt.mp larger) (best next List.mem_cons_self)
      · exact best other offered

/-- Below the price of a buy, above that of a sell. -/
def OnLosingSide (side : Side) (price level : Decimal) : Prop :=
  match side with
  | .buy => level < price
  | .sell => price < level

/-- Above the price of a buy, below that of a sell. -/
def OnProfitableSide (side : Side) (price level : Decimal) : Prop :=
  match side with
  | .buy => price < level
  | .sell => level < price

instance (side : Side) (price level : Decimal) : Decidable (OnLosingSide side price level) :=
  match side with
  | .buy => inferInstanceAs (Decidable (level < price))
  | .sell => inferInstanceAs (Decidable (price < level))

instance (side : Side) (price level : Decimal) : Decidable (OnProfitableSide side price level) :=
  match side with
  | .buy => inferInstanceAs (Decidable (price < level))
  | .sell => inferInstanceAs (Decidable (level < price))

/-- The stop is on the losing side of the price, a target on the profitable side. -/
structure ExitsAround (side : Side) (price stopLoss : Decimal) (takeProfit : Option Decimal) : Prop where
  stop : OnLosingSide side price stopLoss
  target : ∀ profit, takeProfit = some profit → OnProfitableSide side price profit

section Bridge
variable [LibraryText]

def validateSignal (signal : Signal) : Except GatewayError Unit :=
  if signal.conviction < 0 ∨ 1 < signal.conviction then
    .error (.validation ("signal conviction must be within 0.0..=1.0, got " ++
      LibraryText.decimal signal.conviction))
  else if signal.conviction = 0 ∧ signal.sizingHint.isSome then
    .error (.validation "sizing_hint provided with zero conviction; intent is ambiguous")
  else if signal.stopLoss ≤ 0 then
    .error (.validation ("signal stop_loss must be positive, got " ++ LibraryText.decimal signal.stopLoss))
  else if signal.thesis.toList.all isWhiteSpace then
    .error (.validation "signal thesis must be non-empty")
  else
    match signal.sizingHint with
    | some sizingHint =>
      if sizingHint ≤ 0 then
        .error (.validation ("signal sizing_hint must be positive, got " ++ LibraryText.decimal sizingHint))
      else .ok ()
    | none => .ok ()

def validateExitTargets (signal : Signal) (referencePrice : Decimal) : Except GatewayError Unit :=
  let validStopLoss := match signal.direction with
    | .buy => decide (signal.stopLoss < referencePrice)
    | .sell => decide (referencePrice < signal.stopLoss)
  if !validStopLoss then
    .error (.validation ("stop_loss " ++ LibraryText.decimal signal.stopLoss ++
      " is not on the losing side of reference price " ++ LibraryText.decimal referencePrice ++ " for " ++
      signal.direction.debug))
  else
    match signal.takeProfit with
    | some takeProfit =>
      let validTakeProfit := match signal.direction with
        | .buy => decide (referencePrice < takeProfit)
        | .sell => decide (takeProfit < referencePrice)
      if !validTakeProfit then
        .error (.validation ("take_profit " ++ LibraryText.decimal takeProfit ++
          " is not on the profitable side of reference price " ++ LibraryText.decimal referencePrice ++
          " for " ++ signal.direction.debug))
      else .ok ()
    | none => .ok ()

/-- The check passes exactly when the exits are on their sides. -/
theorem validateExitTargets_ok_iff (signal : Signal) (referencePrice : Decimal) :
    validateExitTargets signal referencePrice = .ok () ↔
      ExitsAround signal.direction referencePrice signal.stopLoss signal.takeProfit := by
  have stopped : (match signal.direction with
      | .buy => decide (signal.stopLoss < referencePrice)
      | .sell => decide (referencePrice < signal.stopLoss)) =
        decide (OnLosingSide signal.direction referencePrice signal.stopLoss) := by
    cases signal.direction <;> rfl
  have targeted (takeProfit : Decimal) : (match signal.direction with
      | .buy => decide (referencePrice < takeProfit)
      | .sell => decide (takeProfit < referencePrice)) =
        decide (OnProfitableSide signal.direction referencePrice takeProfit) := by
    cases signal.direction <;> rfl
  simp only [validateExitTargets, stopped, targeted, Bool.not_eq_true', decide_eq_false_iff_not]
  constructor
  · intro passes
    split at passes
    · cases passes
    · next stop =>
      refine ⟨not_not.mp stop, fun profit given => ?_⟩
      simp only [given] at passes
      split at passes
      · cases passes
      · next target => exact not_not.mp target
  · rintro ⟨stop, target⟩
    rw [if_neg (not_not.mpr stop)]
    cases given : signal.takeProfit with
    | none => rfl
    | some profit => exact if_neg (not_not.mpr (target profit given))

/-- `reference_price_for`: the price of the side the signal crosses. -/
def referencePriceFor (bridge : SignalOrderBridge) (signal : Signal) (prices : PriceSource) :
    Except GatewayError Decimal :=
  match prices.latestPrice signal.instrument with
  | none => .error (.priceUnavailable signal.instrument.value)
  | some snapshot =>
    if prices.isStale signal.instrument bridge.config.maxPriceAge then
      .error (.stalePrice signal.instrument.value bridge.config.maxPriceAge)
    else
      let referencePrice := match signal.direction with
        | .buy => snapshot.ask
        | .sell => snapshot.bid
      if referencePrice ≤ 0 then
        .error (.validation ("reference price must be positive, got " ++ LibraryText.decimal referencePrice))
      else .ok referencePrice

/-- The quantity of a signal before it is checked. -/
def signalQty (signal : Signal) (allocatedCapital referencePrice : Decimal) : Except GatewayError Decimal :=
  match signal.sizingHint with
  | some sizingHint =>
    if allocatedCapital < sizingHint then
      .error (.validation ("sizing_hint " ++ LibraryText.decimal sizingHint ++
        " exceeds agent allocated_capital " ++ LibraryText.decimal allocatedCapital))
    else .ok (sizingHint / referencePrice)
  | none =>
    let maxLossPerUnit := |referencePrice - signal.stopLoss|
    if maxLossPerUnit ≤ 0 then
      .error (.validation "signal stop_loss must differ from the reference price")
    else .ok (signal.conviction * allocatedCapital / maxLossPerUnit)

def sizeSignal (signal : Signal) (allocatedCapital referencePrice : Decimal) : Except GatewayError Decimal :=
  match signalQty signal allocatedCapital referencePrice with
  | .error error => .error error
  | .ok qty =>
    if qty ≤ 0 then
      .error (.validation ("signal sizing produced a non-positive quantity: " ++ LibraryText.decimal qty))
    else .ok qty

/-- The state a mapped venue is routed with, if it is known, allowed and connected. -/
def routeFor (allowedVenues : Option (List VenueId)) (venueStates : List VenueRouteState) (mapping : VenueSymbol) :
    Option (VenueSymbol × VenueRouteState) :=
  match venueStates.find? fun candidate => candidate.venueId = mapping.venueId with
  | none => none
  | some state =>
    if allowedVenues.any fun allowed => !allowed.any fun venueId => venueId = mapping.venueId then none
    else if !state.connectionHealth.isSubmittable then none
    else some (mapping, state)

/-- The eligible venues, with their states. -/
def eligibleStates (mappedVenues : List VenueSymbol) (allowedVenues : Option (List VenueId))
    (venueStates : List VenueRouteState) : List (VenueSymbol × VenueRouteState) :=
  mappedVenues.filterMap (routeFor allowedVenues venueStates)

def selectVenue (bridge : SignalOrderBridge) (signal : Signal) (agentLimits : Option AgentRiskLimits)
    (venueStates : List VenueRouteState) : Except GatewayError VenueSymbol :=
  if (agentLimits.bind AgentRiskLimits.allowedInstruments).any fun allowed =>
      !allowed.any fun instrumentId => instrumentId = signal.instrument then
    .error (.routingUnavailable signal.instrument.value
      ("instrument " ++ signal.instrument.value ++ " is not allowed for agent " ++ signal.agent.value))
  else
    match bridge.symbolMap.venuesFor signal.instrument with
    | none => .error (.routingUnavailable signal.instrument.value "instrument is missing from the symbol map")
    | some mappedVenues =>
      match eligibleStates mappedVenues (agentLimits.bind AgentRiskLimits.allowedVenues) venueStates with
      | [] => .error (.routingUnavailable signal.instrument.value
          ("no mapped venue is simultaneously allowed and connected for " ++ signal.instrument.value))
      | first :: rest => .ok (match bridge.config.routingPolicy with
        | .firstListed => first.1
        | .highestAvailableBalance => (bestFunded first rest).1)

/-- The order of a signal that passed every check. -/
def draftCore (bridge : SignalOrderBridge) (signal : Signal) (venue : VenueSymbol)
    (qty referencePrice : Decimal) (now : DateTime) : OrderCore where
  id := orderIdForSignal signal.id
  basketId := signal.basketId
  agentId := signal.agent
  instrumentId := signal.instrument
  marketId := ⟨venue.symbol⟩
  venueId := venue.venueId
  side := signal.direction
  orderType := bridge.config.defaultOrderType
  timeInForce := bridge.config.defaultTimeInForce
  qty := qty
  price := some referencePrice
  triggerPrice := none
  stopLoss := some signal.stopLoss
  takeProfit := signal.takeProfit
  postOnly := false
  reduceOnly := false
  dryRun := bridge.config.dryRun
  execHint := {}
  createdAt := now

/-- `signal_to_orders`, without its log lines. -/
def signalToOrders (bridge : SignalOrderBridge) (signal : Signal) (firmBook : FirmBook)
    (agentLimits : Option AgentRiskLimits) (prices : PriceSource) (venueStates : List VenueRouteState)
    (now : DateTime) : Except GatewayError (List (PipelineOrder Draft)) := do
  validateSignal signal
  match firmBook.agentAllocations.lookup signal.agent with
  | none => .error (.agentAllocationNotFound signal.agent.value)
  | some allocation =>
    if allocation.status ≠ .active then
      .error (.validation ("agent " ++ signal.agent.value ++ " is not active: " ++
        allocation.status.toText))
    else if signal.conviction = 0 then .ok []
    else
      let referencePrice ← referencePriceFor bridge signal prices
      validateExitTargets signal referencePrice
      let qty ← sizeSignal signal allocation.allocatedCapital referencePrice
      let venue ← selectVenue bridge signal agentLimits venueStates
      .ok [PipelineOrder.new (draftCore bridge signal venue qty referencePrice now)]

omit [LibraryText] in
/-- A computation that goes on succeeded so far. -/
theorem bind_ok {A B : Type} {first : Except GatewayError A} {next : A → Except GatewayError B} {value : B}
    (succeeded : first.bind next = .ok value) : ∃ found, first = .ok found ∧ next found = .ok value := by
  cases first with
  | error error => cases succeeded
  | ok found => exact ⟨found, rfl, succeeded⟩

/-- A draft is its signal's order: of its agent, under its id, for a positive
quantity at a positive price, and at a listed, allowed and connected venue. -/
structure Drafted (bridge : SignalOrderBridge) (signal : Signal) (agentLimits : Option AgentRiskLimits)
    (venueStates : List VenueRouteState) (core : OrderCore) : Prop where
  id : core.id = orderIdForSignal signal.id
  agentId : core.agentId = signal.agent
  instrumentId : core.instrumentId = signal.instrument
  side : core.side = signal.direction
  qty : 0 < core.qty
  price : ∃ referencePrice, core.price = some referencePrice ∧ 0 < referencePrice
  mapped : bridge.symbolMap.instrumentFor core.venueId core.marketId.value = some signal.instrument
  connected : ∃ state ∈ venueStates, state.venueId = core.venueId ∧ state.connectionHealth.isSubmittable
  allowed : ∀ limits, agentLimits = some limits →
    (∀ instruments, limits.allowedInstruments = some instruments → core.instrumentId ∈ instruments) ∧
      ∀ venues, limits.allowedVenues = some venues → core.venueId ∈ venues

theorem referencePriceFor_ok (priced : referencePriceFor bridge signal prices = .ok referencePrice) :
    0 < referencePrice := by
  unfold referencePriceFor at priced
  split at priced
  · cases priced
  · split at priced
    · cases priced
    · cases side : signal.direction <;> rw [side] at priced <;> dsimp only at priced <;> split at priced
      · cases priced
      · next positive =>
        rw [← Except.ok.inj priced]
        exact not_le.mp positive
      · cases priced
      · next positive =>
        rw [← Except.ok.inj priced]
        exact not_le.mp positive

theorem sizeSignal_ok (sized : sizeSignal signal allocatedCapital referencePrice = .ok qty) : 0 < qty := by
  unfold sizeSignal at sized
  split at sized
  · cases sized
  · split at sized
    · cases sized
    · next positive =>
      rw [← Except.ok.inj sized]
      exact not_le.mp positive

omit [LibraryText] in
/-- An eligible venue is mapped, known, allowed and connected. -/
theorem eligible_of_mem (member : (mapping, state) ∈ eligibleStates mappedVenues allowedVenues venueStates) :
    mapping ∈ mappedVenues ∧ state ∈ venueStates ∧ state.venueId = mapping.venueId ∧
      state.connectionHealth.isSubmittable ∧
      ∀ allowed, allowedVenues = some allowed → mapping.venueId ∈ allowed := by
  obtain ⟨listing, listed, found⟩ := List.mem_filterMap.mp member
  unfold routeFor at found
  split at found
  · cases found
  · next other known =>
    split at found
    · cases found
    · next allowed =>
      split at found
      · cases found
      · next connected =>
        cases found
        have own := List.find?_some known
        refine ⟨listed, List.mem_of_find?_eq_some known, of_decide_eq_true own, by simpa using connected, ?_⟩
        rintro venues rfl
        simpa using allowed

omit [LibraryText] in
/-- The selected venue is eligible for the signal, and its instrument allowed. -/
theorem selectVenue_ok (selected : selectVenue bridge signal agentLimits venueStates = .ok venue) :
    (∀ allowed, agentLimits.bind AgentRiskLimits.allowedInstruments = some allowed →
      signal.instrument ∈ allowed) ∧
    ∃ mappedVenues state, bridge.symbolMap.venuesFor signal.instrument = some mappedVenues ∧
      (venue, state) ∈ eligibleStates mappedVenues (agentLimits.bind AgentRiskLimits.allowedVenues)
        venueStates := by
  unfold selectVenue at selected
  split at selected
  · cases selected
  · next allowed =>
    split at selected
    · cases selected
    · next mappedVenues mapped =>
      split at selected
      · cases selected
      · next first rest eligible =>
        refine ⟨?_, mappedVenues, ?_⟩
        · intro instruments limited
          simpa [limited] using allowed
        · rw [eligible]
          cases policy : bridge.config.routingPolicy with
          | firstListed =>
            rw [policy] at selected
            refine ⟨first.2, mapped, ?_⟩
            rw [← Except.ok.inj selected]
            exact List.mem_cons_self
          | highestAvailableBalance =>
            rw [policy] at selected
            refine ⟨(bestFunded first rest).2, mapped, ?_⟩
            rw [← Except.ok.inj selected]
            exact (bestFunded_spec first rest).1

/-- The bridge makes at most one order of a signal, and it is that signal's. -/
theorem signalToOrders_ok
    (bridged : signalToOrders bridge signal firmBook agentLimits prices venueStates now = .ok orders) :
    orders.length ≤ 1 ∧ ∀ order ∈ orders, Drafted bridge signal agentLimits venueStates order.core := by
  obtain ⟨-, -, checked⟩ := bind_ok bridged
  split at checked
  · cases checked
  · split at checked
    · cases checked
    · split at checked
      · rw [← Except.ok.inj checked]
        exact ⟨Nat.zero_le 1, List.forall_mem_nil _⟩
      · obtain ⟨referencePrice, priced, checked⟩ := bind_ok checked
        obtain ⟨-, -, checked⟩ := bind_ok checked
        obtain ⟨qty, sized, checked⟩ := bind_ok checked
        obtain ⟨venue, selected, checked⟩ := bind_ok checked
        rw [← Except.ok.inj checked]
        refine ⟨le_refl 1, List.forall_mem_singleton.mpr ?_⟩
        obtain ⟨instruments, mappedVenues, state, mapped, eligible⟩ := selectVenue_ok selected
        obtain ⟨listed, known, same, connected, venues⟩ := eligible_of_mem eligible
        exact {
          id := rfl
          agentId := rfl
          instrumentId := rfl
          side := rfl
          qty := sizeSignal_ok sized
          price := ⟨referencePrice, rfl, referencePriceFor_ok priced⟩
          mapped := SymbolMap.instrumentFor_of_venuesFor mapped listed
          connected := ⟨state, known, same, connected⟩
          allowed := by
            rintro limits rfl
            exact ⟨instruments, venues⟩ }

end Bridge

end FeynmanEngine.SignalBridge
