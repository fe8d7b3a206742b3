import FeynmanEngine.SignalAcks

/-! Orders the signal bridge makes are sound. Every check of the bridge leaves
one fact about the order: its price is the side of a fresh quote that the signal
crosses, its size is what conviction or hint ask for, and its venue is one of
the eligible pairs, the first or the best funded. -/
namespace FeynmanEngine.SignalDrafts
open Ids Orders Tables Portfolio Engine VenueOrders SequencerFixtures SignalBridge SignalAcks

/-- The quoted price of the side a signal crosses. -/
def crossedPrice (side : Side) (snapshot : PriceSnapshot) : Decimal :=
  match side with
  | .buy => snapshot.ask
  | .sell => snapshot.bid

/-- What an order loses when it is stopped out. -/
def lossAtStop (side : Side) (qty price stopLoss : Decimal) : Decimal :=
  match side with
  | .buy => qty * (price - stopLoss)
  | .sell => qty * (stopLoss - price)

/-- The loss is the conviction's share of the capital; with a hint, the notional
is the hint and within the capital. -/
def SizedFor (signal : Signal) (allocatedCapital qty price : Decimal) : Prop :=
  match signal.sizingHint with
  | none => lossAtStop signal.direction qty price signal.stopLoss = signal.conviction * allocatedCapital
  | some sizingHint => qty * price = sizingHint ∧ sizingHint ≤ allocatedCapital

/-- A listing of the signal's instrument at a connected venue, both allowed. A
venue is in the state first listed for it. -/
structure Eligible (bridge : SignalOrderBridge) (signal : Signal) (agentLimits : Option AgentRiskLimits)
    (venueStates : List VenueRouteState) (listing : VenueSymbol) (state : VenueRouteState) : Prop where
  mapped : bridge.symbolMap.instrumentFor listing.venueId listing.symbol = some signal.instrument
  known : venueStates.find? (fun candidate => candidate.venueId = listing.venueId) = some state
  connected : state.connectionHealth.state = .connected
  instrument : ∀ limits, agentLimits = some limits → ∀ allowed, limits.allowedInstruments = some allowed →
    signal.instrument ∈ allowed
  venue : ∀ limits, agentLimits = some limits → ∀ allowed, limits.allowedVenues = some allowed →
    listing.venueId ∈ allowed

/-- The listing the policy asks for: the first eligible one of the symbol map,
or one at a venue of the highest balance. -/
def Preferred (bridge : SignalOrderBridge) (signal : Signal) (agentLimits : Option AgentRiskLimits)
    (venueStates : List VenueRouteState) (listing : VenueSymbol) (state : VenueRouteState) : Prop :=
  match bridge.config.routingPolicy with
  | .firstListed => ∃ before after, bridge.symbolMap.venuesFor signal.instrument = some (before ++ listing :: after) ∧
      ∀ earlier ∈ before, ∀ other, ¬ Eligible bridge signal agentLimits venueStates earlier other
  | .highestAvailableBalance => ∀ listing' other, Eligible bridge signal agentLimits venueStates listing' other →
      other.availableBalance ≤ state.availableBalance

structure SoundOrder (bridge : SignalOrderBridge) (signal : Signal) (firmBook : FirmBook)
    (agentLimits : Option AgentRiskLimits) (prices : PriceSource) (venueStates : List VenueRouteState)
    (core : OrderCore) : Prop where
  agent : core.agentId = signal.agent
  instrument : core.instrumentId = signal.instrument
  side : core.side = signal.direction
  positive : 0 < core.qty
  exits : core.stopLoss = some signal.stopLoss ∧ core.takeProfit = signal.takeProfit
  priced : ∃ snapshot, prices.latestPrice signal.instrument = some snapshot ∧
    prices.isStale signal.instrument bridge.config.maxPriceAge = false ∧
    core.price = some (crossedPrice signal.direction snapshot) ∧ 0 < crossedPrice signal.direction snapshot ∧
    ExitsAround signal.direction (crossedPrice signal.direction snapshot) signal.stopLoss signal.takeProfit ∧
    ∃ allocation, firmBook.agentAllocations.lookup signal.agent = some allocation ∧ allocation.status = .active ∧
      SizedFor signal allocation.allocatedCapital core.qty (crossedPrice signal.direction snapshot)
  routed : ∃ state, Eligible bridge signal agentLimits venueStates ⟨core.venueId, core.marketId.value⟩ state ∧
    Preferred bridge signal agentLimits venueStates ⟨core.venueId, core.marketId.value⟩ state

section Bridge
variable [LibraryText]

theorem referencePriceFor_crosses (found : referencePriceFor bridge signal prices = .ok price) :
    ∃ snapshot, prices.latestPrice signal.instrument = some snapshot ∧
      prices.isStale signal.instrument bridge.config.maxPriceAge = false ∧
      price = crossedPrice signal.direction snapshot := by
  unfold referencePriceFor at found
  split at found
  · cases found
  · next snapshot quoted =>
    split at found
    · cases found
    · next fresh =>
      refine ⟨snapshot, quoted, by simpa using fresh, ?_⟩
      cases side : signal.direction <;> rw [side] at found <;> dsimp only at found <;> split at found
      · cases found
      · exact (Except.ok.inj found).symm
      · cases found
      · exact (Except.ok.inj found).symm

/-- A size is exact, as divisions are. -/
theorem sizeSignal_sized (sized : sizeSignal signal allocatedCapital price = .ok qty) (positive : 0 < price)
    (around : ExitsAround signal.direction price signal.stopLoss signal.takeProfit) :
    SizedFor signal allocatedCapital qty price := by
  unfold sizeSignal signalQty at sized
  unfold SizedFor
  cases hint : signal.sizingHint with
  | some sizingHint =>
    simp only [hint] at sized
    by_cases above : allocatedCapital < sizingHint
    · rw [if_pos above] at sized
      cases sized
    · rw [if_neg above] at sized
      dsimp only at sized
      split at sized
      · cases sized
      · rw [← Except.ok.inj sized]
        exact ⟨div_mul_cancel₀ sizingHint (ne_of_gt positive), not_lt.mp above⟩
  | none =>
    simp only [hint] at sized
    by_cases flat : |price - signal.stopLoss| ≤ 0
    · rw [if_pos flat] at sized
      cases sized
    · rw [if_neg flat] at sized
      dsimp only at sized
      split at sized
      · cases sized
      · rw [← Except.ok.inj sized]
        have exact_loss : signal.conviction * allocatedCapital / |price - signal.stopLoss| *
            |price - signal.stopLoss| = signal.conviction * allocatedCapital :=
          div_mul_cancel₀ _ (ne_of_gt (not_le.mp flat))
        have stop := around.stop
        cases side : signal.direction with
        | buy =>
          rw [side] at stop
          rw [abs_of_pos (sub_pos.mpr stop)] at exact_loss ⊢
          exact exact_loss
        | sell =>
          rw [side] at stop
          rw [abs_of_neg (sub_neg.mpr stop), neg_sub] at exact_loss ⊢
          exact exact_loss

end Bridge

theorem routeFor_eq_some_iff (allowedVenues : Option (List VenueId)) (venueStates : List VenueRouteState)
    (mapping listing : VenueSymbol) (state : VenueRouteState) :
    routeFor allowedVenues venueStates mapping = some (listing, state) ↔
      mapping = listing ∧ venueStates.find? (fun candidate => candidate.venueId = listing.venueId) = some state ∧
        state.connectionHealth.state = .connected ∧
        ∀ allowed, allowedVenues = some allowed → listing.venueId ∈ allowed := by
  unfold routeFor
  constructor
  · intro routed
    split at routed
    · cases routed
    · next found known =>
      split at routed
      · cases routed
      · next permitted =>
        split at routed
        · cases routed
        · next connected =>
          cases routed
          refine ⟨rfl, known, by simpa [VenueConnectionHealth.isSubmittable] using connected, ?_⟩
          rintro venues rfl
          simpa using permitted
  · rintro ⟨rfl, known, connected, permitted⟩
    rw [known]
    have unbarred : ¬ (allowedVenues.any fun allowed => !allowed.any fun venueId => venueId = mapping.venueId) = true := by
      cases allowedVenues with
      | none => simp
      | some venues => simpa using permitted venues rfl
    simp only [unbarred, if_false, VenueConnectionHealth.isSubmittable, connected, decide_true, Bool.not_true,
      Bool.false_eq_true]

section Selection
variable {bridge : SignalOrderBridge} {signal : Signal} {agentLimits : Option AgentRiskLimits}
  {venueStates : List VenueRouteState} {mappedVenues : List VenueSymbol}
variable (mapped : bridge.symbolMap.venuesFor signal.instrument = some mappedVenues)
variable (permitted : ∀ allowed, agentLimits.bind AgentRiskLimits.allowedInstruments = some allowed →
  signal.instrument ∈ allowed)
include mapped permitted

/-- A mapped venue is routed exactly if its listing is eligible. -/
theorem routeFor_eligible_iff (member : mapping ∈ mappedVenues) (state : VenueRouteState) :
    routeFor (agentLimits.bind AgentRiskLimits.allowedVenues) venueStates mapping = some (mapping, state) ↔
      Eligible bridge signal agentLimits venueStates mapping state := by
  rw [routeFor_eq_some_iff]
  constructor
  · rintro ⟨-, known, connected, venues⟩
    refine ⟨SymbolMap.instrumentFor_of_venuesFor mapped member, known, connected, ?_, ?_⟩
    · rintro limits rfl allowed limited
      exact permitted allowed limited
    · rintro limits rfl allowed limited
      exact venues allowed limited
  · intro eligible
    refine ⟨rfl, eligible.known, eligible.connected, fun allowed limited => ?_⟩
    obtain ⟨limits, given, limited⟩ := Option.bind_eq_some_iff.mp limited
    exact eligible.venue limits given allowed limited

omit permitted in
theorem Eligible.mem (eligible : Eligible bridge signal agentLimits venueStates listing state) :
    listing ∈ mappedVenues := by
  have listed := (bridge.symbolMap.listed signal.instrument listing).mpr eligible.mapped
  rwa [show bridge.symbolMap.reverse.lookup signal.instrument = some mappedVenues from mapped] at listed

/-- The eligible states of an evaluation are the eligible listings. -/
theorem mem_eligibleStates_iff (listing : VenueSymbol) (state : VenueRouteState) :
    (listing, state) ∈ eligibleStates mappedVenues (agentLimits.bind AgentRiskLimits.allowedVenues) venueStates ↔
      Eligible bridge signal agentLimits venueStates listing state := by
  rw [eligibleStates, List.mem_filterMap]
  constructor
  · rintro ⟨mapping, member, routed⟩
    obtain rfl := ((routeFor_eq_some_iff ..).mp routed).1
    exact (routeFor_eligible_iff mapped permitted member state).mp routed
  · intro eligible
    have member := Eligible.mem mapped eligible
    exact ⟨listing, member, (routeFor_eligible_iff mapped permitted member state).mpr eligible⟩

/-- What comes before the first eligible state is not eligible. -/
theorem first_eligible (found : eligibleStates mappedVenues (agentLimits.bind AgentRiskLimits.allowedVenues)
    venueStates = (listing, state) :: rest) :
    ∃ before after, mappedVenues = before ++ listing :: after ∧
      ∀ earlier ∈ before, ∀ other, ¬ Eligible bridge signal agentLimits venueStates earlier other := by
  rw [eligibleStates] at found
  obtain ⟨before, mapping, after, rfl, skipped, routed, -⟩ := List.filterMap_eq_cons_iff.mp found
  obtain rfl := ((routeFor_eq_some_iff ..).mp routed).1
  refine ⟨before, after, rfl, fun earlier member other eligible => ?_⟩
  have passed := (routeFor_eligible_iff mapped permitted (List.mem_append_left _ member) other).mpr eligible
  rw [skipped earlier member] at passed
  cases passed

end Selection

section Bridge
variable [LibraryText]

omit [LibraryText] in
/-- The selected venue is eligible and the one the policy asks for. -/
theorem selectVenue_preferred (selected : selectVenue bridge signal agentLimits venueStates = .ok listing) :
    ∃ state, Eligible bridge signal agentLimits venueStates listing state ∧
      Preferred bridge signal agentLimits venueStates listing state := by
  have permitted := (selectVenue_ok selected).1
  unfold selectVenue at selected
  split at selected
  · cases selected
  · split at selected
    · cases selected
    · next mappedVenues mapped =>
      have eligible_iff (listing : VenueSymbol) (state : VenueRouteState) :
          (listing, state) ∈ eligibleStates mappedVenues (agentLimits.bind AgentRiskLimits.allowedVenues) venueStates ↔
            Eligible bridge signal agentLimits venueStates listing state :=
        mem_eligibleStates_iff mapped permitted listing state
      split at selected
      · cases selected
      · next first rest eligible =>
        have picked := Except.ok.inj selected
        unfold Preferred
        cases policy : bridge.config.routingPolicy with
        | firstListed =>
          rw [policy] at picked
          obtain rfl : first.1 = listing := picked
          obtain ⟨before, after, rfl, skipped⟩ := first_eligible mapped permitted eligible
          refine ⟨first.2, (eligible_iff _ _).mp ?_, before, after, mapped, skipped⟩
          rw [eligible]
          exact List.mem_cons_self
        | highestAvailableBalance =>
          rw [policy] at picked
          obtain rfl : (bestFunded first rest).1 = listing := picked
          obtain ⟨member, best⟩ := bestFunded_spec first rest
          refine ⟨(bestFunded first rest).2, (eligible_iff _ _).mp ?_, fun listing' other offered => ?_⟩
          · rw [eligible]
            exact member
          · have present := (eligible_iff listing' other).mpr offered
            rw [eligible] at present
            exact best (listing', other) present

/-- Orders from the bridge are sound, at most one for a signal; a valid signal
without conviction gives none. -/
theorem orders_are_sound (bridge : SignalOrderBridge) (signal : Signal) (firmBook : FirmBook)
    (agentLimits : Option AgentRiskLimits) (prices : PriceSource) (venueStates : List VenueRouteState)
    (now : DateTime) :
    (∀ orders, signalToOrders bridge signal firmBook agentLimits prices venueStates now = .ok orders → orders ≠ [] →
      ∃ order, orders = [order] ∧
        SoundOrder bridge signal firmBook agentLimits prices venueStates order.core) ∧
    (validateSignal signal = .ok () →
      (∃ allocation, firmBook.agentAllocations.lookup signal.agent = some allocation ∧ allocation.status = .active) →
      signal.conviction = 0 →
        signalToOrders bridge signal firmBook agentLimits prices venueStates now = .ok []) := by
  constructor
  · intro orders bridged some
    obtain ⟨-, -, checked⟩ := bind_ok bridged
    split at checked
    · cases checked
    · next allocation allocated =>
      split at checked
      · cases checked
      · next active =>
        split at checked
        · exact absurd (Except.ok.inj checked).symm some
        · obtain ⟨price, priced, checked⟩ := bind_ok checked
          obtain ⟨⟨⟩, exits, checked⟩ := bind_ok checked
          obtain ⟨qty, sized, checked⟩ := bind_ok checked
          obtain ⟨listing, selected, checked⟩ := bind_ok checked
          refine ⟨_, (Except.ok.inj checked).symm, ?_⟩
          have positive := referencePriceFor_ok priced
          have around := (validateExitTargets_ok_iff signal price).mp exits
          have size := sizeSignal_sized sized positive around
          obtain ⟨snapshot, quoted, fresh, rfl⟩ := referencePriceFor_crosses priced
          exact {
            agent := rfl
            instrument := rfl
            side := rfl
            positive := sizeSignal_ok sized
            exits := ⟨rfl, rfl⟩
            priced := ⟨snapshot, quoted, fresh, rfl, positive, around, allocation, allocated, not_not.mp active, size⟩
            routed := selectVenue_preferred selected }
  · rintro valid ⟨allocation, allocated, active⟩ unconvinced
    unfold signalToOrders
    rw [valid]
    simp only [bind, Except.bind, allocated, active, unconvinced, ne_eq, not_true_eq_false, if_false, if_true]

end Bridge

section Sample
open Plain

/-- The order of the tests' signal loses half of its agent's 20000 at its stop. -/
theorem orders_are_sound_on_test : ∃ order : PipelineOrder Draft,
    bridgedOrders (sampleSignal "athena" "sig-1") = .ok [order] ∧
      SizedFor (sampleSignal "athena" "sig-1") 20000 order.core.qty 10005 := by
  have makes : ∃ orders, bridgedOrders (sampleSignal "athena" "sig-1") = .ok orders ∧ orders ≠ [] := by
    have made : makesOrder (sampleSignal "athena" "sig-1") = true := by decide +kernel
    unfold makesOrder at made
    split at made
    · next order rest bridged => exact ⟨_, bridged, List.cons_ne_nil _ _⟩
    · cases made
  obtain ⟨orders, bridged, some⟩ := makes
  obtain ⟨order, rfl, sound⟩ := (orders_are_sound ..).1 orders bridged some
  refine ⟨order, bridged, ?_⟩
  obtain ⟨snapshot, quoted, -, -, -, -, allocation, allocated, -, sized⟩ := sound.priced
  cases quoted
  cases allocated
  exact sized

end Sample

end FeynmanEngine.SignalDrafts
