import FeynmanEngine.AcceptedOrders

/-! Changes of limits and of room. Limits that are loosened, lists that are
widened, capital and cash that are added take nothing away: an order that passed
gets the very same outcome, to the quantity and the texts of its warnings. -/
namespace FeynmanEngine.LimitChanges
open Ids Orders Tables Portfolio ExposureProjection RiskGate ResizeConvergence EvaluationSpecification AcceptedOrders

/-- Whatever one list allows the other does, and no list allows everything. -/
def Widens {α : Type} (narrow wide : Option (List α)) : Prop :=
  ∀ allowed, wide = some allowed → ∃ fewer, narrow = some fewer ∧ fewer ⊆ allowed

/-- The limits of an agent that an evaluation reads, none of them tighter. -/
structure LooserAgent (tight loose : AgentRiskLimits) : Prop where
  position : tight.maxPositionNotional ≤ loose.maxPositionNotional
  gross : tight.maxGrossNotional ≤ loose.maxGrossNotional
  instruments : Widens tight.allowedInstruments loose.allowedInstruments
  venues : Widens tight.allowedVenues loose.allowedVenues

structure LooserInstrument (tight loose : InstrumentRiskLimits) : Prop where
  net : tight.maxNetQty ≤ loose.maxNetQty
  gross : tight.maxGrossQty ≤ loose.maxGrossQty
  concentration : tight.maxConcentrationPct ≤ loose.maxConcentrationPct
  leverage : tight.maxLeverage ≤ loose.maxLeverage

structure LooserVenue (tight loose : VenueRiskLimits) : Prop where
  notional : tight.maxNotional ≤ loose.maxNotional
  positions : tight.maxPositions ≤ loose.maxPositions
  share : tight.maxPctOfNav ≤ loose.maxPctOfNav

/-- An allocation with no less capital, of which no more is used. -/
structure RoomierAllocation (lean roomy : AgentAllocation) : Prop where
  capital : lean.allocatedCapital ≤ roomy.allocatedCapital
  used : roomy.usedCapital ≤ lean.usedCapital

/-- Every key of a table leads to a related value in the other. -/
def Carries {K V : Type} [DecidableEq K] (related : V → V → Prop) (table other : Table K V) : Prop :=
  ∀ key value, table.lookup key = some value → ∃ next, other.lookup key = some next ∧ related value next

/-- The same capital under limits of which none is tighter or gone. -/
structure Looser (tight loose : AgentRiskManager) : Prop where
  nav : loose.nav = tight.nav
  agents : Carries LooserAgent tight.agentLimits loose.agentLimits
  instruments : Carries LooserInstrument tight.instrumentLimits loose.instrumentLimits
  venues : Carries LooserVenue tight.venueLimits loose.venueLimits

/-- The same positions and capital with no less cash, no deeper a drawdown and
roomier allocations. -/
structure Roomier (lean roomy : FirmBook) : Prop where
  nav : roomy.nav = lean.nav
  instruments : roomy.instruments = lean.instruments
  drawdown : lean.currentDrawdownPct ≤ roomy.currentDrawdownPct
  cash : lean.cashAvailable ≤ roomy.cashAvailable
  allocations : Carries RoomierAllocation lean.agentAllocations roomy.agentAllocations

/-- The same price and capital, under looser limits and a roomier allocation. -/
structure RoomierTerms (tight loose : Terms) : Prop where
  price : loose.price = tight.price
  nav : loose.effectiveNav = tight.effectiveNav
  agent : LooserAgent tight.agentLimits loose.agentLimits
  allocation : RoomierAllocation tight.agentAllocation loose.agentAllocation
  instrument : LooserInstrument tight.instrumentLimits loose.instrumentLimits
  venue : LooserVenue tight.venueLimits loose.venueLimits

section Evaluations
variable {tight loose : AgentRiskManager} {lean roomy : FirmBook}

theorem configured_looser (looser : Looser tight loose) (roomier : Roomier lean roomy)
    (configured : Configured tight core lean price terms) :
    ∃ others, Configured loose core roomy price others ∧ RoomierTerms terms others := by
  obtain ⟨agentLimits, agent, agentLooser⟩ := looser.agents _ _ configured.agent
  obtain ⟨allocation, allocated, allocationRoomier⟩ := roomier.allocations _ _ configured.allocation
  obtain ⟨instrumentLimits, instrument, instrumentLooser⟩ := looser.instruments _ _ configured.instrument
  obtain ⟨venueLimits, venue, venueLooser⟩ := looser.venues _ _ configured.venue
  refine ⟨⟨price, min tight.nav lean.nav, agentLimits, allocation, instrumentLimits, venueLimits⟩,
    ⟨looser.nav ▸ configured.managerNav, roomier.nav ▸ configured.firmNav, agent, allocated, instrument, venue,
      rfl, by rw [looser.nav, roomier.nav]⟩,
    ⟨configured.price.symm, configured.effectiveNav.symm, agentLooser, allocationRoomier, instrumentLooser,
      venueLooser⟩⟩

/-- Only the room of an evaluation comes from the allocation. -/
theorem currentExposure_roomier (roomier : Roomier lean roomy) (core : OrderCore) :
    currentExposure roomy core = currentExposure lean core := by
  simp only [currentExposure, agentInstrumentExposure, venueInstrumentExposure, instrumentExposure,
    roomier.instruments]

theorem Permitted.looser {tight loose : AgentRiskLimits} (permitted : Permitted core tight)
    (looser : LooserAgent tight loose) : Permitted core loose where
  instrument allowed listed := by
    obtain ⟨fewer, listed, within⟩ := looser.instruments allowed listed
    exact within (permitted.instrument fewer listed)
  venue allowed listed := by
    obtain ⟨fewer, listed, within⟩ := looser.venues allowed listed
    exact within (permitted.venue fewer listed)

/-- Leverage falls with more capital of which no more is used, as the free
capital was positive before. -/
theorem Budgeted.roomier {terms others : Terms} {after wider : Projection} (budgeted : Budgeted terms after)
    (roomier : RoomierTerms terms others)
    (instrument : wider.agentInstrumentGrossNotional = after.agentInstrumentGrossNotional)
    (gross : wider.agentGrossNotional ≤ after.agentGrossNotional)
    (free : after.agentFreeCapital ≤ wider.agentFreeCapital) : Budgeted others wider where
  freeCapital := lt_of_lt_of_le budgeted.freeCapital free
  position := by
    rw [instrument]
    exact budgeted.position.trans roomier.agent.position
  gross := gross.trans (budgeted.gross.trans roomier.agent.gross)
  leverageCap := lt_of_lt_of_le budgeted.leverageCap roomier.instrument.leverage
  leverage := by
    have positive := budgeted.freeCapital
    have capped := (div_le_iff₀ positive).mp budgeted.leverage
    rw [div_le_iff₀ (lt_of_lt_of_le positive free)]
    calc wider.agentGrossNotional ≤ after.agentGrossNotional := gross
      _ ≤ terms.instrumentLimits.maxLeverage * after.agentFreeCapital := capped
      _ ≤ terms.instrumentLimits.maxLeverage * wider.agentFreeCapital :=
        mul_le_mul_of_nonneg_left free budgeted.leverageCap.le
      _ ≤ others.instrumentLimits.maxLeverage * wider.agentFreeCapital :=
        mul_le_mul_of_nonneg_right roomier.instrument.leverage (positive.le.trans free)

theorem WithinInstrument.looser {tight loose : InstrumentRiskLimits} (within : WithinInstrument tight nav after)
    (looser : LooserInstrument tight loose) (funded : 0 ≤ nav) : WithinInstrument loose nav after where
  net := within.net.trans looser.net
  gross := within.gross.trans looser.gross
  concentration := within.concentration.trans (mul_le_mul_of_nonneg_right looser.concentration funded)

theorem WithinVenue.looser {tight loose : VenueRiskLimits} (within : WithinVenue tight nav after)
    (looser : LooserVenue tight loose) (funded : 0 ≤ nav) : WithinVenue loose nav after where
  notional := within.notional.trans looser.notional
  share := within.share.trans (mul_le_mul_of_nonneg_right looser.share funded)
  positions := within.positions.trans looser.positions

/-- With more room every hard rule that held of the order still does. -/
theorem Compliant.roomier {terms others : Terms} (funded : 0 ≤ terms.effectiveNav)
    (compliant : Compliant core lean path terms
      (prospect core price terms.agentAllocation (currentExposure lean core)))
    (roomier : Roomier lean roomy) (wider : RoomierTerms terms others) :
    Compliant core roomy path others (prospect core price others.agentAllocation (currentExposure roomy core)) := by
  rw [currentExposure_roomier roomier]
  have gross : (prospect core price others.agentAllocation (currentExposure lean core)).agentGrossNotional ≤
      (prospect core price terms.agentAllocation (currentExposure lean core)).agentGrossNotional :=
    add_le_add_left (sub_le_sub_right wider.allocation.used _) _
  -- the figures of instrument and venue do not look at the allocation
  have instrument : WithinInstrument terms.instrumentLimits terms.effectiveNav
      (prospect core price others.agentAllocation (currentExposure lean core)) :=
    ⟨compliant.instrument.net, compliant.instrument.gross, compliant.instrument.concentration⟩
  have venue : WithinVenue terms.venueLimits terms.effectiveNav
      (prospect core price others.agentAllocation (currentExposure lean core)) :=
    ⟨compliant.venue.notional, compliant.venue.share, compliant.venue.positions⟩
  refine ⟨Permitted.looser compliant.permitted wider.agent,
    Budgeted.roomier compliant.budgeted wider rfl gross (sub_le_sub wider.allocation.capital gross),
    wider.price ▸ compliant.stopped, ⟨compliant.reserved.drawdown.trans roomier.drawdown, ?_⟩, ?_, ?_⟩
  · rw [wider.nav]
    exact compliant.reserved.cash.trans (sub_le_sub_right roomier.cash _)
  · rw [wider.nav]
    exact WithinInstrument.looser instrument wider.instrument funded
  · rw [wider.nav]
    exact WithinVenue.looser venue wider.venue funded

/-- An order that was admissible still is, on the same price and capital. -/
theorem Admissible.roomier (admissible : Admissible tight core lean path price terms)
    (looser : Looser tight loose) (roomier : Roomier lean roomy) :
    ∃ others, Admissible loose core roomy path price others ∧ RoomierTerms terms others := by
  obtain ⟨others, configured, wider⟩ := configured_looser looser roomier admissible.configured
  have funded : 0 ≤ terms.effectiveNav := by
    rw [admissible.configured.effectiveNav]
    exact (lt_min admissible.configured.managerNav admissible.configured.firmNav).le
  exact ⟨others, ⟨admissible.sized, admissible.priced, admissible.positive, configured,
    Compliant.roomier funded admissible.compliant roomier wider⟩, wider⟩

variable [LibraryText]

/-- Candidates look at the order, its price and the capital only. -/
theorem resizeCandidates_roomier (wider : RoomierTerms terms others) (core : OrderCore) :
    resizeCandidates core others = resizeCandidates core terms := by
  simp only [resizeCandidates, wider.price, wider.nav]

/-- The outcome of an admissible order is that of its tightest candidate. -/
theorem Admissible.outcome {order : PipelineOrder Validated}
    (admissible : Admissible manager order.core book path price terms) :
    (tightestResize (resizeCandidates order.core terms) = none ∧
      evaluate manager order book path = .approved []) ∨
    ∃ candidate, tightestResize (resizeCandidates order.core terms) = some candidate ∧
      evaluate manager order book path = .resized candidate.newQty candidate.reason [candidate.warning] := by
  rcases evaluate_cases admissible.priced admissible.positive admissible.sized path admissible.configured with
    ⟨broken, -⟩ | ⟨-, approved⟩ | ⟨-, resized⟩
  · exact absurd admissible.compliant broken
  · exact Or.inl approved
  · exact Or.inr resized

/-- Loosened limits and added room take nothing away: an order that was not
rejected gets the very same outcome as before, so one that is rejected now was
rejected before too. -/
theorem looser_keeps_outcome (looser : Looser tight loose) (roomier : Roomier lean roomy)
    (order : PipelineOrder Validated) (path : EvaluationPath) :
    (Accepts (evaluate tight order lean path) →
      evaluate loose order roomy path = evaluate tight order lean path) ∧
    ∀ violations, evaluate loose order roomy path = .rejected violations →
      ∃ earlier, evaluate tight order lean path = .rejected earlier := by
  have kept : Accepts (evaluate tight order lean path) →
      evaluate loose order roomy path = evaluate tight order lean path := by
    intro accepted
    obtain ⟨price, terms, admissible⟩ := (accepts_iff ..).mp accepted
    obtain ⟨others, again, wider⟩ := Admissible.roomier admissible looser roomier
    have same := resizeCandidates_roomier wider order.core
    rcases Admissible.outcome admissible with ⟨none, approved⟩ | ⟨candidate, some, resized⟩
    · rcases Admissible.outcome again with ⟨-, approves⟩ | ⟨other, found, -⟩
      · exact approves.trans approved.symm
      · rw [same, none] at found
        cases found
    · rcases Admissible.outcome again with ⟨missing, -⟩ | ⟨other, found, resizes⟩
      · rw [same, some] at missing
        cases missing
      · rw [same, some] at found
        cases found
        exact resizes.trans resized.symm
  refine ⟨kept, fun violations rejected => ?_⟩
  cases outcome : evaluate tight order lean path with
  | rejected earlier => exact ⟨earlier, rfl⟩
  | approved warnings =>
    rw [outcome] at kept
    cases (kept trivial).symm.trans rejected
  | resized newQty reason warnings =>
    rw [outcome] at kept
    cases (kept trivial).symm.trans rejected

end Evaluations

/-- The test's manager with a higher leverage cap. -/
def leveragedManager : AgentRiskManager :=
  { testManager with
    instrumentLimits := (∅ : Table InstrumentId InstrumentRiskLimits).insert ⟨"BTC-USD"⟩
      ⟨⟨"BTC-USD"⟩, 1000, 1000, 10 / 100, 20⟩ }

/-- The test's book with more cash. -/
def cashedBook : FirmBook := { testFirmBook 25 with cashAvailable := 90000 }

theorem carries_refl {K V : Type} [DecidableEq K] {related : V → V → Prop}
    (reflexive : ∀ value, related value value) (table : Table K V) : Carries related table table :=
  fun _ value found => ⟨value, found, reflexive value⟩

theorem looserAgent_refl (limits : AgentRiskLimits) : LooserAgent limits limits :=
  ⟨le_rfl, le_rfl, fun allowed listed => ⟨allowed, listed, List.Subset.refl _⟩,
    fun allowed listed => ⟨allowed, listed, List.Subset.refl _⟩⟩

theorem looser_leveragedManager : Looser testManager leveragedManager where
  nav := rfl
  agents := carries_refl looserAgent_refl _
  venues := carries_refl (fun _ => ⟨le_rfl, le_rfl, le_rfl⟩) _
  instruments instrument limits found := by
    have listed : ((∅ : Table InstrumentId InstrumentRiskLimits).insert ⟨"BTC-USD"⟩
        ⟨⟨"BTC-USD"⟩, 1000, 1000, 10 / 100, 10⟩).lookup instrument = some limits := found
    rw [lookup_insert_if] at listed
    split at listed
    · next same =>
      cases listed
      subst same
      exact ⟨_, rfl, le_rfl, le_rfl, le_rfl, by norm_num⟩
    · cases listed

theorem roomier_cashedBook : Roomier (testFirmBook 25) cashedBook :=
  ⟨rfl, rfl, le_rfl, by norm_num [testFirmBook, cashedBook], carries_refl (fun _ => ⟨le_rfl, le_rfl⟩) _⟩

/-- The test's order of 60 is resized just as before, and an order of 70 gets in. -/
theorem looser_keeps_outcome_on_test :
    @evaluate wholeText leveragedManager (testOrder 60 (some 95) (some 110)) cashedBook .submitSignal =
      @evaluate wholeText testManager (testOrder 60 (some 95) (some 110)) (testFirmBook 25) .submitSignal ∧
    Accepts (@evaluate wholeText leveragedManager (testOrder 70 (some 95) (some 110)) cashedBook .submitSignal) ∧
    ¬ Accepts (@evaluate wholeText testManager (testOrder 70 (some 95) (some 110)) (testFirmBook 25)
      .submitSignal) :=
  ⟨(@looser_keeps_outcome _ _ _ _ wholeText looser_leveragedManager roomier_cashedBook
    (testOrder 60 (some 95) (some 110)) .submitSignal).1 (by decide +kernel), by decide +kernel, by decide +kernel⟩

/-- More capital is not more room: the cash reserve is a share of it. -/
example : decision (@evaluate wholeText { testManager with nav := 300000 } (testOrder 5 (some 95) (some 110))
    { testFirmBook 0 with nav := 300000 } .submitSignal) = (none, ["cash_reserve_pct"]) := by decide +kernel

end FeynmanEngine.LimitChanges
