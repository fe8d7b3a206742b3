import FeynmanEngine.RiskGate

/-! Agents are isolated in risk evaluation. Two books that agree on the firm, on
the instruments and venues, and on one agent's own entries give every order of
that agent the same outcome, whatever they hold about other agents. -/
namespace FeynmanEngine.AgentIsolation
open Ids Orders Tables Portfolio RiskGate

/-- The same risk configuration but for the limits of other agents. -/
structure SameManager (agent : AgentId) (left right : AgentRiskManager) : Prop where
  nav : left.nav = right.nav
  own : left.agentLimits.lookup agent = right.agentLimits.lookup agent
  instruments : ∀ instrument, left.instrumentLimits.lookup instrument = right.instrumentLimits.lookup instrument
  venues : ∀ venue, left.venueLimits.lookup venue = right.venueLimits.lookup venue

/-- The same exposure of an instrument but for the entries of other agents. -/
structure SameExposure (agent : AgentId) (left right : InstrumentExposure) : Prop where
  figures : { left with byAgent := [] } = { right with byAgent := [] }
  own : left.byAgent.filter (fun exposure => exposure.agent = agent) =
    right.byAgent.filter fun exposure => exposure.agent = agent

/-- The same book but for the allocations and exposures of other agents. -/
structure SameBook (agent : AgentId) (left right : FirmBook) : Prop where
  figures : { left with
      agentAllocations := ∅
      instruments := [] } =
    { right with
      agentAllocations := ∅
      instruments := [] }
  own : left.agentAllocations.lookup agent = right.agentAllocations.lookup agent
  instruments : List.Forall₂ (SameExposure agent) left.instruments right.instruments

variable {agent : AgentId} {left right : FirmBook}

theorem SameExposure.byAgent {left right : InstrumentExposure} (same : SameExposure agent left right) :
    left.byAgent.find? (fun exposure => exposure.agent = agent) =
      right.byAgent.find? fun exposure => exposure.agent = agent := by
  rw [← List.head?_filter, ← List.head?_filter, same.own]

theorem SameExposure.byVenue {left right : InstrumentExposure} (same : SameExposure agent left right) :
    left.byVenue = right.byVenue := by
  have shared := congrArg InstrumentExposure.byVenue same.figures
  exact shared

theorem SameBook.instrumentExposure (same : SameBook agent left right) (core : OrderCore) :
    Option.Rel (SameExposure agent) (RiskGate.instrumentExposure left core)
      (RiskGate.instrumentExposure right core) := by
  have matching := same.instruments
  unfold RiskGate.instrumentExposure
  generalize left.instruments = firsts at matching ⊢
  generalize right.instruments = seconds at matching ⊢
  induction matching with
  | nil => exact .none
  | @cons first second _ _ related _ ih =>
    have name := congrArg InstrumentExposure.instrument related.figures
    rw [List.find?_cons, List.find?_cons, show first.instrument = second.instrument from name]
    cases decide (second.instrument = core.instrumentId) with
    | true => exact .some related
    | false => exact ih

/-- A figure that is not about other agents is the same for every instrument. -/
theorem SameBook.map_instruments (same : SameBook agent left right) (figure : InstrumentExposure → α)
    (shared : ∀ first second, SameExposure agent first second → figure first = figure second) :
    left.instruments.map figure = right.instruments.map figure := by
  have matching := same.instruments
  generalize left.instruments = firsts at matching ⊢
  generalize right.instruments = seconds at matching ⊢
  induction matching with
  | nil => rfl
  | cons related _ ih => rw [List.map_cons, List.map_cons, shared _ _ related, ih]

theorem SameBook.currentExposure (same : SameBook agent left right) {core : OrderCore}
    (own : core.agentId = agent) : RiskGate.currentExposure left core = RiskGate.currentExposure right core := by
  have venues : left.instruments.map InstrumentExposure.byVenue =
      right.instruments.map InstrumentExposure.byVenue :=
    same.map_instruments _ fun _ _ related => related.byVenue
  have notional : left.instruments.flatMap InstrumentExposure.byVenue =
      right.instruments.flatMap InstrumentExposure.byVenue := by
    rw [List.flatMap_def, List.flatMap_def, venues]
  have positions : ∀ listed : List VenueExposure → Bool,
      (left.instruments.filter fun exposure => listed exposure.byVenue).length =
        (right.instruments.filter fun exposure => listed exposure.byVenue).length := by
    intro listed
    have counted := congrArg (List.countP listed) venues
    rw [List.countP_map, List.countP_map, List.countP_eq_length_filter,
      List.countP_eq_length_filter] at counted
    exact counted
  have found := same.instrumentExposure core
  unfold RiskGate.currentExposure agentInstrumentExposure venueInstrumentExposure
  rw [notional, positions fun listed => listed.any fun exposure => exposure.venue = core.venueId]
  cases left' : RiskGate.instrumentExposure left core with
  | none =>
    rw [left'] at found
    cases right' : RiskGate.instrumentExposure right core with
    | none => rfl
    | some second => rw [right'] at found; cases found
  | some first =>
    rw [left'] at found
    cases right' : RiskGate.instrumentExposure right core with
    | none => rw [right'] at found; cases found
    | some second =>
      rw [right'] at found
      cases found with
      | some related =>
        have agents := related.byAgent
        have shared := related.figures
        simp only [InstrumentExposure.mk.injEq, and_true] at shared
        obtain ⟨-, net, gross, netNotional, grossNotional, byVenue⟩ := shared
        simp only [Option.map_some, Option.getD_some, Option.bind_some, own, agents, net, gross,
          netNotional, grossNotional, byVenue]

section Evaluation
variable [LibraryText]

theorem lookUp_isolated {first second : AgentRiskManager} (managers : SameManager agent first second)
    (books : SameBook agent left right) {core : OrderCore} (own : core.agentId = agent) :
    lookUp first core left = lookUp second core right := by
  have nav := congrArg FirmBook.nav books.figures
  unfold lookUp effectiveNav
  rw [managers.nav, show left.nav = right.nav from nav, own, managers.own, managers.instruments, managers.venues, books.own]

/-- The hard checks read two firm-wide figures. -/
theorem hardViolations_isolated (books : SameBook agent left right) (core : OrderCore)
    (path : EvaluationPath) (terms : Terms) (projected : Projection) :
    hardViolations core left path terms projected = hardViolations core right path terms projected := by
  have drawdown := congrArg FirmBook.currentDrawdownPct books.figures
  have cash := congrArg FirmBook.cashAvailable books.figures
  unfold hardViolations checkDrawdown checkCashReserve
  rw [show left.currentDrawdownPct = right.currentDrawdownPct from drawdown,
    show left.cashAvailable = right.cashAvailable from cash]

/-- Agents are isolated from each other in risk evaluation. -/
theorem evaluate_isolated {first second : AgentRiskManager} (managers : SameManager agent first second)
    (books : SameBook agent left right) (order : PipelineOrder Validated)
    (own : order.core.agentId = agent) (path : EvaluationPath) :
    evaluate first order left path = evaluate second order right path := by
  unfold evaluate
  dsimp only
  rw [lookUp_isolated managers books own, books.currentExposure own]
  simp only [hardViolations_isolated books]

end Evaluation

/-- The test manager with limits for another agent. -/
def crowdedManager : AgentRiskManager :=
  { testManager with
    agentLimits := testManager.agentLimits.insert ⟨"graham"⟩ ⟨1, 1, 1, 15 / 100, 1, 1, some [], none⟩ }

/-- The test book with another agent's allocation and exposure, listed first. -/
def crowdedBook : FirmBook :=
  { testFirmBook 25 with
    agentAllocations := (testFirmBook 25).agentAllocations.insert ⟨"graham"⟩
      ⟨1, 99999, -99998, 0, 0, 0, 0, .halted⟩
    instruments := [⟨⟨"BTC-USD"⟩, 25, 25, 2500, 2500, [⟨⟨"bybit"⟩, ⟨"acct-1"⟩, 25, 2500⟩],
      [⟨⟨"graham"⟩, -7, -99999, 0⟩, ⟨⟨"satoshi"⟩, 25, 2500, 0⟩]⟩] }

/-- The other agent changes nothing for the test order, which is resized to 50. -/
theorem evaluate_isolated_crowded :
    @evaluate wholeText testManager (testOrder 60 (some 95) (some 110)) (testFirmBook 25) .submitSignal =
      @evaluate wholeText crowdedManager (testOrder 60 (some 95) (some 110)) crowdedBook .submitSignal ∧
    testManager.agentLimits.lookup ⟨"graham"⟩ = none ∧
      (crowdedManager.agentLimits.lookup ⟨"graham"⟩).isSome := by
  refine ⟨@evaluate_isolated ⟨"satoshi"⟩ _ _ wholeText _ _ ?_ ?_ _ rfl _, rfl, rfl⟩
  · exact ⟨rfl, rfl, fun _ => rfl, fun _ => rfl⟩
  · refine ⟨rfl, rfl, .cons ⟨?_, ?_⟩ .nil⟩
    · decide +kernel
    · decide +kernel

end FeynmanEngine.AgentIsolation
