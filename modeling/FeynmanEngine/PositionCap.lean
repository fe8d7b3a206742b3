import FeynmanEngine.AcceptedOrders
import FeynmanEngine.Traces

/-! The 5% cap and orders that add up. An evaluation compares the notional of the
order alone with the cap, so one approved order after another builds a position
of any multiple of it. A position stays within the cap as long as every order
that enlarges it fits in what its agent holds already on the order's side. -/
namespace FeynmanEngine.PositionCap
open Ids Orders Tables Portfolio ExposureProjection RiskGate EvaluationSpecification AcceptedOrders Traces

/-- Signed notional of an agent's position in an instrument. -/
def agentNetNotional (book : FirmBook) (agent : AgentId) (instrument : InstrumentId) : Decimal :=
  (((book.instruments.find? fun exposure => exposure.instrument = instrument).bind fun exposure =>
    exposure.byAgent.find? fun agentExposure => agentExposure.agent = agent).map fun exposure =>
      signedValueFromNet exposure.netQty |exposure.notionalUsd|).getD 0

/-- The agent's gross notional in the order's instrument, as the order finds it. -/
def agentGross (book : FirmBook) (core : OrderCore) : Decimal :=
  (currentExposure book core).agentInstrumentGrossNotional

/-- What a position holds on the side of an order. -/
def heldAlong (side : Side) (net : Decimal) : Decimal :=
  match side with
  | .buy => max net 0
  | .sell => max (-net) 0

/-- 5% of the effective capital. -/
def positionCap (manager : AgentRiskManager) (book : FirmBook) : Decimal := 5 / 100 * min manager.nav book.nav

/-- The order fits under the cap on top of what its agent holds on its side. -/
def Fits (manager : AgentRiskManager) (book : FirmBook) (core : OrderCore) (price : Decimal) : Prop :=
  heldAlong core.side (agentNetNotional book core.agentId core.instrumentId) + core.qty * price ≤
    positionCap manager book

section Checks
variable [LibraryText]

/-- The book after the order, at unchanged prices: its agent's position moves by
the notional, no other position moves, and the capital is the same. -/
structure Filled (book : FirmBook) (core : OrderCore) (price : Decimal) (next : FirmBook) : Prop where
  nav : next.nav = book.nav
  positions : ∀ agent instrument, agentNetNotional next agent instrument =
    agentNetNotional book agent instrument +
      if agent = core.agentId ∧ instrument = core.instrumentId then signedDelta core.side (core.qty * price) else 0

end Checks

end FeynmanEngine.PositionCap
