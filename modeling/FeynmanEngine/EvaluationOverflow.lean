import FeynmanEngine.CheckedEvaluation
import FeynmanEngine.DecimalAmounts
import FeynmanEngine.EvaluationSpecification

/-! When a risk evaluation returns. It divides by nothing that may be zero, and
what it offers as a smaller quantity is always in range; every other figure of
an order may pass the largest decimal, and where one does the evaluation stops. -/
namespace FeynmanEngine.EvaluationOverflow
open Ids Orders Tables Portfolio ExposureProjection RiskGate CheckedArithmetic CheckedEvaluation DecimalFormats
open DecimalAmounts

section Ranges
variable (rounding : Rounding Decimal)

/-- The long side of an exposure. -/
def long (net gross : Decimal) : Decimal := rounding.round (rounding.round (gross + net) / 2)

/-- The short side of an exposure. -/
def short (net gross : Decimal) : Decimal := rounding.round (rounding.round (gross - net) / 2)

/-- The side a trade of some size raises, by what the other side does not take. -/
def raisedTo (raised lowered size : Decimal) : Decimal :=
  rounding.round (raised + rounding.round (size - min size lowered))

/-- What is left of the side it lowers. -/
def loweredTo (lowered size : Decimal) : Decimal := rounding.round (lowered - min size lowered)

/-- Gross exposure after a trade. -/
def grossAfter (net gross delta : Decimal) : Decimal :=
  if 0 ≤ delta then
    rounding.round (raisedTo rounding (long rounding net gross) (short rounding net gross) delta +
      loweredTo rounding (short rounding net gross) delta)
  else
    rounding.round (raisedTo rounding (short rounding net gross) (long rounding net gross) |delta| +
      loweredTo rounding (long rounding net gross) |delta|)

/-- A trade stays in range: what it adds, the side it raises, and both sides together. -/
structure TradeFits (raised lowered size : Decimal) : Prop where
  excess : rounding.Fits (size - min size lowered)
  side : rounding.Fits (raised + rounding.round (size - min size lowered))
  sides : rounding.Fits (|raisedTo rounding raised lowered size| + loweredTo rounding lowered size)

/-- Net and gross are in range together, and so is the trade. -/
structure ProjectionFits (net gross delta : Decimal) : Prop where
  held : rounding.Fits (|gross| + |net|)
  bought : 0 ≤ delta →
    TradeFits rounding (EvaluationOverflow.long rounding net gross) (EvaluationOverflow.short rounding net gross) delta
  sold : ¬ 0 ≤ delta →
    TradeFits rounding (EvaluationOverflow.short rounding net gross) (EvaluationOverflow.long rounding net gross) |delta|

variable {rounding} in
/-- Sum and difference of two numbers are in range exactly if their magnitudes together are. -/
theorem fits_abs_add_abs (x y : Decimal) :
    rounding.Fits (|x| + |y|) ↔ rounding.Fits (x + y) ∧ rounding.Fits (x - y) := by
  constructor
  · intro fits
    exact ⟨fits.inward ((abs_add_le x y).trans (le_abs_self _)), fits.inward ((abs_sub x y).trans (le_abs_self _))⟩
  · rintro ⟨sum, difference⟩
    rcases abs_choice x with same | turned <;> rcases abs_choice y with other | mirrored
    · rwa [same, other]
    · rwa [same, mirrored, ← sub_eq_add_neg]
    · rw [turned, other, neg_add_eq_sub, ← neg_sub, Rounding.fits_neg]
      exact difference
    · rw [turned, mirrored, ← neg_add, Rounding.fits_neg]
      exact sum

variable (bound : Nat)

/-- What is left of the lowered side is in range. -/
theorem left_fits {size lowered : Decimal} (positive : 0 ≤ size) (fits : rounding.Fits lowered) :
    rounding.Fits (lowered - min size lowered) := by
  rcases le_total size lowered with less | more
  · rw [min_eq_left less]
    exact fits.between (sub_nonneg.mpr less) (sub_le_self _ positive)
  · rw [min_eq_right more, sub_self]
    exact fits.inward (by rw [abs_zero]; exact abs_nonneg _)

/-- Both sides after a trade are in range together exactly if its net and its gross are. -/
theorem sides_fit_iff {size lowered : Decimal} (raised : Decimal) (positive : 0 ≤ size)
    (fits : rounding.Fits lowered) :
    rounding.Fits (|raisedTo rounding raised lowered size| + loweredTo rounding lowered size) ↔
      rounding.Fits (raisedTo rounding raised lowered size + loweredTo rounding lowered size) ∧
        rounding.Fits (raisedTo rounding raised lowered size - loweredTo rounding lowered size) := by
  have left : 0 ≤ loweredTo rounding lowered size :=
    Rounding.round_nonneg (sub_nonneg.mpr (min_le_right _ _)) (left_fits rounding positive fits)
  rw [← fits_abs_add_abs, abs_of_nonneg left]

/-- A buy lowers the short side and raises the long one. -/
theorem buy_computes {raised lowered size : Decimal} (positive : 0 ≤ size) (fits : rounding.Fits lowered) :
    Computes (do
      let short ← (rounding.checked bound).sub lowered (min size lowered)
      let long ← (rounding.checked bound).add raised (← (rounding.checked bound).sub size (min size lowered))
      return (← (rounding.checked bound).sub long short, ← (rounding.checked bound).add long short))
      (TradeFits rounding raised lowered size)
      (rounding.round (raisedTo rounding raised lowered size - loweredTo rounding lowered size),
        rounding.round (raisedTo rounding raised lowered size + loweredTo rounding lowered size)) := by
  refine Computes.congr ((rounding.sub_computes bound _ _).bind fun _ => (rounding.sub_computes bound _ _).bind fun _ =>
    (rounding.add_computes bound _ _).bind fun _ => (rounding.sub_computes bound _ _).bind fun _ =>
      (rounding.add_computes bound _ _).bind fun _ => Computes.pure _) ?_
  constructor
  · rintro ⟨-, excess, side, net, gross, -⟩
    exact ⟨excess, side, (sides_fit_iff rounding raised positive fits).mpr ⟨gross, net⟩⟩
  · intro trade
    obtain ⟨gross, net⟩ := (sides_fit_iff rounding raised positive fits).mp trade.sides
    exact ⟨left_fits rounding positive fits, trade.excess, trade.side, net, gross, trivial⟩

/-- A sale lowers the long side and raises the short one. -/
theorem sell_computes {raised lowered size : Decimal} (positive : 0 ≤ size) (fits : rounding.Fits lowered) :
    Computes (do
      let long ← (rounding.checked bound).sub lowered (min size lowered)
      let short ← (rounding.checked bound).add raised (← (rounding.checked bound).sub size (min size lowered))
      return (← (rounding.checked bound).sub long short, ← (rounding.checked bound).add long short))
      (TradeFits rounding raised lowered size)
      (rounding.round (loweredTo rounding lowered size - raisedTo rounding raised lowered size),
        rounding.round (loweredTo rounding lowered size + raisedTo rounding raised lowered size)) := by
  refine Computes.congr ((rounding.sub_computes bound _ _).bind fun _ => (rounding.sub_computes bound _ _).bind fun _ =>
    (rounding.add_computes bound _ _).bind fun _ => (rounding.sub_computes bound _ _).bind fun _ =>
      (rounding.add_computes bound _ _).bind fun _ => Computes.pure _) ?_
  constructor
  · rintro ⟨-, excess, side, net, gross, -⟩
    refine ⟨excess, side, (sides_fit_iff rounding raised positive fits).mpr ⟨?_, ?_⟩⟩
    · rw [add_comm]
      exact gross
    · rw [← neg_sub, Rounding.fits_neg]
      exact net
  · intro trade
    obtain ⟨gross, net⟩ := (sides_fit_iff rounding raised positive fits).mp trade.sides
    rw [add_comm] at gross
    rw [← neg_sub, Rounding.fits_neg] at net
    exact ⟨left_fits rounding positive fits, trade.excess, trade.side, net, gross, trivial⟩

theorem half_computes {x : Decimal} (fits : rounding.Fits x) :
    Computes ((rounding.checked bound).div (rounding.round x) 2) True (rounding.rounded.div (rounding.round x) 2) :=
  (rounding.div_computes bound (rounding.round x) two_ne_zero).congr (iff_true_intro (Rounding.fits_half fits))

/-- Net exposure after a trade. -/
def netAfter (net gross delta : Decimal) : Decimal :=
  if 0 ≤ delta then
    rounding.round (raisedTo rounding (long rounding net gross) (short rounding net gross) delta -
      loweredTo rounding (short rounding net gross) delta)
  else
    rounding.round (loweredTo rounding (long rounding net gross) |delta| -
      raisedTo rounding (short rounding net gross) (long rounding net gross) |delta|)

theorem projectNetAndGross_computes (net gross delta : Decimal) :
    Computes (CheckedEvaluation.projectNetAndGross (rounding.checked bound) net gross delta)
      (ProjectionFits rounding net gross delta)
      (netAfter rounding net gross delta, grossAfter rounding net gross delta) := by
  have after : (netAfter rounding net gross delta, grossAfter rounding net gross delta) = if 0 ≤ delta then
      (rounding.round (raisedTo rounding (long rounding net gross) (short rounding net gross) delta -
          loweredTo rounding (short rounding net gross) delta),
        rounding.round (raisedTo rounding (long rounding net gross) (short rounding net gross) delta +
          loweredTo rounding (short rounding net gross) delta))
      else
        (rounding.round (loweredTo rounding (long rounding net gross) |delta| -
            raisedTo rounding (short rounding net gross) (long rounding net gross) |delta|),
          rounding.round (loweredTo rounding (long rounding net gross) |delta| +
            raisedTo rounding (short rounding net gross) (long rounding net gross) |delta|)) := by
    unfold netAfter grossAfter
    split
    · rfl
    · rw [add_comm (raisedTo ..)]
  rw [after]
  unfold CheckedEvaluation.projectNetAndGross
  refine Computes.congr ((rounding.add_computes bound gross net).bind fun long =>
    (half_computes rounding bound long).bind fun _ => (rounding.sub_computes bound gross net).bind fun short =>
      (half_computes rounding bound short).bind fun _ =>
        .ite (fun upward => buy_computes rounding bound upward (Rounding.fits_round (Rounding.fits_half short)))
          fun _ => sell_computes rounding bound (abs_nonneg delta) (Rounding.fits_round (Rounding.fits_half long))) ?_
  constructor
  · rintro ⟨long, -, short, -, trade⟩
    refine ⟨(fits_abs_add_abs gross net).mpr ⟨long, short⟩, fun upward => ?_, fun downward => ?_⟩
    · rwa [if_pos upward] at trade
    · rwa [if_neg downward] at trade
  · intro fits
    obtain ⟨long, short⟩ := (fits_abs_add_abs gross net).mp fits.held
    refine ⟨long, trivial, short, trivial, ?_⟩
    split
    · next upward => exact fits.bought upward
    · next downward => exact fits.sold downward

/-- The order's notional, with its sign. -/
def signedNotional (core : OrderCore) (price : Decimal) : Decimal :=
  signedDelta core.side (rounding.round (core.qty * price))

/-- What the agent has in use outside the instrument, and in it after the order. -/
def agentInUse (core : OrderCore) (price : Decimal) (allocation : AgentAllocation) (current : CurrentExposure) :
    Decimal :=
  rounding.round (rounding.round (allocation.usedCapital - current.agentInstrumentGrossNotional) +
    grossAfter rounding current.agentInstrumentNetNotional current.agentInstrumentGrossNotional
      (signedNotional rounding core price))

/-- The agent's capital less what it has in use. -/
def agentFree (core : OrderCore) (price : Decimal) (allocation : AgentAllocation) (current : CurrentExposure) :
    Decimal :=
  rounding.round (allocation.allocatedCapital - agentInUse rounding core price allocation current)

/-- The notionals at the order's venue, added up one after the other. -/
def venueSum (core : OrderCore) (book : FirmBook) : Decimal :=
  (venueNotionals book core).foldl (fun total notional => rounding.round (total + notional)) 0

/-- What stands at the venue outside the instrument, and in it after the order. -/
def venueInUse (core : OrderCore) (price : Decimal) (book : FirmBook) (current : CurrentExposure) : Decimal :=
  rounding.round (rounding.round (venueSum rounding core book - current.venueInstrumentGrossNotional) +
    grossAfter rounding current.venueInstrumentNetNotional current.venueInstrumentGrossNotional
      (signedNotional rounding core price))

/-- The figures the order would leave behind, in closed form. -/
def figures (core : OrderCore) (price : Decimal) (allocation : AgentAllocation) (book : FirmBook)
    (current : CurrentExposure) : Projection where
  signedOrderNotional := signedNotional rounding core price
  instrumentNetQty := netAfter rounding current.instrumentNetQty current.instrumentGrossQty
    (signedDelta core.side core.qty)
  instrumentGrossQty := grossAfter rounding current.instrumentNetQty current.instrumentGrossQty
    (signedDelta core.side core.qty)
  instrumentGrossNotional := grossAfter rounding current.instrumentNetNotional current.instrumentGrossNotional
    (signedNotional rounding core price)
  agentInstrumentGrossNotional := grossAfter rounding current.agentInstrumentNetNotional
    current.agentInstrumentGrossNotional (signedNotional rounding core price)
  agentGrossNotional := agentInUse rounding core price allocation current
  agentFreeCapital := agentFree rounding core price allocation current
  venueNotional := venueInUse rounding core price book current
  venuePositions := current.venuePositions % u32Bound + (if current.venueListed then 0 else 1)

/-- The order's projections are in range on a book with the `current` exposure. -/
structure FiguresFit (core : OrderCore) (price : Decimal) (allocation : AgentAllocation) (book : FirmBook)
    (current : CurrentExposure) : Prop where
  instrumentQty : ProjectionFits rounding current.instrumentNetQty current.instrumentGrossQty
    (signedDelta core.side core.qty)
  instrumentNotional : ProjectionFits rounding current.instrumentNetNotional current.instrumentGrossNotional
    (signedNotional rounding core price)
  agentInstrument : ProjectionFits rounding current.agentInstrumentNetNotional current.agentInstrumentGrossNotional
    (signedNotional rounding core price)
  agentOthers : rounding.Fits (allocation.usedCapital - current.agentInstrumentGrossNotional)
  agentGross : rounding.Fits (rounding.round (allocation.usedCapital - current.agentInstrumentGrossNotional) +
    grossAfter rounding current.agentInstrumentNetNotional current.agentInstrumentGrossNotional
      (signedNotional rounding core price))
  agentFree : rounding.Fits (allocation.allocatedCapital - agentInUse rounding core price allocation current)
  venueSum : rounding.SumFits 0 (venueNotionals book core)
  venueInstrument : ProjectionFits rounding current.venueInstrumentNetNotional current.venueInstrumentGrossNotional
    (signedNotional rounding core price)
  venueOthers : rounding.Fits (EvaluationOverflow.venueSum rounding core book - current.venueInstrumentGrossNotional)
  venueGross : rounding.Fits (
    rounding.round (EvaluationOverflow.venueSum rounding core book - current.venueInstrumentGrossNotional) +
      grossAfter rounding current.venueInstrumentNetNotional current.venueInstrumentGrossNotional
        (signedNotional rounding core price))
  venuePositions : current.venuePositions % u32Bound + (if current.venueListed then 0 else 1) < u32Bound

theorem project_computes (core : OrderCore) (price : Decimal) (allocation : AgentAllocation) (book : FirmBook) :
    Computes
      (CheckedEvaluation.project (rounding.checked u32Bound) core (rounding.round (core.qty * price)) allocation book)
      (FiguresFit rounding core price allocation book (currentExposure book core))
      (figures rounding core price allocation book (currentExposure book core)) := by
  unfold CheckedEvaluation.project
  refine Computes.congr ((projectNetAndGross_computes rounding u32Bound _ _ _).bind fun _ =>
    (projectNetAndGross_computes rounding u32Bound _ _ _).bind fun _ =>
    (projectNetAndGross_computes rounding u32Bound _ _ _).bind fun _ =>
    (rounding.sub_computes u32Bound _ _).bind fun _ => (rounding.add_computes u32Bound _ _).bind fun _ =>
    (rounding.sub_computes u32Bound _ _).bind fun _ => (rounding.foldlM_computes u32Bound _ _).bind fun _ =>
    (projectNetAndGross_computes rounding u32Bound _ _ _).bind fun _ =>
    (rounding.sub_computes u32Bound _ _).bind fun _ => (rounding.add_computes u32Bound _ _).bind fun _ =>
    (rounding.addCount_computes u32Bound _ _).bind fun _ => Computes.pure _) ?_
  constructor
  · rintro ⟨instrumentQty, instrumentNotional, agentInstrument, agentOthers, agentGross, agentFree, venueSum,
      venueInstrument, venueOthers, venueGross, venuePositions, -⟩
    exact ⟨instrumentQty, instrumentNotional, agentInstrument, agentOthers, agentGross, agentFree, venueSum,
      venueInstrument, venueOthers, venueGross, venuePositions⟩
  · intro fits
    exact ⟨fits.instrumentQty, fits.instrumentNotional, fits.agentInstrument, fits.agentOthers, fits.agentGross,
      fits.agentFree, fits.venueSum, fits.venueInstrument, fits.venueOthers, fits.venueGross, fits.venuePositions,
      trivial⟩

end Ranges

section Checks
variable [LibraryText] (rounding : Rounding Decimal) {nav price notional : Decimal}

/-- The 5% cap on a position and the quantity it leaves are always in range. -/
theorem checkPositionLimit_computes {size : Decimal} (funded : 0 < nav) (fits : rounding.Fits nav) (priced : 0 < price)
    (sized : rounding.Fits size) (product : rounding.Fits (size * price)) :
    Computes
      (CheckedEvaluation.checkPositionLimit (rounding.checked u32Bound) (rounding.round (size * price)) price nav) True
      (Id.run (CheckedEvaluation.checkPositionLimit rounding.rounded (rounding.round (size * price)) price nav)) := by
  have part : rounding.Fits (nav * positionNavCap) :=
    Rounding.fits_part fits funded.le (by decide +kernel) (by decide +kernel)
  unfold CheckedEvaluation.checkPositionLimit
  refine Computes.congr ((rounding.mul_computes u32Bound nav positionNavCap).bind fun _ => .when_reached _ fun _ =>
    (rounding.div_computes u32Bound _ priced.ne').bind fun _ => Computes.pure _) ?_
  refine iff_true_intro ⟨part, fun exceeds => ⟨?_, trivial⟩⟩
  have cap := Rounding.round_nonneg (mul_nonneg funded.le (by decide +kernel)) part
  exact Rounding.fits_quotient (rounding.idem (Rounding.fit_of_fits part)) cap priced sized product exceeds

/-- The distance to the stop, the price itself without one. -/
def distanceToStop (core : OrderCore) (price : Decimal) : Decimal :=
  match core.stopLoss with
  | some stopLoss => |rounding.round (price - stopLoss)|
  | none => price

omit [LibraryText] in
theorem stopDistance_computes (core : OrderCore) (price : Decimal) :
    Computes (stopDistance (rounding.checked u32Bound) core price)
      (∀ stopLoss, core.stopLoss = some stopLoss → rounding.Fits (price - stopLoss))
      (distanceToStop rounding core price) := by
  unfold distanceToStop stopDistance
  cases core.stopLoss with
  | none => exact (Computes.pure price).congr (iff_of_true trivial fun _ none => nomatch none)
  | some stopLoss =>
    refine Computes.congr ((rounding.sub_computes u32Bound price stopLoss).bind fun _ => Computes.pure _) ?_
    exact ⟨fun fits _ same => Option.some.inj same ▸ fits.1, fun fits => ⟨fits stopLoss rfl, trivial⟩⟩

/-- Beside the distance only the loss at the stop may pass the range. -/
theorem checkAccountRisk_computes (core : OrderCore) (price : Decimal) (funded : 0 < nav) (fits : rounding.Fits nav)
    (sized : rounding.Fits core.qty) :
    Computes (CheckedEvaluation.checkAccountRisk (rounding.checked u32Bound) core price nav)
      ((∀ stopLoss, core.stopLoss = some stopLoss → rounding.Fits (price - stopLoss)) ∧
        (0 < distanceToStop rounding core price → rounding.Fits (core.qty * distanceToStop rounding core price)))
      (Id.run (CheckedEvaluation.checkAccountRisk rounding.rounded core price nav)) := by
  have part : rounding.Fits (nav * accountRiskNavCap) :=
    Rounding.fits_part fits funded.le (by decide +kernel) (by decide +kernel)
  have cap := Rounding.round_nonneg (mul_nonneg funded.le (by decide +kernel)) part
  unfold CheckedEvaluation.checkAccountRisk
  refine Computes.congr ((stopDistance_computes rounding core price).bind fun _ =>
    (rounding.mul_computes u32Bound nav accountRiskNavCap).bind fun _ => .unless_returned _ fun away =>
      (rounding.mul_computes u32Bound core.qty _).bind fun _ => .when_reached _ fun _ =>
        (rounding.div_computes u32Bound _ (not_le.mp away).ne').bind fun _ => Computes.pure _) ?_
  refine and_congr_right fun _ => ⟨fun ⟨_, rest⟩ away => (rest (not_le.mpr away)).1, fun loss => ⟨part, fun away => ?_⟩⟩
  have product := loss (not_le.mp away)
  refine ⟨product, fun exceeds => ⟨?_, trivial⟩⟩
  exact Rounding.fits_quotient (rounding.idem (Rounding.fit_of_fits part)) cap (not_le.mp away) sized product exceeds

/-- Leverage is only taken over positive capital. -/
theorem checkLeverage_computes (projected : Projection) (limits : InstrumentRiskLimits) :
    Computes (CheckedEvaluation.checkLeverage (rounding.checked u32Bound) projected limits)
      (0 < limits.maxLeverage → 0 < projected.agentFreeCapital →
        rounding.Fits (projected.agentGrossNotional / projected.agentFreeCapital))
      (Id.run (CheckedEvaluation.checkLeverage rounding.rounded projected limits)) := by
  unfold CheckedEvaluation.checkLeverage
  refine Computes.congr (.unless_returned _ fun _ => .unless_returned _ fun free =>
    (rounding.div_computes u32Bound _ (not_le.mp free).ne').bind fun _ => Computes.pure _) ?_
  rw [not_le, not_le]
  exact forall₂_congr fun _ _ => and_iff_left trivial

theorem checkCashReserve_computes (projected : Projection) (book : FirmBook) (funded : 0 < nav) :
    Computes (CheckedEvaluation.checkCashReserve (rounding.checked u32Bound) projected nav book)
      (rounding.Fits (book.cashAvailable - projected.signedOrderNotional) ∧
        rounding.Fits (rounding.round (book.cashAvailable - projected.signedOrderNotional) / nav))
      (Id.run (CheckedEvaluation.checkCashReserve rounding.rounded projected nav book)) := by
  unfold CheckedEvaluation.checkCashReserve
  refine Computes.congr ((rounding.sub_computes u32Bound _ _).bind fun _ =>
    (rounding.div_computes u32Bound _ funded.ne').bind fun _ => Computes.pure _) ?_
  exact and_congr_right fun _ => and_iff_left trivial

theorem checkInstrumentLimits_computes (projected : Projection) (limits : InstrumentRiskLimits) (funded : 0 < nav) :
    Computes (CheckedEvaluation.checkInstrumentLimits (rounding.checked u32Bound) projected nav limits)
      (rounding.Fits (projected.instrumentGrossNotional / nav))
      (Id.run (CheckedEvaluation.checkInstrumentLimits rounding.rounded projected nav limits)) := by
  unfold CheckedEvaluation.checkInstrumentLimits
  refine Computes.congr ((rounding.div_computes u32Bound _ funded.ne').bind fun _ => Computes.pure _) ?_
  exact and_iff_left trivial

theorem checkVenueLimits_computes (projected : Projection) (limits : VenueRiskLimits) (funded : 0 < nav) :
    Computes (CheckedEvaluation.checkVenueLimits (rounding.checked u32Bound) projected nav limits)
      (rounding.Fits (projected.venueNotional / nav))
      (Id.run (CheckedEvaluation.checkVenueLimits rounding.rounded projected nav limits)) := by
  unfold CheckedEvaluation.checkVenueLimits
  refine Computes.congr ((rounding.div_computes u32Bound _ funded.ne').bind fun _ => Computes.pure _) ?_
  exact and_iff_left trivial

/-- A signal with a stop and a target, at some distance from its stop. -/
structure RewardFits (price stopLoss takeProfit : Decimal) : Prop where
  risk : rounding.Fits (price - stopLoss)
  reward : 0 < |rounding.round (price - stopLoss)| → rounding.Fits (takeProfit - price)
  ratio : 0 < |rounding.round (price - stopLoss)| →
    rounding.Fits (|rounding.round (takeProfit - price)| / |rounding.round (price - stopLoss)|)

theorem checkSignalRequirements_computes (core : OrderCore) (price : Decimal) :
    Computes (CheckedEvaluation.checkSignalRequirements (rounding.checked u32Bound) core price)
      (∀ stopLoss takeProfit, core.stopLoss = some stopLoss → core.takeProfit = some takeProfit →
        RewardFits rounding price stopLoss takeProfit)
      (Id.run (CheckedEvaluation.checkSignalRequirements rounding.rounded core price)) := by
  unfold CheckedEvaluation.checkSignalRequirements
  cases core.stopLoss with
  | none => exact (Computes.pure _).congr (iff_of_true trivial fun _ _ none => nomatch none)
  | some stopLoss =>
    cases core.takeProfit with
    | none => exact (Computes.pure _).congr (iff_of_true trivial fun _ _ _ none => nomatch none)
    | some takeProfit =>
      refine Computes.congr ((rounding.sub_computes u32Bound price stopLoss).bind fun _ =>
        .unless_returned _ fun away => (rounding.sub_computes u32Bound takeProfit price).bind fun _ =>
          (rounding.div_computes u32Bound _ (not_le.mp away).ne').bind fun _ => Computes.pure _) ?_
      constructor
      · rintro ⟨risk, rest⟩ _ _ ⟨⟩ ⟨⟩
        exact ⟨risk, fun away => (rest (not_le.mpr away)).1, fun away => (rest (not_le.mpr away)).2.1⟩
      · intro fits
        have rewarded := fits stopLoss takeProfit rfl rfl
        exact ⟨rewarded.risk, fun away => ⟨rewarded.reward (not_le.mp away), rewarded.ratio (not_le.mp away), trivial⟩⟩

theorem checkSignalPath_computes (core : OrderCore) (path : EvaluationPath) (price : Decimal) :
    Computes (checkSignalPath (rounding.checked u32Bound) core path price)
      (path = .submitSignal → ∀ stopLoss takeProfit, core.stopLoss = some stopLoss →
        core.takeProfit = some takeProfit → RewardFits rounding price stopLoss takeProfit)
      (Id.run (checkSignalPath rounding.rounded core path price)) :=
  .when_reached _ fun _ => checkSignalRequirements_computes rounding core price

/-- What the checks compute beside the projections is in range. -/
structure ChecksFit (core : OrderCore) (book : FirmBook) (path : EvaluationPath) (terms : Terms)
    (current : CurrentExposure) : Prop where
  distance : ∀ stopLoss, core.stopLoss = some stopLoss → rounding.Fits (terms.price - stopLoss)
  loss : 0 < distanceToStop rounding core terms.price →
    rounding.Fits (core.qty * distanceToStop rounding core terms.price)
  leverage : 0 < terms.instrumentLimits.maxLeverage →
    0 < agentFree rounding core terms.price terms.agentAllocation current →
      rounding.Fits (agentInUse rounding core terms.price terms.agentAllocation current /
        agentFree rounding core terms.price terms.agentAllocation current)
  cash : rounding.Fits (book.cashAvailable - signedNotional rounding core terms.price)
  cashPct : rounding.Fits (rounding.round (book.cashAvailable - signedNotional rounding core terms.price) /
    terms.effectiveNav)
  concentration : rounding.Fits (grossAfter rounding current.instrumentNetNotional current.instrumentGrossNotional
    (signedNotional rounding core terms.price) / terms.effectiveNav)
  venuePct : rounding.Fits (venueInUse rounding core terms.price book current / terms.effectiveNav)
  reward : path = .submitSignal → ∀ stopLoss takeProfit, core.stopLoss = some stopLoss →
    core.takeProfit = some takeProfit → RewardFits rounding terms.price stopLoss takeProfit

theorem runChecks_computes (core : OrderCore) (book : FirmBook) (path : EvaluationPath) (terms : Terms)
    (current : CurrentExposure) (funded : 0 < terms.effectiveNav) (fits : rounding.Fits terms.effectiveNav)
    (priced : 0 < terms.price) (sized : rounding.Fits core.qty) (product : rounding.Fits (core.qty * terms.price)) :
    Computes
      (runChecks (rounding.checked u32Bound) core book path terms (rounding.round (core.qty * terms.price))
        (figures rounding core terms.price terms.agentAllocation book current))
      (ChecksFit rounding core book path terms current)
      (Id.run (runChecks rounding.rounded core book path terms (rounding.round (core.qty * terms.price))
        (figures rounding core terms.price terms.agentAllocation book current))) := by
  unfold runChecks
  refine Computes.congr ((checkPositionLimit_computes rounding funded fits priced sized product).bind fun _ =>
    (checkAccountRisk_computes rounding core terms.price funded fits sized).bind fun _ =>
    (checkLeverage_computes rounding _ terms.instrumentLimits).bind fun _ =>
    (checkCashReserve_computes rounding _ book funded).bind fun _ =>
    (checkInstrumentLimits_computes rounding _ terms.instrumentLimits funded).bind fun _ =>
    (checkVenueLimits_computes rounding _ terms.venueLimits funded).bind fun _ =>
    (checkSignalPath_computes rounding core path terms.price).bind fun _ => Computes.pure _) ?_
  constructor
  · rintro ⟨-, ⟨distance, loss⟩, leverage, ⟨cash, cashPct⟩, concentration, venuePct, reward, -⟩
    exact ⟨distance, loss, leverage, cash, cashPct, concentration, venuePct, reward⟩
  · intro fits
    exact ⟨trivial, ⟨fits.distance, fits.loss⟩, fits.leverage, ⟨fits.cash, fits.cashPct⟩, fits.concentration,
      fits.venuePct, fits.reward, trivial⟩

/-- Every figure of an evaluation is in range. -/
structure EvaluationFits (core : OrderCore) (book : FirmBook) (path : EvaluationPath) (terms : Terms) : Prop where
  notional : rounding.Fits (core.qty * terms.price)
  figures : FiguresFit rounding core terms.price terms.agentAllocation book (currentExposure book core)
  checks : ChecksFit rounding core book path terms (currentExposure book core)

theorem funded_of_lookUp {manager : AgentRiskManager} {core : OrderCore} {book : FirmBook} {terms : Terms}
    (found : lookUp manager core book = .ok terms) : 0 < terms.effectiveNav := by
  obtain ⟨priced, positive, price, configured⟩ := EvaluationSpecification.configured_of_lookUp found
  rw [configured.effectiveNav]
  exact lt_min configured.managerNav configured.firmNav

theorem evaluate_computes (manager : AgentRiskManager) (order : PipelineOrder Validated) (book : FirmBook)
    (path : EvaluationPath) (managed : rounding.Fits manager.nav) (sized : rounding.Fits order.core.qty) :
    ∃ result, Computes (CheckedEvaluation.evaluate (rounding.checked u32Bound) manager order book path)
      (∀ terms, lookUp manager order.core book = .ok terms → EvaluationFits rounding order.core book path terms)
      result := by
  unfold CheckedEvaluation.evaluate
  cases found : lookUp manager order.core book with
  | error missing => exact ⟨_, (Computes.pure _).congr (iff_of_true trivial fun _ none => nomatch none)⟩
  | ok terms =>
    obtain ⟨priced, positive, price, configured⟩ := EvaluationSpecification.configured_of_lookUp found
    have funded := funded_of_lookUp found
    have fits : rounding.Fits terms.effectiveNav := by
      rw [configured.effectiveNav]
      exact managed.between (le_min configured.managerNav.le configured.firmNav.le) (min_le_left _ _)
    refine ⟨_, Computes.congr ((rounding.mul_computes u32Bound _ _).bind fun product =>
      (project_computes rounding order.core terms.price terms.agentAllocation book).bind fun _ =>
      (runChecks_computes rounding order.core book path terms _ funded fits priced sized product).bind fun _ =>
        Computes.pure _) ?_⟩
    constructor
    · rintro ⟨notional, figures, checks, -⟩ _ ⟨⟩
      exact ⟨notional, figures, checks⟩
    · intro fits
      obtain ⟨notional, figures, checks⟩ := fits terms rfl
      exact ⟨notional, figures, checks, trivial⟩

end Checks

/-- An amount of money or a quantity of ordinary size: eight decimal places, at most 10^11. -/
abbrev Ordinary (x : Decimal) : Prop := Amount 8 (10 ^ 11) x

theorem round_held {places : ℕ} {bound x : ℚ} (amount : Amount places bound x) (fine : places ≤ 16)
    (le : bound ≤ 7 * 10 ^ 12) : rustDecimal.rounding.round x = x :=
  ((amount.finer fine).wider le).round_eq rustDecimal (by decide) (by norm_num [rustDecimal])

theorem fits_held {places : ℕ} {bound x : ℚ} (amount : Amount places bound x) (fine : places ≤ 16)
    (le : bound ≤ 7 * 10 ^ 12) : rustDecimal.rounding.Fits x :=
  ((amount.finer fine).wider le).fits rustDecimal (by decide) (by norm_num [rustDecimal])

theorem fits_of_le {x : ℚ} (le : |x| ≤ 7 * 10 ^ 28) : rustDecimal.rounding.Fits x :=
  (rustDecimal.fits_iff x).mpr (lt_of_le_of_lt le (by norm_num [rustDecimal]))

section Amounts
variable {net gross delta raised lowered size : Decimal}

theorem long_amount (netted : Ordinary net) (grossed : Ordinary gross) :
    Amount 16 (10 ^ 11) (long rustDecimal.rounding net gross) := by
  have both := grossed.add netted
  have half := both.half
  rw [long, round_held both (by norm_num) (by norm_num), round_held half (by norm_num) (by norm_num)]
  exact (half.finer (by norm_num)).wider (by norm_num)

theorem short_amount (netted : Ordinary net) (grossed : Ordinary gross) :
    Amount 16 (10 ^ 11) (short rustDecimal.rounding net gross) := by
  have both := grossed.sub netted
  have half := both.half
  rw [short, round_held both (by norm_num) (by norm_num), round_held half (by norm_num) (by norm_num)]
  exact (half.finer (by norm_num)).wider (by norm_num)

/-- A trade on sides of ordinary size rounds nothing. -/
theorem trade_amounts (raisedBy : Amount 16 (10 ^ 11) raised) (loweredBy : Amount 16 (10 ^ 11) lowered)
    (sized : Amount 16 (10 ^ 12) size) :
    TradeFits rustDecimal.rounding raised lowered size ∧
      Amount 16 (21 * 10 ^ 11) (raisedTo rustDecimal.rounding raised lowered size) ∧
      Amount 16 (11 * 10 ^ 11) (loweredTo rustDecimal.rounding lowered size) := by
  have lowered' : Amount 16 (10 ^ 12) lowered := loweredBy.wider (by norm_num)
  have offset := sized.min lowered'
  have excess := sized.sub offset
  have left := loweredBy.sub offset
  have side := raisedBy.add excess
  have raisedAmount : Amount 16 (21 * 10 ^ 11) (raisedTo rustDecimal.rounding raised lowered size) := by
    rw [raisedTo, round_held excess (by norm_num) (by norm_num), round_held side (by norm_num) (by norm_num)]
    exact side.wider (by norm_num)
  have loweredAmount : Amount 16 (11 * 10 ^ 11) (loweredTo rustDecimal.rounding lowered size) := by
    rw [loweredTo, round_held left (by norm_num) (by norm_num)]
    exact left.wider (by norm_num)
  refine ⟨⟨fits_held excess (by norm_num) (by norm_num), ?_, ?_⟩, raisedAmount, loweredAmount⟩
  · rw [round_held excess (by norm_num) (by norm_num)]
    exact fits_held side (by norm_num) (by norm_num)
  · exact fits_held (raisedAmount.abs.add loweredAmount) (by norm_num) (by norm_num)

theorem projection_amounts (netted : Ordinary net) (grossed : Ordinary gross) (traded : Amount 16 (10 ^ 12) delta) :
    ProjectionFits rustDecimal.rounding net gross delta ∧
      Amount 16 (32 * 10 ^ 11) (grossAfter rustDecimal.rounding net gross delta) := by
  have long := long_amount netted grossed
  have short := short_amount netted grossed
  obtain ⟨bought, longAfter, shortLeft⟩ := trade_amounts long short traded
  obtain ⟨sold, shortAfter, longLeft⟩ := trade_amounts short long traded.abs
  refine ⟨⟨fits_held (grossed.abs.add netted.abs) (by norm_num) (by norm_num), fun _ => bought, fun _ => sold⟩, ?_⟩
  unfold grossAfter
  split
  · have both := longAfter.add shortLeft
    rw [round_held both (by norm_num) (by norm_num)]
    exact both.wider (by norm_num)
  · have both := shortAfter.add longLeft
    rw [round_held both (by norm_num) (by norm_num)]
    exact both.wider (by norm_num)

end Amounts

/-- An order of ordinary size on a book of ordinary size: every amount an
evaluation reads has at most eight decimal places and is at most 10^11, the
notional and the sum of the venue's notionals are at most 10^12, and the venue's
positions can be counted. -/
structure OfOrdinarySize (core : OrderCore) (book : FirmBook) (terms : Terms) (current : CurrentExposure) : Prop where
  qty : Ordinary core.qty
  price : Ordinary terms.price
  notional : |core.qty * terms.price| ≤ 10 ^ 12
  stopLoss : ∀ stopLoss, core.stopLoss = some stopLoss → Ordinary stopLoss
  takeProfit : ∀ takeProfit, core.takeProfit = some takeProfit → Ordinary takeProfit
  nav : Ordinary terms.effectiveNav
  cash : Ordinary book.cashAvailable
  allocated : Ordinary terms.agentAllocation.allocatedCapital
  used : Ordinary terms.agentAllocation.usedCapital
  instrumentQty : Ordinary current.instrumentNetQty ∧ Ordinary current.instrumentGrossQty
  instrumentNotional : Ordinary current.instrumentNetNotional ∧ Ordinary current.instrumentGrossNotional
  agentInstrument : Ordinary current.agentInstrumentNetNotional ∧ Ordinary current.agentInstrumentGrossNotional
  venueInstrument : Ordinary current.venueInstrumentNetNotional ∧ Ordinary current.venueInstrumentGrossNotional
  venueNotionals : ∀ notional ∈ venueNotionals book core, Ordinary notional
  venueTotal : (CheckedEvaluation.venueNotionals book core).sum ≤ 10 ^ 12
  venuePositions : current.venuePositions + 1 < u32Bound

section Ordinary
variable {core : OrderCore} {book : FirmBook} {terms : Terms} {current : CurrentExposure}

theorem OfOrdinarySize.traded (ordinary : OfOrdinarySize core book terms current) :
    Amount 16 (10 ^ 12) (core.qty * terms.price) :=
  ⟨(ordinary.qty.mul ordinary.price).whole, ordinary.notional⟩

theorem signedDelta_amount {places : ℕ} {bound x : ℚ} (amount : Amount places bound x) (side : Side) :
    Amount places bound (signedDelta side x) := by
  cases side with
  | buy => exact amount
  | sell => exact amount.neg

theorem OfOrdinarySize.signed (ordinary : OfOrdinarySize core book terms current) :
    Amount 16 (10 ^ 12) (signedNotional rustDecimal.rounding core terms.price) := by
  rw [signedNotional, round_held ordinary.traded (le_refl _) (by norm_num)]
  exact signedDelta_amount ordinary.traded core.side

theorem OfOrdinarySize.inUse (ordinary : OfOrdinarySize core book terms current) :
    Amount 16 (34 * 10 ^ 11) (rustDecimal.rounding.round
      (terms.agentAllocation.usedCapital - current.agentInstrumentGrossNotional) +
        grossAfter rustDecimal.rounding current.agentInstrumentNetNotional current.agentInstrumentGrossNotional
          (signedNotional rustDecimal.rounding core terms.price)) := by
  have others := ordinary.used.sub ordinary.agentInstrument.2
  have after := (projection_amounts ordinary.agentInstrument.1 ordinary.agentInstrument.2 ordinary.signed).2
  rw [round_held others (by norm_num) (by norm_num)]
  exact ((others.finer (by norm_num)).add after).wider (by norm_num)

theorem OfOrdinarySize.agentInUse (ordinary : OfOrdinarySize core book terms current) :
    Amount 16 (34 * 10 ^ 11)
      (agentInUse rustDecimal.rounding core terms.price terms.agentAllocation current) := by
  rw [EvaluationOverflow.agentInUse, round_held ordinary.inUse (le_refl _) (by norm_num)]
  exact ordinary.inUse

theorem OfOrdinarySize.free (ordinary : OfOrdinarySize core book terms current) :
    Amount 16 (35 * 10 ^ 11) (terms.agentAllocation.allocatedCapital -
      EvaluationOverflow.agentInUse rustDecimal.rounding core terms.price terms.agentAllocation current) :=
  ((ordinary.allocated.finer (by norm_num)).sub ordinary.agentInUse).wider (by norm_num)

theorem OfOrdinarySize.agentFree (ordinary : OfOrdinarySize core book terms current) :
    Amount 16 (35 * 10 ^ 11)
      (agentFree rustDecimal.rounding core terms.price terms.agentAllocation current) := by
  rw [EvaluationOverflow.agentFree, round_held ordinary.free (le_refl _) (by norm_num)]
  exact ordinary.free

theorem OfOrdinarySize.venueSum (ordinary : OfOrdinarySize core book terms current) :
    rustDecimal.rounding.SumFits 0 (CheckedEvaluation.venueNotionals book core) ∧
      Amount 8 (10 ^ 12) (EvaluationOverflow.venueSum rustDecimal.rounding core book) := by
  have held : ∀ notional ∈ CheckedEvaluation.venueNotionals book core, 0 ≤ notional := by
    intro notional member
    obtain ⟨exposure, -, rfl⟩ := List.mem_map.mp member
    exact abs_nonneg _
  have total : 0 + (CheckedEvaluation.venueNotionals book core).sum ≤ (10 : ℚ) ^ 12 := by
    rw [zero_add]
    exact ordinary.venueTotal
  have nothing : Amount 8 (10 ^ 12) 0 := .zero (by norm_num)
  obtain ⟨fits, sum, amount⟩ := sumFits_of_amounts rustDecimal (by decide) (by norm_num [rustDecimal])
    nothing (fun notional member => ⟨held notional member,
      (ordinary.venueNotionals notional member).wider (by norm_num)⟩) (le_refl 0) total
  rw [EvaluationOverflow.venueSum, sum]
  exact ⟨fits, amount⟩

theorem OfOrdinarySize.venueOthers (ordinary : OfOrdinarySize core book terms current) :
    Amount 8 (11 * 10 ^ 11)
      (EvaluationOverflow.venueSum rustDecimal.rounding core book - current.venueInstrumentGrossNotional) :=
  (ordinary.venueSum.2.sub ordinary.venueInstrument.2).wider (by norm_num)

theorem OfOrdinarySize.venueGross (ordinary : OfOrdinarySize core book terms current) :
    Amount 16 (43 * 10 ^ 11) (rustDecimal.rounding.round
      (EvaluationOverflow.venueSum rustDecimal.rounding core book - current.venueInstrumentGrossNotional) +
        grossAfter rustDecimal.rounding current.venueInstrumentNetNotional current.venueInstrumentGrossNotional
          (signedNotional rustDecimal.rounding core terms.price)) := by
  have after := (projection_amounts ordinary.venueInstrument.1 ordinary.venueInstrument.2 ordinary.signed).2
  rw [round_held ordinary.venueOthers (by norm_num) (by norm_num)]
  exact ((ordinary.venueOthers.finer (by norm_num)).add after).wider (by norm_num)

theorem OfOrdinarySize.figuresFit (ordinary : OfOrdinarySize core book terms current) :
    FiguresFit rustDecimal.rounding core terms.price terms.agentAllocation book current where
  instrumentQty := (projection_amounts ordinary.instrumentQty.1 ordinary.instrumentQty.2
    (signedDelta_amount ((ordinary.qty.finer (by norm_num)).wider (by norm_num)) core.side)).1
  instrumentNotional :=
    (projection_amounts ordinary.instrumentNotional.1 ordinary.instrumentNotional.2 ordinary.signed).1
  agentInstrument := (projection_amounts ordinary.agentInstrument.1 ordinary.agentInstrument.2 ordinary.signed).1
  agentOthers := fits_held (ordinary.used.sub ordinary.agentInstrument.2) (by norm_num) (by norm_num)
  agentGross := fits_held ordinary.inUse (le_refl _) (by norm_num)
  agentFree := fits_held ordinary.free (le_refl _) (by norm_num)
  venueSum := ordinary.venueSum.1
  venueInstrument := (projection_amounts ordinary.venueInstrument.1 ordinary.venueInstrument.2 ordinary.signed).1
  venueOthers := fits_held ordinary.venueOthers (by norm_num) (by norm_num)
  venueGross := fits_held ordinary.venueGross (le_refl _) (by norm_num)
  venuePositions := by
    have counted := Nat.mod_le current.venuePositions u32Bound
    have fewer := ordinary.venuePositions
    split <;> omega

theorem OfOrdinarySize.distance (ordinary : OfOrdinarySize core book terms current) :
    |distanceToStop rustDecimal.rounding core terms.price| ≤ 2 * 10 ^ 11 := by
  unfold distanceToStop
  cases stopped : core.stopLoss with
  | none => exact ordinary.price.most.trans (by norm_num)
  | some stopLoss =>
    have distance := ordinary.price.sub (ordinary.stopLoss stopLoss stopped)
    simp only [round_held distance (by norm_num) (by norm_num), abs_abs]
    exact distance.most.trans (by norm_num)

theorem OfOrdinarySize.rewardFits (ordinary : OfOrdinarySize core book terms current) {stopLoss takeProfit : Decimal}
    (stopped : core.stopLoss = some stopLoss) (targeted : core.takeProfit = some takeProfit) :
    RewardFits rustDecimal.rounding terms.price stopLoss takeProfit := by
  have risk := ordinary.price.sub (ordinary.stopLoss stopLoss stopped)
  have reward := (ordinary.takeProfit takeProfit targeted).sub ordinary.price
  refine ⟨fits_held risk (by norm_num) (by norm_num), fun _ => fits_held reward (by norm_num) (by norm_num), ?_⟩
  rw [round_held risk (by norm_num) (by norm_num), round_held reward (by norm_num) (by norm_num)]
  intro away
  exact fits_of_le ((risk.abs.abs_div_le away reward.abs.most).trans (by norm_num))

theorem OfOrdinarySize.checksFit (ordinary : OfOrdinarySize core book terms current) (path : EvaluationPath)
    (funded : 0 < terms.effectiveNav) : ChecksFit rustDecimal.rounding core book path terms current where
  distance stopLoss stopped :=
    fits_held (ordinary.price.sub (ordinary.stopLoss stopLoss stopped)) (by norm_num) (by norm_num)
  loss _ := by
    refine fits_of_le ?_
    rw [abs_mul]
    calc |core.qty| * |distanceToStop rustDecimal.rounding core terms.price|
        ≤ 10 ^ 11 * (2 * 10 ^ 11) :=
          mul_le_mul ordinary.qty.most ordinary.distance (abs_nonneg _) (by norm_num)
      _ ≤ 7 * 10 ^ 28 := by norm_num
  leverage _ free := fits_of_le ((ordinary.agentFree.abs_div_le free ordinary.agentInUse.most).trans (by norm_num))
  cash := fits_held ((ordinary.cash.finer (by norm_num)).sub ordinary.signed) (by norm_num) (by norm_num)
  cashPct := by
    have left := (ordinary.cash.finer (by norm_num)).sub ordinary.signed
    rw [round_held left (by norm_num) (by norm_num)]
    exact fits_of_le ((ordinary.nav.abs_div_le funded left.most).trans (by norm_num))
  concentration := fits_of_le ((ordinary.nav.abs_div_le funded (projection_amounts ordinary.instrumentNotional.1
    ordinary.instrumentNotional.2 ordinary.signed).2.most).trans (by norm_num))
  venuePct := by
    rw [venueInUse, round_held ordinary.venueGross (le_refl _) (by norm_num)]
    exact fits_of_le ((ordinary.nav.abs_div_le funded ordinary.venueGross.most).trans (by norm_num))
  reward _ _ _ stopped targeted := ordinary.rewardFits stopped targeted

theorem OfOrdinarySize.evaluationFits (ordinary : OfOrdinarySize core book terms (currentExposure book core))
    (path : EvaluationPath) (funded : 0 < terms.effectiveNav) :
    EvaluationFits rustDecimal.rounding core book path terms where
  notional := fits_held ordinary.traded (le_refl _) (by norm_num)
  figures := ordinary.figuresFit
  checks := ordinary.checksFit path funded

end Ordinary

section Checks
variable [LibraryText]

/-- An evaluation returns exactly if it finds nothing to look up or the figures of
its inputs are in range: no division by zero stops it and no resize. On
`rust_decimal` everything of ordinary size is. -/
theorem evaluate_returns_iff (manager : AgentRiskManager) (order : PipelineOrder Validated) (book : FirmBook)
    (path : EvaluationPath) :
    (∀ rounding : Rounding Decimal, rounding.Fits manager.nav → rounding.Fits order.core.qty →
      ((CheckedEvaluation.evaluate (rounding.checked u32Bound) manager order book path).isSome ↔
        ∀ terms, lookUp manager order.core book = .ok terms →
          EvaluationFits rounding order.core book path terms)) ∧
    (rustDecimal.rounding.Fits manager.nav → rustDecimal.rounding.Fits order.core.qty →
      (∀ terms, lookUp manager order.core book = .ok terms →
        OfOrdinarySize order.core book terms (currentExposure book order.core)) →
        (CheckedEvaluation.evaluate (rustDecimal.rounding.checked u32Bound) manager order book path).isSome) := by
  have exact_condition (rounding : Rounding Decimal) (managed : rounding.Fits manager.nav)
      (sized : rounding.Fits order.core.qty) :
      (CheckedEvaluation.evaluate (rounding.checked u32Bound) manager order book path).isSome ↔
        ∀ terms, lookUp manager order.core book = .ok terms →
          EvaluationFits rounding order.core book path terms := by
    obtain ⟨result, computes⟩ := evaluate_computes rounding manager order book path managed sized
    exact computes.isSome_iff
  refine ⟨exact_condition, fun managed sized ordinary => ?_⟩
  rw [exact_condition _ managed sized]
  intro terms found
  exact (ordinary terms found).evaluationFits path (funded_of_lookUp found)

end Checks

/-- The terms of the crate's test order. -/
def testTerms : Terms :=
  ⟨100, 100000, ⟨10000, 10000, 10000, 15 / 100, 2000, 10, some [⟨"BTC-USD"⟩], some [⟨"bybit"⟩]⟩,
    ⟨10000, |0| * 100, 10000 - |0| * 100, 0, 0, 0, -15 / 100, .active⟩, ⟨⟨"BTC-USD"⟩, 1000, 1000, 10 / 100, 10⟩,
    ⟨⟨"bybit"⟩, 10000, 5, 10 / 100⟩⟩

private theorem lookUp_test (terms : Terms)
    (found : @lookUp wholeText testManager (testOrder 5 (some 95) (some 110)).core (testFirmBook 0) = .ok terms) :
    terms = testTerms := by
  have expected : @lookUp wholeText testManager (testOrder 5 (some 95) (some 110)).core (testFirmBook 0) =
      .ok testTerms := by
    refine (@EvaluationSpecification.lookUp_ok_iff wholeText 100 testManager _ _ testTerms rfl ?_ ?_).mpr ?_
    · decide +kernel
    · decide +kernel
    · exact ⟨by decide +kernel, by decide +kernel, rfl, rfl, rfl, rfl, rfl, by decide +kernel⟩
  exact Except.ok.inj (found.symm.trans expected)

/-- The crate's test order is of ordinary size, on a book of ordinary size. -/
theorem ordinary_test : OfOrdinarySize (testOrder 5 (some 95) (some 110)).core (testFirmBook 0) testTerms
    (currentExposure (testFirmBook 0) (testOrder 5 (some 95) (some 110)).core) where
  qty := ⟨⟨5 * 10 ^ 8, by decide +kernel⟩, by decide +kernel⟩
  price := ⟨⟨100 * 10 ^ 8, by decide +kernel⟩, by decide +kernel⟩
  notional := by decide +kernel
  stopLoss stopLoss stopped := by
    obtain rfl := Option.some.inj stopped
    exact ⟨⟨95 * 10 ^ 8, by decide +kernel⟩, by decide +kernel⟩
  takeProfit takeProfit targeted := by
    obtain rfl := Option.some.inj targeted
    exact ⟨⟨110 * 10 ^ 8, by decide +kernel⟩, by decide +kernel⟩
  nav := ⟨⟨100000 * 10 ^ 8, by decide +kernel⟩, by decide +kernel⟩
  cash := ⟨⟨(testFirmBook 0).cashAvailable.num * 10 ^ 8, by decide +kernel⟩, by decide +kernel⟩
  allocated := ⟨⟨10000 * 10 ^ 8, by decide +kernel⟩, by decide +kernel⟩
  used := ⟨⟨0, by decide +kernel⟩, by decide +kernel⟩
  instrumentQty := ⟨⟨⟨0, by decide +kernel⟩, by decide +kernel⟩, ⟨⟨0, by decide +kernel⟩, by decide +kernel⟩⟩
  instrumentNotional := ⟨⟨⟨0, by decide +kernel⟩, by decide +kernel⟩, ⟨⟨0, by decide +kernel⟩, by decide +kernel⟩⟩
  agentInstrument := ⟨⟨⟨0, by decide +kernel⟩, by decide +kernel⟩, ⟨⟨0, by decide +kernel⟩, by decide +kernel⟩⟩
  venueInstrument := ⟨⟨⟨0, by decide +kernel⟩, by decide +kernel⟩, ⟨⟨0, by decide +kernel⟩, by decide +kernel⟩⟩
  venueNotionals notional member := by
    have none : ∀ notional ∈ venueNotionals (testFirmBook 0) (testOrder 5 (some 95) (some 110)).core,
        notional = 0 := by decide +kernel
    rw [none notional member]
    exact .zero (by norm_num)
  venueTotal := by decide +kernel
  venuePositions := by decide +kernel

/-- The crate's test order is evaluated, so all its figures are decimals. -/
theorem evaluate_returns_on_test :
    (@CheckedEvaluation.evaluate _ _ (rustDecimal.rounding.checked u32Bound) wholeText testManager
      (testOrder 5 (some 95) (some 110)) (testFirmBook 0) .submitSignal).isSome ∧
    ∀ terms, @lookUp wholeText testManager (testOrder 5 (some 95) (some 110)).core (testFirmBook 0) = .ok terms →
      EvaluationFits rustDecimal.rounding (testOrder 5 (some 95) (some 110)).core (testFirmBook 0)
        .submitSignal terms := by
  have managed : rustDecimal.rounding.Fits testManager.nav := by decide +kernel
  have sized : rustDecimal.rounding.Fits (testOrder 5 (some 95) (some 110)).core.qty := by decide +kernel
  have conditions := @evaluate_returns_iff wholeText testManager (testOrder 5 (some 95) (some 110)) (testFirmBook 0)
    .submitSignal
  have returns := conditions.2 managed sized fun terms found => lookUp_test terms found ▸ ordinary_test
  exact ⟨returns, (conditions.1 rustDecimal.rounding managed sized).mp returns⟩

/-- A buy of 10^27 at 100 is an order of two decimals; its notional is none. -/
theorem huge_order_overflows :
    (testOrder (10 ^ 27) none none).core.price = some 100 ∧ 0 < (testOrder (10 ^ 27) none none).core.qty ∧
      rustDecimal.rounding.fit (testOrder (10 ^ 27) none none).core.qty = some (10 ^ 27) ∧
      @CheckedEvaluation.evaluate _ _ (rustDecimal.rounding.checked u32Bound) wholeText testManager
        (testOrder (10 ^ 27) none none) (testFirmBook 0) .submitOrder = none := by
  refine ⟨rfl, by decide +kernel, by decide +kernel, ?_⟩
  exact Option.isNone_iff_eq_none.mp (by decide +kernel)

end FeynmanEngine.EvaluationOverflow
