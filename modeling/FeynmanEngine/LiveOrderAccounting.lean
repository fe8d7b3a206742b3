import FeynmanEngine.LiveOrders
import FeynmanEngine.WeightedMeans

/-! Accounting of live orders over every sequence of calls. A call either fails
and leaves the order alone, or is one of six moves; the moves keep the totals,
the mean price and the summary in the venue state equal to what the accepted
fills make. -/
namespace FeynmanEngine.LiveOrderAccounting
open Ids Orders LiveOrders Traces WeightedMeans

section Calls
variable [LibraryText]

/-! ### What one call does -/

/-- The order with one more fill recorded. -/
def withFill (order : LiveOrder) (fill : Fill) (now : DateTime) : LiveOrder :=
  let summary := order.proposed fill
  { order with
    venueState := if summary.remainingQty ≤ 0 then .filled summary now else .partiallyFilled summary
    filledQty := summary.filledQty
    remainingQty := summary.remainingQty
    avgFillPrice := some summary.avgFillPrice
    fills := order.fills ++ [fill]
    lastUpdated := now }

/-- The move an accepted call makes, with the states it is accepted in. -/
inductive Moves (order : LiveOrder) : Call → LiveOrder → Prop
  | accepted (waiting : order.venueState = .submitted ∨ ∃ at', order.venueState = .triggered at') :
      Moves order (.accepted venueOrderId now)
        { order with venueState := .accepted now, venueOrderId := some venueOrderId, lastUpdated := now }
  | triggered (waiting : order.venueState = .submitted) :
      Moves order (.triggered now) { order with venueState := .triggered now, lastUpdated := now }
  | fill (live : order.venueState.isLive = true) (positive : 0 < filling.qty)
      (fits : filling.qty ≤ order.remainingQty) :
      Moves order (.fill filling now) (withFill order filling now)
  | cancel (live : order.venueState.isLive = true) :
      Moves order (.cancel reason now)
        { order with venueState := .cancelled reason order.fillSummary now, lastUpdated := now }
  | reject (waiting : order.venueState = .submitted) :
      Moves order (.reject reason now)
        { order with venueState := .venueRejected reason now, lastUpdated := now }
  | expire (resting : ∃ at', order.venueState = .accepted at') :
      Moves order (.expire now)
        { order with venueState := .expired order.fillSummary now, lastUpdated := now }

omit [LibraryText] in
/-- A transition is refused, or makes the move it stands for. -/
private theorem transition_cases {call : Call}
    (moves : order.venueState.valid target = true →
      Moves order call (record { order with venueState := target })) :
    (∃ error, order.transition target record = (order, .error error)) ∨
      ∃ next, order.transition target record = (next, .ok ()) ∧ Moves order call next := by
  unfold LiveOrder.transition VenueState.tryTransition
  cases valid : order.venueState.valid target with
  | false => exact Or.inl ⟨.invalidTransition order.venueState target, rfl⟩
  | true => exact Or.inr ⟨_, rfl, moves valid⟩

omit [LibraryText] in
private theorem valid_fill (order : LiveOrder) (fill : Fill) (now : DateTime) :
    order.venueState.valid (withFill order fill now).venueState = order.venueState.isLive := by
  cases state : order.venueState <;> simp only [withFill] <;> split <;> rfl

/-- Every call is refused and changes nothing, or makes its move. -/
theorem answer_cases (order : LiveOrder) (call : Call) :
    (∃ error, answer order call = (order, .error error)) ∨
      ∃ next, answer order call = (next, .ok ()) ∧ Moves order call next := by
  cases call with
  | accepted venueOrderId now =>
    simp only [answer, LiveOrder.onAccepted]
    apply transition_cases
    intro valid
    apply Moves.accepted
    cases state : order.venueState <;> simp_all [VenueState.valid]
  | triggered now =>
    simp only [answer, LiveOrder.onTriggered]
    apply transition_cases
    intro valid
    apply Moves.triggered
    cases state : order.venueState <;> simp_all [VenueState.valid]
  | fill fill now =>
    by_cases positive : 0 < fill.qty
    · by_cases fits : fill.qty ≤ order.remainingQty
      · have called : answer order (.fill fill now) =
            order.transition (withFill order fill now).venueState fun moved =>
              { withFill order fill now with venueState := moved.venueState } := by
          simp only [answer, LiveOrder.onFill, not_le.mpr positive, not_lt.mpr fits, if_false]
          rfl
        rw [called]
        apply transition_cases
        intro valid
        rw [valid_fill] at valid
        exact .fill valid positive fits
      · exact Or.inl ⟨_, by simp [answer, LiveOrder.onFill, not_le.mpr positive, not_le.mp fits]; rfl⟩
    · exact Or.inl ⟨_, by simp [answer, LiveOrder.onFill, not_lt.mp positive]; rfl⟩
  | cancel reason now =>
    simp only [answer, LiveOrder.onCancel]
    apply transition_cases
    intro valid
    apply Moves.cancel
    cases state : order.venueState <;> simp_all [VenueState.valid, VenueState.isLive]
  | reject reason now =>
    simp only [answer, LiveOrder.onReject]
    apply transition_cases
    intro valid
    apply Moves.reject
    cases state : order.venueState <;> simp_all [VenueState.valid]
  | expire now =>
    simp only [answer, LiveOrder.onExpire]
    apply transition_cases
    intro valid
    apply Moves.expire
    cases state : order.venueState <;> simp_all [VenueState.valid]

end Calls

/-! ### What the fields record -/

/-- The summary the accepted fills of an order make. -/
def summaryOf (qty : Decimal) (accepted : List Fill) : FillSummary where
  filledQty := totalWeight Fill.qty accepted
  remainingQty := qty - totalWeight Fill.qty accepted
  avgFillPrice := mean Fill.qty Fill.price accepted
  totalFee := (accepted.map Fill.fee).sum
  fillCount := countU32 accepted.length

/-- What a venue state says about the fills and the rest of the order it is the state of. -/
def Stage (order : LiveOrder) : VenueState → Prop
  | .submitted | .triggered _ | .accepted _ | .venueRejected _ _ => order.fills = []
  | .partiallyFilled summary =>
    order.fills ≠ [] ∧ 0 < order.remainingQty ∧ summary = order.fillSummary
  | .filled summary _ => order.fills ≠ [] ∧ order.remainingQty = 0 ∧ summary = order.fillSummary
  | .cancelled _ summary _ | .expired summary _ =>
    (order.fills = [] ∨ 0 < order.remainingQty) ∧ summary = order.fillSummary

/-- The fields of a live order hold what the accepted fills make. -/
structure Recorded (routed : PipelineOrder Routed) (accepted : List Fill) (order : LiveOrder) : Prop where
  fills : order.fills = accepted
  positive : ∀ fill ∈ accepted, 0 < fill.qty
  filled : order.filledQty = totalWeight Fill.qty accepted
  whole : order.filledQty + order.remainingQty = routed.core.qty
  average : order.avgFillPrice = if accepted = [] then none else some (mean Fill.qty Fill.price accepted)
  stage : Stage order order.venueState

theorem totalFee_eq (order : LiveOrder) (fee : Decimal) :
    order.totalFee fee = fee + (order.fills.map Fill.fee).sum := by
  unfold LiveOrder.totalFee
  generalize order.fills.map Fill.fee = fees
  induction fees generalizing fee with
  | nil => simp
  | cons head fees ih => simp [ih, add_assoc]

theorem Recorded.average_getD (recorded : Recorded routed accepted order) :
    order.avgFillPrice.getD 0 = mean Fill.qty Fill.price accepted := by
  rw [recorded.average]
  split
  · rename_i none
    simp [none]
  · rfl

theorem Recorded.fillSummary (recorded : Recorded routed accepted order) :
    order.fillSummary = summaryOf routed.core.qty accepted := by
  simp only [LiveOrder.fillSummary, summaryOf, FillSummary.mk.injEq]
  refine ⟨recorded.filled, ?_, recorded.average_getD, ?_, by rw [recorded.fills]⟩
  · rw [← recorded.whole, ← recorded.filled]
    ring
  · rw [totalFee_eq, recorded.fills, zero_add]

theorem recorded_fromRouted (routed : PipelineOrder Routed) (submittedAt : DateTime) :
    Recorded routed [] (.fromRouted routed submittedAt) where
  fills := rfl
  positive := by simp
  filled := rfl
  whole := zero_add _
  average := rfl
  stage := rfl

/-! ### Every move keeps the record -/

/-- The fill a call brings. -/
def filling : Call → List Fill
  | .fill fill _ => [fill]
  | _ => []

theorem acceptedFills_ok (entries : List (Call × Except VenueStateError Unit)) (call : Call) :
    acceptedFills (entries ++ [(call, .ok ())]) = acceptedFills entries ++ filling call := by
  cases call <;> simp [acceptedFills, filling]

theorem acceptedFills_error (entries : List (Call × Except VenueStateError Unit)) (call : Call)
    (error : VenueStateError) :
    acceptedFills (entries ++ [(call, Except.error error)]) = acceptedFills entries := by
  cases call <;> simp [acceptedFills]

/-- A move that leaves fills and totals alone keeps the record, if its state is right. -/
private theorem Recorded.frame (recorded : Recorded routed accepted order) (fills : next.fills = order.fills)
    (filled : next.filledQty = order.filledQty) (rest : next.remainingQty = order.remainingQty)
    (average : next.avgFillPrice = order.avgFillPrice) (stage : Stage next next.venueState) :
    Recorded routed (accepted ++ []) next := by
  rw [List.append_nil]
  refine ⟨fills.trans recorded.fills, recorded.positive, filled.trans recorded.filled, ?_,
    average.trans recorded.average, stage⟩
  rw [filled, rest, recorded.whole]

/-- The mean price after a fill, from the old mean and the old total. -/
private theorem Recorded.proposed_average (recorded : Recorded routed accepted order)
    (positive : 0 < fill.qty) :
    (order.proposed fill).avgFillPrice = mean Fill.qty Fill.price (accepted ++ [fill]) := by
  have filled := totalWeight_nonneg recorded.positive
  have grown : 0 < totalWeight Fill.qty accepted + fill.qty := by linarith
  simp only [LiveOrder.proposed, recorded.filled, recorded.average_getD, grown, if_true]
  exact (mean_concat recorded.positive).symm

/-- The summary a fill puts into the venue state is the one of the order it leaves. -/
theorem proposed_eq_fillSummary (order : LiveOrder) (fill : Fill) (now : DateTime) :
    order.proposed fill = (withFill order fill now).fillSummary := by
  simp only [LiveOrder.proposed, LiveOrder.fillSummary, withFill, Option.getD_some, FillSummary.mk.injEq,
    List.length_append, List.length_singleton, totalFee_eq, List.map_append, List.sum_append, true_and]
  refine ⟨?_, trivial⟩
  simp [add_comm]

private theorem Recorded.withFill (recorded : Recorded routed accepted order) (positive : 0 < fill.qty)
    (fits : fill.qty ≤ order.remainingQty) :
    Recorded routed (accepted ++ [fill]) (withFill order fill now) where
  fills := by simp [LiveOrderAccounting.withFill, recorded.fills]
  positive := by
    intro other member
    rcases List.mem_append.mp member with earlier | newest
    · exact recorded.positive other earlier
    · rwa [List.mem_singleton.mp newest]
  filled := by
    rw [totalWeight_concat, ← recorded.filled]
    rfl
  whole := by
    rw [← recorded.whole]
    simp only [LiveOrderAccounting.withFill, LiveOrder.proposed]
    ring
  average := by
    rw [if_neg (by simp), ← recorded.proposed_average positive]
    rfl
  stage := by
    have some : (LiveOrderAccounting.withFill order fill now).fills ≠ [] := by
      simp [LiveOrderAccounting.withFill]
    by_cases complete : order.remainingQty - fill.qty ≤ 0
    · have state : (LiveOrderAccounting.withFill order fill now).venueState =
          .filled (order.proposed fill) now := if_pos complete
      rw [state]
      refine ⟨some, le_antisymm complete ?_, proposed_eq_fillSummary order fill now⟩
      exact sub_nonneg.mpr fits
    · have state : (LiveOrderAccounting.withFill order fill now).venueState =
          .partiallyFilled (order.proposed fill) := if_neg complete
      rw [state]
      exact ⟨some, not_le.mp complete, proposed_eq_fillSummary order fill now⟩

private theorem Recorded.not_partly (recorded : Recorded routed accepted order)
    (live : order.venueState.isLive = true) : order.fills = [] ∨ 0 < order.remainingQty := by
  have stage := recorded.stage
  cases state : order.venueState <;> rw [state] at live stage <;> simp only [Stage] at stage
  case accepted at' => exact Or.inl stage
  case partiallyFilled summary => exact Or.inr stage.2.1
  all_goals cases live

theorem Recorded.step (recorded : Recorded routed accepted order) (moves : Moves order call next) :
    Recorded routed (accepted ++ filling call) next := by
  have unfilled : order.venueState = .submitted ∨ (∃ at', order.venueState = .triggered at') →
      order.fills = [] := by
    have stage := recorded.stage
    rintro (state | ⟨at', state⟩) <;> rwa [state] at stage
  cases moves with
  | accepted waiting => exact recorded.frame rfl rfl rfl rfl (unfilled waiting)
  | triggered waiting => exact recorded.frame rfl rfl rfl rfl (unfilled (Or.inl waiting))
  | fill live positive fits => exact recorded.withFill positive fits
  | cancel live => exact recorded.frame rfl rfl rfl rfl ⟨recorded.not_partly live, rfl⟩
  | reject waiting => exact recorded.frame rfl rfl rfl rfl (unfilled (Or.inl waiting))
  | expire resting =>
    obtain ⟨at', state⟩ := resting
    exact recorded.frame rfl rfl rfl rfl ⟨recorded.not_partly (by rw [state]; rfl), rfl⟩

/-! ### The accounts of an order -/

/-- The summary a venue state carries. -/
def carriedSummary : VenueState → Option FillSummary
  | .partiallyFilled summary | .filled summary _ | .cancelled _ summary _ | .expired summary _ => some summary
  | .submitted | .accepted _ | .triggered _ | .venueRejected _ _ => none

def isFilled : VenueState → Bool
  | .filled _ _ => true
  | _ => false

/-- The accounts of a live order against the fills it accepted. -/
structure Accounts (qty : Decimal) (accepted : List Fill) (order : LiveOrder) : Prop where
  whole : order.filledQty + order.remainingQty = qty
  filled : order.filledQty = (accepted.map Fill.qty).sum
  rest : 0 ≤ order.remainingQty
  average : order.avgFillPrice = if accepted = [] then none else
    some ((accepted.map fun fill => fill.qty * fill.price).sum / (accepted.map Fill.qty).sum)
  between : ∀ average low high, order.avgFillPrice = some average →
    (accepted.map Fill.price).min? = some low → (accepted.map Fill.price).max? = some high →
    low ≤ average ∧ average ≤ high
  complete : isFilled order.venueState = true ↔ order.remainingQty = 0
  summary : ∀ summary, carriedSummary order.venueState = some summary →
    summary = order.fillSummary ∧ summary.totalFee = (accepted.map Fill.fee).sum ∧
      (accepted.length < 2 ^ 32 → summary.fillCount = accepted.length)

private theorem Recorded.between (recorded : Recorded routed accepted order)
    (priced : order.avgFillPrice = some price) (low : (accepted.map Fill.price).min? = some cheapest)
    (high : (accepted.map Fill.price).max? = some dearest) : cheapest ≤ price ∧ price ≤ dearest := by
  rw [recorded.average] at priced
  split at priced
  · cases priced
  · rename_i nonempty
    obtain rfl := Option.some.inj priced
    constructor
    · refine le_mean recorded.positive nonempty fun fill member => ?_
      exact (List.min?_eq_some_iff.mp low).2 _ (List.mem_map_of_mem member)
    · refine mean_le recorded.positive nonempty fun fill member => ?_
      exact (List.max?_eq_some_iff.mp high).2 _ (List.mem_map_of_mem member)

/-- The rest of an order of positive quantity is what its venue state says of it. -/
private theorem Recorded.rest (recorded : Recorded routed accepted order) (positive : 0 < routed.core.qty) :
    0 ≤ order.remainingQty ∧ (isFilled order.venueState = true ↔ order.remainingQty = 0) := by
  have unfilled (none : order.fills = []) : 0 < order.remainingQty := by
    have filled := recorded.filled
    rw [← recorded.fills, none, totalWeight_nil] at filled
    rw [← recorded.whole, filled, zero_add] at positive
    exact positive
  have open' (left : 0 < order.remainingQty) (state : isFilled order.venueState = false) :
      0 ≤ order.remainingQty ∧ (isFilled order.venueState = true ↔ order.remainingQty = 0) := by
    simp [state, left.le, left.ne']
  have stage := recorded.stage
  cases state : order.venueState <;> rw [state] at stage open' <;> simp only [Stage] at stage
  case partiallyFilled summary => exact open' stage.2.1 rfl
  case filled summary filledAt => simp [isFilled, stage.2.1]
  case cancelled reason summary at' => exact open' (stage.1.elim unfilled id) rfl
  case expired summary at' => exact open' (stage.1.elim unfilled id) rfl
  all_goals exact open' (unfilled stage) rfl

private theorem Recorded.carried (recorded : Recorded routed accepted order)
    (carries : carriedSummary order.venueState = some summary) : summary = order.fillSummary := by
  have stage := recorded.stage
  cases state : order.venueState <;> rw [state] at stage carries <;> simp only [Stage] at stage
  case partiallyFilled => exact (Option.some.inj carries).symm.trans stage.2.2
  case filled => exact (Option.some.inj carries).symm.trans stage.2.2
  case cancelled => exact (Option.some.inj carries).symm.trans stage.2
  case expired => exact (Option.some.inj carries).symm.trans stage.2
  all_goals cases carries

theorem Recorded.accounts (recorded : Recorded routed accepted order) (positive : 0 < routed.core.qty) :
    Accounts routed.core.qty accepted order where
  whole := recorded.whole
  filled := recorded.filled
  rest := (recorded.rest positive).1
  average := recorded.average
  between _ _ _ := recorded.between
  complete := (recorded.rest positive).2
  summary summary carries := by
    have same := recorded.carried carries
    refine ⟨same, ?_, fun small => ?_⟩ <;> rw [same, recorded.fillSummary]
    · rfl
    · exact Nat.mod_eq_of_lt small

/-! ### Runs of calls -/

section Runs
variable [LibraryText]

/-- Wherever a run leads, the fields hold what its accepted fills make. -/
theorem recorded_of_run (run : LiveRun routed submittedAt entries order) :
    Recorded routed (acceptedFills entries) order := by
  induction run with
  | start => exact recorded_fromRouted routed submittedAt
  | @step entries order entry next _ move ih =>
    obtain ⟨call, result⟩ := entry
    rcases answer_cases order call with ⟨error, refused⟩ | ⟨after, answered, moves⟩
    · obtain ⟨rfl, rfl⟩ : order = next ∧ .error error = result := by
        simpa [Answers, refused] using move
      rwa [acceptedFills_error]
    · obtain ⟨rfl, rfl⟩ : after = next ∧ .ok () = result := by
        simpa [Answers, answered] using move
      rw [acceptedFills_ok]
      exact ih.step moves

/-- A call that fails leaves the whole order as it was. -/
theorem answer_error (failed : (answer order call).2 = .error error) : (answer order call).1 = order := by
  rcases answer_cases order call with ⟨error, refused⟩ | ⟨next, answered, -⟩
  · rw [refused]
  · rw [answered] at failed
    cases failed

/-- No call moves an order whose venue state is terminal. -/
theorem answer_terminal (terminal : order.venueState.isTerminal = true) (call : Call) :
    (answer order call).1 = order := by
  rcases answer_cases order call with ⟨error, refused⟩ | ⟨next, answered, moves⟩
  · rw [refused]
  · exfalso
    cases state : order.venueState <;> cases moves <;> simp_all [VenueState.isTerminal, VenueState.isLive]

theorem terminal_of_run (terminal : order.venueState.isTerminal = true)
    (run : Path (Answers answer) order entries final) : final = order := by
  induction run with
  | start => rfl
  | @step entries state entry next _ move ih =>
    subst ih
    have unmoved := answer_terminal terminal entry.1
    rw [show answer state entry.1 = (next, entry.2) from move] at unmoved
    exact unmoved

/-- Over every sequence of calls the accounts of an order are those of the fills
it accepted, a terminal state stays, and a failed call changes nothing. -/
theorem order_accounts (positive : 0 < routed.core.qty) (run : LiveRun routed submittedAt entries order) :
    Accounts routed.core.qty (acceptedFills entries) order ∧
    (order.venueState.isTerminal = true → ∀ later final, Path (Answers answer) order later final →
      final.venueState = order.venueState) ∧
    (∀ call error, (answer order call).2 = .error error → (answer order call).1 = order) := by
  refine ⟨(recorded_of_run run).accounts positive, fun terminal later final rest => ?_,
    fun call error => answer_error⟩
  rw [terminal_of_run terminal rest]

/-! ### Closing a live order -/

omit [LibraryText] in
theorem onCancel_of_live {order : LiveOrder} (live : order.venueState.isLive = true) (reason : CancelReason) (now : DateTime) :
    order.onCancel reason now =
      ({ order with venueState := .cancelled reason order.fillSummary now, lastUpdated := now }, .ok ()) := by
  have valid : order.venueState.valid (.cancelled reason order.fillSummary now) = true := by
    cases state : order.venueState <;> simp_all [VenueState.isLive, VenueState.valid]
  simp [LiveOrder.onCancel, LiveOrder.transition, VenueState.tryTransition, valid]

omit [LibraryText] in
theorem onExpire_of_accepted {order : LiveOrder} (resting : order.venueState = .accepted acceptedAt) (now : DateTime) :
    order.onExpire now =
      ({ order with venueState := .expired order.fillSummary now, lastUpdated := now }, .ok ()) := by
  simp [LiveOrder.onExpire, LiveOrder.transition, VenueState.tryTransition, resting, VenueState.valid]

omit [LibraryText] in
/-- The transition table has no edge from a partial fill to expiry. -/
theorem onExpire_of_partiallyFilled {order : LiveOrder} (partly : order.venueState = .partiallyFilled summary) (now : DateTime) :
    order.onExpire now = (order, .error (.invalidTransition order.venueState
      (.expired order.fillSummary now))) := by
  simp [LiveOrder.onExpire, LiveOrder.transition, VenueState.tryTransition, partly, VenueState.valid]

/-- Cancelling and expiring both succeed, each in its own terminal state with these totals. -/
structure Closable (order : LiveOrder) (totals : FillSummary) : Prop where
  cancel : ∀ reason now, (order.onCancel reason now).2 = .ok () ∧
    (order.onCancel reason now).1.venueState = .cancelled reason totals now
  expire : ∀ now, (order.onExpire now).2 = .ok () ∧
    (order.onExpire now).1.venueState = .expired totals now

/-- A live order can be closed both ways exactly while no fill is recorded;
after the first partial fill it can no longer expire. -/
theorem live_closable_iff (run : LiveRun routed submittedAt entries order)
    (live : order.venueState.isLive = true) :
    Closable order (summaryOf routed.core.qty (acceptedFills entries)) ↔ order.fills = [] := by
  have recorded := recorded_of_run run
  have totals := recorded.fillSummary
  have stage := recorded.stage
  cases state : order.venueState <;> rw [state] at stage <;> simp only [Stage] at stage
  case accepted acceptedAt =>
    refine ⟨fun _ => stage, fun _ => ⟨fun reason now => ?_, fun now => ?_⟩⟩
    · simp [onCancel_of_live live, totals]
    · simp [onExpire_of_accepted state, totals]
  case partiallyFilled summary =>
    refine ⟨fun closable => ?_, fun none => absurd none stage.1⟩
    have expired := (closable.expire order.lastUpdated).1
    rw [onExpire_of_partiallyFilled state] at expired
    cases expired
  all_goals simp [state, VenueState.isLive] at live

end Runs

/-! ### A partly filled order -/

/-- `sample_core`, routed. -/
def sampleRouted : PipelineOrder Routed where
  core :=
    { id := ⟨"ord-1"⟩, basketId := none, agentId := ⟨"satoshi"⟩, instrumentId := ⟨"BTCUSDT"⟩,
      marketId := ⟨"BTCUSDT"⟩, venueId := ⟨"bybit"⟩, side := .buy, orderType := .limit,
      timeInForce := .gtc, qty := 1, price := some 65000, triggerPrice := none,
      stopLoss := some 60000, takeProfit := some 70000, postOnly := false, reduceOnly := false,
      dryRun := true, execHint := {}, createdAt := ⟨0⟩ }
  stage := ⟨⟨0⟩, ⟨⟨0⟩, [], []⟩, ⟨⟨"bybit"⟩, ⟨"satoshi-123-000000-r00"⟩, ⟨0⟩⟩⟩

/-- Half of the sample order. -/
def sampleHalf (price : Decimal) : Fill where
  orderId := ⟨"ord-1"⟩
  venueOrderId := ⟨"v-ord-1"⟩
  instrumentId := ⟨"BTCUSDT"⟩
  side := .buy
  qty := 1 / 2
  price := price
  fee := 13 / 100
  filledAt := ⟨0⟩
  isMaker := true

/-- The sample order after some calls, with the answers. -/
def sampleLife (calls : List Call) : List (Call × Except VenueStateError Unit) × LiveOrder :=
  answered (@answer wholeText) (.fromRouted sampleRouted ⟨0⟩) calls

theorem sampleLife_run (calls : List Call) :
    @LiveRun wholeText sampleRouted ⟨0⟩ (sampleLife calls).1 (sampleLife calls).2 :=
  .of_answered _ _ calls

/-- Two fills at different prices, one call out of turn and one fill too many. -/
def filledTwice : List Call :=
  [.accepted ⟨"v-ord-1"⟩ ⟨1⟩, .fill (sampleHalf 65000) ⟨2⟩, .reject "late" ⟨3⟩,
    .fill (sampleHalf 65100) ⟨4⟩, .fill (sampleHalf 65100) ⟨5⟩]

theorem order_accounts_filledTwice :
    0 < sampleRouted.core.qty ∧ (acceptedFills (sampleLife filledTwice).1).length = 2 ∧
      Accounts 1 (acceptedFills (sampleLife filledTwice).1) (sampleLife filledTwice).2 :=
  ⟨by decide +kernel, by decide +kernel,
    (@order_accounts wholeText sampleRouted ⟨0⟩ _ _ (by decide +kernel) (sampleLife_run filledTwice)).1⟩

/-- Accepted and half filled. -/
def halfFilled : List Call := [.accepted ⟨"v-ord-1"⟩ ⟨1⟩, .fill (sampleHalf 65000) ⟨2⟩]

theorem live_closable_iff_unfilled :
    (sampleLife (halfFilled.take 1)).2.venueState.isLive = true ∧
      Closable (sampleLife (halfFilled.take 1)).2
        (summaryOf 1 (acceptedFills (sampleLife (halfFilled.take 1)).1)) :=
  ⟨by decide +kernel,
    (@live_closable_iff wholeText sampleRouted ⟨0⟩ _ _ (sampleLife_run (halfFilled.take 1))
      (by decide +kernel)).mpr (by decide +kernel)⟩

/-- A half filled order is live and cannot expire. -/
theorem half_filled_cannot_expire :
    ¬ ∀ routed submittedAt entries order, @LiveRun wholeText routed submittedAt entries order →
      order.venueState.isLive = true →
      Closable order (summaryOf routed.core.qty (acceptedFills entries)) := by
  intro closes
  have closable := closes _ _ _ _ (sampleLife_run halfFilled) (by decide +kernel)
  have refused : (sampleLife halfFilled).2.onExpire ⟨3⟩ |>.2.isOk = false := by decide +kernel
  rw [(closable.expire ⟨3⟩).1] at refused
  cases refused

end FeynmanEngine.LiveOrderAccounting
