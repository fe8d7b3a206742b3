import FeynmanEngine.PaperOrdering

/-! What one section of the paper adapter writes, said once for every call, and
what follows for all of them: only checked submissions get past the first
section, and every open order is one of those with some of it left to fill. -/
namespace FeynmanEngine.PaperSections
open Ids Orders Orderbooks VenueOrders FillSimulation Tables Traces PaperVenue PaperExecutions PaperOrdering

/-- The label of a step that leaves the adapter as it was. -/
def Idle : Label → Prop
  | .inserted .. | .cancelled _ (.ok _) => False
  | .replaced _ fills error => fills = [] ∧ error.isSome
  | .called _ | .answered .. | .passed | .taken .. | .cancelled _ (.error _) | .broadcast _ | .returned => True

theorem executionsOf_idle (idle : Idle label) : executionsOf [label] = [] := by
  cases label with
  | inserted => cases idle
  | replaced snapshot fills error => simpa [executionsOf] using idle.1
  | called | answered | passed | taken | cancelled | broadcast | returned => rfl

section Sections
variable [LibraryText]

/-- The snapshot passes the checks of `replace_orderbook`. -/
def Accepted (adapter : PaperAdapter) (snapshot : OrderbookSnapshot) : Prop :=
  snapshot.venueId = adapter.venueId ∧ snapshot.validate = .ok ()

/-- What a step of a call did to the adapter. -/
inductive Written (adapter : PaperAdapter) (iteration : List VenueOrderId) (state : PaperAdapterState) :
    Call → Outcome → Prop
  | nothing (idle : Idle label)
      (cached : ∀ answer ∈ acksOf [label], state.idempotencyCache.lookup answer.1 = some answer.2) :
      Written adapter iteration state call ⟨state, label, next⟩
  | inserted (prepared : prepare adapter submission book = .ok insertion) :
      Written adapter iteration state (.inserting submission book)
        ⟨insert state insertion, .inserted submission insertion, none⟩
  | taken (found : state.postAckActions.lookup venueOrderId = some actions) :
      Written adapter iteration state (.taking venueOrderId)
        ⟨{ state with postAckActions := state.postAckActions.erase venueOrderId },
          .taken venueOrderId (.ok actions), some (.broadcasting (venueFills actions))⟩
  | replaced (accepted : Accepted adapter snapshot)
      (repriced : collectRepricedFills adapter snapshot (withOrderbook state snapshot) iteration = collected) :
      Written adapter iteration state (.replacing snapshot)
        ⟨collected.state, .replaced snapshot collected.fills collected.error,
          if collected.error.isSome then none else some (.broadcasting collected.fills)⟩
  | cancelled (found : state.openOrders.lookup venueOrderId = some order) :
      Written adapter iteration state (.cancelling venueOrderId)
        ⟨{ state with openOrders := state.openOrders.erase venueOrderId },
          .cancelled venueOrderId (.ok ()), none⟩

theorem written (adapter : PaperAdapter) (iteration : List VenueOrderId) (state : PaperAdapterState)
    (call : Call) : Written adapter iteration state call (call.run adapter iteration state) := by
  have silent : ∀ answer ∈ ([] : List (ClientOrderId × VenueOrderAck)),
      state.idempotencyCache.lookup answer.1 = some answer.2 := List.forall_mem_nil _
  have step := ran adapter iteration state call
  generalize call.run adapter iteration state = outcome at step ⊢
  cases step with
  | @answered answer call submission landed known =>
    cases answer with
    | error error => exact .nothing trivial silent
    | ok ack => exact .nothing trivial (List.forall_mem_singleton.mpr (known ack rfl))
  | passed | priced | retaken | missed | unknown | broadcast | returned => exact .nothing trivial silent
  | refused => exact .nothing ⟨rfl, rfl⟩ silent
  | inserted prepared => exact .inserted prepared
  | taken found => exact .taken found
  | replaced home valid repriced => exact .replaced ⟨home, valid⟩ repriced
  | cancelled found => exact .cancelled found

/-- The adapter is connected and the submission passes `validate_submission`. -/
structure Admits (adapter : PaperAdapter) (submission : OrderSubmission) : Prop where
  connected : adapter.connection = .connected
  valid : validateSubmission adapter submission = .ok ()

/-- A submission past its first section has been checked. -/
def Checked (adapter : PaperAdapter) : Call → Prop
  | .pricing submission | .inserting submission _ => Admits adapter submission
  | .submitting _ | .taking _ | .replacing _ | .cancelling _ | .broadcasting _ => True

/-- A property of the calls that entries have and steps keep. -/
theorem calls_of_moves {Holds : Call → Prop} {adapter : PaperAdapter}
    (holds : ∀ call ∈ system.calls, Holds call) (entries : ∀ call : Call, call.IsEntry → Holds call)
    (steps : ∀ call iteration, Holds call →
      ∀ onward, (call.run adapter iteration system.state).next = some onward → Holds onward)
    (moves : Moves adapter system label next) : ∀ call ∈ next.calls, Holds call := by
  cases moves with
  | called call entry =>
    exact List.forall_mem_append.mpr ⟨holds, List.forall_mem_singleton.mpr (entries call entry)⟩
  | @ran before after call iteration running visits =>
    rw [running] at holds
    obtain ⟨earlier, rest⟩ := List.forall_mem_append.mp holds
    obtain ⟨own, later⟩ := List.forall_mem_cons.mp rest
    refine List.forall_mem_append.mpr ⟨List.forall_mem_append.mpr ⟨earlier, fun onward member => ?_⟩, later⟩
    exact steps call iteration own onward (Option.mem_toList.mp member)

theorem checked_next (checked : Checked adapter call)
    (onward : (call.run adapter iteration state).next = some next) : Checked adapter next := by
  have step := ran adapter iteration state call
  generalize call.run adapter iteration state = outcome at step onward
  cases step with
  | answered | inserted | missed | refused | cancelled | unknown | returned => cases onward
  | passed connected valid =>
    cases onward
    exact ⟨connected, valid⟩
  | priced =>
    cases onward
    exact checked
  | taken | retaken | broadcast =>
    cases onward
    trivial
  | replaced =>
    dsimp only at onward
    split at onward
    · cases onward
    · cases onward
      trivial

/-- An open order was checked, is kept under its own id and has some of it left. -/
structure Live (adapter : PaperAdapter) (venueOrderId : VenueOrderId) (order : PaperOpenOrder) : Prop where
  admitted : Admits adapter order.submission
  named : venueOrderId = paperOrderId order.submission.clientOrderId
  filled : 0 ≤ order.filledQty
  unfilled : order.filledQty < order.submission.qty

omit [LibraryText] in
theorem Live.remains {order : PaperOpenOrder} (live : Live adapter venueOrderId order) :
    0 < order.remainingQty := sub_pos.mpr live.unfilled

/-- What holds of an adapter at any time. -/
structure Standing (adapter : PaperAdapter) (system : System) : Prop where
  checked : ∀ call ∈ system.calls, Checked adapter call
  live : ∀ venueOrderId order, system.state.openOrders.lookup venueOrderId = some order →
    Live adapter venueOrderId order

/-- An order inserted as open has some of it left. -/
theorem live_of_prepare (admitted : Admits adapter submission)
    (prepared : prepare adapter submission book = .ok insertion) (written : insertion.openOrder = some order) :
    Live adapter insertion.ack.venueOrderId order := by
  have facts := prepare_ok prepared
  obtain ⟨same, filled⟩ := facts.openOrder order written
  suffices unfilled : order.filledQty < submission.qty by
    subst same
    exact ⟨admitted, facts.venueOrderId, by rw [filled]; exact facts.total.1, unfilled⟩
  unfold prepare at prepared
  dsimp only at prepared
  split at prepared
  · cases prepared
  · next simulated =>
    have sized : 0 < submission.qty := adapter.fillSimulator.sized simulated
    simp only [settle, Except.ok.injEq] at prepared
    subst prepared
    split at written <;> cases written
    exact sized
  · next simulated executed =>
    have fills := adapter.fillSimulator.fills executed
    split at prepared
    · cases prepared
    · unfold settle at prepared
      dsimp only at prepared
      split at prepared
      · cases prepared
        cases written
      · next incomplete =>
        have partly := fills.partly (Bool.eq_false_iff.mpr incomplete)
        split at prepared
        · split at prepared
          · cases prepared
            cases written
            exact partly
          · cases prepared
        · cases prepared
          cases written
        · cases prepared
        · cases prepared

omit [LibraryText] in
/-- Repricing one order keeps the open orders live. -/
theorem live_of_repriceOrder
    (live : ∀ probe order, state.openOrders.lookup probe = some order → Live adapter probe order)
    (repriced : repriceOrder adapter snapshot state venueOrderId = .ok (next, fills)) :
    ∀ probe order, next.openOrders.lookup probe = some order → Live adapter probe order := by
  unfold repriceOrder at repriced
  split at repriced
  · cases repriced
    exact live
  · next existing found =>
    split at repriced
    · cases repriced
      exact fun probe order opened => live probe order (lookup_of_erase opened)
    · split at repriced
      · cases repriced
      · cases repriced
        exact live
      · next simulated executed =>
        cases repriced
        intro probe order opened
        dsimp only at opened
        split at opened
        · exact live probe order (lookup_of_erase opened)
        · next incomplete =>
          rw [lookup_insert_if] at opened
          split at opened
          · next hit =>
            cases opened
            obtain ⟨admitted, named, filled, unfilled⟩ := live venueOrderId existing found
            have fills := adapter.fillSimulator.fills executed
            have positive := fills.positive
            have partly := fills.partly (Bool.eq_false_iff.mpr incomplete)
            simp only [orderCoreFromSubmission, PaperOpenOrder.remainingQty] at partly
            exact ⟨admitted, hit.trans named, by dsimp only; linarith, by dsimp only; linarith⟩
          · exact live probe order opened

omit [LibraryText] in
/-- So does a whole repricing. -/
theorem live_of_collect (adapter : PaperAdapter) (snapshot : OrderbookSnapshot) (iteration : List VenueOrderId)
    (live : ∀ probe order, state.openOrders.lookup probe = some order → Live adapter probe order) :
    ∀ probe order, (collectRepricedFills adapter snapshot state iteration).state.openOrders.lookup probe =
      some order → Live adapter probe order := by
  induction iteration generalizing state with
  | nil => exact live
  | cons venueOrderId rest ih =>
    unfold collectRepricedFills
    split
    · exact live
    · next next fills repriced => exact ih (live_of_repriceOrder live repriced)

omit [LibraryText] in
theorem Standing.start (adapter : PaperAdapter) : Standing adapter .start where
  checked := List.forall_mem_nil _
  live _ _ found := by cases found

theorem Standing.step {adapter : PaperAdapter} (standing : Standing adapter system)
    (moves : Moves adapter system label next) : Standing adapter next where
  checked := by
    refine calls_of_moves standing.checked (fun call entry => ?_)
      (fun call iteration checked onward => checked_next checked) moves
    cases call <;> first | exact trivial | cases entry
  live := by
    cases moves with
    | called call entry => exact standing.live
    | @ran before after call iteration running visits =>
      have checked : Checked adapter call := standing.checked call (by simp [running])
      have write := written adapter iteration system.state call
      generalize call.run adapter iteration system.state = outcome at write
      cases write with
      | nothing idle cached => exact standing.live
      | inserted prepared =>
        intro venueOrderId order found
        rcases lookup_of_insertIfSome found with ⟨rfl, written⟩ | old
        · exact live_of_prepare checked prepared written
        · exact standing.live venueOrderId order old
      | taken found => exact standing.live
      | replaced accepted repriced =>
        subst repriced
        exact live_of_collect adapter _ iteration standing.live
      | cancelled found =>
        exact fun venueOrderId order opened => standing.live venueOrderId order (lookup_of_erase opened)

theorem standing_of_run {adapter : PaperAdapter} (run : Path (Moves adapter) .start labels system) :
    Standing adapter system := by
  induction run with
  | start => exact .start adapter
  | step _ move ih => exact ih.step move

end Sections

end FeynmanEngine.PaperSections
