import FeynmanEngine.PaperSections

/-! What a failed paper submission leaves behind. `submit_order` writes in its
last section only, and its errors leave the adapter as it was, those of a
fill-or-kill order that trades in part included. A fill-or-kill order that the
book leaves resting is cached and acknowledged before it is refused, and its
retry is answered with the ack. -/
namespace FeynmanEngine.SubmissionFailures
open Ids Orders Orderbooks VenueOrders FillSimulation Tables Traces PaperVenue PaperExecutions PaperOrdering
open PaperSections

/-- An ack that something came of: a fill, an open order or a cancellation. -/
def Effective (insertion : Insertion) : Prop :=
  insertion.fills ≠ [] ∨ insertion.openOrder.isSome ∨
    ∃ actions, insertion.actions = some actions ∧ actions.cancellationReason.isSome

/-- A fill-or-kill order that the book leaves resting. -/
def LeftUnkilled (adapter : PaperAdapter) (submission : OrderSubmission) (book : OrderbookSnapshot) : Prop :=
  submission.timeInForce = .fok ∧
    adapter.fillSimulator.simulate
      (orderCoreFromSubmission submission book.receivedAt submission.qty)
      (paperOrderId submission.clientOrderId) book adapter.feeModel = .ok .resting

section Sections
variable [LibraryText]

/-- What is written for a checked submission: an ack that something came of, or
the trace of an order refused at the same time. -/
theorem prepare_cases (admitted : Admits adapter submission)
    (prepared : prepare adapter submission book = .ok insertion) :
    LeftUnkilled adapter submission book ∧ insertion.actions = none ∧
        insertion.answer = .error (.venueRejected "FOK order could not be fully filled on paper adapter") ∨
      ¬ LeftUnkilled adapter submission book ∧ insertion.actions.isSome ∧
        insertion.answer = .ok insertion.ack ∧ Effective insertion := by
  unfold prepare at prepared
  dsimp only at prepared
  split at prepared
  · cases prepared
  · next rests =>
    simp only [settle, Except.ok.injEq] at prepared
    subst prepared
    cases kept : submission.timeInForce with
    | gtc =>
      refine Or.inr ⟨fun unkilled => ?_, rfl, rfl, Or.inr (Or.inl rfl)⟩
      rw [LeftUnkilled, kept] at unkilled
      cases unkilled.1
    | ioc =>
      refine Or.inr ⟨fun unkilled => ?_, rfl, rfl, Or.inr (Or.inr ⟨_, rfl, rfl⟩)⟩
      rw [LeftUnkilled, kept] at unkilled
      cases unkilled.1
    | fok => exact Or.inl ⟨⟨kept, rests⟩, rfl, rfl⟩
    | gtd expiry =>
      -- excluded by `validate_submission`
      have valid := admitted.valid
      unfold validateSubmission at valid
      rw [kept] at valid
      split at valid
      · cases valid
      · split at valid <;> cases valid
  · next simulated executed =>
    have traded : ¬ LeftUnkilled adapter submission book := by
      rintro ⟨-, rests⟩
      rw [executed] at rests
      cases rests
    split at prepared
    · cases prepared
    · unfold settle at prepared
      dsimp only at prepared
      split at prepared
      · cases prepared
        exact Or.inr ⟨traded, rfl, rfl, Or.inl (List.cons_ne_nil _ _)⟩
      · split at prepared
        · split at prepared
          · cases prepared
            exact Or.inr ⟨traded, rfl, rfl, Or.inl (List.cons_ne_nil _ _)⟩
          · cases prepared
        · cases prepared
          exact Or.inr ⟨traded, rfl, rfl, Or.inl (List.cons_ne_nil _ _)⟩
        · cases prepared
        · cases prepared

/-- A resting fill-or-kill order is written all the same, with nothing to follow. -/
theorem prepare_unkilled (unkilled : LeftUnkilled adapter submission book) :
    ∃ insertion, prepare adapter submission book = .ok insertion ∧ insertion.actions = none := by
  unfold prepare
  dsimp only
  rw [unkilled.2]
  refine ⟨_, rfl, ?_⟩
  rw [unkilled.1]

/-- The next section of a call that goes on, with no other call in between. -/
def onward (adapter : PaperAdapter) (outcome : Outcome) : Outcome :=
  match outcome.next with
  | none => outcome
  | some call => call.run adapter [] outcome.state

/-- `submit_order`, its three sections in a row. -/
def submitOrder (adapter : PaperAdapter) (state : PaperAdapterState) (submission : OrderSubmission) : Outcome :=
  onward adapter (onward adapter ((Call.submitting submission).run adapter [] state))

def answerOf : Label → Option (Except GatewayError VenueOrderAck)
  | .answered _ answer => some answer
  | .inserted _ insertion => some insertion.answer
  | .called _ | .passed | .taken .. | .replaced .. | .cancelled .. | .broadcast _ | .returned => none

def Fails (label : Label) : Prop := ∃ error, answerOf label = some (.error error)

/-- The submission gets as far as its simulation against this book. -/
structure Reaches (adapter : PaperAdapter) (state : PaperAdapterState) (submission : OrderSubmission)
    (book : OrderbookSnapshot) : Prop where
  admitted : Admits adapter submission
  unseen : state.idempotencyCache.lookup submission.clientOrderId = none
  priced : state.orderbooks.lookup submission.marketId = some book

theorem submitOrder_reaches (reaches : Reaches adapter state submission book) :
    submitOrder adapter state submission = insertOrder adapter state submission book := by
  have checked : checkDuplicate adapter state submission = ⟨state, .passed, some (.pricing submission)⟩ := by
    unfold checkDuplicate
    rw [if_neg (not_not.mpr reaches.admitted.connected), reaches.admitted.valid]
    dsimp only
    rw [reaches.unseen]
  have read : readBook state submission = ⟨state, .passed, some (.inserting submission book)⟩ := by
    unfold readBook
    rw [reaches.priced]
  simp only [submitOrder, onward, Call.run, checked, read]

/-- How a submission ends: refused or answered from the cache with the adapter
as it was, or inserted. -/
theorem submitOrder_cases (adapter : PaperAdapter) (state : PaperAdapterState) (submission : OrderSubmission) :
    (∃ answer, submitOrder adapter state submission = ⟨state, .answered submission answer, none⟩) ∨
      ∃ book insertion, Reaches adapter state submission book ∧
        prepare adapter submission book = .ok insertion ∧
        submitOrder adapter state submission =
          ⟨insert state insertion, .inserted submission insertion, none⟩ := by
  by_cases reached : ∃ book, Reaches adapter state submission book
  · obtain ⟨book, reaches⟩ := reached
    rw [submitOrder_reaches reaches]
    unfold insertOrder
    cases prepared : prepare adapter submission book with
    | error error => exact Or.inl ⟨_, rfl⟩
    | ok insertion => exact Or.inr ⟨book, insertion, reaches, prepared, rfl⟩
  · left
    unfold submitOrder
    simp only [Call.run]
    unfold checkDuplicate
    split
    · exact ⟨_, rfl⟩
    · next connected =>
      split
      · exact ⟨_, rfl⟩
      · next valid =>
        split
        · exact ⟨_, rfl⟩
        · next unseen =>
          cases priced : state.orderbooks.lookup submission.marketId with
          | none =>
            simp only [onward, Call.run, readBook, priced]
            exact ⟨_, rfl⟩
          | some book => exact absurd ⟨book, ⟨not_not.mp connected, valid⟩, unseen, priced⟩ reached

/-- The submission would leave its trace behind: it gets to a book, and the book
leaves the fill-or-kill order resting. -/
def Traced (adapter : PaperAdapter) (state : PaperAdapterState) (submission : OrderSubmission) : Prop :=
  ∃ book, Reaches adapter state submission book ∧ LeftUnkilled adapter submission book

/-- A failed submission leaves the adapter as it was, unless it is such an order. -/
theorem unchanged_iff (adapter : PaperAdapter) (state : PaperAdapterState) (submission : OrderSubmission) :
    (Fails (submitOrder adapter state submission).label →
        (submitOrder adapter state submission).state = state) ↔ ¬ Traced adapter state submission := by
  rcases submitOrder_cases adapter state submission with ⟨answer, ended⟩ | ⟨book, insertion, reaches, prepared, ended⟩
  · rw [ended]
    refine iff_of_true (fun _ => rfl) ?_
    rintro ⟨book, reaches, unkilled⟩
    obtain ⟨insertion, prepared, -⟩ := prepare_unkilled unkilled
    rw [submitOrder_reaches reaches, insertOrder, prepared] at ended
    have labels := congrArg Outcome.label ended
    cases labels
  · rw [ended]
    rcases prepare_cases reaches.admitted prepared with ⟨unkilled, -, refused⟩ | ⟨traded, -, accepted, -⟩
    · refine iff_of_false (fun unchanged => ?_) (not_not.mpr ⟨book, reaches, unkilled⟩)
      -- the client order id was not cached before, and is now
      have same : insert state insertion = state := unchanged ⟨_, congrArg some refused⟩
      have cached : (insert state insertion).idempotencyCache.lookup submission.clientOrderId =
          some insertion.ack := by
        simp only [PaperVenue.insert, lookup_insert_if, (prepare_ok prepared).clientOrderId, if_true]
      rw [same, reaches.unseen] at cached
      cases cached
    · refine iff_of_true (fun fails => ?_) ?_
      · obtain ⟨error, failed⟩ := fails
        simp only [answerOf, accepted] at failed
        cases failed
      · rintro ⟨other, reached, unkilled⟩
        obtain rfl : other = book := Option.some.inj (reached.priced.symm.trans reaches.priced)
        exact traded unkilled

/-- No step inserts a fill-or-kill order that the book it was simulated against
leaves resting. -/
def Kills (adapter : PaperAdapter) (system : System) : Label → Prop
  | .inserted submission insertion => ∀ book, .inserting submission book ∈ system.calls →
    prepare adapter submission book = .ok insertion → ¬ LeftUnkilled adapter submission book
  | .called _ | .answered .. | .passed | .taken .. | .replaced .. | .cancelled .. | .broadcast _ |
    .returned => True

theorem failing_step {adapter : PaperAdapter} (standing : Standing adapter system)
    (moves : Moves adapter system label next) (kills : Kills adapter system label) (fails : Fails label) :
    next.state = system.state := by
  cases moves with
  | called call entry => rfl
  | @ran before after call iteration running visits =>
    have member : call ∈ system.calls := by simp [running]
    have checked := standing.checked call member
    have write := written adapter iteration system.state call
    generalize call.run adapter iteration system.state = outcome at write kills fails ⊢
    obtain ⟨error, failed⟩ := fails
    cases write with
    | nothing idle cached => rfl
    | inserted prepared =>
      rcases prepare_cases checked prepared with ⟨unkilled, -⟩ | ⟨-, -, accepted, -⟩
      · exact absurd unkilled (kills _ member prepared)
      · simp only [answerOf, accepted] at failed
        cases failed
    | taken found => cases failed
    | replaced accepted repriced => cases failed
    | cancelled found => cases failed

/-- Every cached ack is of an insertion that something came of. -/
def Accounted (labels : List Label) (state : PaperAdapterState) : Prop :=
  ∀ clientOrderId ack, state.idempotencyCache.lookup clientOrderId = some ack →
    ∃ submission insertion, .inserted submission insertion ∈ labels ∧
      submission.clientOrderId = clientOrderId ∧ insertion.ack = ack ∧ Effective insertion

theorem accounted_step {adapter : PaperAdapter} (standing : Standing adapter system)
    (accounted : Accounted labels system.state) (moves : Moves adapter system label next)
    (kills : Kills adapter system label) : Accounted (labels ++ [label]) next.state := by
  have earlier : ∀ later : PaperAdapterState, later.idempotencyCache = system.state.idempotencyCache →
      Accounted (labels ++ [label]) later := by
    intro later same clientOrderId ack cached
    rw [same] at cached
    obtain ⟨submission, insertion, member, rest⟩ := accounted clientOrderId ack cached
    exact ⟨submission, insertion, List.mem_append_left _ member, rest⟩
  cases moves with
  | called call entry => exact earlier _ rfl
  | @ran before after call iteration running visits =>
    have member : call ∈ system.calls := by simp [running]
    have checked := standing.checked call member
    have write := written adapter iteration system.state call
    generalize call.run adapter iteration system.state = outcome at write kills earlier ⊢
    cases write with
    | nothing idle cached => exact earlier _ rfl
    | @inserted submission book insertion prepared =>
      have facts := prepare_ok prepared
      rcases prepare_cases checked prepared with ⟨unkilled, -⟩ | ⟨-, -, -, effective⟩
      · exact absurd unkilled (kills _ member prepared)
      · intro clientOrderId ack cached
        simp only [PaperVenue.insert, lookup_insert_if, facts.clientOrderId] at cached
        split at cached
        · next own =>
          cases cached
          exact ⟨submission, insertion, List.mem_append_right _ (List.mem_singleton.mpr rfl), own.symm, rfl,
            effective⟩
        · exact earlier system.state rfl clientOrderId ack cached
    | taken found => exact earlier _ rfl
    | replaced accepted repriced =>
      subst repriced
      exact earlier _ (collectRepricedFills_frame adapter _ (withOrderbook system.state _) iteration).2
    | cancelled found => exact earlier _ rfl

theorem acks_of_step {adapter : PaperAdapter} (moves : Moves adapter system label next) :
    ∀ answer ∈ acksOf [label], next.state.idempotencyCache.lookup answer.1 = some answer.2 := by
  cases moves with
  | called call entry => exact List.forall_mem_nil _
  | @ran before after call iteration running visits =>
    have write := written adapter iteration system.state call
    generalize call.run adapter iteration system.state = outcome at write ⊢
    cases write with
    | nothing idle cached => exact cached
    | @inserted submission book insertion prepared =>
      have facts := prepare_ok prepared
      rintro ⟨clientOrderId, ack⟩ member
      simp only [acksOf, List.filterMap_cons, List.filterMap_nil] at member
      cases answered : insertion.answer with
      | error error => simp [answered] at member
      | ok own =>
        obtain ⟨rfl, rfl⟩ : clientOrderId = submission.clientOrderId ∧ ack = own := by
          simpa [answered] using member
        simp only [PaperVenue.insert, lookup_insert_if, facts.clientOrderId, if_true]
        rw [facts.answer _ answered]
    | taken found => exact List.forall_mem_nil _
    | replaced accepted repriced => exact List.forall_mem_nil _
    | cancelled found => exact List.forall_mem_nil _

/-- A failed paper submission leaves no trace, in every interleaving that inserts
no fill-or-kill order its book leaves resting. In every adapter reached, a step
that fails a submission writes nothing, a whole call leaves the adapter as it
was exactly when it is not such an order, and every ack ever returned is of an
order that was executed, left resting or scheduled for cancellation. -/
theorem failures_leave_no_trace {adapter : PaperAdapter}
    (run : Path (fun system label next => Moves adapter system label next ∧ Kills adapter system label)
      .start labels system) :
    (∀ label next, Moves adapter system label next → Kills adapter system label → Fails label →
      next.state = system.state) ∧
    (∀ submission, (Fails (submitOrder adapter system.state submission).label →
        (submitOrder adapter system.state submission).state = system.state) ↔
      ¬ Traced adapter system.state submission) ∧
    ∀ clientOrderId ack, (clientOrderId, ack) ∈ acksOf labels → ∃ submission insertion,
      .inserted submission insertion ∈ labels ∧ submission.clientOrderId = clientOrderId ∧
        insertion.ack = ack ∧ Effective insertion := by
  have standing := standing_of_run (run.mono fun _ _ _ move => move.1)
  refine ⟨fun label next moves kills fails => failing_step standing moves kills fails,
    unchanged_iff adapter system.state, ?_⟩
  suffices both : Accounted labels system.state ∧ ∀ answer ∈ acksOf labels, ∃ submission insertion,
      .inserted submission insertion ∈ labels ∧ submission.clientOrderId = answer.1 ∧
        insertion.ack = answer.2 ∧ Effective insertion from fun clientOrderId ack member => both.2 _ member
  clear standing
  induction run with
  | start => exact ⟨fun _ _ cached => (by cases cached), List.forall_mem_nil _⟩
  | @step labels state label next earlier move ih =>
    have standing := standing_of_run (earlier.mono fun _ _ _ move => move.1)
    have accounted := accounted_step standing ih.1 move.1 move.2
    refine ⟨accounted, fun answer member => ?_⟩
    rw [acksOf_snoc] at member
    rcases List.mem_append.mp member with old | new
    · obtain ⟨submission, insertion, member, rest⟩ := ih.2 answer old
      exact ⟨submission, insertion, List.mem_append_left _ member, rest⟩
    · exact accounted answer.1 answer.2 (acks_of_step move.1 answer new)

end Sections

theorem ack_of_answered (answered : (acksOf labels).map Prod.fst = [clientOrderId]) :
    ∃ ack, (clientOrderId, ack) ∈ acksOf labels := by
  have member : clientOrderId ∈ (acksOf labels).map Prod.fst := by
    rw [answered]
    exact List.mem_singleton.mpr rfl
  obtain ⟨⟨_, ack⟩, acked, rfl⟩ := List.mem_map.mp member
  exact ⟨ack, acked⟩

section Samples
open Plain

/-- A fill-or-kill order at the best ask, of what the book offers there. -/
def taker : OrderSubmission := sampleSubmission "athena-take" .limit 1 (some 10000) .fok

def oversized : OrderSubmission := sampleSubmission "athena-over" .limit 2 (some 10000) .fok

def missed : OrderSubmission := sampleSubmission "athena-miss" .limit 1 (some 9999) .fok

def takenAndOversized : List Turn :=
  [.call (.replacing (sampleOrderbook ⟨0⟩)), .advance 0, .advance 0,
    .call (.submitting taker), .advance 0, .advance 0, .advance 0,
    .call (.submitting oversized), .advance 0, .advance 0, .advance 0]

/-- Every insertion has something to follow it. -/
def followed (_ : System) : Label → Bool
  | .inserted _ insertion => insertion.actions.isSome
  | .called _ | .answered .. | .passed | .taken .. | .replaced .. | .cancelled .. | .broadcast _ |
    .returned => true

theorem kills_of_followed [LibraryText] (adapter : PaperAdapter) (follows : followed system label = true) :
    Kills adapter system label := by
  cases label with
  | inserted submission insertion =>
    intro book _ prepared unkilled
    obtain ⟨other, again, nothing⟩ := prepare_unkilled unkilled
    obtain rfl : other = insertion := Except.ok.inj (again.symm.trans prepared)
    rw [followed, nothing] at follows
    cases follows
  | called | answered | passed | taken | replaced | cancelled | broadcast | returned => trivial

def isResting : FillSimulationOutcome → Bool
  | .resting => true
  | .executed _ => false

/-- The first order is executed, and the refusal of the second leaves the adapter as it was. -/
theorem failures_leave_no_trace_taken : ∃ labels system ack,
    Path (Moves paperAdapter) .start labels system ∧ (taker.clientOrderId, ack) ∈ acksOf labels ∧
    (∃ submission insertion, .inserted submission insertion ∈ labels ∧ insertion.ack = ack ∧
      Effective insertion) ∧
    (Fails (submitOrder paperAdapter system.state oversized).label →
      (submitOrder paperAdapter system.state oversized).state = system.state) := by
  have played : ((play paperAdapter followed .start takenAndOversized).map fun played =>
      ((acksOf played.1).map Prod.fst, played.2.state.orderbooks.lookup oversized.marketId)) =
        some ([taker.clientOrderId], some (sampleOrderbook ⟨0⟩)) := by decide +kernel
  obtain ⟨⟨labels, system⟩, reached, views⟩ := Option.map_eq_some_iff.mp played
  obtain ⟨answered, priced⟩ := Prod.mk.inj views
  have run := (path_of_play reached).mono fun _ _ _ move =>
    And.intro move.1 (kills_of_followed paperAdapter move.2)
  obtain ⟨-, whole, effective⟩ := failures_leave_no_trace run
  obtain ⟨ack, member⟩ := ack_of_answered answered
  obtain ⟨submission, insertion, inserted, -, same, came⟩ := effective _ _ member
  refine ⟨labels, system, ack, run.mono fun _ _ _ move => move.1, member,
    ⟨submission, insertion, inserted, same, came⟩, (whole oversized).mpr ?_⟩
  rintro ⟨book, reaches, -, rests⟩
  obtain rfl : book = sampleOrderbook ⟨0⟩ := Option.some.inj (reaches.priced.symm.trans priced)
  have trades : ((paperAdapter.fillSimulator.simulate
      (orderCoreFromSubmission oversized (sampleOrderbook ⟨0⟩).receivedAt oversized.qty)
      (paperOrderId oversized.clientOrderId) (sampleOrderbook ⟨0⟩) paperAdapter.feeModel).toOption.map
        isResting) = some false := by decide +kernel
  rw [rests] at trades
  cases trades

/-- The ack of the third order, though it is refused. -/
def missedAck : VenueOrderAck := ⟨paperOrderId missed.clientOrderId, missed.clientOrderId, ⟨0⟩⟩

/-- The refusal of the third order leaves its client order id cached: its retry
returns `Ok` for an order that is neither filled, nor open, nor to be cancelled. -/
theorem refused_order_is_cached : ∃ labels system, Path (Moves paperAdapter) .start labels system ∧
    Fails (submitOrder paperAdapter system.state missed).label ∧
    (submitOrder paperAdapter system.state missed).state ≠ system.state ∧
    answerOf (submitOrder paperAdapter (submitOrder paperAdapter system.state missed).state missed).label =
      some (.ok missedAck) ∧
    missedAck.venueOrderId ∈ (submitOrder paperAdapter system.state missed).state.acknowledgedOrders ∧
    (submitOrder paperAdapter system.state missed).state.openOrders.lookup missedAck.venueOrderId = none ∧
    (submitOrder paperAdapter system.state missed).state.postAckActions.lookup missedAck.venueOrderId =
      none := by
  have played : ((play paperAdapter (fun _ _ => true) .start (takenAndOversized.take 3)).map fun played =>
      let refused := submitOrder paperAdapter played.2.state missed
      decide (answerOf refused.label = some (.error
          (.venueRejected "FOK order could not be fully filled on paper adapter")) ∧
        played.2.state.idempotencyCache.lookup missed.clientOrderId = none ∧
        refused.state.idempotencyCache.lookup missed.clientOrderId = some missedAck ∧
        answerOf (submitOrder paperAdapter refused.state missed).label = some (.ok missedAck) ∧
        missedAck.venueOrderId ∈ refused.state.acknowledgedOrders ∧
        refused.state.openOrders.lookup missedAck.venueOrderId = none ∧
        refused.state.postAckActions.lookup missedAck.venueOrderId = none)) = some true := by
    decide +kernel
  obtain ⟨⟨labels, system⟩, reached, views⟩ := Option.map_eq_some_iff.mp played
  obtain ⟨refused, before, after, rest⟩ := of_decide_eq_true views
  refine ⟨labels, system, (path_of_play reached).mono fun _ _ _ move => move.1, ⟨_, refused⟩, ?_, rest⟩
  intro same
  rw [same, before] at after
  cases after

end Samples

end FeynmanEngine.SubmissionFailures
