import FeynmanEngine.Fanouts
import FeynmanEngine.PaperExecutions

/-! Subscribers of the paper adapter. A section that has fills to show hands them
to a caller of `broadcast_fill`, which takes the list of subscribers anew for each
fill and sends it to one after the other. Seen from outside, a broadcast is the
moment at which it takes the list. -/
namespace FeynmanEngine.FillSubscribers
open Ids Orders Orderbooks VenueOrders FillSimulation Tables Traces PaperVenue PaperExecutions Fanouts

/-- The adapter's state, the calls that have no fills to broadcast yet, and the
subscribers with the calls that have. -/
structure System where
  state : PaperAdapterState
  sections : List Call
  fanout : Fanout VenueFill

def System.start : System := ⟨.default, [], .start⟩

def System.subscribeFills (system : System) (capacity : Nat) : System :=
  { system with fanout := system.fanout.subscribe capacity }

/-- What one step did. A section that leaves fills to broadcast starts a caller. -/
inductive Label where
  | locked (label : PaperVenue.Label) (starts : List (Fanouts.Label VenueFill))
  | fanout (label : Fanouts.Label VenueFill)

/-- The callers an outcome starts. -/
def startsOf (fanout : Fanout VenueFill) (outcome : Outcome) : List (Fanouts.Label VenueFill) :=
  match outcome.next with
  | some (.broadcasting fills) => [.called fanout.called fills]
  | _ => []

/-- After a section of a call. -/
def System.went (system : System) (before : List Call) (outcome : Outcome) (after : List Call) : System :=
  match outcome.next with
  | some (.broadcasting fills) => ⟨outcome.state, before ++ after, system.fanout.call fills⟩
  | next => ⟨outcome.state, before ++ next.toList ++ after, system.fanout⟩

section Steps
variable [LibraryText]

/-- Calls start, their sections run, and broadcasts and receivers go on, in any order. -/
inductive Moves (adapter : PaperAdapter) (capacity : Nat) (system : System) : Label → System → Prop
  | called (call : Call) (entry : call.IsEntry) :
      Moves adapter capacity system (.locked (.called call) [])
        { system with sections := system.sections ++ [call] }
  | ran {before after : List Call} {call : Call} (iteration : List VenueOrderId)
      (running : system.sections = before ++ call :: after) (visits : Visits system.state iteration call) :
      Moves adapter capacity system
        (.locked (call.run adapter iteration system.state).label
          (startsOf system.fanout (call.run adapter iteration system.state)))
        (system.went before (call.run adapter iteration system.state) after)
  | fanned (moves : Fanouts.Moves capacity system.fanout label next)
      (own : ∀ caller messages, label ≠ .called caller messages) :
      Moves adapter capacity system (.fanout label) { system with fanout := next }

/-- A broadcast counts from its beginning. -/
def paperLabel : Label → List PaperVenue.Label
  | .locked label _ => [label]
  | .fanout (.began _ fill) => [.broadcast fill]
  | .fanout _ => []

def paperLabels (labels : List Label) : List PaperVenue.Label := labels.flatMap paperLabel

def fanoutLabel : Label → List (Fanouts.Label VenueFill)
  | .locked _ starts => starts
  | .fanout label => [label]

def fanoutLabels (labels : List Label) : List (Fanouts.Label VenueFill) := labels.flatMap fanoutLabel

/-- The calls with fills to broadcast, as the adapter's own model has them. -/
def broadcasting (fanout : Fanout VenueFill) : List Call :=
  (List.range fanout.called).map fun caller => .broadcasting (fanout.callers caller).rest

/-- No condition on the steps. -/
def anything (_ : PaperAdapterState) (_ : PaperVenue.Label) : Bool := true

/-- What the system is to the adapter's own model. -/
structure Shows (system : System) (paper : PaperVenue.System) : Prop where
  state : paper.state = system.state
  calls : paper.calls.Perm (system.sections ++ broadcasting system.fanout)

/-- The adapter's own steps, as far as a condition on state and label allows them. -/
def Steps (adapter : PaperAdapter) (meets : PaperAdapterState → PaperVenue.Label → Bool) (paper : PaperVenue.System)
    (label : PaperVenue.Label) (next : PaperVenue.System) : Prop :=
  PaperVenue.Moves adapter paper label next ∧ meets paper.state label = true

variable {adapter : PaperAdapter} {capacity : Nat} {meets : PaperAdapterState → PaperVenue.Label → Bool}

omit [LibraryText] in
/-- One element of a list gives way to others, wherever it stands. -/
theorem perm_replaced {α : Type} {one : α} {before after first last : List α}
    (same : (before ++ one :: after).Perm (first ++ one :: last)) (others : List α) : (before ++ others ++ after).Perm (first ++ others ++ last) := by
  have left : (before ++ after).Perm (first ++ last) :=
    (List.perm_middle.symm.trans (same.trans List.perm_middle)).cons_inv
  have around : ∀ outer inner : List α, (outer ++ others ++ inner).Perm (others ++ (outer ++ inner)) := by
    intro outer inner
    rw [List.append_assoc]
    exact List.perm_append_comm_assoc ..
  exact (around before after).trans ((left.append_left others).trans (around first last).symm)

omit [LibraryText] in
theorem broadcasting_same {fanout next : Fanout VenueFill} (called : next.called = fanout.called)
    (rest : ∀ caller, (next.callers caller).rest = (fanout.callers caller).rest) :
    broadcasting next = broadcasting fanout := by
  unfold broadcasting
  rw [called]
  exact List.map_congr_left fun caller _ => congrArg Call.broadcasting (rest caller)

omit [LibraryText] in
theorem broadcasting_call (fanout : Fanout VenueFill) (fills : List VenueFill) :
    broadcasting (fanout.call fills) = broadcasting fanout ++ [.broadcasting fills] := by
  unfold broadcasting Fanout.call
  dsimp only
  rw [List.range_succ, List.map_append]
  refine congrArg₂ _ (List.map_congr_left fun caller below => ?_) ?_
  · rw [Function.update_of_ne (List.mem_range.mp below).ne]
  · rw [List.map_singleton, Function.update_self]
    rfl

omit [LibraryText] in
/-- A caller that begins its next broadcast is one element that gives way. -/
theorem broadcasting_began {fanout : Fanout VenueFill} (known : caller < fanout.called)
    (holds : fanout.callers caller = .between (fill :: rest)) :
    ∃ before after, broadcasting fanout = before ++ .broadcasting (fill :: rest) :: after ∧
      broadcasting (fanout.setCaller caller (.sending fill fanout.listed rest)) =
        before ++ .broadcasting rest :: after := by
  obtain ⟨before, after, split⟩ := List.append_of_mem (List.mem_range.mpr known)
  have once := split ▸ List.nodup_range (n := fanout.called)
  have apart : caller ∉ before ∧ caller ∉ after := by
    obtain ⟨-, later, disjoint⟩ := List.nodup_append.mp once
    exact ⟨fun early => disjoint caller early caller List.mem_cons_self rfl, (List.nodup_cons.mp later).1⟩
  let resting : Fanout VenueFill → Nat → Call := fun fanout caller => .broadcasting (fanout.callers caller).rest
  have others : ∀ callers : List Nat, caller ∉ callers →
      callers.map (resting (fanout.setCaller caller (.sending fill fanout.listed rest))) =
        callers.map (resting fanout) := by
    intro callers absent
    refine List.map_congr_left fun other member => ?_
    have different : other ≠ caller := fun same => absent (same ▸ member)
    simp only [resting, Fanout.setCaller, Function.update_of_ne different]
  refine ⟨before.map (resting fanout), after.map (resting fanout), ?_, ?_⟩
  · rw [broadcasting, split, List.map_append, List.map_cons, holds]
    rfl
  · have same : (fanout.setCaller caller (.sending fill fanout.listed rest)).called = fanout.called := rfl
    rw [broadcasting, same, split, List.map_append, List.map_cons]
    refine congrArg₂ _ (others before apart.1) (congrArg₂ _ ?_ (others after apart.2))
    simp only [Fanout.setCaller, Function.update_self]
    rfl

/-- A step of the adapter's own, when one of its calls stands where it should. -/
theorem shows_ran {system : System} {paper : PaperVenue.System} (state : paper.state = system.state)
    (calls : paper.calls.Perm (first ++ call :: last)) (iteration : List VenueOrderId)
    (visits : Visits system.state iteration call)
    (allowed : meets system.state (call.run adapter iteration system.state).label = true) :
    ∃ after : PaperVenue.System,
      Steps adapter meets paper (call.run adapter iteration system.state).label after ∧
      after.state = (call.run adapter iteration system.state).state ∧
      after.calls.Perm (first ++ (call.run adapter iteration system.state).next.toList ++ last) := by
  obtain ⟨held, running⟩ := paper
  obtain rfl : held = system.state := state
  have member : call ∈ running := calls.mem_iff.mpr (List.mem_append_right _ List.mem_cons_self)
  obtain ⟨before, after, rfl⟩ := List.append_of_mem member
  exact ⟨_, ⟨.ran iteration rfl visits, allowed⟩, rfl, perm_replaced calls _⟩

omit [LibraryText] in
theorem went_cases (system : System) (before : List Call) (outcome : Outcome) (after : List Call) :
    (∃ fills, outcome.next = some (.broadcasting fills) ∧
      startsOf system.fanout outcome = [.called system.fanout.called fills] ∧
      system.went before outcome after = ⟨outcome.state, before ++ after, system.fanout.call fills⟩) ∨
    (∀ fills, outcome.next ≠ some (.broadcasting fills)) ∧ startsOf system.fanout outcome = [] ∧
      system.went before outcome after = ⟨outcome.state, before ++ outcome.next.toList ++ after, system.fanout⟩ := by
  unfold startsOf System.went
  cases outcome.next with
  | none => exact Or.inr ⟨nofun, rfl, rfl⟩
  | some next =>
    cases next with
    | broadcasting fills => exact Or.inl ⟨fills, rfl, rfl, rfl⟩
    | _ => exact Or.inr ⟨nofun, rfl, rfl⟩

/-- Each step is at most one step of the adapter's own. -/
theorem shows_step {system next : System} {paper : PaperVenue.System} (shows : Shows system paper)
    (kept : Kept capacity system.fanout) (moves : Moves adapter capacity system label next)
    (allowed : ∀ paper ∈ paperLabel label, meets system.state paper = true) :
    ∃ after, Path (Steps adapter meets) paper (paperLabel label) after ∧ Shows next after := by
  cases moves with
  | called call entry =>
    refine ⟨⟨paper.state, paper.calls ++ [call]⟩, .step .start ⟨.called call entry, ?_⟩, shows.state, ?_⟩
    · rw [shows.state]
      exact allowed _ (List.mem_singleton_self _)
    · refine (shows.calls.append_right [call]).trans ?_
      rw [List.append_assoc, List.append_assoc]
      exact List.perm_append_comm.append_left _
  | @ran before after call iteration running visits =>
    have calls := shows.calls
    rw [running, List.append_assoc, List.cons_append] at calls
    obtain ⟨final, step, state, left⟩ := shows_ran shows.state calls iteration visits
      (allowed _ (List.mem_singleton_self _))
    refine ⟨final, .step .start step, ?_⟩
    rcases went_cases system before (call.run adapter iteration system.state) after with
      ⟨fills, begins, -, went⟩ | ⟨-, -, went⟩
    · rw [went]
      refine ⟨state, left.trans ?_⟩
      rw [begins, broadcasting_call]
      have moved : (before ++ [Call.broadcasting fills] ++ (after ++ broadcasting system.fanout)).Perm
          (before ++ (after ++ broadcasting system.fanout ++ [Call.broadcasting fills])) := by
        rw [List.append_assoc]
        exact List.perm_append_comm.append_left _
      simpa [List.append_assoc] using moved
    · rw [went]
      refine ⟨state, ?_⟩
      simpa [List.append_assoc] using left
  | @fanned label fanout moves own =>
    have still : ∀ next : Fanout VenueFill, next.called = system.fanout.called →
        (∀ caller, (next.callers caller).rest = (system.fanout.callers caller).rest) →
        Shows { system with fanout := next } paper := fun next called rest =>
      ⟨shows.state, by rw [broadcasting_same called rest]; exact shows.calls⟩
    have resting : ∀ (caller : Nat) (state : Caller VenueFill), state.rest = (system.fanout.callers caller).rest →
        ∀ other,
          (Function.update system.fanout.callers caller state other).rest = (system.fanout.callers other).rest := by
      intro caller state same other
      rw [Function.update_apply]
      split
      · next own => rw [own, same]
      · rfl
    cases moves with
    | subscribed => exact ⟨paper, .start, still _ rfl fun _ => rfl⟩
    | called messages => exact absurd rfl (own _ _)
    | @began caller fill rest holds =>
      obtain ⟨before, after, split, next⟩ :=
        broadcasting_began (kept.known caller (by simp [holds])) holds
      have calls := shows.calls
      rw [split, ← List.append_assoc] at calls
      obtain ⟨final, step, state, left⟩ := shows_ran shows.state calls [] trivial
        (allowed _ (List.mem_singleton_self _))
      refine ⟨final, .step .start step, state, ?_⟩
      rw [next]
      simpa [Call.run, List.append_assoc] using left
    | sent holds listens room => exact ⟨paper, .start, still _ rfl (resting _ _ (by rw [holds]; rfl))⟩
    | skipped holds gone => exact ⟨paper, .start, still _ rfl (resting _ _ (by rw [holds]; rfl))⟩
    | finished holds => exact ⟨paper, .start, still _ rfl (resting _ _ (by rw [holds]; rfl))⟩
    | received front => exact ⟨paper, .start, still _ rfl fun _ => rfl⟩
    | hungUp opened => exact ⟨paper, .start, still _ rfl fun _ => rfl⟩

/-- The calls that have no fills yet. -/
def Quiet (system : System) : Prop := ∀ call ∈ system.sections, ∀ fills, call ≠ .broadcasting fills

/-- A section broadcasts nothing itself. -/
theorem broadcastsOf_ran (adapter : PaperAdapter) {call : Call} (quiet : ∀ fills, call ≠ .broadcasting fills)
    (iteration : List VenueOrderId) (state : PaperAdapterState) :
    broadcastsOf [(call.run adapter iteration state).label] = [] := by
  have step := PaperVenue.ran adapter iteration state call
  generalize call.run adapter iteration state = outcome at step ⊢
  cases step with
  | broadcast => exact absurd rfl (quiet _)
  | _ => rfl

/-- What callers begin is what the adapter broadcasts. -/
theorem seen_step {system next : System} (quiet : Quiet system) (moves : Moves adapter capacity system label next) :
    Quiet next ∧ (begun (fanoutLabel label)).map Prod.snd = broadcastsOf (paperLabel label) := by
  cases moves with
  | called call entry =>
    refine ⟨fun other member fills => ?_, rfl⟩
    rcases List.mem_append.mp member with old | new
    · exact quiet other old fills
    · rw [List.mem_singleton.mp new]
      rintro rfl
      exact entry
  | @ran before after call iteration running visits =>
    have own := quiet call (running ▸ List.mem_append_right _ List.mem_cons_self)
    have others : ∀ other ∈ before ++ after, ∀ fills, other ≠ .broadcasting fills := fun other member => by
      refine quiet other ?_
      rw [running]
      rcases List.mem_append.mp member with early | late
      · exact List.mem_append_left _ early
      · exact List.mem_append_right _ (List.mem_cons_of_mem _ late)
    have silent := broadcastsOf_ran adapter own iteration system.state
    rcases went_cases system before (call.run adapter iteration system.state) after with
      ⟨fills, -, starts, went⟩ | ⟨onward, starts, went⟩
    · rw [went, starts]
      exact ⟨others, silent.symm⟩
    · rw [went, starts]
      refine ⟨fun other member => ?_, silent.symm⟩
      rcases List.mem_append.mp member with early | late
      · rcases List.mem_append.mp early with first | next
        · exact others other (List.mem_append_left _ first)
        · rintro fills rfl
          exact onward fills (Option.mem_toList.mp next)
      · exact others other (List.mem_append_right _ late)
  | @fanned label fanout moves own =>
    refine ⟨quiet, ?_⟩
    cases moves <;> rfl

/-- The subscribers and callers move as broadcasts do. -/
theorem fanout_step {system next : System} (moves : Moves adapter capacity system label next) :
    Path (Fanouts.Moves capacity) system.fanout (fanoutLabel label) next.fanout := by
  cases moves with
  | called call entry => exact .start
  | @ran before after call iteration running visits =>
    rcases went_cases system before (call.run adapter iteration system.state) after with
      ⟨fills, -, starts, went⟩ | ⟨-, starts, went⟩
    · rw [went, fanoutLabel, starts]
      exact .step .start (.called fills)
    · rw [went, fanoutLabel, starts]
      exact .start
  | fanned moves own => exact .step .start moves

/-- The same for a whole run: calls keep to their sections, and what callers
begin is what the adapter broadcasts. -/
theorem seen_run {first system : System} (quiet : Quiet first)
    (run : Path (Moves adapter capacity) first labels system) :
    Quiet system ∧ (begun (fanoutLabels labels)).map Prod.snd = broadcastsOf (paperLabels labels) ∧
      Path (Fanouts.Moves capacity) first.fanout (fanoutLabels labels) system.fanout := by
  induction run with
  | start => exact ⟨quiet, rfl, .start⟩
  | @step labels system label next run moves ih =>
    obtain ⟨held, seen, path⟩ := ih
    obtain ⟨kept, same⟩ := seen_step held moves
    have more := path.append (fanout_step moves)
    unfold fanoutLabels paperLabels at *
    rw [List.flatMap_append, List.flatMap_append, List.flatMap_singleton, List.flatMap_singleton]
    refine ⟨kept, ?_, more⟩
    unfold begun broadcastsOf at *
    rw [List.filterMap_append, List.filterMap_append, List.map_append, seen, same]

omit [LibraryText] in
theorem quiet_start : Quiet .start := List.forall_mem_nil _

/-- Every run is a run of the adapter's own, under the same conditions. -/
theorem shows_run {system : System} (run : Path (fun system label next => Moves adapter capacity system label next ∧
      ∀ paper ∈ paperLabel label, meets system.state paper = true) .start labels system) :
    ∃ paper, Path (Steps adapter meets) .start (paperLabels labels) paper ∧ Shows system paper := by
  have sound : Kept capacity system.fanout ∧
      ∃ paper, Path (Steps adapter meets) .start (paperLabels labels) paper ∧ Shows system paper := by
    induction run with
    | start => exact ⟨.start, .start, .start, rfl, .nil⟩
    | @step labels system label next run moves ih =>
      obtain ⟨kept, paper, path, shows⟩ := ih
      have onward := kept_of_run kept (fanout_step moves.1)
      obtain ⟨after, more, shown⟩ := shows_step shows kept moves.1 moves.2
      refine ⟨onward, after, ?_, shown⟩
      rw [paperLabels, List.flatMap_append, List.flatMap_singleton]
      exact path.append more
  exact sound.2

/-- What is on its way to a subscriber. -/
def onTheWay (fanout : Fanout VenueFill) (subscriber : Nat) : List VenueFill :=
  (List.range fanout.called).flatMap fun caller => (fanout.callers caller).waiting subscriber

/-- Every subscriber that listens gets every fill broadcast since it subscribed
exactly once, whatever calls, broadcasts and other subscribers do meanwhile: call
by call in the order of broadcasting, and all together nothing lost, doubled or
made up. Nor does anybody wait for good while receivers take what they are sent. -/
theorem fills_reach_subscribers {first system : System} (positive : 0 < capacity)
    (run : Path (Moves adapter capacity) .start before first)
    (onward : Path (Moves adapter capacity) (first.subscribeFills capacity) after system)
    (listens : system.fanout.listens first.fanout.opened = true) :
    (∀ caller, byCaller caller (handed first.fanout.opened (fanoutLabels after)) ++
        (system.fanout.callers caller).waiting first.fanout.opened = byCaller caller (begun (fanoutLabels after))) ∧
    (system.fanout.delivered first.fanout.opened ++ onTheWay system.fanout first.fanout.opened).Perm
      (broadcastsOf (paperLabels after)) ∧
    (∃ paper, Path (PaperVenue.Moves adapter) .start (paperLabels (before ++ after)) paper ∧
      paper.state = system.state) ∧
    ∃ final, Reaches capacity system.fanout final ∧ ∀ caller, final.callers caller = .between [] := by
  obtain ⟨quiet, -, earlier⟩ := seen_run quiet_start run
  have subscribed : Moves adapter capacity first (.fanout (.subscribed first.fanout.opened))
      (first.subscribeFills capacity) := .fanned .subscribed nofun
  obtain ⟨-, seen, later⟩ := seen_run (seen_step quiet subscribed).1 onward
  have served := served_of_run earlier later
  refine ⟨served.balanced listens, ?_, ?_, ?_⟩
  · rw [← seen]
    exact served.perm listens
  · have whole : Path (fun system label next => Moves adapter capacity system label next ∧
        ∀ paper ∈ paperLabel label, anything system.state paper = true) .start
          (before ++ [.fanout (.subscribed first.fanout.opened)] ++ after) system :=
      ((run.step subscribed).append onward).mono fun _ _ _ moves => ⟨moves, fun _ _ => rfl⟩
    obtain ⟨paper, path, shows⟩ := shows_run whole
    refine ⟨paper, ?_, shows.state⟩
    simpa [paperLabels, paperLabel] using path.mono fun _ _ _ steps => steps.1
  · exact reaches_quiet positive (kept_of_run (kept_of_run .start earlier).subscribe later)

/-- One choice of a scheduler: a new call, a section under the lock, or a step of a broadcast. -/
inductive Turn where
  | call (call : Call)
  | lock (index : Nat)
  | advance (caller : Nat)

def take (adapter : PaperAdapter) (system : System) : Turn → Option (Label × System)
  | .call call =>
    if call.IsEntry then some (.locked (.called call) [], { system with sections := system.sections ++ [call] })
    else none
  | .lock index => (sectionAt adapter system.state system.sections index).map fun (before, outcome, after) =>
      (.locked outcome.label (startsOf system.fanout outcome), system.went before outcome after)
  | .advance caller => (system.fanout.advance caller).map fun step =>
      (.fanout step.1, { system with fanout := step.2 })

theorem take_moves {system next : System} (taken : take adapter system turn = some (label, next)) :
    Moves adapter capacity system label next := by
  cases turn with
  | call call =>
    obtain ⟨entry, same⟩ := Option.ite_none_right_eq_some.mp taken
    cases same
    exact .called call entry
  | lock index =>
    obtain ⟨⟨before, outcome, after⟩, found, same⟩ := Option.map_eq_some_iff.mp taken
    cases same
    obtain ⟨call, iteration, running, visits, rfl⟩ := runs_of_sectionAt found
    exact .ran iteration running visits
  | advance caller =>
    obtain ⟨⟨label, fanout⟩, advanced, same⟩ := Option.map_eq_some_iff.mp taken
    obtain ⟨rfl, rfl⟩ := Prod.mk.inj same
    obtain ⟨moves, own⟩ := Fanout.advance_moves advanced
    exact .fanned moves own

/-- A schedule is a run. -/
theorem path_of_follow {system final : System} (followed : follow (take adapter) system turns = some (labels, final)) :
    Path (Moves adapter capacity) system labels final :=
  .of_follow (fun _ _ _ _ taken => take_moves taken) followed

end Steps

open Plain

/-- A book and a submission. -/
def booked : List Turn :=
  [.call (.replacing (sampleOrderbook ⟨0⟩)), .lock 0, .call (.submitting retried), .lock 0, .lock 0,
    .lock 0]

/-- The actions are taken, and their fill is broadcast. -/
def broadcast : List Turn :=
  [.call (.taking (paperOrderId retried.clientOrderId)), .lock 0, .advance 1, .advance 1, .advance 1]

/-- A subscriber that comes between the submission and its post-ack actions gets the fill. -/
theorem fills_reach_late_subscriber : ∃ (first : System) (after : List Label) (system : System),
    (system.fanout.delivered first.fanout.opened).map VenueFill.qty = [1] ∧
    (system.fanout.delivered first.fanout.opened ++ onTheWay system.fanout first.fanout.opened).Perm
      (broadcastsOf (paperLabels after)) := by
  have played : ((follow (take paperAdapter) .start booked).bind fun start =>
      (follow (take paperAdapter) (start.2.subscribeFills 64) broadcast).map fun last =>
        (last.2.fanout.listens start.2.fanout.opened,
          (last.2.fanout.delivered start.2.fanout.opened).map VenueFill.qty)) = some (true, [1]) := by
    decide +kernel
  obtain ⟨⟨before, first⟩, started, onward⟩ := Option.bind_eq_some_iff.mp played
  obtain ⟨⟨after, system⟩, went, views⟩ := Option.map_eq_some_iff.mp onward
  obtain ⟨listens, delivered⟩ := Prod.mk.inj views
  obtain ⟨-, all, -⟩ := fills_reach_subscribers (by decide) (path_of_follow started) (path_of_follow went) listens
  exact ⟨first, after, system, delivered, all⟩

end FeynmanEngine.FillSubscribers
