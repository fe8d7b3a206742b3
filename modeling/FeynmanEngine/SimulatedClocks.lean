import Mathlib.Algebra.Ring.Int.Defs
import FeynmanEngine.GuardedStores
import FeynmanEngine.MessageRoundTrips

/-! `SimulatedClock` of `types/src/clock.rs`, shared between threads. `set` is two
steps, a load with its assertion and a store; the advances are one atomic
addition, which wraps; `now` is one load. The clock goes backward just where a
store was overtaken or an addition wrapped, and with one writer at a time, as a
harness has it, only the second is left. -/
namespace FeynmanEngine.SimulatedClocks
open Ids BusMessages MessageRoundTrips GuardedStores Traces

/-- `chrono::Duration`, in nanoseconds. -/
structure Duration where
  nanos : Int

/-- `num_milliseconds`, rounded towards zero. -/
def Duration.numMilliseconds (duration : Duration) : Int := duration.nanos.tdiv 1000000

/-- The atomic, and the callers of `set` that have not stored yet. -/
abbrev SimulatedClock (Thread : Type) := Register Thread Int

namespace SimulatedClock
variable {Thread : Type}

/-- `SimulatedClock::new`. -/
def new (start : DateTime) : SimulatedClock Thread := Register.new start.timestampMillis

/-- `set` up to its assertion: what it is going to store. -/
def setGuard (oldMillis : Int) (target : DateTime) : Except String Int :=
  let newMillis := target.timestampMillis
  if oldMillis ≤ newMillis then .ok newMillis
  else .error ("SimulatedClock cannot go backward: current=" ++ toString oldMillis ++ "ms, requested=" ++
    toString newMillis ++ "ms")

/-- `advance` up to its addition. -/
def advance (duration : Duration) : Except String Int :=
  let millis := duration.numMilliseconds
  if 0 ≤ millis then .ok millis else .error "Cannot advance by negative duration"

/-- `advance_millis` up to its addition. -/
def advanceMillis (millis : Int) : Except String Int :=
  if 0 ≤ millis then .ok millis else .error "Cannot advance by negative milliseconds"

/-- `fetch_add` on an `AtomicI64`. -/
def fetchAdd (millis value : Int) : Int := (value + millis).bmod (2 ^ 64)

/-- `now`, from the value it loaded. -/
def now [UtcMillis] (millis : Int) : Except String DateTime :=
  match UtcMillis.timestampMillisOpt millis with
  | some instant => .ok instant
  | none => .error "SimulatedClock epoch_millis out of range"

end SimulatedClock

open SimulatedClock

/-- The values of an `i64`. -/
def InI64 (millis : Int) : Prop := -2 ^ 63 ≤ millis ∧ millis < 2 ^ 63

/-- What one step did. -/
inductive Label (Thread : Type) where
  | loaded (thread : Thread) (millis : Int)
  | stored (thread : Thread) (millis : Int)
  | advanced (thread : Thread) (millis : Int)
  | read (millis : Int) (now : DateTime)
  | panicked (message : String)

section Steps
variable {Thread : Type} [DecidableEq Thread] [UtcMillis]

/-- The steps of any number of threads at one clock. -/
inductive Moves (clock : SimulatedClock Thread) : Label Thread → SimulatedClock Thread → Prop
  | loaded {thread : Thread} {target : DateTime} (idle : clock.pending thread = none) (range : InUtcRange target)
      (passed : setGuard clock.value target = .ok millis) :
      Moves clock (.loaded thread millis)
        { clock with pending := Function.update clock.pending thread (some millis) }
  | stored {thread : Thread} (loaded : clock.pending thread = some millis) :
      Moves clock (.stored thread millis) ⟨millis, Function.update clock.pending thread none⟩
  | advanced {thread : Thread} {duration : Duration} (idle : clock.pending thread = none) (range : InI64 millis)
      (passed : SimulatedClock.advance duration = .ok millis) :
      Moves clock (.advanced thread millis) { clock with value := fetchAdd millis clock.value }
  | advancedMillis {thread : Thread} {asked : Int} (idle : clock.pending thread = none) (range : InI64 millis)
      (passed : SimulatedClock.advanceMillis asked = .ok millis) :
      Moves clock (.advanced thread millis) { clock with value := fetchAdd millis clock.value }
  | read {instant : DateTime} (reads : SimulatedClock.now clock.value = .ok instant) :
      Moves clock (.read clock.value instant) clock
  | setPanicked {target : DateTime} (failed : setGuard clock.value target = .error message) :
      Moves clock (.panicked message) clock
  | advancePanicked {duration : Duration} (failed : SimulatedClock.advance duration = .error message) :
      Moves clock (.panicked message) clock
  | advanceMillisPanicked {asked : Int} (failed : SimulatedClock.advanceMillis asked = .error message) :
      Moves clock (.panicked message) clock
  | nowPanicked (failed : SimulatedClock.now clock.value = .error message) :
      Moves clock (.panicked message) clock

/-- The step of the register behind a step of the clock; a panic is none. -/
def registerLabel : Label Thread → Option (GuardedStores.Label Thread Int Int)
  | .loaded thread millis => some (.checked thread millis)
  | .stored thread millis => some (.stored thread millis)
  | .advanced thread millis => some (.changed thread millis)
  | .read millis _ => some (.observed millis)
  | .panicked _ => none

omit [DecidableEq Thread] [UtcMillis] in
theorem setGuard_ok (passed : setGuard value target = .ok millis) :
    value ≤ millis ∧ millis = target.timestampMillis := by
  unfold setGuard at passed
  dsimp only at passed
  split at passed
  · next ahead =>
    cases passed
    exact ⟨ahead, rfl⟩
  · cases passed

omit [DecidableEq Thread] [UtcMillis] in
theorem advance_ok (passed : SimulatedClock.advance duration = .ok millis) : 0 ≤ millis := by
  unfold SimulatedClock.advance at passed
  dsimp only at passed
  split at passed
  · next positive =>
    cases passed
    exact positive
  · cases passed

omit [DecidableEq Thread] [UtcMillis] in
theorem advanceMillis_ok (passed : SimulatedClock.advanceMillis asked = .ok millis) : 0 ≤ millis := by
  unfold SimulatedClock.advanceMillis at passed
  split at passed
  · next positive =>
    cases passed
    exact positive
  · cases passed

/-- A step of the clock is one of the register, or a panic that leaves it alone. -/
theorem Moves.register {clock next : SimulatedClock Thread} {label : Label Thread} (moves : Moves clock label next) :
    (∃ step, registerLabel label = some step ∧ GuardedStores.Moves fetchAdd clock step next) ∨
      registerLabel label = none ∧ next = clock := by
  cases moves with
  | loaded idle range passed => exact Or.inl ⟨_, rfl, .checked idle (setGuard_ok passed).1⟩
  | stored loaded => exact Or.inl ⟨_, rfl, .stored loaded⟩
  | advanced idle range passed => exact Or.inl ⟨_, rfl, .changed idle _⟩
  | advancedMillis idle range passed => exact Or.inl ⟨_, rfl, .changed idle _⟩
  | read reads => exact Or.inl ⟨_, rfl, .observed⟩
  | setPanicked failed => exact Or.inr ⟨rfl, rfl⟩
  | advancePanicked failed => exact Or.inr ⟨rfl, rfl⟩
  | advanceMillisPanicked failed => exact Or.inr ⟨rfl, rfl⟩
  | nowPanicked failed => exact Or.inr ⟨rfl, rfl⟩

/-- Value and targets are in the range. -/
structure Ranged (clock : SimulatedClock Thread) : Prop where
  value : InI64 clock.value
  pending : ∀ thread millis, clock.pending thread = some millis → InI64 millis

omit [DecidableEq Thread] [UtcMillis] in
theorem inI64_of_inUtcRange {instant : DateTime} (range : InUtcRange instant) : InI64 instant.timestampMillis := by
  have bounds := millis_inRange range
  unfold i64Max at bounds
  unfold InI64
  omega

omit [DecidableEq Thread] [UtcMillis] in
theorem Ranged.new {start : DateTime} (range : InUtcRange start) :
    Ranged (SimulatedClock.new start : SimulatedClock Thread) :=
  ⟨inI64_of_inUtcRange range, fun _ _ pending => by cases pending⟩

omit [DecidableEq Thread] [UtcMillis] in
theorem inI64_fetchAdd (millis value : Int) : InI64 (fetchAdd millis value) := by
  unfold fetchAdd InI64
  rw [Int.bmod_def]
  split <;> omega

omit [DecidableEq Thread] [UtcMillis] in
/-- An addition that stays in the range is exact, and one that does not comes out lower. -/
theorem le_fetchAdd_iff (positive : 0 ≤ millis) (valueRange : InI64 value) (millisRange : millis < 2 ^ 63) :
    value ≤ fetchAdd millis value ↔ value + millis < 2 ^ 63 := by
  unfold InI64 at valueRange
  unfold fetchAdd
  rw [Int.bmod_def]
  split <;> omega

theorem Ranged.step {clock next : SimulatedClock Thread} {label : Label Thread} (ranged : Ranged clock)
    (moves : Moves clock label next) : Ranged next := by
  cases moves with
  | @loaded millis thread target idle range passed =>
    refine ⟨ranged.value, fun other held pending => ?_⟩
    have after : Function.update clock.pending thread (some millis) other = some held := pending
    rw [Function.update_apply] at after
    split at after
    · cases after
      rw [(setGuard_ok passed).2]
      exact inI64_of_inUtcRange range
    · exact ranged.pending other held after
  | @stored millis thread loaded =>
    refine ⟨ranged.pending thread millis loaded, fun other held pending => ?_⟩
    have after : Function.update clock.pending thread none other = some held := pending
    rw [Function.update_apply] at after
    split at after
    · cases after
    · exact ranged.pending other held after
  | advanced idle range passed => exact ⟨inI64_fetchAdd _ _, ranged.pending⟩
  | advancedMillis idle range passed => exact ⟨inI64_fetchAdd _ _, ranged.pending⟩
  | read reads => exact ranged
  | setPanicked failed => exact ranged
  | advancePanicked failed => exact ranged
  | advanceMillisPanicked failed => exact ranged
  | nowPanicked failed => exact ranged

/-- A store of less than what the clock shows by then. -/
def Overtaken (clock : SimulatedClock Thread) : Label Thread → Prop
  | .stored _ millis => millis < clock.value
  | .loaded .. | .advanced .. | .read .. | .panicked _ => False

/-- An addition beyond the range of the atomic. -/
def Wraps (clock : SimulatedClock Thread) : Label Thread → Prop
  | .advanced _ millis => 2 ^ 63 ≤ clock.value + millis
  | .loaded .. | .stored .. | .read .. | .panicked _ => False

/-- No other thread is between the load and the store of a `set`. -/
def Alone (clock : SimulatedClock Thread) : Label Thread → Prop
  | .stored thread _ | .advanced thread _ => ∀ other, other ≠ thread → clock.pending other = none
  | .loaded .. | .read .. | .panicked _ => True

omit [DecidableEq Thread] [UtcMillis] in
theorem overtaken_iff {clock : SimulatedClock Thread} {label : Label Thread}
    {step : GuardedStores.Label Thread Int Int} (same : registerLabel label = some step) :
    GuardedStores.Overtaken clock step ↔ Overtaken clock label := by
  cases label with
  | stored thread millis =>
    cases same
    exact not_le
  | loaded | advanced | read =>
    cases same
    rfl
  | panicked message => cases same

/-- Whether an addition lowers the register is whether it wraps. -/
theorem lowers_iff {clock next : SimulatedClock Thread} {label : Label Thread}
    {step : GuardedStores.Label Thread Int Int} (ranged : Ranged clock) (moves : Moves clock label next)
    (same : registerLabel label = some step) : Lowers fetchAdd clock step ↔ Wraps clock label := by
  cases moves with
  | advanced idle range passed =>
    cases same
    exact (not_congr (le_fetchAdd_iff (advance_ok passed) ranged.value range.2)).trans not_lt
  | advancedMillis idle range passed =>
    cases same
    exact (not_congr (le_fetchAdd_iff (advanceMillis_ok passed) ranged.value range.2)).trans not_lt
  | loaded | stored | read =>
    cases same
    rfl
  | setPanicked | advancePanicked | advanceMillisPanicked | nowPanicked => cases same

omit [DecidableEq Thread] [UtcMillis] in
theorem exclusive_of_alone {clock : SimulatedClock Thread} {label : Label Thread}
    {step : GuardedStores.Label Thread Int Int} (same : registerLabel label = some step) (alone : Alone clock label) :
    Exclusive clock step := by
  cases label with
  | panicked message => cases same
  | loaded | stored | advanced | read =>
    cases same
    exact alone

/-- A panic does nothing to the clock. -/
theorem Moves.panic {clock next : SimulatedClock Thread} {label : Label Thread} (moves : Moves clock label next)
    (none : registerLabel label = none) : ¬ Overtaken clock label ∧ ¬ Wraps clock label := by
  cases moves with
  | setPanicked | advancePanicked | advanceMillisPanicked | nowPanicked => exact ⟨id, id⟩
  | loaded | stored | advanced | advancedMillis | read => cases none

/-- A step of the clock lowers it just when it is a late store or a wrapping addition. -/
theorem Moves.falls_iff {clock next : SimulatedClock Thread} {label : Label Thread} (ranged : Ranged clock)
    (moves : Moves clock label next) : next.value < clock.value ↔ Overtaken clock label ∨ Wraps clock label := by
  rcases moves.register with ⟨step, same, registers⟩ | ⟨none, rfl⟩
  · rw [← overtaken_iff same, ← lowers_iff ranged moves same, ← registers.falls_iff, not_le]
  · obtain ⟨timely, fits⟩ := moves.panic none
    exact ⟨fun falls => absurd falls (lt_irrefl _), fun either => either.elim (absurd · timely) (absurd · fits)⟩

theorem Moves.current {clock next : SimulatedClock Thread} {label : Label Thread} (current : Current clock)
    (moves : Moves clock label next) (alone : Alone clock label) : Current next := by
  rcases moves.register with ⟨step, same, registers⟩ | ⟨-, rfl⟩
  · exact current.step registers (exclusive_of_alone same alone)
  · exact current

/-- What was loaded by a lone writer is not out of date. -/
theorem Moves.not_overtaken {clock next : SimulatedClock Thread} {label : Label Thread} (current : Current clock)
    (moves : Moves clock label next) : ¬ Overtaken clock label := by
  rcases moves.register with ⟨step, same, registers⟩ | ⟨none, rfl⟩
  · rw [← overtaken_iff same]
    exact current.not_overtaken registers
  · exact (moves.panic none).1

/-- A step of a lone writer that does not wrap. -/
def Orderly (clock : SimulatedClock Thread) (label : Label Thread) (next : SimulatedClock Thread) : Prop :=
  Moves clock label next ∧ Alone clock label ∧ ¬ Wraps clock label

/-- It is an orderly step of the register, or a panic. -/
theorem Orderly.register {clock next : SimulatedClock Thread} {label : Label Thread} (ranged : Ranged clock)
    (orderly : Orderly clock label next) :
    (∃ step, registerLabel label = some step ∧ GuardedStores.Orderly fetchAdd clock step next) ∨
      registerLabel label = none ∧ next = clock := by
  obtain ⟨moves, alone, fits⟩ := orderly
  rcases moves.register with ⟨step, same, registers⟩ | panicked
  · rw [← lowers_iff ranged moves same] at fits
    exact Or.inl ⟨step, same, registers, exclusive_of_alone same alone, fits⟩
  · exact Or.inr panicked

theorem Orderly.ascends {clock next : SimulatedClock Thread} {label : Label Thread} (ranged : Ranged clock)
    (current : Current clock) (orderly : Orderly clock label next) :
    clock.value ≤ next.value ∧ Ranged next ∧ Current next := by
  have after := ranged.step orderly.1
  rcases orderly.register ranged with ⟨step, -, registers⟩ | ⟨-, rfl⟩
  · obtain ⟨ascends, kept⟩ := GuardedStores.Orderly.ascends current registers
    exact ⟨ascends, after, kept⟩
  · exact ⟨le_rfl, after, current⟩

/-- The run of the register behind an orderly run of the clock. -/
theorem registered {start clock : SimulatedClock Thread} {labels : List (Label Thread)} (ranged : Ranged start)
    (run : Path Orderly start labels clock) :
    Path (GuardedStores.Orderly fetchAdd) start (labels.filterMap registerLabel) clock ∧ Ranged clock := by
  induction run with
  | start => exact ⟨.start, ranged⟩
  | @step labels clock label next run orderly ih =>
    obtain ⟨path, ranged⟩ := ih
    refine ⟨?_, ranged.step orderly.1⟩
    rw [List.filterMap_append]
    rcases orderly.register ranged with ⟨step, same, registers⟩ | ⟨none, rfl⟩
    · rw [List.filterMap_cons_some same, List.filterMap_nil]
      exact path.step registers
    · rw [List.filterMap_cons_none none, List.filterMap_nil, List.append_nil]
      exact path

/-- `from_timestamp_millis` gives no other instant than the one of so many milliseconds. -/
class ExactMillis : Prop where
  exact : ∀ millis instant, UtcMillis.timestampMillisOpt millis = some instant → instant.nanos = millis * 1000000

omit [DecidableEq Thread] in
theorem now_nanos [ExactMillis] {instant : DateTime} (reads : SimulatedClock.now millis = .ok instant) :
    instant.nanos = millis * 1000000 := by
  unfold SimulatedClock.now at reads
  split at reads
  · next found =>
    cases reads
    exact ExactMillis.exact _ _ found
  · cases reads

/-- What was read, oldest first. -/
def readings (labels : List (Label Thread)) : List DateTime :=
  labels.filterMap fun
    | .read _ now => some now
    | .loaded .. | .stored .. | .advanced .. | .panicked _ => none

omit [DecidableEq Thread] [UtcMillis] in
theorem readings_snoc (labels : List (Label Thread)) (label : Label Thread) :
    readings (labels ++ [label]) = readings labels ++ readings [label] := List.filterMap_append

/-- What is read is what the register shows, in nanoseconds. -/
theorem readings_nanos [ExactMillis] {start clock : SimulatedClock Thread} {labels : List (Label Thread)}
    (run : Path Orderly start labels clock) :
    (readings labels).map DateTime.nanos = (observations (labels.filterMap registerLabel)).map (· * 1000000) := by
  induction run with
  | start => rfl
  | @step labels clock label next run orderly ih =>
    rw [readings_snoc, List.filterMap_append, observations, List.filterMap_append, List.map_append, List.map_append]
    refine congrArg₂ _ ih ?_
    cases orderly.1 with
    | read reads => exact congrArg (fun nanos => [nanos]) (now_nanos reads)
    | loaded | stored | advanced | advancedMillis | setPanicked | advancePanicked | advanceMillisPanicked |
      nowPanicked => rfl

theorem readings_ascend [ExactMillis] {start clock : SimulatedClock Thread} {labels : List (Label Thread)}
    (ranged : Ranged start) (current : Current start) (run : Path Orderly start labels clock) :
    (readings labels).Pairwise fun earlier later => earlier.nanos ≤ later.nanos := by
  have sorted := (observations_ascend current (registered ranged run).1).1
  have nanos : ((readings labels).map DateTime.nanos).Pairwise (· ≤ ·) := by
    rw [readings_nanos run, List.pairwise_map]
    exact sorted.imp fun ascends => by omega
  exact List.pairwise_map.mp nanos

theorem ranged_of_run {start clock : SimulatedClock Thread} {labels : List (Label Thread)} (ranged : Ranged start)
    (run : Path Moves start labels clock) : Ranged clock := by
  induction run with
  | start => exact ranged
  | step run moves ih => exact ih.step moves

theorem current_of_run {start clock : SimulatedClock Thread} {labels : List (Label Thread)} (current : Current start)
    (run : Path (fun clock label next => Moves clock label next ∧ Alone clock label) start labels clock) :
    Current clock := by
  induction run with
  | start => exact current
  | step run lone ih => exact lone.1.current ih lone.2

/-- The clock goes backward in a step just when the step stores what another
thread has overtaken or adds beyond the range. With one writer at a time no
store is ever overtaken, and short of a wrap no reading, in any thread, is
earlier than one before it. -/
theorem clock_falls_iff [ExactMillis] {start : DateTime} (range : InUtcRange start) :
    (∀ labels (clock : SimulatedClock Thread), Path Moves (SimulatedClock.new start) labels clock →
      ∀ label next, Moves clock label next →
        (next.value < clock.value ↔ Overtaken clock label ∨ Wraps clock label)) ∧
    (∀ labels (clock : SimulatedClock Thread),
      Path (fun clock label next => Moves clock label next ∧ Alone clock label) (SimulatedClock.new start)
        labels clock →
      ∀ label next, Moves clock label next → ¬ Overtaken clock label) ∧
    ∀ labels (clock : SimulatedClock Thread), Path Orderly (SimulatedClock.new start) labels clock →
      (readings labels).Pairwise fun earlier later => earlier.nanos ≤ later.nanos := by
  exact ⟨fun labels clock run label next moves => moves.falls_iff (ranged_of_run (Ranged.new range) run),
    fun labels clock run label next moves => moves.not_overtaken (current_of_run (Current.new _) run),
    fun labels clock run => readings_ascend (Ranged.new range) (Current.new _) run⟩

end Steps

theorem exactMillis_chrono : @ExactMillis chronoMillis := by
  refine @ExactMillis.mk chronoMillis fun millis instant found => ?_
  have found : (if InUtcRange ⟨millis * 1000000⟩ then some (⟨millis * 1000000⟩ : DateTime) else none) =
      some instant := found
  split at found
  · cases found
    rfl
  · cases found

/-- Both threads have loaded the start; the second has stored two hundred milliseconds. -/
def raced : SimulatedClock Bool :=
  ⟨200, Function.update (Function.update (Function.update (fun _ => none) false (some 100)) true (some 200))
    true none⟩

theorem run_to_raced : @Path (SimulatedClock Bool) (Label Bool) (@Moves Bool _ chronoMillis)
    (SimulatedClock.new ⟨0⟩) [.loaded false 100, .loaded true 200, .stored true 200] raced := by
  let _ : UtcMillis := chronoMillis
  have early : InUtcRange ⟨100000000⟩ := by decide
  have late : InUtcRange ⟨200000000⟩ := by decide
  have first : Moves (⟨0, fun _ => none⟩ : SimulatedClock Bool) (.loaded false 100)
      ⟨0, Function.update (fun _ => none) false (some 100)⟩ := .loaded rfl early rfl
  have second : Moves (⟨0, Function.update (fun _ => none) false (some 100)⟩ : SimulatedClock Bool)
      (.loaded true 200) ⟨0, Function.update (Function.update (fun _ => none) false (some 100)) true (some 200)⟩ :=
    .loaded rfl late rfl
  have third : Moves (⟨0, Function.update (Function.update (fun _ => none) false (some 100)) true (some 200)⟩ :
      SimulatedClock Bool) (.stored true 200) raced := .stored rfl
  exact ((Path.start.step first).step second).step third

/-- The first thread then takes the clock back to one hundred. -/
theorem clock_falls_on_race : ∃ next : SimulatedClock Bool,
    @Moves Bool _ chronoMillis raced (.stored false 100) next ∧ next.value < raced.value := by
  let _ : UtcMillis := chronoMillis
  have : ExactMillis := exactMillis_chrono
  have moves : Moves raced (.stored false 100) ⟨100, Function.update raced.pending false none⟩ := .stored rfl
  have epoch : InUtcRange ⟨0⟩ := by decide
  have overtaken : Overtaken raced (.stored false 100) := show (100 : Int) < 200 by decide
  exact ⟨_, moves, ((clock_falls_iff epoch).1 _ raced run_to_raced _ _ moves).mpr (Or.inl overtaken)⟩

end FeynmanEngine.SimulatedClocks
