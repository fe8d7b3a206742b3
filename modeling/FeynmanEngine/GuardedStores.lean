import Mathlib.Order.Lattice
import Mathlib.Logic.Function.Basic
import FeynmanEngine.Traces

/-! A shared register that should never fall, written in two ways. A guarded store
loads the value, checks that what it brings is no less, and writes in a later
step; a change updates the value in one step. Between check and write of one
thread every other thread may take steps, and what was checked may be out of
date. While at most one thread at a time is on its way to a write, it is not. -/
namespace FeynmanEngine.GuardedStores
open Traces

variable {Thread Value Change : Type}

/-- The value, and what each thread has checked and not yet written. -/
structure Register (Thread Value : Type) where
  value : Value
  pending : Thread → Option Value

/-- A register that nobody is about to write. -/
def Register.new (value : Value) : Register Thread Value := ⟨value, fun _ => none⟩

inductive Label (Thread Value Change : Type) where
  | checked (thread : Thread) (value : Value)
  | stored (thread : Thread) (value : Value)
  | changed (thread : Thread) (change : Change)
  | observed (value : Value)

section Moves
variable [DecidableEq Thread] [LinearOrder Value] (apply : Change → Value → Value)

inductive Moves (register : Register Thread Value) : Label Thread Value Change → Register Thread Value → Prop
  | checked {thread : Thread} {value : Value} (idle : register.pending thread = none)
      (guard : register.value ≤ value) :
      Moves register (.checked thread value)
        { register with pending := Function.update register.pending thread (some value) }
  | stored {thread : Thread} {value : Value} (checked : register.pending thread = some value) :
      Moves register (.stored thread value) ⟨value, Function.update register.pending thread none⟩
  | changed {thread : Thread} (idle : register.pending thread = none) (change : Change) :
      Moves register (.changed thread change) { register with value := apply change register.value }
  | observed : Moves register (.observed register.value) register

variable {apply}

/-- A store brings less than the value it overwrites. -/
def Overtaken (register : Register Thread Value) : Label Thread Value Change → Prop
  | .stored _ value => ¬ register.value ≤ value
  | .checked .. | .changed .. | .observed _ => False

/-- A change leaves less than it found. -/
def Lowers (apply : Change → Value → Value) (register : Register Thread Value) :
    Label Thread Value Change → Prop
  | .changed _ change => ¬ register.value ≤ apply change register.value
  | .checked .. | .stored .. | .observed _ => False

/-- The value falls just where a store was overtaken or a change lowers it. -/
theorem Moves.falls_iff {register next : Register Thread Value} {label : Label Thread Value Change}
    (moves : Moves apply register label next) :
    ¬ register.value ≤ next.value ↔ Overtaken register label ∨ Lowers apply register label := by
  cases moves with
  | checked idle guard => exact ⟨fun falls => absurd le_rfl falls, fun either => either.elim False.elim False.elim⟩
  | stored checked => exact (or_iff_left id).symm
  | changed idle change => exact (or_iff_right id).symm
  | observed => exact ⟨fun falls => absurd le_rfl falls, fun either => either.elim False.elim False.elim⟩

/-- Nobody else is between check and write when a thread writes. -/
def Exclusive (register : Register Thread Value) : Label Thread Value Change → Prop
  | .stored thread _ | .changed thread _ => ∀ other, other ≠ thread → register.pending other = none
  | .checked .. | .observed _ => True

/-- What was checked is not out of date. -/
def Current (register : Register Thread Value) : Prop :=
  ∀ thread value, register.pending thread = some value → register.value ≤ value

omit [DecidableEq Thread] in
theorem Current.new (value : Value) : Current (Register.new value : Register Thread Value) :=
  fun _ _ pending => by cases pending

theorem Current.step {register next : Register Thread Value} {label : Label Thread Value Change}
    (current : Current register) (moves : Moves apply register label next)
    (exclusive : Exclusive register label) : Current next := by
  cases moves with
  | @checked thread value idle guard =>
    intro other held pending
    by_cases same : other = thread
    · subst same
      have checked : Function.update register.pending other (some value) other = some held := pending
      rw [Function.update_self] at checked
      cases checked
      exact guard
    · have before : Function.update register.pending thread (some value) other = some held := pending
      rw [Function.update_of_ne same] at before
      exact current other held before
  | @stored thread value checked =>
    intro other held pending
    have after : Function.update register.pending thread none other = some held := pending
    by_cases same : other = thread
    · subst same
      rw [Function.update_self] at after
      cases after
    · rw [Function.update_of_ne same, exclusive other same] at after
      cases after
  | @changed thread idle change =>
    intro other held pending
    by_cases same : other = thread
    · subst same
      exact nomatch idle.symm.trans pending
    · exact nomatch (exclusive other same).symm.trans pending
  | observed => exact current

/-- While what was checked is current, only a change can lower the value. -/
theorem Current.not_overtaken {register next : Register Thread Value} {label : Label Thread Value Change}
    (current : Current register) (moves : Moves apply register label next) : ¬ Overtaken register label := by
  cases moves with
  | stored checked => exact fun overtaken => overtaken (current _ _ checked)
  | checked idle guard => exact id
  | changed idle change => exact id
  | observed => exact id

/-- One writer at a time, and no change lowers the value. -/
def Orderly (apply : Change → Value → Value) (register : Register Thread Value) (label : Label Thread Value Change)
    (next : Register Thread Value) : Prop :=
  Moves apply register label next ∧ Exclusive register label ∧ ¬ Lowers apply register label

theorem Orderly.ascends {register next : Register Thread Value} {label : Label Thread Value Change}
    (current : Current register) (orderly : Orderly apply register label next) :
    register.value ≤ next.value ∧ Current next := by
  obtain ⟨moves, exclusive, kept⟩ := orderly
  refine ⟨?_, current.step moves exclusive⟩
  by_contra falls
  rcases moves.falls_iff.mp falls with overtaken | lowers
  · exact current.not_overtaken moves overtaken
  · exact kept lowers

/-- What was observed, oldest first. -/
def observations (labels : List (Label Thread Value Change)) : List Value :=
  labels.filterMap fun
    | .observed value => some value
    | .checked .. | .stored .. | .changed .. => none

omit [DecidableEq Thread] [LinearOrder Value] in
theorem observations_snoc (labels : List (Label Thread Value Change)) (label : Label Thread Value Change) :
    observations (labels ++ [label]) = observations labels ++ observations [label] :=
  List.filterMap_append

/-- In an orderly run nobody observes less than was observed before, and the
value is never below what was. -/
theorem observations_ascend {start final : Register Thread Value} {labels : List (Label Thread Value Change)}
    (current : Current start) (run : Path (Orderly apply) start labels final) :
    (observations labels).Pairwise (· ≤ ·) ∧ (∀ value ∈ observations labels, value ≤ final.value) ∧
      Current final := by
  induction run with
  | start => exact ⟨.nil, fun _ member => absurd member List.not_mem_nil, current⟩
  | @step labels register label next run orderly ih =>
    obtain ⟨sorted, below, current⟩ := ih
    obtain ⟨ascends, kept⟩ := Orderly.ascends current orderly
    rw [observations_snoc]
    have seen : ∀ value ∈ observations [label], value = register.value := by
      cases orderly.1 with
      | checked idle guard => exact fun _ member => by cases member
      | stored checked => exact fun _ member => by cases member
      | changed idle change => exact fun _ member => by cases member
      | observed => exact fun _ member => List.mem_singleton.mp member
    have short : (observations [label]).Pairwise (· ≤ ·) := by
      cases label <;> simp [observations]
    refine ⟨List.pairwise_append.mpr ⟨sorted, short, fun old older new newer => ?_⟩,
      fun value member => ?_, kept⟩
    · rw [seen new newer]
      exact below old older
    · rcases List.mem_append.mp member with older | newer
      · exact le_trans (below value older) ascends
      · rw [seen value newer]
        exact ascends

end Moves

end FeynmanEngine.GuardedStores
