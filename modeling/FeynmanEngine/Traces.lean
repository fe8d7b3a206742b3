import Mathlib.Data.List.Basic

/-! Labelled runs of a transition relation, oldest label first, and the flags a
run carries from one label to the next. -/
namespace FeynmanEngine.Traces

variable {State Label : Type}

/-- Every finite run from `start` with its labels. -/
inductive Path (step : State → Label → State → Prop) (start : State) : List Label → State → Prop
  | start : Path step start [] start
  | step (path : Path step start labels state) (move : step state label next) :
      Path step start (labels ++ [label]) next

/-- The steps of a machine that answers every call. -/
def Answers {Call Answer : Type} (answer : State → Call → State × Answer) (state : State)
    (entry : Call × Answer) (next : State) : Prop :=
  answer state entry.1 = (next, entry.2)

/-- What a machine answers to some calls, and the state they lead to. -/
def answered {Call Answer : Type} (answer : State → Call → State × Answer) (state : State) :
    List Call → List (Call × Answer) × State
  | [] => ([], state)
  | call :: calls =>
    let next := answer state call
    let rest := answered answer next.1 calls
    ((call, next.2) :: rest.1, rest.2)

/-- Follows a schedule: each turn is taken where those before it lead. -/
def follow {Turn : Type} (take : State → Turn → Option (Label × State)) (state : State) :
    List Turn → Option (List Label × State)
  | [] => some ([], state)
  | turn :: turns =>
    (take state turn).bind fun taken =>
      (follow take taken.2 turns).map fun followed => (taken.1 :: followed.1, followed.2)

/-- Some label raised the flag and no later one lowered it. -/
def Standing (raises lowers : Label → Prop) (labels : List Label) : Prop :=
  ∃ before label after, labels = before ++ label :: after ∧ raises label ∧
    ∀ later ∈ after, ¬ lowers later

theorem not_standing_nil (raises lowers : Label → Prop) : ¬ Standing raises lowers [] := by
  rintro ⟨before, label, after, shape, -⟩
  simp at shape

/-- Only the newest label can raise a flag that was not already standing. -/
theorem standing_snoc (raises lowers : Label → Prop) (labels : List Label) (label : Label) :
    Standing raises lowers (labels ++ [label]) ↔
      raises label ∨ Standing raises lowers labels ∧ ¬ lowers label := by
  constructor
  · rintro ⟨before, raiser, after, shape, raised, kept⟩
    rcases List.eq_nil_or_concat after with rfl | ⟨earlier, newest, rfl⟩
    · obtain ⟨-, same⟩ := List.append_inj' shape rfl
      obtain rfl : label = raiser := by simpa using same
      exact Or.inl raised
    · rw [List.concat_eq_append, ← List.cons_append, ← List.append_assoc] at shape
      obtain ⟨rfl, same⟩ := List.append_inj' shape rfl
      obtain rfl : label = newest := by simpa using same
      refine Or.inr ⟨⟨before, raiser, earlier, rfl, raised, fun later member => ?_⟩, ?_⟩
      · exact kept later (by simp [member])
      · exact kept label (by simp)
  · rintro (raised | ⟨⟨before, raiser, after, rfl, raised, kept⟩, holds⟩)
    · exact ⟨labels, label, [], rfl, raised, by simp⟩
    · refine ⟨before, raiser, after ++ [label], by simp, raised, fun later member => ?_⟩
      rcases List.mem_append.mp member with earlier | newest
      · exact kept later earlier
      · obtain rfl := List.mem_singleton.mp newest
        exact holds

namespace Path

variable {step : State → Label → State → Prop} {start : State}

/-- An invariant of the labels so far and the state holds wherever a run ends. -/
theorem invariant {Holds : List Label → State → Prop} (initial : Holds [] start)
    (preserved : ∀ labels state label next, Holds labels state → step state label next →
      Holds (labels ++ [label]) next)
    (path : Path step start labels state) : Holds labels state := by
  induction path with
  | start => exact initial
  | step _ move ih => exact preserved _ _ _ _ ih move

theorem mono {weaker : State → Label → State → Prop}
    (weakens : ∀ state label next, step state label next → weaker state label next)
    (path : Path step start labels state) : Path weaker start labels state := by
  induction path with
  | start => exact .start
  | step _ move ih => exact ih.step (weakens _ _ _ move)

theorem append (path : Path step start labels state) (next : Path step state more final) :
    Path step start (labels ++ more) final := by
  induction next with
  | start => simpa using path
  | step _ move ih => simpa [List.append_assoc] using ih.step move

theorem of_answered {Call Answer : Type} (answer : State → Call → State × Answer) (start : State)
    (calls : List Call) :
    Path (Answers answer) start (answered answer start calls).1 (answered answer start calls).2 := by
  induction calls generalizing start with
  | nil => exact .start
  | cons call calls ih =>
    have first : Path (Answers answer) start [(call, (answer start call).2)] (answer start call).1 :=
      Path.start.step rfl
    exact first.append (ih _)

theorem of_follow {Turn : Type} {take : State → Turn → Option (Label × State)}
    (sound : ∀ state turn label next, take state turn = some (label, next) → step state label next)
    {turns : List Turn} (followed : follow take start turns = some (labels, final)) : Path step start labels final := by
  induction turns generalizing start labels with
  | nil =>
    cases followed
    exact .start
  | cons turn turns ih =>
    obtain ⟨⟨label, next⟩, taken, onward⟩ := Option.bind_eq_some_iff.mp followed
    obtain ⟨⟨more, last⟩, later, same⟩ := Option.map_eq_some_iff.mp onward
    cases same
    have first : Path step start [label] next := Path.start.step (sound _ _ _ _ taken)
    exact first.append (ih later)

/-- A run passes through a state between any two parts of its labels. -/
theorem split (path : Path step start (before ++ after) final) :
    ∃ state, Path step start before state ∧ Path step state after final := by
  generalize whole : before ++ after = labels at path
  induction path generalizing after with
  | start =>
    obtain ⟨rfl, rfl⟩ := List.append_eq_nil_iff.mp whole
    exact ⟨start, .start, .start⟩
  | @step earlier state label next path move ih =>
    rcases List.eq_nil_or_concat after with rfl | ⟨middle, newest, rfl⟩
    · rw [List.append_nil] at whole
      subst whole
      exact ⟨next, path.step move, .start⟩
    · rw [List.concat_eq_append, ← List.append_assoc] at whole
      obtain ⟨shape, same⟩ := List.append_inj' whole rfl
      obtain rfl : newest = label := by simpa using same
      obtain ⟨between, left, right⟩ := ih shape
      rw [List.concat_eq_append]
      exact ⟨between, left, right.step move⟩

/-- A label of a run belongs to a step taken where its own past leads. -/
theorem at_label (path : Path step start (before ++ label :: after) final) :
    ∃ state next, Path step start before state ∧ step state label next ∧
      Path step next after final := by
  rw [show before ++ label :: after = (before ++ [label]) ++ after by simp] at path
  obtain ⟨next, left, right⟩ := path.split
  generalize whole : before ++ [label] = labels at left
  cases left with
  | start => simp at whole
  | step earlier move =>
    obtain ⟨rfl, same⟩ := List.append_inj' whole rfl
    obtain rfl : label = _ := by simpa using same
    exact ⟨_, next, earlier, move, right⟩

/-- A flag that each step sets and clears by its label alone is up exactly when
the labels leave it standing. -/
theorem flag_iff_standing (flag : State → Prop) {raises lowers : Label → Prop}
    (clear : ¬ flag start)
    (moves : ∀ state label next, step state label next →
      (flag next ↔ raises label ∨ flag state ∧ ¬ lowers label))
    (path : Path step start labels state) : flag state ↔ Standing raises lowers labels := by
  induction path with
  | start => simp [clear, not_standing_nil]
  | step _ move ih => rw [moves _ _ _ move, standing_snoc, ih]

end Path

end FeynmanEngine.Traces
