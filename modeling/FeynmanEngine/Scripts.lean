import Mathlib.Tactic.Common

/-! Scripts of statements that commit one by one. A statement either takes
effect and answers or fails and ends the script, and a crash after any number of
statements leaves exactly what those did. -/
namespace FeynmanEngine.Scripts

/-- What comes next may depend on the answers so far. -/
inductive Script (Statement Answer Value : Type) where
  | done (value : Value)
  | issue (statement : Statement) (next : Answer → Script Statement Answer Value)

namespace Script

variable {Statement Answer State Error Value Other : Type}

def bind : Script Statement Answer Value → (Value → Script Statement Answer Other) →
    Script Statement Answer Other
  | .done value, next => next value
  | .issue statement rest, next => .issue statement fun answer => (rest answer).bind next

instance : Monad (Script Statement Answer) where
  pure := .done
  bind := bind

@[simp] theorem issue_bind (statement : Statement) (rest : Answer → Script Statement Answer Value)
    (next : Value → Script Statement Answer Other) :
    Script.issue statement rest >>= next = .issue statement fun answer => rest answer >>= next := rfl

variable (step : Statement → State → Except Error (State × Answer))

/-- The whole script, up to the first statement that fails. -/
def run : Script Statement Answer Value → State → State × Except Error Value
  | .done value, state => (state, .ok value)
  | .issue statement next, state =>
    match step statement state with
    | .ok (after, answer) => (next answer).run after
    | .error error => (state, .error error)

/-- The statements carried out before a crash that lets this many pass, and what they leave. -/
def crashed : Nat → Script Statement Answer Value → State → List Statement × State
  | 0, _, state => ([], state)
  | _ + 1, .done _, state => ([], state)
  | count + 1, .issue statement next, state =>
    match step statement state with
    | .ok (after, answer) =>
      let rest := (next answer).crashed count after
      (statement :: rest.1, rest.2)
    | .error _ => ([], state)

variable {step}

theorem run_issue {next : Answer → Script Statement Answer Value}
    (passes : step statement state = .ok (after, answer)) :
    (Script.issue statement next).run step state = (next answer).run step after := by
  rw [run, passes]

/-- A script that succeeds hands its value and its state on. -/
theorem run_bind_ok {script : Script Statement Answer Value} (next : Value → Script Statement Answer Other)
    (ran : script.run step state = (after, .ok value)) :
    (script >>= next).run step state = (next value).run step after := by
  induction script generalizing state with
  | done result =>
    cases ran
    rfl
  | issue statement rest ih =>
    rw [issue_bind, run]
    rw [run] at ran
    cases outcome : step statement state with
    | error error => simp [outcome] at ran
    | ok answered =>
      simp only [outcome] at ran ⊢
      exact ih _ ran

/-- A script that fails ends everything. -/
theorem run_bind_failed {script : Script Statement Answer Value} (next : Value → Script Statement Answer Other)
    (ran : script.run step state = (after, .error error)) :
    (script >>= next).run step state = (after, .error error) := by
  induction script generalizing state with
  | done result => cases ran
  | issue statement rest ih =>
    rw [issue_bind, run]
    rw [run] at ran
    cases outcome : step statement state with
    | error error =>
      simp only [outcome] at ran ⊢
      cases ran
      rfl
    | ok answered =>
      simp only [outcome] at ran ⊢
      exact ih _ ran

theorem crashed_issue {next : Answer → Script Statement Answer Value}
    (passes : step statement state = .ok (after, answer)) (count : Nat) :
    (Script.issue statement next).crashed step (count + 1) state =
      (statement :: ((next answer).crashed step count after).1, ((next answer).crashed step count after).2) := by
  rw [crashed, passes]

theorem crashed_issue_failed {next : Answer → Script Statement Answer Value}
    (fails : step statement state = .error error) (count : Nat) :
    (Script.issue statement next).crashed step count state = ([], state) := by
  cases count with
  | zero => rfl
  | succ count => rw [crashed, fails]

end Script

end FeynmanEngine.Scripts
