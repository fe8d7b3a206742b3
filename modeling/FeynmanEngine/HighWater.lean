import Mathlib.Data.List.Perm.Basic

/-! A mark above all numbers used, raised number by number. Where it ends depends
on which numbers were used and not on their order. -/
namespace FeynmanEngine.HighWater

/-- The mark after one more number. -/
def raise (mark : Option Nat) (used : Nat) : Option Nat :=
  some (match mark with
    | some current => max current (used + 1)
    | none => used + 1)

def raiseAll (mark : Option Nat) (numbers : List Nat) : Option Nat := numbers.foldl raise mark

instance : RightCommutative raise where
  right_comm mark first second := by
    cases mark with
    | none => exact congrArg some (Nat.max_comm _ _)
    | some current =>
      simp only [raise, Option.some.injEq]
      omega

theorem raiseAll_perm (same : first.Perm second) (mark : Option Nat) : raiseAll mark first = raiseAll mark second :=
  same.foldl_eq mark

/-- The mark never falls. -/
theorem le_raiseAll (current : Nat) (numbers : List Nat) :
    ∃ mark, raiseAll (some current) numbers = some mark ∧ current ≤ mark := by
  induction numbers generalizing current with
  | nil => exact ⟨current, rfl, Nat.le_refl _⟩
  | cons number rest ih =>
    obtain ⟨mark, raised, above⟩ := ih (max current (number + 1))
    exact ⟨mark, raised, by omega⟩

/-- The mark ends above every number used. -/
theorem lt_raiseAll (mark : Option Nat) (member : number ∈ numbers) :
    ∃ highest, raiseAll mark numbers = some highest ∧ number < highest := by
  induction numbers generalizing mark with
  | nil => cases member
  | cons first rest ih =>
    rcases List.mem_cons.mp member with rfl | later
    · cases mark with
      | none =>
        obtain ⟨highest, raised, above⟩ := le_raiseAll (number + 1) rest
        exact ⟨highest, raised, by omega⟩
      | some current =>
        obtain ⟨highest, raised, above⟩ := le_raiseAll (max current (number + 1)) rest
        exact ⟨highest, raised, by omega⟩
    · exact ih (raise mark first) later

end FeynmanEngine.HighWater
