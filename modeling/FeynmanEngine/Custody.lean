import Mathlib.Data.Set.Basic
import Mathlib.Order.WithBot

/-! Custody of items that are handed out in increasing order. Every item is
handed out once, beyond the frontier; it may be taken over later. No item ever
has two holders as long as nothing is taken over that someone else still holds. -/
namespace FeynmanEngine.Custody

/-- How far items were handed out, and who holds which of them. -/
structure Holdings (Item Holder : Type) [LinearOrder Item] where
  frontier : WithBot Item
  holds : Holder → Set Item

variable {Item Holder : Type} [LinearOrder Item] {before after : Holdings Item Holder}

/-- One holder may come to hold some items more, no one else does. -/
structure Gains (before after : Holdings Item Holder) (holder : Holder) (items : Set Item) : Prop where
  advance : before.frontier ≤ after.frontier
  gained : after.holds holder ⊆ before.holds holder ∪ items
  others : ∀ other, other ≠ holder → after.holds other ⊆ before.holds other
  within : ∀ item ∈ items, item ≤ after.frontier

/-- No other holder has any of the items. -/
def Free (holdings : Holdings Item Holder) (holder : Holder) (items : Set Item) : Prop :=
  ∀ item ∈ items, ∀ other, other ≠ holder → item ∉ holdings.holds other

/-- What may happen to custody: items are given up, handed out or taken over. -/
inductive Step : Holdings Item Holder → Holdings Item Holder → Prop
  | givenUp {before after : Holdings Item Holder} (advance : before.frontier ≤ after.frontier)
      (less : ∀ holder, after.holds holder ⊆ before.holds holder) : Step before after
  | handedOut {before after : Holdings Item Holder} {holder : Holder} {items : Set Item}
      (gains : Gains before after holder items) (beyond : ∀ item ∈ items, before.frontier < item) : Step before after
  | takenOver {before after : Holdings Item Holder} {holder : Holder} {items : Set Item}
      (gains : Gains before after holder items) (free : Free before holder items) : Step before after

/-- Every held item was handed out, and has one holder. -/
structure Sole (holdings : Holdings Item Holder) : Prop where
  covered : ∀ holder, ∀ item ∈ holdings.holds holder, item ≤ holdings.frontier
  one : ∀ item first second, item ∈ holdings.holds first → item ∈ holdings.holds second → first = second

/-- An item beyond the frontier is free. -/
theorem Sole.free_of_beyond {items : Set Item} (sole : Sole before) (beyond : ∀ item ∈ items, before.frontier < item)
    (holder : Holder) : Free before holder items := by
  intro item member other _ held
  exact absurd (sole.covered other item held) (not_le.mpr (beyond item member))

theorem Sole.gains (sole : Sole before) (gains : Gains before after holder items)
    (free : Free before holder items) : Sole after := by
  -- what anyone but the gaining holder has was theirs before and is not among the items
  have elsewhere : ∀ item other, other ≠ holder → item ∈ after.holds other →
      item ∈ before.holds other ∧ item ∉ items := fun item other differ held =>
    ⟨gains.others other differ held, fun member => free item member other differ (gains.others other differ held)⟩
  constructor
  · intro other item held
    by_cases same : other = holder
    · subst same
      rcases gains.gained held with earlier | new
      · exact le_trans (sole.covered other item earlier) gains.advance
      · exact gains.within item new
    · exact le_trans (sole.covered other item (gains.others other same held)) gains.advance
  · intro item first second held shared
    by_cases left : first = holder <;> by_cases right : second = holder
    · rw [left, right]
    · obtain ⟨earlier, old⟩ := elsewhere item second right shared
      subst left
      exact sole.one item first second ((gains.gained held).resolve_right old) earlier
    · obtain ⟨earlier, old⟩ := elsewhere item first left held
      subst right
      exact sole.one item first second earlier ((gains.gained shared).resolve_right old)
    · exact sole.one item first second (gains.others first left held) (gains.others second right shared)

theorem Sole.step (sole : Sole before) (step : Step before after) : Sole after := by
  cases step with
  | givenUp advance less =>
    constructor
    · intro holder item held
      exact le_trans (sole.covered holder item (less holder held)) advance
    · intro item first second held shared
      exact sole.one item first second (less first held) (less second shared)
  | handedOut gains beyond => exact sole.gains gains (sole.free_of_beyond beyond _)
  | takenOver gains free => exact sole.gains gains free

/-- While no one holds anything, custody is sole. -/
theorem sole_of_nothing (nothing : ∀ holder, before.holds holder = ∅) : Sole before := by
  constructor
  · intro holder item held
    rw [nothing] at held
    exact absurd held (Set.notMem_empty item)
  · intro item first second held
    rw [nothing] at held
    exact absurd held (Set.notMem_empty item)

end FeynmanEngine.Custody
