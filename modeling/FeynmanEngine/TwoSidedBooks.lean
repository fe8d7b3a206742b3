import Mathlib.Algebra.Order.Field.Basic
import Mathlib.Algebra.Order.BigOperators.Group.List
import Mathlib.Tactic.Linarith
import Mathlib.Tactic.Ring

/-! Books with two sides. A trade closes what is held against it before it opens
anything, so its effect depends on its total amount alone and not on the parts
it comes in. Neither side is ever negative; the net amount is their difference
and the gross amount their sum. -/
namespace FeynmanEngine.TwoSidedBooks

/-- What is held on either side. -/
@[ext] structure Sides (α : Type) [Zero α] [LE α] where
  long : α
  short : α
  long_nonneg : 0 ≤ long
  short_nonneg : 0 ≤ short

namespace Sides

variable {α : Type} [Field α] [LinearOrder α] [IsStrictOrderedRing α]

def net (sides : Sides α) : α := sides.long - sides.short

def gross (sides : Sides α) : α := sides.long + sides.short

/-- Net never exceeds gross, in either direction. -/
theorem abs_net_le_gross (sides : Sides α) : |sides.net| ≤ sides.gross := by
  have long := sides.long_nonneg
  have short := sides.short_nonneg
  unfold net gross
  rw [abs_le]
  constructor <;> linarith

/-- The sides of a net and a gross amount. -/
def ofNetGross (net gross : α) (within : |net| ≤ gross) : Sides α where
  long := (gross + net) / 2
  short := (gross - net) / 2
  long_nonneg := by
    have low := (abs_le.mp within).1
    apply div_nonneg
    · linarith
    · exact zero_le_two
  short_nonneg := by
    have high := (abs_le.mp within).2
    apply div_nonneg
    · linarith
    · exact zero_le_two

@[simp] theorem net_ofNetGross (net gross : α) (within : |net| ≤ gross) : (ofNetGross net gross within).net = net := by
  unfold Sides.net ofNetGross
  ring

@[simp] theorem gross_ofNetGross (net gross : α) (within : |net| ≤ gross) :
    (ofNetGross net gross within).gross = gross := by
  unfold Sides.gross ofNetGross
  ring

/-- The same book seen from the other side. -/
def flip (sides : Sides α) : Sides α := ⟨sides.short, sides.long, sides.short_nonneg, sides.long_nonneg⟩

omit [IsStrictOrderedRing α] in
@[simp] theorem flip_flip (sides : Sides α) : sides.flip.flip = sides := rfl

omit [IsStrictOrderedRing α] in
theorem net_flip (sides : Sides α) : sides.flip.net = -sides.net := by
  unfold net flip
  ring

omit [IsStrictOrderedRing α] in
theorem gross_flip (sides : Sides α) : sides.flip.gross = sides.gross := by
  unfold gross flip
  ring

/-- The short side is closed first, the rest is added to the long side. -/
def buy (sides : Sides α) (amount : α) : Sides α where
  long := sides.long + max (amount - sides.short) 0
  short := max (sides.short - amount) 0
  long_nonneg := add_nonneg sides.long_nonneg (le_max_right _ _)
  short_nonneg := le_max_right _ _

def sell (sides : Sides α) (amount : α) : Sides α := (sides.flip.buy amount).flip

theorem long_buy (sides : Sides α) (amount : α) :
    (sides.buy amount).long = sides.long + max (amount - sides.short) 0 := rfl

theorem short_buy (sides : Sides α) (amount : α) : (sides.buy amount).short = max (sides.short - amount) 0 := rfl

/-- A purchase that only closes. -/
theorem buy_within {sides : Sides α} {amount : α} (within : amount ≤ sides.short) :
    (sides.buy amount).long = sides.long ∧ (sides.buy amount).short = sides.short - amount := by
  rw [long_buy, short_buy, max_eq_right (sub_nonpos.mpr within), max_eq_left (sub_nonneg.mpr within), add_zero]
  exact ⟨rfl, rfl⟩

/-- A purchase that closes the whole short side. -/
theorem buy_beyond {sides : Sides α} {amount : α} (beyond : sides.short ≤ amount) :
    (sides.buy amount).long = sides.long + (amount - sides.short) ∧ (sides.buy amount).short = 0 := by
  rw [long_buy, short_buy, max_eq_left (sub_nonneg.mpr beyond), max_eq_right (sub_nonpos.mpr beyond)]
  exact ⟨rfl, rfl⟩

theorem net_buy (sides : Sides α) (amount : α) : (sides.buy amount).net = sides.net + amount := by
  unfold net
  rcases le_total amount sides.short with within | beyond
  · rw [(buy_within within).1, (buy_within within).2]
    ring
  · rw [(buy_beyond beyond).1, (buy_beyond beyond).2]
    ring

/-- Gross grows by the amount and shrinks by twice what is closed. -/
theorem gross_buy (sides : Sides α) (amount : α) :
    (sides.buy amount).gross = sides.gross + amount - 2 * min amount sides.short := by
  unfold gross
  rcases le_total amount sides.short with within | beyond
  · rw [(buy_within within).1, (buy_within within).2, min_eq_left within]
    ring
  · rw [(buy_beyond beyond).1, (buy_beyond beyond).2, min_eq_right beyond]
    ring

/-- Two purchases close and open what one of both amounts does. -/
theorem buy_buy (sides : Sides α) (first : α) {second : α} (more : 0 ≤ second) :
    (sides.buy first).buy second = sides.buy (first + second) := by
  rcases le_total first sides.short with within | beyond
  · -- the first leaves some of the short side for the second
    obtain ⟨long, short⟩ := buy_within within
    ext
    · rw [long_buy (sides.buy first), long, short, long_buy, sub_sub_eq_add_sub, add_comm second]
    · rw [short_buy (sides.buy first), short, short_buy, sub_sub]
  · -- the first has closed it all
    obtain ⟨long, short⟩ := buy_beyond beyond
    have closed : (sides.buy first).short ≤ second := short.le.trans more
    have both : sides.short ≤ first + second := by linarith
    ext
    · rw [(buy_beyond closed).1, (buy_beyond both).1, long, short]
      ring
    · rw [(buy_beyond closed).2, (buy_beyond both).2]

theorem buy_zero (sides : Sides α) : sides.buy 0 = sides := by
  obtain ⟨long, short⟩ := buy_within sides.short_nonneg
  ext
  · exact long
  · rw [short, sub_zero]

/-- A trade by a signed amount: a purchase, or a sale of what is below zero. -/
def trade (sides : Sides α) (delta : α) : Sides α :=
  if 0 ≤ delta then sides.buy delta else sides.sell (-delta)

/-- What is held against a signed trade. -/
def against (sides : Sides α) (delta : α) : α :=
  if 0 ≤ delta then sides.short else sides.long

omit [IsStrictOrderedRing α] in
theorem against_nonneg (sides : Sides α) (delta : α) : 0 ≤ sides.against delta := by
  unfold against
  split
  · exact sides.short_nonneg
  · exact sides.long_nonneg

theorem net_trade (sides : Sides α) (delta : α) : (sides.trade delta).net = sides.net + delta := by
  unfold trade
  split
  · exact net_buy sides delta
  · rw [sell, net_flip, net_buy, net_flip]
    ring

theorem gross_trade (sides : Sides α) (delta : α) :
    (sides.trade delta).gross = sides.gross + |delta| - 2 * min |delta| (sides.against delta) := by
  unfold trade against
  split
  · next upward => rw [gross_buy, abs_of_nonneg upward]
  · next downward =>
    rw [sell, gross_flip, gross_buy, gross_flip, abs_of_neg (not_le.mp downward)]
    rfl

/-- A trade adds no more than its amount to the gross. -/
theorem gross_trade_le (sides : Sides α) (delta : α) : (sides.trade delta).gross ≤ sides.gross + |delta| := by
  have closed : 0 ≤ min |delta| (sides.against delta) := le_min (abs_nonneg delta) (sides.against_nonneg delta)
  rw [gross_trade]
  linarith

/-- A sale of nothing is a purchase of nothing. -/
theorem trade_of_nonpos (sides : Sides α) {delta : α} (downward : delta ≤ 0) : sides.trade delta = sides.sell (-delta) := by
  unfold trade
  split
  · next upward =>
    obtain rfl := le_antisymm downward upward
    rw [neg_zero, sell, buy_zero, buy_zero, flip_flip]
  · rfl

theorem trade_of_nonneg (sides : Sides α) {delta : α} (upward : 0 ≤ delta) : sides.trade delta = sides.buy delta :=
  if_pos upward

/-- Both amounts are traded in one direction. -/
def SameSign (first second : α) : Prop := (0 ≤ first ∧ 0 ≤ second) ∨ (first ≤ 0 ∧ second ≤ 0)

/-- Trades in one direction come to one trade of both amounts. -/
theorem trade_trade (sides : Sides α) {first second : α} (same : SameSign first second) :
    (sides.trade first).trade second = sides.trade (first + second) := by
  rcases same with ⟨bought, more⟩ | ⟨sold, more⟩
  · rw [trade_of_nonneg _ bought, trade_of_nonneg _ more, trade_of_nonneg _ (add_nonneg bought more)]
    exact buy_buy sides first more
  · rw [trade_of_nonpos _ sold, trade_of_nonpos _ more, trade_of_nonpos _ (add_nonpos sold more)]
    unfold sell
    rw [flip_flip, buy_buy _ _ (neg_nonneg.mpr more), neg_add]

/-- A trade cut into parts of one direction is the trade of their sum. -/
theorem foldl_trade (sides : Sides α) {parts : List α}
    (same : (∀ part ∈ parts, 0 ≤ part) ∨ (∀ part ∈ parts, part ≤ 0)) :
    parts.foldl trade sides = sides.trade parts.sum := by
  induction parts generalizing sides with
  | nil =>
    rw [List.foldl_nil, List.sum_nil, trade_of_nonneg _ (le_refl 0), buy_zero]
  | cons part rest ih =>
    have tail : (∀ later ∈ rest, 0 ≤ later) ∨ (∀ later ∈ rest, later ≤ 0) :=
      same.imp (fun all later member => all later (List.mem_cons_of_mem _ member))
        (fun all later member => all later (List.mem_cons_of_mem _ member))
    rw [List.foldl_cons, List.sum_cons, ih _ tail]
    apply trade_trade
    rcases same with all | all
    · exact Or.inl ⟨all part List.mem_cons_self,
        List.sum_nonneg fun later member => all later (List.mem_cons_of_mem _ member)⟩
    · have below := List.sum_le_card_nsmul rest 0 fun later member => all later (List.mem_cons_of_mem _ member)
      rw [nsmul_zero] at below
      exact Or.inr ⟨all part List.mem_cons_self, below⟩

end Sides

end FeynmanEngine.TwoSidedBooks
