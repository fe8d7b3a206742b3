import Mathlib.Data.List.Sort
import Mathlib.Order.WithBot

/-! Reading an ordered list in pages. A page starts behind a cursor and has as
many items as there are, up to its size; the last item of a full page is the
next cursor. What lies behind the cursor gets shorter by a page at a time, and
a page that is not full is the last. -/
namespace FeynmanEngine.PagedScans

variable {α κ : Type} [LinearOrder κ] (key : α → κ)

/-- The items behind a cursor. -/
def behind (items : List α) (cursor : WithBot κ) : List α := items.filter fun item => cursor < key item

/-- A page of them. -/
def pageBehind (items : List α) (cursor : WithBot κ) (size : Nat) : List α := (behind key items cursor).take size

variable {key : α → κ} {items : List α} {cursor : WithBot κ} {size : Nat}

theorem behind_bot (items : List α) : behind key items ⊥ = items := by
  apply List.filter_eq_self.mpr
  intro item member
  exact decide_eq_true (WithBot.bot_lt_coe _)

theorem mem_behind_iff : item ∈ behind key items cursor ↔ item ∈ items ∧ cursor < key item := by
  unfold behind
  rw [List.mem_filter, decide_eq_true_eq]

/-- Only the end has an empty page. -/
theorem behind_of_empty_page (positive : 0 < size) (empty : pageBehind key items cursor size = []) :
    behind key items cursor = [] := by
  rcases List.take_eq_nil_iff.mp empty with none | nothing
  · omega
  · exact nothing

/-- A page that is not full has everything that is left. -/
theorem behind_of_short_page (short : (pageBehind key items cursor size).length < size) :
    pageBehind key items cursor size = behind key items cursor := by
  unfold pageBehind at short ⊢
  rw [List.length_take] at short
  exact List.take_of_length_le (by omega)

/-- Behind the last item of a page is what comes after the page. -/
theorem behind_last (sorted : items.Pairwise fun earlier later => key earlier < key later)
    (last : (pageBehind key items cursor size).getLast? = some final) :
    behind key items (key final) = (behind key items cursor).drop size := by
  have rest : (behind key items cursor).Pairwise fun earlier later => key earlier < key later :=
    sorted.sublist List.filter_sublist
  have own : final ∈ pageBehind key items cursor size := List.mem_of_getLast? last
  have beyond : cursor < key final := (mem_behind_iff.mp (List.mem_of_mem_take own)).2
  -- looking behind the new cursor in what was behind the old one is enough
  have narrowed : behind key items (key final) = behind key (behind key items cursor) (key final) := by
    unfold behind
    rw [List.filter_filter]
    refine List.filter_congr fun item member => ?_
    rw [← Bool.decide_and]
    exact decide_eq_decide.mpr ⟨fun after => ⟨after, beyond.trans after⟩, And.left⟩
  obtain ⟨before, page⟩ : ∃ before, pageBehind key items cursor size = before ++ [final] :=
    List.getLast?_eq_some_iff.mp last
  rw [← List.take_append_drop size (behind key items cursor)] at rest
  obtain ⟨taken, dropped, apart⟩ := List.pairwise_append.mp rest
  have skipped : behind key ((behind key items cursor).take size) (key final) = [] := by
    have within : (before ++ [final]).Pairwise fun earlier later => key earlier < key later := page ▸ taken
    refine List.filter_eq_nil_iff.mpr fun item member after => ?_
    have shown : item ∈ before ++ [final] := page ▸ member
    have greater : key final < key item := WithBot.coe_lt_coe.mp (of_decide_eq_true after)
    rcases List.mem_append.mp shown with earlier | same
    · exact lt_asymm greater ((List.pairwise_append.mp within).2.2 item earlier final List.mem_cons_self)
    · rw [List.mem_singleton.mp same] at greater
      exact lt_irrefl _ greater
  have kept : behind key ((behind key items cursor).drop size) (key final) = (behind key items cursor).drop size := by
    refine List.filter_eq_self.mpr fun item member => ?_
    exact decide_eq_true (WithBot.coe_lt_coe.mpr (apart final own item member))
  rw [narrowed]
  nth_rewrite 1 [← List.take_append_drop size (behind key items cursor)]
  unfold behind at skipped kept ⊢
  rw [List.filter_append, skipped, kept, List.nil_append]

/-- A page has everything between its cursor and its last item. -/
theorem mem_page_of_le (sorted : items.Pairwise fun earlier later => key earlier < key later)
    (last : (pageBehind key items cursor size).getLast? = some final) (member : item ∈ items)
    (after : cursor < key item) (le : key item ≤ key final) : item ∈ pageBehind key items cursor size := by
  have listed : item ∈ behind key items cursor := mem_behind_iff.mpr ⟨member, after⟩
  rw [← List.take_append_drop size (behind key items cursor), ← behind_last sorted last] at listed
  rcases List.mem_append.mp listed with now | later
  · exact now
  · exact absurd le (not_le_of_gt (WithBot.coe_lt_coe.mp (mem_behind_iff.mp later).2))

end FeynmanEngine.PagedScans
