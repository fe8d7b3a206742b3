import Mathlib.Data.List.Basic

/-! Keys visited one after the other. A visit changes the state and puts things
out, or fails. Where visits of different keys commute, up to what can be seen of
a state, the order of the keys cannot be seen: the same state is reached and the
same things are put out, in another order. -/
namespace FeynmanEngine.CommutingVisits

variable {Key State Out Error : Type}

/-- The keys visited in turn, up to the first failure. -/
def visitAll (visit : Key → State → Except Error (State × List Out)) (state : State) :
    List Key → Except Error (State × List Out)
  | [] => .ok (state, [])
  | key :: rest =>
    match visit key state with
    | .error error => .error error
    | .ok (next, out) =>
      match visitAll visit next rest with
      | .error error => .error error
      | .ok (final, more) => .ok (final, out ++ more)

/-- Visits that tell states apart only as far as `alike` does, and of which two
at different keys can be made in the other order. -/
structure Commuting (visit : Key → State → Except Error (State × List Out)) (alike : State → State → Prop) :
    Prop where
  refl : ∀ state, alike state state
  trans : ∀ {first second third}, alike first second → alike second third → alike first third
  congr : ∀ {key left right next out}, alike left right → visit key left = .ok (next, out) →
    ∃ other, visit key right = .ok (other, out) ∧ alike next other
  swap : ∀ {first second state middle final out more}, first ≠ second →
    visit first state = .ok (middle, out) → visit second middle = .ok (final, more) →
      ∃ middle' final', visit second state = .ok (middle', more) ∧ visit first middle' = .ok (final', out) ∧
        alike final final'

variable {visit : Key → State → Except Error (State × List Out)} {alike : State → State → Prop}

/-- A first visit and the others, none of which failed. -/
theorem visitAll_cons_ok_iff :
    visitAll visit state (key :: rest) = .ok (final, outs) ↔ ∃ next out more,
      visit key state = .ok (next, out) ∧ visitAll visit next rest = .ok (final, more) ∧ outs = out ++ more := by
  constructor
  · intro visited
    unfold visitAll at visited
    split at visited
    · cases visited
    · next next out first =>
      split at visited
      · cases visited
      · next last more others =>
        cases visited
        exact ⟨next, out, more, first, others, rfl⟩
  · rintro ⟨next, out, more, first, others, rfl⟩
    simp only [visitAll, first, others]

namespace Commuting
variable (commuting : Commuting visit alike)
include commuting

theorem visitAll_congr {keys : List Key} (same : alike left right)
    (visited : visitAll visit left keys = .ok (final, outs)) :
    ∃ other, visitAll visit right keys = .ok (other, outs) ∧ alike final other := by
  induction keys generalizing left right outs with
  | nil =>
    cases visited
    exact ⟨right, rfl, same⟩
  | cons key rest ih =>
    obtain ⟨next, out, more, first, others, rfl⟩ := visitAll_cons_ok_iff.mp visited
    obtain ⟨next', first', same'⟩ := commuting.congr same first
    obtain ⟨other, others', reached⟩ := ih same' others
    exact ⟨other, visitAll_cons_ok_iff.mpr ⟨next', out, more, first', others', rfl⟩, reached⟩

/-- Distinct keys may be visited in any order, from any state that is alike. -/
theorem visitAll_perm {keys others : List Key} (order : keys.Perm others) (distinct : keys.Nodup)
    (same : alike left right) (visited : visitAll visit left keys = .ok (final, outs)) :
    ∃ other outs', visitAll visit right others = .ok (other, outs') ∧ alike final other ∧ outs.Perm outs' := by
  induction order generalizing left right final outs with
  | nil =>
    cases visited
    exact ⟨right, [], rfl, same, .nil⟩
  | cons key order ih =>
    obtain ⟨next, out, more, first, rest, rfl⟩ := visitAll_cons_ok_iff.mp visited
    obtain ⟨next', first', same'⟩ := commuting.congr same first
    obtain ⟨other, more', rest', reached, put⟩ := ih (List.nodup_cons.mp distinct).2 same' rest
    exact ⟨other, out ++ more', visitAll_cons_ok_iff.mpr ⟨next', out, more', first', rest', rfl⟩, reached,
      put.append_left out⟩
  | swap second first rest =>
    obtain ⟨middle, out, more, one, both, rfl⟩ := visitAll_cons_ok_iff.mp visited
    obtain ⟨next, out', after, two, others, rfl⟩ := visitAll_cons_ok_iff.mp both
    have differ : first ≠ second := fun equal => (List.nodup_cons.mp distinct).1 (equal ▸ List.mem_cons_self)
    -- swapped where they are, then made from the state that is alike
    obtain ⟨halfway, swapped, two', one', same'⟩ := commuting.swap differ one two
    obtain ⟨halfway', two'', half⟩ := commuting.congr same two'
    obtain ⟨swapped', one'', same''⟩ := commuting.congr half one'
    obtain ⟨other, others', reached⟩ := commuting.visitAll_congr (commuting.trans same' same'') others
    refine ⟨other, out' ++ (out ++ after), ?_, reached, ?_⟩
    · exact visitAll_cons_ok_iff.mpr ⟨halfway', out', out ++ after, two'',
        visitAll_cons_ok_iff.mpr ⟨swapped', out, after, one'', others', rfl⟩, rfl⟩
    · rw [← List.append_assoc, ← List.append_assoc]
      exact List.perm_append_comm.append_right after
  | trans order order' ih ih' =>
    obtain ⟨between, outs', visited', reached, put⟩ := ih distinct same visited
    obtain ⟨other, outs'', visited'', reached', put'⟩ :=
      ih' (order.nodup_iff.mp distinct) (commuting.refl right) visited'
    exact ⟨other, outs'', visited'', commuting.trans reached reached', put.trans put'⟩

end Commuting

end FeynmanEngine.CommutingVisits
