import FeynmanEngine.Traces

/-! A call that looks at a running system several times. Its turns read the
system and leave it alone, and between them the system goes on by itself. -/
namespace FeynmanEngine.Inquiries
open Traces

/-- A system, and where a call stands that looks at it. -/
structure Asking (World Inquiry : Type) where
  world : World
  inquiry : Inquiry

/-- A step of the system, or a turn of the call. -/
inductive Event (Label Turn : Type) where
  | other (label : Label)
  | turn (turn : Turn)

variable {World Inquiry Label Turn : Type} {moves : World → Label → World → Prop}
  {turns : World → Inquiry → Turn → Inquiry → Prop}

inductive Proceeds (moves : World → Label → World → Prop) (turns : World → Inquiry → Turn → Inquiry → Prop) :
    Asking World Inquiry → Event Label Turn → Asking World Inquiry → Prop where
  | other (move : moves world label next) : Proceeds moves turns ⟨world, inquiry⟩ (.other label) ⟨next, inquiry⟩
  | turn (turned : turns world inquiry turn next) : Proceeds moves turns ⟨world, inquiry⟩ (.turn turn) ⟨world, next⟩

/-- The steps of the system alone. -/
def others (events : List (Event Label Turn)) : List Label :=
  events.filterMap fun
    | .other label => some label
    | .turn _ => none

theorem others_append (events more : List (Event Label Turn)) : others (events ++ more) = others events ++ others more :=
  List.filterMap_append

/-- The system's steps are a run of it. -/
theorem path_of_others {start state : Asking World Inquiry} (path : Path (Proceeds moves turns) start events state) :
    Path moves start.world (others events) state.world := by
  induction path with
  | start => exact .start
  | step _ proceeds ih =>
    rw [others_append]
    cases proceeds with
    | other move => exact ih.step move
    | turn turned =>
      rw [show others [Event.turn _] = ([] : List Label) from rfl, List.append_nil]
      exact ih

/-- Takes a step of the system, or a turn of the call. -/
def take {Step : Type} (move : World → Step → Option (Label × World)) (turn : World → Inquiry → Turn → Option Inquiry)
    (asking : Asking World Inquiry) : Step ⊕ Turn → Option (Event Label Turn × Asking World Inquiry)
  | .inl step => (move asking.world step).map fun moved => (.other moved.1, ⟨moved.2, asking.inquiry⟩)
  | .inr taken => (turn asking.world asking.inquiry taken).map fun next => (.turn taken, ⟨asking.world, next⟩)

theorem proceeds_of_take {Step : Type} {move : World → Step → Option (Label × World)}
    {turn : World → Inquiry → Turn → Option Inquiry}
    (moved : ∀ world step label next, move world step = some (label, next) → moves world label next)
    (turned : ∀ world inquiry taken next, turn world inquiry taken = some next → turns world inquiry taken next)
    (state : Asking World Inquiry) (step : Step ⊕ Turn) (event : Event Label Turn) (next : Asking World Inquiry)
    (taken : take move turn state step = some (event, next)) : Proceeds moves turns state event next := by
  cases step with
  | inl step =>
    obtain ⟨⟨label, after⟩, made, same⟩ := Option.map_eq_some_iff.mp taken
    cases same
    exact .other (moved _ _ _ _ made)
  | inr step =>
    obtain ⟨after, made, same⟩ := Option.map_eq_some_iff.mp taken
    cases same
    exact .turn (turned _ _ _ _ made)

end FeynmanEngine.Inquiries
