import Mathlib.Tactic.Common
import FeynmanEngine.Traces

/-! Bounded channels with one receiver. Messages leave a channel in the order in
which they were sent, a poll finds a message, nothing yet, or nothing ever again,
and what is in the channel after a poll that found nothing was sent since. -/
namespace FeynmanEngine.Channels
open Traces

structure Channel (Message : Type) where
  capacity : Nat
  queue : List Message
  sending : Bool
  receiving : Bool

def Channel.fresh (capacity : Nat) : Channel Message :=
  ⟨capacity, [], true, true⟩

/-- What happens on a channel. A poll takes the oldest message, or finds the
channel empty, or finds it empty and without senders. -/
inductive Event (Message : Type) where
  | sent (message : Message)
  | took (message : Message)
  | foundEmpty
  | foundClosed
  | sendersGone
  | receiverGone

namespace Event

variable {Message : Type}

def sent? : Event Message → Option Message
  | .sent message => some message
  | _ => none

def took? : Event Message → Option Message
  | .took message => some message
  | _ => none

/-- The receiver polled. -/
def isPoll : Event Message → Bool
  | .took _ | .foundEmpty | .foundClosed => true
  | .sent _ | .sendersGone | .receiverGone => false

/-- The receiver polled and found nothing. -/
def foundNothing : Event Message → Bool
  | .foundEmpty | .foundClosed => true
  | .sent _ | .took _ | .sendersGone | .receiverGone => false

end Event

variable {Message : Type}

/-- One event on a channel; a send waits for room. -/
inductive Step : Channel Message → Event Message → Channel Message → Prop
  | sent (open_ : channel.sending = true) (heard : channel.receiving = true)
      (room : channel.queue.length < channel.capacity) :
      Step channel (.sent message) { channel with queue := channel.queue ++ [message] }
  | took (front : channel.queue = message :: rest) :
      Step channel (.took message) { channel with queue := rest }
  | foundEmpty (nothing : channel.queue = []) (open_ : channel.sending = true) : Step channel .foundEmpty channel
  | foundClosed (nothing : channel.queue = []) (closed : channel.sending = false) :
      Step channel .foundClosed channel
  | sendersGone : Step channel .sendersGone { channel with sending := false }
  | receiverGone : Step channel .receiverGone { channel with receiving := false }

/-- The channel from its opening on. -/
abbrev Run (capacity : Nat) : List (Event Message) → Channel Message → Prop := Path Step (.fresh capacity)

def sends (events : List (Event Message)) : List Message := events.filterMap Event.sent?

def takes (events : List (Event Message)) : List Message := events.filterMap Event.took?

@[simp] theorem sends_snoc (events : List (Event Message)) (event : Event Message) :
    sends (events ++ [event]) = sends events ++ event.sent?.toList := by
  cases found : event.sent? <;> simp [sends, found]

@[simp] theorem takes_snoc (events : List (Event Message)) (event : Event Message) :
    takes (events ++ [event]) = takes events ++ event.took?.toList := by
  cases found : event.took? <;> simp [takes, found]

theorem Step.fifo (step : Step channel event after) (sofar : sends events = takes events ++ channel.queue) :
    sends (events ++ [event]) = takes (events ++ [event]) ++ after.queue := by
  rw [sends_snoc, takes_snoc, sofar]
  cases step with
  | sent open_ heard room => simp [Event.sent?, Event.took?]
  | took front => simp [Event.sent?, Event.took?, front]
  | foundEmpty nothing open_ => simp [Event.sent?, Event.took?]
  | foundClosed nothing closed => simp [Event.sent?, Event.took?]
  | sendersGone => simp [Event.sent?, Event.took?]
  | receiverGone => simp [Event.sent?, Event.took?]

/-- What was sent is what was taken and then what waits. -/
theorem Run.fifo (run : Run capacity events channel) : sends events = takes events ++ channel.queue := by
  induction run with
  | start => rfl
  | step run step ih => exact step.fifo ih

/-- Messages are taken in the order of sending, each at most once. -/
theorem Run.taken_in_order (run : Run capacity events channel) : takes events <+: sends events :=
  ⟨channel.queue, run.fifo.symm⟩

theorem Step.queue_of_foundNothing (step : Step channel event after) (nothing : event.foundNothing = true) :
    after.queue = [] := by
  cases step with
  | foundEmpty empty open_ => exact empty
  | foundClosed empty closed => exact empty
  | _ => cases nothing

/-- One event's part in the sends no poll has followed. -/
def sinceEvent (waiting : List Message) : Event Message → List Message
  | .sent message => waiting ++ [message]
  | .took _ | .foundEmpty | .foundClosed => []
  | .sendersGone | .receiverGone => waiting

/-- The sends after the last poll. -/
def unpolled (events : List (Event Message)) : List Message := events.foldl sinceEvent []

/-- The last poll found nothing. -/
def foundNothingLast (events : List (Event Message)) : Bool :=
  ((events.filter Event.isPoll).getLast?.map Event.foundNothing).getD false

theorem unpolled_snoc (events : List (Event Message)) (event : Event Message) :
    unpolled (events ++ [event]) = sinceEvent (unpolled events) event := by
  simp [unpolled]

theorem foundNothingLast_snoc (events : List (Event Message)) (event : Event Message) :
    foundNothingLast (events ++ [event]) =
      if event.isPoll then event.foundNothing else foundNothingLast events := by
  cases polled : event.isPoll <;> simp [foundNothingLast, List.filter_append, polled]

/-- After a poll that found nothing the channel holds what was sent since. -/
theorem Run.queue_eq_unpolled (run : Run capacity events channel) (nothing : foundNothingLast events = true) :
    channel.queue = unpolled events := by
  induction run with
  | start => simp [foundNothingLast] at nothing
  | @step events channel event after run step ih =>
    rw [foundNothingLast_snoc] at nothing
    rw [unpolled_snoc]
    cases step with
    | sent open_ heard room => exact congrArg (· ++ [_]) (ih nothing)
    | took front => cases nothing
    | foundEmpty empty open_ => exact empty
    | foundClosed empty closed => exact empty
    | sendersGone => exact ih nothing
    | receiverGone => exact ih nothing

/-- If the last poll found nothing, everything sent was taken exactly when nothing was sent since. -/
theorem Run.all_taken_iff (run : Run capacity events channel) (nothing : foundNothingLast events = true) :
    takes events = sends events ↔ unpolled events = [] := by
  rw [run.fifo, run.queue_eq_unpolled nothing]
  exact List.self_eq_append_right

end FeynmanEngine.Channels
