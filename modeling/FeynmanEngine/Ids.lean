import Mathlib.Algebra.Group.Nat.Defs
import FeynmanEngine.TextFields

/-! Identifiers of `types/src/ids.rs`: the newtypes, the structured client
order id with its generator and parsers, and the sequence number. Clock
readings are nanoseconds since the Unix epoch. -/
namespace FeynmanEngine.Ids
open TextFields

/-- Internal order identifier (engine-assigned, globally unique). -/
structure OrderId where
  value : String
  deriving DecidableEq, Repr

/-- Venue-assigned order identifier (exchange side). -/
structure VenueOrderId where
  value : String
  deriving DecidableEq, Repr

/-- Identifies a trading agent. -/
structure AgentId where
  value : String
  deriving DecidableEq, Repr

/-- Identifies a trading venue. -/
structure VenueId where
  value : String
  deriving DecidableEq, Repr

/-- Identifies a venue trading account. -/
structure AccountId where
  value : String
  deriving DecidableEq, Repr

/-- Identifies a tradeable instrument. -/
structure InstrumentId where
  value : String
  deriving DecidableEq, Repr

/-- Identifies a venue-native market symbol. -/
structure MarketId where
  value : String
  deriving DecidableEq, Repr

/-- Identifies a signal from a strategy agent. -/
structure SignalId where
  value : String
  deriving DecidableEq, Repr

/-- Identifies a basket of related orders. -/
structure BasketId where
  value : String
  deriving DecidableEq, Repr

/-- `DateTime<Utc>`: nanoseconds since the Unix epoch. -/
structure DateTime where
  nanos : Int
  deriving DecidableEq, Repr

/-- Milliseconds since the epoch, rounded down. -/
def DateTime.timestampMillis (t : DateTime) : Int := t.nanos / 1000000

/-- The reading is not before the Unix epoch. -/
def DateTime.SinceEpoch (t : DateTime) : Prop := 0 ≤ t.nanos

theorem DateTime.SinceEpoch.millis {t : DateTime} (since : t.SinceEpoch) : 0 ≤ t.timestampMillis :=
  Int.ediv_nonneg since (by decide)

/-- Milliseconds are rounded down, so none are negative since the epoch only. -/
theorem DateTime.sinceEpoch_iff (t : DateTime) : t.SinceEpoch ↔ 0 ≤ t.timestampMillis := by
  unfold SinceEpoch timestampMillis
  omega

/-- `{agent}-{epoch_ms}-{seq:06}-r{restart_epoch:02}`. -/
structure ClientOrderId where
  value : String
  deriving DecidableEq, Repr

/-- One past the largest `u64`. -/
def u64Limit : Nat := 2 ^ 64

/-- One past the largest `u16`. -/
def u16Limit : Nat := 2 ^ 16

namespace ClientOrderId

/-- `rsplitn(3, '-')`: restart field, sequence field and everything before. -/
def splitSuffixParts (id : ClientOrderId) : Option (List Char × List Char × List Char) := do
  let (rest, restart) ← rsplitOnce '-' id.value.toList
  let (pfx, sequence) ← rsplitOnce '-' rest
  some (restart, sequence, pfx)

/-- The agent named by this id. -/
def parseAgent (id : ClientOrderId) : Option AgentId := do
  let (_, _, pfx) ← id.splitSuffixParts
  let (agent, _) ← rsplitOnce '-' pfx
  some ⟨String.ofList agent⟩

/-- The restart epoch: the last dash-separated field, after its `r`. -/
def parseRestartEpoch (id : ClientOrderId) : Option Nat :=
  let last := match rsplitOnce '-' id.value.toList with
    | some (_, after) => after
    | none => id.value.toList
  match last with
  | 'r' :: digits => parseUnsigned u16Limit digits
  | _ => none

/-- The monotonic counter. -/
def parseSequence (id : ClientOrderId) : Option Nat := do
  let (_, sequence, _) ← id.splitSuffixParts
  parseUnsigned u64Limit sequence

/-- The text `ClientOrderIdGenerator::next` formats. -/
def format (agentPrefix : String) (millis : Int) (sequence restartEpoch : Nat) : ClientOrderId :=
  ⟨agentPrefix ++ String.ofList ('-' :: signed millis ++ '-' :: padded 6 sequence ++
    '-' :: 'r' :: padded 2 restartEpoch)⟩

private theorem format_toList (agent : String) (millis : Int) (sequence epoch : Nat) :
    (format agent millis sequence epoch).value.toList =
    ((agent.toList ++ '-' :: signed millis) ++ '-' :: padded 6 sequence) ++
      '-' :: 'r' :: padded 2 epoch := by
  simp [format, String.toList_append, String.toList_ofList]

private theorem restart_field_has_no_dash : '-' ∉ 'r' :: padded 2 epoch := by
  have digits : '-' ∉ padded 2 epoch := not_mem_padded (by decide)
  simp [digits]

/-- The two fields on the right are always recovered, whatever the agent's
name and the clock put before them. -/
theorem format_splits (agent : String) (millis : Int) (sequence epoch : Nat) :
    (format agent millis sequence epoch).splitSuffixParts =
      some ('r' :: padded 2 epoch, padded 6 sequence, agent.toList ++ '-' :: signed millis) := by
  have dashless : '-' ∉ padded 6 sequence := not_mem_padded (by decide)
  simp only [splitSuffixParts, format_toList, rsplitOnce_append _ restart_field_has_no_dash,
    Option.bind_eq_bind, Option.bind_some, rsplitOnce_append _ dashless]

theorem format_sequence (agent : String) (millis : Int) {sequence : Nat} (epoch : Nat) (bound : sequence < u64Limit) :
    (format agent millis sequence epoch).parseSequence = some sequence := by
  simp [parseSequence, format_splits, parse_padded 6 bound]

theorem format_restart_epoch (agent : String) (millis : Int) (sequence : Nat)
    (bound : epoch < u16Limit) :
    (format agent millis sequence epoch).parseRestartEpoch = some epoch := by
  simp only [parseRestartEpoch, format_toList, rsplitOnce_append _ restart_field_has_no_dash]
  exact parse_padded 2 bound

/-- Some agent is always read back; it is the right one only when the
timestamp brings no minus sign of its own. -/
theorem format_agent_isSome (agent : String) (millis : Int) (sequence epoch : Nat) :
    (format agent millis sequence epoch).parseAgent.isSome := by
  have present : '-' ∈ agent.toList ++ '-' :: signed millis := by simp
  obtain ⟨parts, found⟩ := Option.isSome_iff_exists.mp (rsplitOnce_isSome present)
  simp [parseAgent, format_splits, found]

theorem format_agent (agent : String) (sequence epoch : Nat) (since : 0 ≤ millis) :
    (format agent millis sequence epoch).parseAgent = some ⟨agent⟩ := by
  have dashless : '-' ∉ signed millis := not_mem_signed (by decide) since
  simp [parseAgent, format_splits, rsplitOnce_append _ dashless]

/-- The minus sign of an earlier timestamp is taken for a separator, and the one
before it for the end of the agent's name. -/
theorem format_agent_before_epoch (agent : String) (sequence epoch : Nat) (before : millis < 0) :
    (format agent millis sequence epoch).parseAgent = some ⟨agent ++ "-"⟩ := by
  obtain ⟨n, rfl⟩ := Int.eq_negSucc_of_lt_zero before
  have dashless : '-' ∉ Nat.toDigits 10 (n + 1) := by
    intro member
    exact absurd (Nat.isDigit_of_mem_toDigits (by omega) (by omega) member) (by decide)
  have fields : agent.toList ++ '-' :: signed (Int.negSucc n) =
      (agent.toList ++ ['-']) ++ '-' :: Nat.toDigits 10 (n + 1) := by
    simp [signed]
  have name : String.ofList (agent.toList ++ ['-']) = agent ++ "-" := by
    apply String.toList_injective
    simp
  simp only [parseAgent, format_splits, fields, rsplitOnce_append _ dashless, Option.bind_eq_bind,
    Option.bind_some, name]

/-- The agent is read back exactly since the epoch. -/
theorem format_agent_iff (agent : String) (millis : Int) (sequence epoch : Nat) :
    (format agent millis sequence epoch).parseAgent = some ⟨agent⟩ ↔ 0 ≤ millis := by
  constructor
  · intro parsed
    by_contra earlier
    rw [format_agent_before_epoch agent sequence epoch (Int.not_le.mp earlier)] at parsed
    have longer := congrArg (fun id => id.value.length) (Option.some.inj parsed)
    simp at longer
  · exact format_agent agent sequence epoch

/-- Two ids printed since the epoch are equal only for the same agent and the
same counter value. -/
theorem format_injective {sequence sequence' : Nat} (since : 0 ≤ millis) (since' : 0 ≤ millis')
    (bound : sequence < u64Limit) (bound' : sequence' < u64Limit)
    (same : format agent millis sequence epoch = format agent' millis' sequence' epoch') :
    agent = agent' ∧ sequence = sequence' := by
  constructor
  · have agents := congrArg parseAgent same
    rw [format_agent _ _ _ since, format_agent _ _ _ since'] at agents
    simpa using agents
  · have sequences := congrArg parseSequence same
    rw [format_sequence _ _ _ bound, format_sequence _ _ _ bound'] at sequences
    simpa using sequences

end ClientOrderId

/-- One generator per agent; `counter` is an `AtomicU64`. -/
structure ClientOrderIdGenerator where
  agentPrefix : String
  restartEpoch : Nat
  counter : Nat
  deriving DecidableEq, Repr

namespace ClientOrderIdGenerator

def withStartSeq (agent : AgentId) (restartEpoch startSeq : Nat) : ClientOrderIdGenerator :=
  ⟨agent.value, restartEpoch, startSeq⟩

def new (agent : AgentId) (restartEpoch : Nat) : ClientOrderIdGenerator :=
  withStartSeq agent restartEpoch 0

/-- The id for the current counter value; `fetch_add` wraps. -/
def next (gen : ClientOrderIdGenerator) (now : DateTime) : ClientOrderId × ClientOrderIdGenerator :=
  (.format gen.agentPrefix now.timestampMillis gen.counter gen.restartEpoch,
    { gen with counter := (gen.counter + 1) % u64Limit })

/-- What `next` prints is read back whole exactly when the clock does not stand
before the epoch; the counter and the restart epoch are always read back. -/
theorem next_parses_back_iff (gen : ClientOrderIdGenerator) (now : DateTime)
    (counter : gen.counter < u64Limit) (epoch : gen.restartEpoch < u16Limit) :
    ((gen.next now).1.parseAgent = some ⟨gen.agentPrefix⟩ ∧
      (gen.next now).1.parseSequence = some gen.counter ∧
      (gen.next now).1.parseRestartEpoch = some gen.restartEpoch) ↔ now.SinceEpoch := by
  have agent := ClientOrderId.format_agent_iff gen.agentPrefix now.timestampMillis gen.counter gen.restartEpoch
  have sequence := ClientOrderId.format_sequence gen.agentPrefix now.timestampMillis gen.restartEpoch counter
  have restart := ClientOrderId.format_restart_epoch gen.agentPrefix now.timestampMillis gen.counter epoch
  rw [DateTime.sinceEpoch_iff, ← agent]
  constructor
  · rintro ⟨parsed, -, -⟩
    exact parsed
  · intro parsed
    exact ⟨parsed, sequence, restart⟩

/-- At the epoch itself, for an agent whose name has a dash and digits. -/
theorem next_parses_back_at_epoch : ((withStartSeq ⟨"mean-rev-2"⟩ 3 1234567).next ⟨0⟩).1.parseAgent =
    some ⟨"mean-rev-2"⟩ :=
  ((next_parses_back_iff (withStartSeq ⟨"mean-rev-2"⟩ 3 1234567) ⟨0⟩ (by decide) (by decide)).mpr (Int.le_refl 0)).1

/-- A nanosecond before the epoch the agent's name gets a dash. -/
theorem agent_misread_before_epoch :
    ((new ⟨"satoshi"⟩ 3).next ⟨-1⟩).1.parseAgent = some ⟨"satoshi-"⟩ ∧
      (⟨"satoshi-"⟩ : AgentId) ≠ ⟨"satoshi"⟩ := by
  decide

end ClientOrderIdGenerator

/-- A `u64` event sequence number. -/
structure SequenceId where
  val : Nat
  deriving DecidableEq, Repr

def SequenceId.zero : SequenceId := ⟨0⟩

def SequenceId.next (id : SequenceId) : SequenceId := ⟨(id.val + 1) % u64Limit⟩

def SequenceId.toText (id : SequenceId) : String := "seq:" ++ toString id.val

end FeynmanEngine.Ids
