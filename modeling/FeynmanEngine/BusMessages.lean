import Mathlib.Data.Prod.Lex
import Mathlib.Order.Lattice
import FeynmanEngine.Ids
import FeynmanEngine.RedisStreams
import FeynmanEngine.Tables

/-! Messages of the bus as `bus/src/redis.rs` writes them into a stream and reads
them back. An entry has two text fields, the payload in hexadecimal and the
milliseconds of its publication; every other text is refused with the reason. -/
namespace FeynmanEngine.BusMessages
open Ids Tables RedisStreams

/-- The id of a stream entry: milliseconds and a number within them. -/
structure MessageId where
  millis : Nat
  sequence : Nat
  deriving DecidableEq, Repr

namespace MessageId

/-- Ids are ordered as Redis orders them. -/
instance : LinearOrder MessageId :=
  LinearOrder.lift' (fun id => toLex (id.millis, id.sequence)) fun left right same => by
    obtain ⟨millis, sequence⟩ := left
    have parts := Prod.mk.inj (toLex.injective same)
    cases right
    exact (MessageId.mk.injEq _ _ _ _).mpr parts

/-- An id as text. -/
def toText (id : MessageId) : String := toString id.millis ++ "-" ++ toString id.sequence

end MessageId

structure BusMessage where
  id : MessageId
  topic : String
  payload : List UInt8
  publishedAt : DateTime
  deriving DecidableEq

inductive BusError where
  | topicNotFound (topic : String)
  | publishFailed (topic reason : String)
  | groupNotFound (topic group : String)
  | subscribeFailed (topic group consumer reason : String)
  | ackFailed (topic group : String) (messageId : MessageId) (reason : String)
  | pendingFailed (topic group reason : String)
  | claimFailed (topic group consumer reason : String)
  | invalidMessage (topic messageId reason : String)
  | missingField (topic messageId field : String)
  deriving DecidableEq

/-- What a Redis call fails with: the server's refusal, or trouble on the way. -/
inductive RedisError where
  | refused (error : CommandError)
  | failed (text : String)
  deriving DecidableEq

/-- The text of an error; refusals start with the server's code. -/
def RedisError.toText : RedisError → String
  | .refused .busyGroup => "BUSYGROUP Consumer Group name already exists"
  | .refused .noGroup => "NOGROUP No such key or consumer group"
  | .failed text => text

def RedisError.mentions (error : RedisError) (code : String) : Bool :=
  error.toText.toList.tails.any code.toList.isPrefixOf

def isBusyGroupError (error : RedisError) : Bool := error.mentions "BUSYGROUP"

def isNoGroupError (error : RedisError) : Bool := error.mentions "NOGROUP"

def isNoSuchKeyError (error : RedisError) : Bool := error.mentions "no such key"

def mapGroupOrAckError (topic group : String) (messageId : MessageId) (error : RedisError) : BusError :=
  if isNoGroupError error then .groupNotFound topic group else .ackFailed topic group messageId error.toText

def payloadField : String := "payload_hex"

def publishedAtField : String := "published_at_ms"

/-- `encode_hex`: two lower-case digits a byte. -/
def encodeHex (payload : List UInt8) : String :=
  String.ofList (payload.flatMap fun byte => [Nat.digitChar (byte.toNat / 16), Nat.digitChar (byte.toNat % 16)])

/-- The value of a hexadecimal digit, in either case, by its code. -/
def codeValue (code : Nat) : Option Nat :=
  if 0x30 ≤ code ∧ code ≤ 0x39 then some (code - 0x30)
  else if 0x61 ≤ code ∧ code ≤ 0x66 then some (code - 0x61 + 10)
  else if 0x41 ≤ code ∧ code ≤ 0x46 then some (code - 0x41 + 10)
  else none

def hexValue (byte : UInt8) : Option Nat := codeValue byte.toNat

/-- A byte that continues a character. -/
def continues (byte : UInt8) : Bool := 0x80 ≤ byte.toNat ∧ byte.toNat ≤ 0xbf

/-- The second bytes a character of three or four bytes may have after its first. -/
def secondRange (first : Nat) : Option (Nat × Nat) :=
  if first = 0xe0 then some (0xa0, 0xbf)
  else if first = 0xed then some (0x80, 0x9f)
  else if 0xe1 ≤ first ∧ first ≤ 0xef then some (0x80, 0xbf)
  else if first = 0xf0 then some (0x90, 0xbf)
  else if 0xf1 ≤ first ∧ first ≤ 0xf3 then some (0x80, 0xbf)
  else if first = 0xf4 then some (0x80, 0x8f)
  else none

/-- What `from_utf8` reports for two bytes, if they are no text. -/
def utf8Error (first second : UInt8) : Option String :=
  let lead := first.toNat
  if lead < 0x80 then
    if second.toNat < 0x80 then none
    else if 0xc2 ≤ second.toNat ∧ second.toNat ≤ 0xf4 then some "incomplete utf-8 byte sequence from index 1"
    else some "invalid utf-8 sequence of 1 bytes from index 1"
  else if 0xc2 ≤ lead ∧ lead ≤ 0xdf ∧ continues second then none
  else match secondRange lead with
    | some (low, high) =>
      if low ≤ second.toNat ∧ second.toNat ≤ high then some "incomplete utf-8 byte sequence from index 0"
      else some "invalid utf-8 sequence of 1 bytes from index 0"
    | none => some "invalid utf-8 sequence of 1 bytes from index 0"

/-- Two bytes that are text: two characters, or one of two bytes. -/
def pairText (first second : UInt8) : String :=
  if first.toNat < 0x80 then String.ofList [Char.ofNat first.toNat, Char.ofNat second.toNat]
  else String.ofList [Char.ofNat (first.toNat % 0x20 * 0x40 + second.toNat % 0x40)]

/-- `u8::from_str_radix` of two bytes of text; a plus sign may stand in front. -/
def parseRadix16 (first second : UInt8) : Option UInt8 :=
  if first.toNat = 0x2b then (hexValue second).map UInt8.ofNat
  else
    match hexValue first, hexValue second with
    | some high, some low => some (UInt8.ofNat (high * 16 + low))
    | _, _ => none

/-- The chunks of `decode_hex`, in order. -/
def decodeChunks (topic : String) (messageId : MessageId) : List UInt8 → Except BusError (List UInt8)
  | first :: second :: rest =>
    match utf8Error first second with
    | some error =>
      .error (.invalidMessage topic messageId.toText ("hex payload was not valid UTF-8: " ++ error))
    | none =>
      match parseRadix16 first second with
      | none => .error (.invalidMessage topic messageId.toText ("hex payload contained invalid byte " ++
          pairText first second ++ ": invalid digit found in string"))
      | some byte =>
        match decodeChunks topic messageId rest with
        | .error error => .error error
        | .ok decoded => .ok (byte :: decoded)
  | _ => .ok []

/-- The bytes of a text. -/
def bytesOf (text : String) : List UInt8 := text.toList.flatMap String.utf8EncodeChar

def decodeHex (topic : String) (messageId : MessageId) (encoded : String) : Except BusError (List UInt8) :=
  let bytes := bytesOf encoded
  if bytes.length % 2 ≠ 0 then .error (.invalidMessage topic messageId.toText "hex payload had odd length")
  else decodeChunks topic messageId bytes

/-- `i64::MAX`. -/
def i64Max : Nat := 2 ^ 63 - 1

/-- Decimal digits read onto a number that must not pass `bound`. -/
def scanDigits (bound : Nat) (overflow : String) : List Char → Nat → Except String Nat
  | [], value => .ok value
  | c :: rest, value =>
    if c.isDigit then
      let grown := value * 10 + (c.toNat - '0'.toNat)
      if bound < grown then .error overflow else scanDigits bound overflow rest grown
    else .error "invalid digit found in string"

/-- `str::parse::<i64>`, with the texts of its errors. -/
def parseI64 (text : String) : Except String Int :=
  match text.toList with
  | [] => .error "cannot parse integer from empty string"
  | ['+'] | ['-'] => .error "invalid digit found in string"
  | '-' :: digits => (scanDigits (i64Max + 1) "number too small to fit in target type" digits 0).map fun n => -↑n
  | '+' :: digits => (scanDigits i64Max "number too large to fit in target type" digits 0).map Int.ofNat
  | digits => (scanDigits i64Max "number too large to fit in target type" digits 0).map Int.ofNat

/-- `timestamp_millis_opt`: the instants chrono has for some milliseconds. -/
class UtcMillis where
  timestampMillisOpt : Int → Option DateTime

abbrev StreamFields := Table String String

/-- The fields `publish` writes. -/
def publishedFields (payload : List UInt8) (now : DateTime) : StreamFields :=
  ((∅ : StreamFields).insert payloadField (encodeHex payload)).insert publishedAtField
    (toString now.timestampMillis)

def requiredField (topic messageId : String) (fields : StreamFields) (field : String) : Except BusError String :=
  match fields.lookup field with
  | some value => .ok value
  | none => .error (.missingField topic messageId field)

section Reading
variable [UtcMillis]

def publishedAtFromFields (topic : String) (messageId : Option MessageId) (fields : StreamFields) :
    Except BusError DateTime := do
  let fieldId := (messageId.map MessageId.toText).getD "unknown"
  let publishedAtMs ← requiredField topic fieldId fields publishedAtField
  match parseI64 publishedAtMs with
  | .error error => .error (.invalidMessage topic fieldId ("invalid published_at_ms field: " ++ error))
  | .ok millis =>
    match UtcMillis.timestampMillisOpt millis with
    | some publishedAt => .ok publishedAt
    | none => .error (.invalidMessage topic fieldId
        ("published_at_ms " ++ toString millis ++ " is outside the valid UTC range"))

def streamEntryToMessage (topic : String) (id : MessageId) (fields : StreamFields) : Except BusError BusMessage := do
  let payloadHex ← requiredField topic id.toText fields payloadField
  let payload ← decodeHex topic id payloadHex
  let publishedAt ← publishedAtFromFields topic (some id) fields
  .ok ⟨id, topic, payload, publishedAt⟩

/-- A message carries the id of its entry and the topic it was read from. -/
theorem streamEntryToMessage_ok {id : MessageId} {message : BusMessage}
    (decoded : streamEntryToMessage topic id fields = .ok message) : message.id = id ∧ message.topic = topic := by
  unfold streamEntryToMessage at decoded
  cases found : requiredField topic id.toText fields payloadField with
  | error error =>
    rw [found] at decoded
    cases decoded
  | ok payloadHex =>
    cases payload : decodeHex topic id payloadHex with
    | error error =>
      simp only [found, payload, bind, Except.bind] at decoded
      cases decoded
    | ok bytes =>
      simp only [found, payload, bind, Except.bind] at decoded
      split at decoded
      · cases decoded
      · cases decoded
        exact ⟨rfl, rfl⟩

/-- Entries decoded one after the other, up to the first that is refused. -/
def decodeEntries (topic : String) : List (MessageId × StreamFields) → Except BusError (List BusMessage)
  | [] => .ok []
  | (id, fields) :: entries =>
    match streamEntryToMessage topic id fields with
    | .error error => .error error
    | .ok message => (decodeEntries topic entries).map (message :: ·)

/-- Decoded messages stand for their entries, in the same order. -/
theorem decodeEntries_ids (decoded : decodeEntries topic entries = .ok messages) :
    messages.map BusMessage.id = entries.map Prod.fst := by
  induction entries generalizing messages with
  | nil =>
    cases decoded
    rfl
  | cons entry entries ih =>
    obtain ⟨id, fields⟩ := entry
    unfold decodeEntries at decoded
    cases one : streamEntryToMessage topic id fields with
    | error error =>
      rw [one] at decoded
      cases decoded
    | ok message =>
      rw [one] at decoded
      cases rest : decodeEntries topic entries with
      | error error =>
        simp only [rest] at decoded
        cases decoded
      | ok later =>
        simp only [rest] at decoded
        cases decoded
        rw [List.map_cons, List.map_cons, ih rest, (streamEntryToMessage_ok one).1]

end Reading

end FeynmanEngine.BusMessages
