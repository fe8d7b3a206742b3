import FeynmanEngine.HexPayloads

/-! Messages through the stream and back. What `publish` writes into an entry,
the payload in hexadecimal and the milliseconds in decimal, is what
`stream_entry_to_message` reads out of it, for every payload and every instant
that chrono has. -/
namespace FeynmanEngine.MessageRoundTrips
open Ids Tables BusMessages HexPayloads

theorem le_ofDigitChars (text : List Char) (value : Nat) : value ≤ Nat.ofDigitChars 10 text value := by
  rw [Nat.ofDigitChars_eq_ofDigitChars_zero]
  exact le_trans (Nat.le_mul_of_pos_left value (Nat.pow_pos (by omega))) (Nat.le_add_right _ _)

/-- Digits are read to their number while it stays within the bound. -/
theorem scanDigits_ok (digits : ∀ c ∈ text, c.isDigit) (within : Nat.ofDigitChars 10 text value ≤ bound)
    (overflow : String) : scanDigits bound overflow text value = .ok (Nat.ofDigitChars 10 text value) := by
  induction text generalizing value with
  | nil => rw [scanDigits, Nat.ofDigitChars_nil]
  | cons c rest ih =>
    rw [Nat.ofDigitChars_cons] at within ⊢
    have grown : value * 10 + (c.toNat - '0'.toNat) = 10 * value + (c.toNat - '0'.toNat) := by omega
    have bounded := le_trans (le_ofDigitChars rest _) within
    rw [scanDigits, if_pos (digits c List.mem_cons_self)]
    dsimp only
    rw [grown, if_neg (not_lt.mpr bounded)]
    exact ih (fun later member => digits later (List.mem_cons_of_mem _ member)) within

theorem isDigit_toDigits (n : Nat) : ∀ c ∈ Nat.toDigits 10 n, c.isDigit :=
  fun _ member => Nat.isDigit_of_mem_toDigits (by omega) (by omega) member

theorem scanDigits_toDigits (within : n ≤ bound) (overflow : String) :
    scanDigits bound overflow (Nat.toDigits 10 n) 0 = .ok n := by
  rw [scanDigits_ok (isDigit_toDigits n) (Nat.ofDigitChars_ten_toDigits.trans_le within), Nat.ofDigitChars_ten_toDigits]

/-- Digits without a sign are read as they stand. -/
theorem parseI64_digits (text : String) (shape : text.toList = Nat.toDigits 10 m) (within : m ≤ i64Max) :
    parseI64 text = .ok m := by
  have unsigned : ∀ c, c.isDigit = false → c ∉ Nat.toDigits 10 m := fun c symbol member => by
    rw [isDigit_toDigits m c member] at symbol
    cases symbol
  have plus := unsigned '+' (by decide)
  have minus := unsigned '-' (by decide)
  have nonempty := Nat.toDigits_ne_nil (b := 10) (n := m)
  have number := scanDigits_toDigits within "number too large to fit in target type"
  unfold parseI64
  rw [shape]
  revert plus minus nonempty number
  generalize Nat.toDigits 10 m = digits
  intro plus minus nonempty number
  split
  · exact absurd rfl nonempty
  · exact absurd List.mem_cons_self plus
  · exact absurd List.mem_cons_self minus
  · exact absurd List.mem_cons_self minus
  · exact absurd List.mem_cons_self plus
  · rw [number]
    rfl

/-- Digits after a minus sign are read as a negative number. -/
theorem parseI64_minus (text : String) (shape : text.toList = '-' :: Nat.toDigits 10 m) (within : m ≤ i64Max + 1) :
    parseI64 text = .ok (-m) := by
  have nonempty := Nat.toDigits_ne_nil (b := 10) (n := m)
  have number := scanDigits_toDigits within "number too small to fit in target type"
  unfold parseI64
  rw [shape]
  revert nonempty number
  generalize Nat.toDigits 10 m = digits
  intro nonempty number
  cases digits with
  | nil => exact absurd rfl nonempty
  | cons first rest =>
    show (scanDigits (i64Max + 1) "number too small to fit in target type" (first :: rest) 0).map _ = _
    rw [number]
    rfl

/-- Every `i64` is read back from its decimal text. -/
theorem parseI64_toString {n : Int} (low : -(i64Max + 1 : Nat) ≤ n) (high : n ≤ i64Max) :
    parseI64 (toString n) = .ok n := by
  cases n with
  | ofNat m =>
    have text : (toString (Int.ofNat m)).toList = Nat.toDigits 10 m := Nat.toList_repr
    exact parseI64_digits _ text (Int.ofNat_le.mp high)
  | negSucc m =>
    have text : (toString (Int.negSucc m)).toList = '-' :: Nat.toDigits 10 (m + 1) := by
      show ("-" ++ (m + 1).repr).toList = _
      rw [String.toList_append, Nat.toList_repr]
      rfl
    refine parseI64_minus _ text ?_
    rw [Int.negSucc_eq] at low
    omega

/-- `MIN_UTC`: the start of the year -262143. -/
def minUtc : DateTime := ⟨-8334601228800000000000⟩

/-- `MAX_UTC`: the last nanosecond of the year 262142. -/
def maxUtc : DateTime := ⟨8210266876799999999999⟩

/-- The instants of chrono's range. -/
def InUtcRange (t : DateTime) : Prop := minUtc.nanos ≤ t.nanos ∧ t.nanos ≤ maxUtc.nanos

instance (t : DateTime) : Decidable (InUtcRange t) := inferInstanceAs (Decidable (_ ∧ _))

/-- `timestamp_millis_opt` gives the instant of so many milliseconds since the
epoch, if it is in the range. -/
class DocumentedMillis [UtcMillis] : Prop where
  inRange : ∀ millis, InUtcRange ⟨millis * 1000000⟩ → UtcMillis.timestampMillisOpt millis = some ⟨millis * 1000000⟩

/-- The milliseconds of an instant fit, and its whole milliseconds are in the range too. -/
theorem millis_inRange {t : DateTime} (range : InUtcRange t) :
    -(i64Max + 1 : Nat) ≤ t.timestampMillis ∧ t.timestampMillis ≤ i64Max ∧
      InUtcRange ⟨t.timestampMillis * 1000000⟩ := by
  unfold InUtcRange minUtc maxUtc at range ⊢
  unfold DateTime.timestampMillis i64Max
  dsimp only at range ⊢
  omega

theorem lookup_payload (payload : List UInt8) (now : DateTime) :
    (publishedFields payload now).lookup payloadField = some (encodeHex payload) := by
  unfold publishedFields
  rw [lookup_insert_if, if_neg (by decide), lookup_insert_if, if_pos rfl]

theorem lookup_publishedAt (payload : List UInt8) (now : DateTime) :
    (publishedFields payload now).lookup publishedAtField = some (toString now.timestampMillis) := by
  unfold publishedFields
  rw [lookup_insert_if, if_pos rfl]

section Reading
variable [UtcMillis]

/-- A published entry is read as the message that was published. -/
theorem message_round_trip [DocumentedMillis] (topic : String) (id : MessageId) (payload : List UInt8) (now : DateTime)
    (range : InUtcRange now) :
    ∃ message, streamEntryToMessage topic id (publishedFields payload now) = .ok message ∧
      message.id = id ∧ message.topic = topic ∧ message.payload = payload ∧
      message.publishedAt.timestampMillis = now.timestampMillis := by
  obtain ⟨low, high, whole⟩ := millis_inRange range
  have instant : (⟨now.timestampMillis * 1000000⟩ : DateTime).timestampMillis = now.timestampMillis :=
    Int.mul_ediv_cancel _ (by decide)
  have field : requiredField topic id.toText (publishedFields payload now) payloadField = .ok (encodeHex payload) := by
    rw [requiredField, lookup_payload]
  have time : requiredField topic id.toText (publishedFields payload now) publishedAtField =
      .ok (toString now.timestampMillis) := by
    rw [requiredField, lookup_publishedAt]
  have published : publishedAtFromFields topic (some id) (publishedFields payload now) =
      .ok ⟨now.timestampMillis * 1000000⟩ := by
    unfold publishedAtFromFields
    simp only [Option.map_some, Option.getD_some, time, bind, Except.bind, parseI64_toString low high,
      DocumentedMillis.inRange _ whole]
  refine ⟨⟨id, topic, payload, ⟨now.timestampMillis * 1000000⟩⟩, ?_, rfl, rfl, rfl, instant⟩
  unfold streamEntryToMessage
  simp only [field, bind, Except.bind, decodeHex_encodeHex, published]

end Reading

/-- `timestamp_millis_opt` on the range. -/
@[reducible] def chronoMillis : UtcMillis :=
  ⟨fun millis => if InUtcRange ⟨millis * 1000000⟩ then some ⟨millis * 1000000⟩ else none⟩

/-- A payload of bytes that are no text, published a nanosecond before the epoch. -/
theorem message_round_trip_before_epoch :
    ∃ message, @streamEntryToMessage chronoMillis "fills" ⟨1740000000000, 0⟩
        (publishedFields [0x00, 0x41, 0x7f, 0xff] ⟨-1⟩) = .ok message ∧
      message.id = ⟨1740000000000, 0⟩ ∧ message.topic = "fills" ∧ message.payload = [0x00, 0x41, 0x7f, 0xff] ∧
      message.publishedAt.timestampMillis = -1 :=
  @message_round_trip chronoMillis (@DocumentedMillis.mk chronoMillis fun _ range => if_pos range)
    "fills" ⟨1740000000000, 0⟩ [0x00, 0x41, 0x7f, 0xff] ⟨-1⟩ (by decide)

end FeynmanEngine.MessageRoundTrips
