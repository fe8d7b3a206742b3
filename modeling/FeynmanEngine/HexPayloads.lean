import FeynmanEngine.BusMessages

/-! Which texts `decode_hex` takes for bytes. It works on pairs of bytes and
hands each to a parser of integers; seen as text, it accepts pairs of characters
of which the second is a hexadecimal digit and the first one too, or a plus sign. -/
namespace FeynmanEngine.HexPayloads
open BusMessages

/-- A hexadecimal digit, in either case. -/
def isHexDigit (c : Char) : Bool :=
  ('0' ≤ c ∧ c ≤ '9') ∨ ('a' ≤ c ∧ c ≤ 'f') ∨ ('A' ≤ c ∧ c ≤ 'F')

/-- Text of even length with nothing but hexadecimal digits. -/
def IsHex (text : String) : Prop := text.length % 2 = 0 ∧ ∀ c ∈ text.toList, isHexDigit c

/-- Pairs of two hexadecimal digits, or of a plus sign and one. -/
def inPairs : List Char → Bool
  | [] => true
  | [_] => false
  | first :: second :: rest => (isHexDigit first || first = '+') && isHexDigit second && inPairs rest

theorem isHex_iff_inPairs (text : String) : IsHex text ↔ inPairs text.toList ∧ '+' ∉ text.toList := by
  unfold IsHex
  rw [← String.length_toList]
  induction text.toList using inPairs.induct with
  | case1 => simp [inPairs]
  | case2 c => simp [inPairs]
  | case3 first second rest ih =>
    have even : (first :: second :: rest).length % 2 = 0 ↔ rest.length % 2 = 0 := by
      rw [List.length_cons, List.length_cons]
      omega
    rw [even, List.forall_mem_cons, List.forall_mem_cons, List.mem_cons, List.mem_cons]
    simp only [inPairs, Bool.and_eq_true, Bool.or_eq_true, decide_eq_true_eq, not_or]
    constructor
    · rintro ⟨length, one, other, digits⟩
      obtain ⟨pairs, unsigned⟩ := ih.mp ⟨length, digits⟩
      refine ⟨⟨⟨Or.inl one, other⟩, pairs⟩, ?_, ?_, unsigned⟩
      · rintro rfl
        exact absurd one (by decide)
      · rintro rfl
        exact absurd other (by decide)
    · rintro ⟨⟨⟨one, other⟩, pairs⟩, plus, -, unsigned⟩
      obtain ⟨length, digits⟩ := ih.mpr ⟨pairs, unsigned⟩
      exact ⟨length, one.resolve_right fun same => plus same.symm, other, digits⟩

def digitValue (c : Char) : Option Nat := codeValue c.toNat

/-- The byte of a pair, by the values of its digits and whether a plus sign stands first. -/
def pairOf (plus : Bool) (high low : Option Nat) : Option UInt8 :=
  if plus then low.map UInt8.ofNat
  else
    match high, low with
    | some high, some low => some (UInt8.ofNat (high * 16 + low))
    | _, _ => none

def pairValue (first second : Char) : Option UInt8 := pairOf (first = '+') (digitValue first) (digitValue second)

/-- The bytes of a text in pairs. -/
def readPairs : List Char → Option (List UInt8)
  | [] => some []
  | [_] => none
  | first :: second :: rest => (pairValue first second).bind fun byte => (readPairs rest).map (byte :: ·)

theorem pairOf_no_low (plus : Bool) (high : Option Nat) : pairOf plus high none = none := by
  unfold pairOf
  cases plus <;> cases high <;> rfl

theorem pairOf_no_high (low : Option Nat) : pairOf false none low = none := by
  cases low <;> rfl

theorem digitValue_isSome (c : Char) : (digitValue c).isSome = isHexDigit c := by
  have code : ∀ low high : Char, (low ≤ c ∧ c ≤ high) ↔ (low.toNat ≤ c.toNat ∧ c.toNat ≤ high.toNat) :=
    fun low high => Iff.rfl
  rw [Bool.eq_iff_iff, isHexDigit, decide_eq_true_eq, code, code, code, digitValue, codeValue]
  simp only [Char.reduceToNat]
  by_cases decimal : 0x30 ≤ c.toNat ∧ c.toNat ≤ 0x39
  · simp [decimal]
  · by_cases lower : 0x61 ≤ c.toNat ∧ c.toNat ≤ 0x66
    · simp [decimal, lower]
    · by_cases upper : 0x41 ≤ c.toNat ∧ c.toNat ≤ 0x46
      · simp [decimal, lower, upper]
      · simp [decimal, lower, upper]

theorem ascii_of_codeValue (value : codeValue code = some d) : code < 0x80 := by
  unfold codeValue at value
  split at value
  · omega
  · split at value
    · omega
    · split at value
      · omega
      · cases value

theorem codeValue_high (high : 0x80 ≤ code) : codeValue code = none := by
  cases value : codeValue code with
  | none => rfl
  | some d => exact absurd (ascii_of_codeValue value) (not_lt.mpr high)

/-- A digit prints in lower case. -/
theorem digitChar_of_digitValue (value : digitValue c = some d) : d < 16 ∧ Nat.digitChar d = c.toLower := by
  have table : ∀ code : Fin 0x80, (digitValue (Char.ofNat code)).all fun d =>
      d < 16 ∧ Nat.digitChar d = (Char.ofNat code).toLower := by decide +kernel
  have entry := table ⟨c.toNat, ascii_of_codeValue value⟩
  rw [Char.ofNat_toNat, value] at entry
  exact of_decide_eq_true entry

/-- A printed digit has its value. -/
theorem digitValue_digitChar (small : d < 16) : digitValue (Nat.digitChar d) = some d := by
  have table : ∀ d : Fin 16, digitValue (Nat.digitChar d) = some d.val := by decide +kernel
  exact table ⟨d, small⟩

/-- The bytes that pairs of bytes stand for: `decode_hex` without the texts of its errors. -/
def readBytes : List UInt8 → Option (List UInt8)
  | [] => some []
  | [_] => none
  | first :: second :: rest => (parseRadix16 first second).bind fun byte => (readBytes rest).map (byte :: ·)

/-- A pair that parses is text. -/
theorem utf8Error_of_parse (parsed : parseRadix16 first second = some byte) : utf8Error first second = none := by
  have ascii : first.toNat < 0x80 ∧ second.toNat < 0x80 := by
    unfold parseRadix16 at parsed
    split at parsed
    · next plus =>
      obtain ⟨low, value, -⟩ := Option.map_eq_some_iff.mp parsed
      exact ⟨by omega, ascii_of_codeValue value⟩
    · split at parsed
      · next high low one other => exact ⟨ascii_of_codeValue one, ascii_of_codeValue other⟩
      · cases parsed
  unfold utf8Error
  dsimp only
  rw [if_pos ascii.1, if_pos ascii.2]

theorem decodeChunks_ok_iff (topic : String) (messageId : MessageId) (even : bytes.length % 2 = 0)
    (decoded : List UInt8) :
    decodeChunks topic messageId bytes = .ok decoded ↔ readBytes bytes = some decoded := by
  induction bytes using readBytes.induct generalizing decoded with
  | case1 =>
    unfold decodeChunks readBytes
    rw [Except.ok.injEq, Option.some.injEq]
  | case2 byte => cases even
  | case3 first second rest ih =>
    have shorter : rest.length % 2 = 0 := by
      rw [List.length_cons, List.length_cons] at even
      omega
    unfold decodeChunks readBytes
    cases parsed : parseRadix16 first second with
    | none =>
      dsimp only [Option.bind_none]
      constructor
      · intro accepted
        split at accepted
        · cases accepted
        · cases accepted
      · exact nofun
    | some byte =>
      rw [utf8Error_of_parse parsed]
      dsimp only [Option.bind_some]
      rw [Option.map_eq_some_iff]
      cases later : decodeChunks topic messageId rest with
      | error error =>
        constructor
        · exact nofun
        · rintro ⟨read, found, -⟩
          rw [(ih shorter read).mpr found] at later
          cases later
      | ok read =>
        have found := (ih shorter read).mp later
        constructor
        · intro accepted
          cases accepted
          exact ⟨read, found, rfl⟩
        · rintro ⟨other, same, rfl⟩
          rw [found] at same
          cases same
          rfl

theorem readBytes_odd (odd : bytes.length % 2 ≠ 0) : readBytes bytes = none := by
  induction bytes using readBytes.induct with
  | case1 => exact absurd rfl odd
  | case2 byte => rfl
  | case3 first second rest ih =>
    have shorter : rest.length % 2 ≠ 0 := by
      rw [List.length_cons, List.length_cons] at odd
      omega
    rw [readBytes, ih shorter]
    cases parseRadix16 first second <;> rfl

/-- A character is one byte below 0x80, or starts with a byte from there on. -/
theorem utf8EncodeChar_cases (c : Char) :
    (c.toNat < 0x80 ∧ String.utf8EncodeChar c = [UInt8.ofNat c.toNat]) ∨
      (0x80 ≤ c.toNat ∧ ∃ first rest, String.utf8EncodeChar c = first :: rest ∧ 0x80 ≤ first.toNat) := by
  have code : c.val.toNat = c.toNat := rfl
  unfold String.utf8EncodeChar
  dsimp only
  rw [code]
  split
  · exact Or.inl ⟨by omega, rfl⟩
  · refine Or.inr ⟨by omega, ?_⟩
    split
    · refine ⟨_, _, rfl, ?_⟩
      rw [UInt8.toNat_ofNat']
      omega
    · split
      · refine ⟨_, _, rfl, ?_⟩
        rw [UInt8.toNat_ofNat']
        omega
      · refine ⟨_, _, rfl, ?_⟩
        rw [UInt8.toNat_ofNat']
        omega

/-- The first byte of a character says which digit it is; only single bytes are digits or signs. -/
theorem utf8EncodeChar_lead (c : Char) : ∃ first rest, String.utf8EncodeChar c = first :: rest ∧
    hexValue first = digitValue c ∧ (first.toNat = 0x2b ↔ c = '+') ∧ (rest = [] ∨ (digitValue c = none ∧ c ≠ '+')) := by
  rcases utf8EncodeChar_cases c with ⟨ascii, encoded⟩ | ⟨high, first, rest, encoded, lead⟩
  · have code : (UInt8.ofNat c.toNat).toNat = c.toNat := by
      rw [UInt8.toNat_ofNat']
      omega
    refine ⟨_, _, encoded, ?_, ?_, Or.inl rfl⟩
    · rw [hexValue, code]
      rfl
    · rw [code]
      constructor
      · intro same
        rw [← Char.ofNat_toNat c, same]
      · rintro rfl
        rfl
  · have other : c ≠ '+' := by
      rintro rfl
      exact absurd high (by decide)
    have noByte : hexValue first = none := codeValue_high lead
    have noDigit : digitValue c = none := codeValue_high high
    refine ⟨first, rest, encoded, noByte.trans noDigit.symm, ?_, Or.inr ⟨noDigit, other⟩⟩
    constructor
    · omega
    · exact fun same => absurd same other

theorem parseRadix16_eq (first second : UInt8) :
    parseRadix16 first second = pairOf (first.toNat = 0x2b) (hexValue first) (hexValue second) := by
  unfold parseRadix16 pairOf
  by_cases plus : first.toNat = 0x2b
  · simp [plus]
  · have unsigned : ¬ decide (first.toNat = 0x2b) = true := by simp [plus]
    refine (if_neg plus).trans (Eq.trans ?_ (if_neg unsigned).symm)
    cases hexValue first <;> cases hexValue second <;> rfl

/-- No pair starts with a byte that is neither a digit nor a sign. -/
theorem readBytes_no_digit {first : UInt8} (value : hexValue first = none) (unsigned : first.toNat ≠ 0x2b)
    (rest : List UInt8) : readBytes (first :: rest) = none := by
  cases rest with
  | nil => rfl
  | cons second rest =>
    rw [readBytes, parseRadix16_eq, value, decide_eq_false unsigned, pairOf_no_high]
    rfl

/-- Pairs of bytes are read where they are pairs of characters, and nowhere else. -/
theorem readBytes_text (text : List Char) : readBytes (text.flatMap String.utf8EncodeChar) = readPairs text := by
  induction text using readPairs.induct with
  | case1 => rfl
  | case2 c =>
    obtain ⟨first, rest, encoded, value, sign, rfl | ⟨noDigit, unsigned⟩⟩ := utf8EncodeChar_lead c
    · rw [List.flatMap_cons, encoded]
      rfl
    · rw [List.flatMap_cons, encoded]
      exact readBytes_no_digit (value.trans noDigit) (fun same => unsigned (sign.mp same)) _
  | case3 one other rest ih =>
    obtain ⟨first, more, encoded, value, sign, single⟩ := utf8EncodeChar_lead one
    obtain ⟨second, more', encoded', value', -, single'⟩ := utf8EncodeChar_lead other
    rw [List.flatMap_cons, List.flatMap_cons, encoded, encoded', readPairs]
    rcases single with rfl | ⟨noDigit, unsigned⟩
    · have pair : parseRadix16 first second = pairValue one other := by
        rw [parseRadix16_eq, pairValue, value, value', decide_eq_decide.mpr sign]
      rw [List.singleton_append, List.cons_append, readBytes, pair]
      rcases single' with rfl | ⟨noDigit, -⟩
      · rw [List.nil_append, ih]
      · rw [pairValue, noDigit, pairOf_no_low]
        rfl
    · rw [List.cons_append, readBytes_no_digit (value.trans noDigit) fun same => unsigned (sign.mp same)]
      rw [pairValue, noDigit, decide_eq_false unsigned, pairOf_no_high]
      rfl

/-- `decode_hex` reads the pairs of characters of its text. -/
theorem decodeHex_ok_iff (topic : String) (messageId : MessageId) (text : String) (decoded : List UInt8) :
    decodeHex topic messageId text = .ok decoded ↔ readPairs text.toList = some decoded := by
  rw [← readBytes_text]
  unfold decodeHex bytesOf
  dsimp only
  split
  · next odd =>
    rw [readBytes_odd odd]
    constructor
    · exact nofun
    · exact nofun
  · next even => exact decodeChunks_ok_iff topic messageId (not_not.mp even) decoded

theorem pairValue_isSome (first second : Char) :
    (pairValue first second).isSome = ((isHexDigit first || first = '+') && isHexDigit second) := by
  rw [← digitValue_isSome, ← digitValue_isSome, pairValue, Bool.or_comm]
  cases decide (first = '+') <;> cases digitValue first <;> cases digitValue second <;> rfl

theorem readPairs_isSome (text : List Char) : (readPairs text).isSome = inPairs text := by
  induction text using readPairs.induct with
  | case1 => rfl
  | case2 c => rfl
  | case3 first second rest ih =>
    rw [readPairs, inPairs, ← ih, ← pairValue_isSome]
    cases pairValue first second <;> cases readPairs rest <;> rfl

/-- Two digits are the digits of their byte, up to case. -/
theorem digits_of_pairValue (unsigned : first ≠ '+') (read : pairValue first second = some byte) :
    Nat.digitChar (byte.toNat / 16) = first.toLower ∧ Nat.digitChar (byte.toNat % 16) = second.toLower := by
  unfold pairValue pairOf at read
  rw [decide_eq_false unsigned, if_neg Bool.false_ne_true] at read
  split at read
  · next high low one other =>
    cases read
    obtain ⟨highSmall, highDigit⟩ := digitChar_of_digitValue one
    obtain ⟨lowSmall, lowDigit⟩ := digitChar_of_digitValue other
    have value : (UInt8.ofNat (high * 16 + low)).toNat = high * 16 + low := by
      rw [UInt8.toNat_ofNat']
      omega
    have upper : (high * 16 + low) / 16 = high := by omega
    have lower : (high * 16 + low) % 16 = low := by omega
    rw [value, upper, lower]
    exact ⟨highDigit, lowDigit⟩
  · cases read

/-- Bytes read from digits print as the same digits in lower case. -/
theorem encodeHex_of_readPairs (unsigned : '+' ∉ text) (read : readPairs text = some bytes) :
    (encodeHex bytes).toList = text.map Char.toLower := by
  unfold encodeHex
  rw [String.toList_ofList]
  induction text using readPairs.induct generalizing bytes with
  | case1 =>
    cases read
    rfl
  | case2 c => cases read
  | case3 first second rest ih =>
    obtain ⟨byte, pair, more⟩ := Option.bind_eq_some_iff.mp read
    obtain ⟨later, found, rfl⟩ := Option.map_eq_some_iff.mp more
    have plain : first ≠ '+' := fun same => unsigned (List.mem_cons.mpr (Or.inl same.symm))
    have others : '+' ∉ rest := fun member => unsigned (List.mem_cons_of_mem _ (List.mem_cons_of_mem _ member))
    obtain ⟨upper, lower⟩ := digits_of_pairValue plain pair
    rw [List.flatMap_cons, upper, lower, ih others found]
    rfl

/-- `decode_hex` accepts exactly hexadecimal text, and keeps it up to case,
except that it also takes a plus sign for the first digit of a pair. -/
theorem decodeHex_exact_iff (topic : String) (messageId : MessageId) (text : String) :
    (((∃ bytes, decodeHex topic messageId text = .ok bytes) ↔ IsHex text) ∧
      ∀ bytes, decodeHex topic messageId text = .ok bytes → encodeHex bytes = text.toLower) ↔
    ¬ (inPairs text.toList ∧ '+' ∈ text.toList) := by
  have accepted : (∃ bytes, decodeHex topic messageId text = .ok bytes) ↔ inPairs text.toList := by
    rw [← readPairs_isSome, Option.isSome_iff_exists]
    exact exists_congr fun bytes => decodeHex_ok_iff topic messageId text bytes
  rw [accepted, isHex_iff_inPairs]
  constructor
  · rintro ⟨hex, -⟩ ⟨pairs, plus⟩
    exact (hex.mp pairs).2 plus
  · intro plain
    have unsigned : inPairs text.toList → '+' ∉ text.toList := fun pairs plus => plain ⟨pairs, plus⟩
    refine ⟨⟨fun pairs => ⟨pairs, unsigned pairs⟩, And.left⟩, fun bytes decoded => ?_⟩
    have pairs := accepted.mp ⟨bytes, decoded⟩
    have digits := encodeHex_of_readPairs (unsigned pairs) ((decodeHex_ok_iff topic messageId text bytes).mp decoded)
    apply String.toList_injective
    rw [digits]
    exact String.toList_map.symm

/-- A plus sign in front of a digit passes for a byte. -/
theorem signed_pair_accepted :
    decodeHex "fills" ⟨0, 1⟩ "+a" = .ok [10] ∧ ¬ IsHex "+a" ∧ encodeHex [10] ≠ "+a".toLower := by
  refine ⟨(decodeHex_ok_iff _ _ _ _).mpr (by decide +kernel), ?_, by decide +kernel⟩
  rintro ⟨-, digits⟩
  exact absurd (digits '+' (by decide +kernel)) (by decide +kernel)

/-- A byte is read back from its two digits. -/
theorem pairValue_digits (byte : UInt8) :
    pairValue (Nat.digitChar (byte.toNat / 16)) (Nat.digitChar (byte.toNat % 16)) = some byte := by
  have bound := byte.toNat_lt
  have high : byte.toNat / 16 < 16 := by omega
  have low : byte.toNat % 16 < 16 := by omega
  have unsigned : Nat.digitChar (byte.toNat / 16) ≠ '+' := by
    intro plus
    have value := digitValue_digitChar high
    have sign : digitValue '+' = none := by decide
    rw [plus, sign] at value
    cases value
  rw [pairValue, decide_eq_false unsigned, digitValue_digitChar high, digitValue_digitChar low, pairOf]
  have whole : byte.toNat / 16 * 16 + byte.toNat % 16 = byte.toNat := by omega
  show some (UInt8.ofNat (byte.toNat / 16 * 16 + byte.toNat % 16)) = some byte
  rw [whole, UInt8.ofNat_toNat]

/-- `decode_hex` reads back every payload that `encode_hex` prints. -/
theorem decodeHex_encodeHex (topic : String) (messageId : MessageId) (payload : List UInt8) :
    decodeHex topic messageId (encodeHex payload) = .ok payload := by
  rw [decodeHex_ok_iff, encodeHex, String.toList_ofList]
  induction payload with
  | nil => rfl
  | cons byte rest ih =>
    rw [List.flatMap_cons, List.cons_append, List.cons_append, List.nil_append, readPairs, pairValue_digits,
      Option.bind_some, ih]
    rfl

end FeynmanEngine.HexPayloads
