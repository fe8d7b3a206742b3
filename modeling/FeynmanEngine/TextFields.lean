import Mathlib.Data.List.Basic

/-! Printing numbers into separated text fields and reading them back. A field
read from the right end of a text is recovered exactly whenever the separator
does not occur in it; nothing is required of the text to its left. -/
namespace FeynmanEngine.TextFields

/-- A natural number in decimal, filled on the left with zeros up to `width`. -/
def padded (width n : Nat) : List Char := List.leftpad width '0' (Nat.toDigits 10 n)

/-- An integer in decimal, with a leading minus sign when it is negative. -/
def signed : Int → List Char
  | .ofNat n => Nat.toDigits 10 n
  | .negSucc n => '-' :: Nat.toDigits 10 (n + 1)

/-- The text before and after the last occurrence of the separator. -/
def rsplitOnce (separator : Char) : List Char → Option (List Char × List Char)
  | [] => none
  | head :: rest =>
    match rsplitOnce separator rest with
    | some (before, after) => some (head :: before, after)
    | none => if head = separator then some ([], rest) else none

/-- Decimal digits below `limit`, with an optional plus sign in front. -/
def parseUnsigned (limit : Nat) (text : List Char) : Option Nat :=
  let digits := match text with
    | '+' :: rest => rest
    | _ => text
  if digits ≠ [] ∧ digits.all Char.isDigit then
    let value := Nat.ofDigitChars 10 digits 0
    if value < limit then some value else none
  else none

theorem padded_eq (width n : Nat) : ∃ zeros, padded width n = List.replicate zeros '0' ++ Nat.toDigits 10 n :=
  ⟨width - (Nat.toDigits 10 n).length, rfl⟩

theorem isDigit_of_mem_padded {c : Char} (member : c ∈ padded width n) : c.isDigit := by
  obtain ⟨zeros, shape⟩ := padded_eq width n
  rw [shape, List.mem_append] at member
  rcases member with filled | digit
  · obtain ⟨_, rfl⟩ := List.mem_replicate.mp filled
    decide
  · exact Nat.isDigit_of_mem_toDigits (by omega) (by omega) digit

theorem padded_ne_nil (width n : Nat) : padded width n ≠ [] := by
  obtain ⟨zeros, shape⟩ := padded_eq width n
  simp [shape, Nat.toDigits_ne_nil]

/-- A separator that is no digit does not occur in a printed number. -/
theorem not_mem_padded {separator : Char} (symbol : separator.isDigit = false) :
    separator ∉ padded width n := by
  intro member
  simp [isDigit_of_mem_padded member] at symbol

theorem not_mem_signed {separator : Char} (symbol : separator.isDigit = false) {z : Int}
    (positive : 0 ≤ z) : separator ∉ signed z := by
  obtain ⟨n, rfl⟩ := Int.eq_ofNat_of_zero_le positive
  intro member
  have digit : separator.isDigit :=
    Nat.isDigit_of_mem_toDigits (b := 10) (n := n) (by omega) (by omega) member
  simp [digit] at symbol

/-- Zero padding does not change the number that is read back. -/
theorem parse_padded (width : Nat) {n limit : Nat} (bound : n < limit) :
    parseUnsigned limit (padded width n) = some n := by
  have digits : (padded width n).all Char.isDigit :=
    List.all_eq_true.mpr fun c member => isDigit_of_mem_padded member
  have value : Nat.ofDigitChars 10 (padded width n) 0 = n := by
    obtain ⟨zeros, shape⟩ := padded_eq width n
    rw [shape, Nat.ofDigitChars_append, Nat.ofDigitChars_replicate_zero, Nat.mul_zero,
      Nat.ofDigitChars_ten_toDigits]
  unfold parseUnsigned
  split
  · rename_i rest plus
    have sign : '+' ∈ padded width n := by rw [plus]; exact List.mem_cons_self
    exact absurd (isDigit_of_mem_padded sign) (by decide)
  · simp [digits, value, padded_ne_nil, bound]

theorem rsplitOnce_none {separator : Char} {text : List Char} (absent : separator ∉ text) :
    rsplitOnce separator text = none := by
  induction text with
  | nil => rfl
  | cons head rest ih =>
    simp only [List.mem_cons, not_or] at absent
    simp [rsplitOnce, ih absent.2, Ne.symm absent.1]

/-- The last field is split off whole, whatever stands before it. -/
theorem rsplitOnce_append {separator : Char} (before : List Char) {after : List Char}
    (absent : separator ∉ after) :
    rsplitOnce separator (before ++ separator :: after) = some (before, after) := by
  induction before with
  | nil => simp [rsplitOnce, rsplitOnce_none absent]
  | cons head rest ih => simp [rsplitOnce, ih]

/-- A text that contains the separator always splits. -/
theorem rsplitOnce_isSome {separator : Char} {text : List Char} (present : separator ∈ text) :
    (rsplitOnce separator text).isSome := by
  induction text with
  | nil => simp at present
  | cons head rest ih =>
    by_cases inside : separator ∈ rest
    · obtain ⟨parts, found⟩ := Option.isSome_iff_exists.mp (ih inside)
      simp [rsplitOnce, found]
    · have same : separator = head := by simpa [inside] using present
      subst same
      simp [rsplitOnce, rsplitOnce_none inside]

end FeynmanEngine.TextFields
