import ClusterAgent.Json.Number
import ClusterAgent.Proofs.Text.Numeral
namespace ClusterAgent
namespace Json
namespace Number

/-! ## Whole numbers that were written -/

/-- A rest that does not go on with a number: neither a digit, a fraction nor an exponent. -/
def EndsNumber (rest : List Char) : Prop :=
  ∀ next ∈ rest.head?, next.isDigit = false ∧ next ≠ '.' ∧ next ≠ 'e' ∧ next ≠ 'E'

/-- A rest that does not begin with a digit. -/
def EndsDigits (rest : List Char) : Prop :=
  ∀ next ∈ rest.head?, next.isDigit = false

section Digits

variable {digits rest text : List Char} {isNegative : Bool}

theorem EndsNumber.endsDigits (ends : EndsNumber rest) : EndsDigits rest :=
  fun next isNext => (ends next isNext).1

theorem isDigit_decimal {value : Nat} : ∀ digit ∈ Text.decimal value, digit.isDigit = true :=
  fun _ member => Nat.isDigit_of_mem_toDigits (by decide) (by decide) member

theorem decimal_ne_nil (value : Nat) : Text.decimal value ≠ [] :=
  Nat.toDigits_ne_nil

theorem spanDigits_append (areDigits : ∀ digit ∈ digits, digit.isDigit = true)
    (ends : EndsDigits rest) : spanDigits (digits ++ rest) = (digits, rest) := by
  have noneTaken : rest.takeWhile Char.isDigit = [] := by
    cases rest with
    | nil => rfl
    | cons next rest => simp [ends next rfl]
  have allLeft : rest.dropWhile Char.isDigit = rest := by
    cases rest with
    | nil => rfl
    | cons next rest => simp [ends next rfl]
  rw [spanDigits, List.takeWhile_append_of_pos areDigits, List.dropWhile_append_of_pos areDigits,
    noneTaken, allLeft, List.append_nil]

/-- The value of digits after a significand. -/
def continued (significand : Nat) (digits : List Char) : Nat :=
  digits.foldl (fun value digit => value * 10 + (digit.toNat - '0'.toNat)) significand

theorem le_continued (significand : Nat) (digits : List Char) :
    significand ≤ continued significand digits := by
  induction digits generalizing significand with
  | nil => exact Nat.le_refl _
  | cons digit digits inductionHypothesis =>
      have grows := inductionHypothesis (significand * 10 + (digit.toNat - '0'.toNat))
      have first : significand ≤ significand * 10 + (digit.toNat - '0'.toNat) := by omega
      exact Nat.le_trans first grows

/-- Digits are read exactly as long as they stay below the limit. -/
theorem integerPart_of_lt {significand : Nat} (small : continued significand digits < limit) :
    integerPart significand 0 digits = (continued significand digits, 0) := by
  induction digits generalizing significand with
  | nil => rfl
  | cons digit digits inductionHypothesis =>
      have next : significand * 10 + (digit.toNat - '0'.toNat) < limit :=
        Nat.lt_of_le_of_lt (le_continued _ digits) small
      have goesOn : ¬(0 < 0 ∨ limit ≤ significand * 10 + (digit.toNat - '0'.toNat)) := by
        omega
      simp only [integerPart, if_neg goesOn]
      exact inductionHypothesis small

theorem continued_decimal (value : Nat) : continued 0 (Text.decimal value) = value := by
  have same : continued 0 (Text.decimal value) = Nat.ofDigitChars 10 (Text.decimal value) 0 := by
    simp only [continued, Nat.ofDigitChars, Nat.mul_comm]
  rw [same, Text.decimal, Nat.ofDigitChars_ten_toDigits]

theorem decimal_unpadded (value : Nat) (second : Char) (later : List Char) :
    Text.decimal value ≠ '0' :: second :: later := by
  intro padded
  have unpadded : Text.Unpadded (Text.decimal value) := Text.unpadded_toDigits (by decide)
  rw [padded] at unpadded
  cases unpadded rfl

theorem readTail_whole {significand : Nat} (ends : EndsNumber rest) :
    readTail false significand 0 rest = some (.natural significand, rest) := by
  rw [readTail.eq_def]
  split
  · exact absurd rfl (ends '.' rfl).2.1
  · exact absurd rfl (ends 'e' rfl).2.2.1
  · exact absurd rfl (ends 'E' rfl).2.2.2
  · rfl

/-- A number is read this way behind its sign. -/
def readUnsigned (isNegative : Bool) (unsigned : List Char) : Option (Number × List Char) :=
  match spanDigits unsigned with
  | ([], _) => none
  | ('0' :: _ :: _, _) => none
  | (digits, rest) =>
      let (significand, exponent) := integerPart 0 0 digits
      readTail isNegative significand exponent rest

theorem read_of_notSign {first : Char} {later : List Char} (notSign : first ≠ '-') :
    read (first :: later) = readUnsigned false (first :: later) := by
  rw [read.eq_def]
  split
  rename_i signed
  split at signed
  · rename_i startsWithSign
    exact absurd (List.cons.inj startsWithSign).1 notSign
  · cases signed
    rfl

theorem readUnsigned_span (nonempty : digits ≠ [])
    (unpadded : ∀ second others, digits ≠ '0' :: second :: others)
    (span : spanDigits text = (digits, rest)) :
    readUnsigned isNegative text =
      readTail isNegative (integerPart 0 0 digits).1 (integerPart 0 0 digits).2 rest := by
  rw [readUnsigned, span]
  split
  · rename_i noDigits
    exact absurd (Prod.mk.inj noDigits).1 nonempty
  · rename_i padded
    exact absurd (Prod.mk.inj padded).1 (unpadded _ _)
  · rename_i taken
    cases taken
    rfl

theorem read_decimal {value : Nat} (small : value < limit) (ends : EndsNumber rest) :
    read (Text.decimal value ++ rest) = some (.natural value, rest) := by
  have span : spanDigits (Text.decimal value ++ rest) = (Text.decimal value, rest) :=
    spanDigits_append isDigit_decimal ends.endsDigits
  have whole : integerPart 0 0 (Text.decimal value) = (value, 0) := by
    have below : continued 0 (Text.decimal value) < limit := by
      rwa [continued_decimal]
    rw [integerPart_of_lt below, continued_decimal]
  rcases shape : Text.decimal value with _ | ⟨first, later⟩
  · exact absurd shape (decimal_ne_nil value)
  · have firstDigit : first.isDigit = true := isDigit_decimal first (by rw [shape]; simp)
    have notSign : first ≠ '-' := by
      rintro rfl
      cases firstDigit
    have spanFirst : spanDigits (first :: (later ++ rest)) = (Text.decimal value, rest) := by
      rw [← List.cons_append, ← shape]
      exact span
    rw [List.cons_append, read_of_notSign notSign,
      readUnsigned_span (decimal_ne_nil value) (decimal_unpadded value) spanFirst, whole]
    exact readTail_whole ends

end Digits

end Number
end Json
end ClusterAgent
