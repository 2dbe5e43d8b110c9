import ClusterAgent.Proofs.Json.Number
import ClusterAgent.Proofs.Text.Lines
namespace ClusterAgent

open Json

namespace Text

/-! ## Numbers that are read from their digits -/

section Digits

variable {value limit : Nat} {overflow : NumberError}

theorem readDigits_decimal (small : value < limit) :
    readDigits 10 limit overflow 0 (decimal value) = .ok value := by
  rw [readDigits_eq_ok_iff_numeral (by decide) (Nat.zero_lt_of_lt small)
    (Number.decimal_ne_nil value)]
  exact ⟨numeral_toDigits (by decide) (by decide), small⟩

theorem sign_not_first {rest : List Char} {sign : Char} (notDigit : sign.isDigit = false) :
    decimal value ≠ sign :: rest := by
  intro shape
  have digit : sign.isDigit = true := Number.isDigit_decimal sign (by rw [shape]; simp)
  rw [notDigit] at digit
  cases digit

theorem readUnsigned_decimal (small : value < limit) :
    readUnsigned 10 limit (decimal value) = .ok value := by
  rw [readUnsigned_eq_ok_iff (by decide) (Nat.zero_lt_of_lt small)]
  exact .digits (numeral_toDigits (by decide) (by decide)) small

end Digits

/-! ## Whole numbers of 64 bits -/

def IsInt64 (number : Int) : Prop :=
  -((UInt64.size / 2 : Nat) : Int) ≤ number ∧ number < (UInt64.size / 2 : Nat)

theorem toList_toString_natural (value : Nat) :
    (toString (value : Int)).toList = decimal value := by
  change (toString value).toList = decimal value
  rw [Nat.toString_eq_repr, Nat.toList_repr]
  rfl

theorem toList_toString_negative (value : Nat) :
    (toString (Int.negSucc value)).toList = '-' :: decimal (value + 1) := by
  have shape : toString (Int.negSucc value) = "-" ++ toString (value + 1) := rfl
  rw [shape, String.toList_append, Nat.toString_eq_repr, Nat.toList_repr]
  rfl

theorem readInt64_of_digits {digits : List Char} (notPlus : ∀ rest, digits ≠ '+' :: rest)
    (notMinus : ∀ rest, digits ≠ '-' :: rest) (nonempty : digits ≠ []) :
    readInt64 digits = (readDigits 10 (UInt64.size / 2) .tooLarge 0 digits).map Int.ofNat := by
  rw [readInt64.eq_def]
  split
  · exact absurd rfl nonempty
  · exact absurd rfl (notPlus [])
  · exact absurd rfl (notMinus [])
  · exact absurd rfl (notMinus _)
  · exact absurd rfl (notPlus _)
  · rfl

theorem readInt64_of_minus {digits : List Char} (nonempty : digits ≠ []) :
    readInt64 ('-' :: digits) =
      (readDigits 10 (UInt64.size / 2 + 1) .tooSmall 0 digits).map fun value => -(value : Int) := by
  cases digits with
  | nil => exact absurd rfl nonempty
  | cons digit digits => rfl

/-- A number that fits in 64 bits is read as it is written. -/
theorem readInt64_toString {number : Int} (isInt64 : IsInt64 number) :
    readInt64 (toString number).toList = .ok number := by
  obtain ⟨low, high⟩ := isInt64
  cases number with
  | ofNat value =>
      have small : value < UInt64.size / 2 := by
        simp only [Int.ofNat_eq_natCast] at high
        omega
      rw [Int.ofNat_eq_natCast, toList_toString_natural,
        readInt64_of_digits (fun _ => sign_not_first rfl) (fun _ => sign_not_first rfl)
          (Number.decimal_ne_nil value), readDigits_decimal small]
      rfl
  | negSucc value =>
      have small : value + 1 < UInt64.size / 2 + 1 := by omega
      rw [toList_toString_negative, readInt64_of_minus (Number.decimal_ne_nil _),
        readDigits_decimal small]
      rfl

end Text

end ClusterAgent
