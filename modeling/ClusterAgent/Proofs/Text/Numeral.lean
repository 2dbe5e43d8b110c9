import ClusterAgent.Text.Number
import Mathlib.Data.List.Induction
import Mathlib.Data.Nat.Digits.Defs
namespace ClusterAgent
namespace Text

/-! ## Numerals -/

/-- Digits of a base, the highest first, with the number that they write. -/
inductive Numeral (base : Nat) : List Char → Nat → Prop
  | single {character : Char} {digit : Nat}
      (isDigit : digitValue? base character = some digit) :
      Numeral base [character] digit
  | snoc {digits : List Char} {value : Nat} {character : Char} {digit : Nat}
      (front : Numeral base digits value)
      (isDigit : digitValue? base character = some digit) :
      Numeral base (digits ++ [character]) (value * base + digit)

/-- A zero stands in front only where it stands alone. -/
def Unpadded (digits : List Char) : Prop :=
  digits.head? = some '0' → digits.length = 1

/-- The number that digits go on to write behind a value. -/
def extended (base value : Nat) (digits : List Char) : Nat :=
  digits.foldl (fun value digit => value * base + (digitValue? base digit).getD 0) value

section Digits

variable {base value digit : Nat} {character : Char} {digits : List Char}

theorem digitValue?_lt (isDigit : digitValue? base character = some digit) : digit < base := by
  obtain ⟨_, below⟩ := Option.filter_eq_some_iff.mp isDigit
  exact of_decide_eq_true below

/-- A digit is one of every larger base. -/
theorem isSome_digitValue?_of_le {larger : Nat} (ordered : base ≤ larger)
    (isDigit : (digitValue? base character).isSome = true) :
    (digitValue? larger character).isSome = true := by
  unfold digitValue? at isDigit ⊢
  obtain ⟨value, isValue⟩ := Option.isSome_iff_exists.mp isDigit
  obtain ⟨written, below⟩ := Option.filter_eq_some_iff.mp isValue
  have belowLarger : decide (value < larger) = true :=
    decide_eq_true (Nat.lt_of_lt_of_le (of_decide_eq_true below) ordered)
  exact Option.isSome_iff_exists.mpr ⟨value, Option.filter_eq_some_iff.mpr ⟨written, belowLarger⟩⟩

theorem digitValue?_digitChar (small : base ≤ 16) (inBase : digit < base) :
    digitValue? base digit.digitChar = some digit := by
  have every : ∀ base ≤ 16, ∀ digit < base,
      digitValue? base digit.digitChar = some digit := by
    decide
  exact every base small digit inBase

/-- Up to base ten there is one character for each digit. -/
theorem eq_digitChar (decimal : base ≤ 10) (isDigit : digitValue? base character = some digit) :
    character = digit.digitChar := by
  have below := digitValue?_lt isDigit
  rw [digitValue?] at isDigit
  obtain ⟨written, _⟩ := Option.filter_eq_some_iff.mp isDigit
  split at written
  · rename_i bounds
    have isDifference : character.toNat - '0'.toNat = digit := Option.some.inj written
    have low : '0'.toNat ≤ character.toNat := bounds.1
    have zero : '0'.toNat = 48 := rfl
    apply Char.toNat_inj.mp
    rw [Nat.toNat_digitChar_of_lt_ten (by omega)]
    omega
  · split at written
    · have isDifference := Option.some.inj written
      omega
    · split at written
      · have isDifference := Option.some.inj written
        omega
      · cases written

theorem extended_append (first second : List Char) :
    extended base value (first ++ second) = extended base (extended base value first) second :=
  List.foldl_append

theorem le_extended (positive : 0 < base) : value ≤ extended base value digits := by
  induction digits generalizing value with
  | nil => exact Nat.le_refl value
  | cons character digits inductionHypothesis =>
      have first : value ≤ value * base := Nat.le_mul_of_pos_right value positive
      exact Nat.le_trans (Nat.le_add_right_of_le first) inductionHypothesis

namespace Numeral

theorem ne_nil (numeral : Numeral base digits value) : digits ≠ [] := by
  cases numeral with
  | single isDigit => exact List.cons_ne_nil _ _
  | snoc front isDigit => exact List.append_ne_nil_of_right_ne_nil _ (List.cons_ne_nil _ _)

theorem areDigits (numeral : Numeral base digits value) :
    ∀ character ∈ digits, (digitValue? base character).isSome = true := by
  induction numeral with
  | single isDigit => simp [isDigit]
  | snoc front isDigit inductionHypothesis =>
      intro character member
      rcases List.mem_append.mp member with inFront | isLast
      · exact inductionHypothesis character inFront
      · rw [List.mem_singleton.mp isLast, isDigit]
        rfl

theorem extended_eq (numeral : Numeral base digits value) : extended base 0 digits = value := by
  induction numeral with
  | single isDigit => simp [extended, isDigit]
  | snoc front isDigit inductionHypothesis =>
      rw [extended_append, inductionHypothesis]
      simp [extended, isDigit]

theorem of_digits (nonempty : digits ≠ [])
    (areDigits : ∀ character ∈ digits, (digitValue? base character).isSome = true) :
    Numeral base digits (extended base 0 digits) := by
  induction digits using List.reverseRecOn with
  | nil => exact absurd rfl nonempty
  | append_singleton front character inductionHypothesis =>
      obtain ⟨digit, isDigit⟩ := Option.isSome_iff_exists.mp (areDigits character (by simp))
      rcases List.eq_nil_or_concat front with rfl | ⟨_, _, isConcat⟩
      · have value : extended base 0 [character] = digit := by simp [extended, isDigit]
        rw [List.nil_append, value]
        exact single isDigit
      · have frontNonempty : front ≠ [] := by simp [isConcat]
        have earlier := inductionHypothesis frontNonempty fun other member =>
          areDigits other (List.mem_append_left _ member)
        have value : extended base 0 (front ++ [character]) =
            extended base 0 front * base + digit := by
          rw [extended_append]
          simp [extended, isDigit]
        rw [value]
        exact snoc earlier isDigit

theorem lt_pow (numeral : Numeral base digits value) : value < base ^ digits.length := by
  induction numeral with
  | single isDigit => simpa using digitValue?_lt isDigit
  | @snoc digits value character digit front isDigit inductionHypothesis =>
      have last : digit < base := digitValue?_lt isDigit
      calc value * base + digit
          < value * base + base := Nat.add_lt_add_left last _
        _ = (value + 1) * base := (Nat.succ_mul value base).symm
        _ ≤ base ^ digits.length * base := Nat.mul_le_mul_right base inductionHypothesis
        _ = base ^ (digits ++ [character]).length := by
          rw [List.length_append, List.length_singleton, Nat.pow_succ]

end Numeral

theorem numeral_toDigits (atLeastTwo : 1 < base) (small : base ≤ 16) :
    Numeral base (Nat.toDigits base value) value := by
  induction value using Nat.strongRecOn with
  | ind value inductionHypothesis =>
      rw [Nat.toDigits_eq_if atLeastTwo]
      split
      · rename_i isSingle
        exact .single (digitValue?_digitChar small isSingle)
      · have shorter : value / base < value := Nat.div_lt_self (by omega) atLeastTwo
        have last : value % base < base := Nat.mod_lt _ (by omega)
        have whole : Numeral base _ (value / base * base + value % base) :=
          .snoc (inductionHypothesis _ shorter) (digitValue?_digitChar small last)
        rwa [Nat.div_add_mod'] at whole

/-- Only zero is written with a zero in front. -/
theorem head?_toDigits_ne_zero (atLeastTwo : 1 < base) (positive : 0 < value) :
    (Nat.toDigits base value).head? ≠ some '0' := by
  induction value using Nat.strongRecOn with
  | ind value inductionHypothesis =>
      rw [Nat.toDigits_eq_if atLeastTwo]
      split
      · simpa using Nat.ne_of_gt positive
      · rename_i several
        have shorter : value / base < value := Nat.div_lt_self positive atLeastTwo
        have stillPositive : 0 < value / base := Nat.div_pos (by omega) (by omega)
        have notZero := inductionHypothesis _ shorter stillPositive
        rw [List.head?_append]
        rcases first : (Nat.toDigits base (value / base)).head? with _ | character
        · exact absurd (List.head?_eq_none_iff.mp first) Nat.toDigits_ne_nil
        · rw [first] at notZero
          exact notZero

theorem unpadded_toDigits (atLeastTwo : 1 < base) : Unpadded (Nat.toDigits base value) := by
  intro padded
  rcases Nat.eq_zero_or_pos value with rfl | positive
  · rw [Nat.toDigits_zero]
    rfl
  · exact absurd padded (head?_toDigits_ne_zero atLeastTwo positive)

/-- A decimal number has one numeral without padding. -/
theorem Numeral.eq_toDigits (numeral : Numeral base digits value) (atLeastTwo : 1 < base)
    (decimal : base ≤ 10) (unpadded : Unpadded digits) : digits = Nat.toDigits base value := by
  induction numeral with
  | @single character digit isDigit =>
      rw [eq_digitChar decimal isDigit, Nat.toDigits_of_lt_base (digitValue?_lt isDigit)]
  | @snoc digits value character digit front isDigit inductionHypothesis =>
      -- Further digits follow the first one, which is therefore no zero.
      have notZero : digits.head? ≠ some '0' := by
        intro isZero
        have alone := unpadded (by rw [List.head?_append, isZero]; rfl)
        have nonempty := List.length_pos_iff.mpr front.ne_nil
        rw [List.length_append, List.length_singleton] at alone
        omega
      have frontDigits := inductionHypothesis fun isZero => absurd isZero notZero
      have positive : 0 < value := by
        refine Nat.pos_of_ne_zero ?_
        rintro rfl
        rw [frontDigits, Nat.toDigits_zero] at notZero
        exact notZero rfl
      have below := digitValue?_lt isDigit
      rw [Nat.mul_comm value base, ← Nat.toDigits_append_toDigits atLeastTwo positive below,
        Nat.toDigits_of_lt_base below, ← frontDigits, ← eq_digitChar decimal isDigit]

end Digits

/-! ## Numbers below a limit -/

section Limits

variable {base limit value result : Nat} {overflow : NumberError} {text : List Char}

theorem readDigits_eq_ok_iff (positive : 0 < base) (below : value < limit) :
    readDigits base limit overflow value text = .ok result ↔
      (∀ character ∈ text, (digitValue? base character).isSome = true) ∧
        extended base value text = result ∧ result < limit := by
  induction text generalizing value with
  | nil =>
      refine ⟨?_, ?_⟩
      · rintro ⟨⟩
        exact ⟨nofun, rfl, below⟩
      · rintro ⟨-, rfl, -⟩
        rfl
  | cons character text inductionHypothesis =>
      rw [readDigits, List.forall_mem_cons]
      rcases isDigit : digitValue? base character with _ | digit
      · exact ⟨nofun, fun read => nomatch read.1.1⟩
      · have goesOn : extended base value (character :: text) =
            extended base (value * base + digit) text := by
          simp [extended, isDigit]
        by_cases stays : value * base + digit < limit
        · simp only [if_neg (Nat.not_le.mpr stays), Option.isSome_some, true_and, goesOn]
          exact inductionHypothesis stays
        · simp only [if_pos (Nat.le_of_not_lt stays), goesOn]
          refine ⟨nofun, ?_⟩
          rintro ⟨-, rfl, small⟩
          exact absurd (Nat.lt_of_le_of_lt (le_extended positive) small) stays

/-- A number below a limit as it may be written: digits, behind a plus sign or not. -/
inductive WritesUnsigned (base limit : Nat) : List Char → Nat → Prop
  | digits {text : List Char} {value : Nat} (numeral : Numeral base text value)
      (small : value < limit) : WritesUnsigned base limit text value
  | signed {text : List Char} {value : Nat} (numeral : Numeral base text value)
      (small : value < limit) : WritesUnsigned base limit ('+' :: text) value

theorem readDigits_eq_ok_iff_numeral (positive : 0 < base) (limited : 0 < limit)
    (nonempty : text ≠ []) :
    readDigits base limit overflow 0 text = .ok result ↔
      Numeral base text result ∧ result < limit := by
  rw [readDigits_eq_ok_iff positive limited]
  constructor
  · rintro ⟨areDigits, rfl, small⟩
    exact ⟨.of_digits nonempty areDigits, small⟩
  · rintro ⟨numeral, small⟩
    exact ⟨numeral.areDigits, numeral.extended_eq, small⟩

theorem not_numeral_plus : ¬Numeral base ('+' :: text) value :=
  fun numeral => nomatch numeral.areDigits '+' List.mem_cons_self

theorem readUnsigned_eq_ok_iff (positive : 0 < base) (limited : 0 < limit) :
    readUnsigned base limit text = .ok result ↔ WritesUnsigned base limit text result := by
  rw [readUnsigned.eq_def]
  split
  · refine ⟨nofun, fun written => ?_⟩
    cases written with
    | digits numeral _ => exact absurd rfl numeral.ne_nil
  · refine ⟨nofun, fun written => ?_⟩
    cases written with
    | digits numeral _ => exact absurd numeral not_numeral_plus
    | signed numeral _ => exact absurd rfl numeral.ne_nil
  · rename_i digits notAlone
    rw [readDigits_eq_ok_iff_numeral positive limited notAlone]
    constructor
    · rintro ⟨numeral, small⟩
      exact .signed numeral small
    · intro written
      cases written with
      | digits numeral _ => exact absurd numeral not_numeral_plus
      | signed numeral small => exact ⟨numeral, small⟩
  · rename_i nonempty _ unsigned
    rw [readDigits_eq_ok_iff_numeral positive limited nonempty]
    constructor
    · rintro ⟨numeral, small⟩
      exact .digits numeral small
    · intro written
      cases written with
      | digits numeral small => exact ⟨numeral, small⟩
      | signed numeral _ => exact absurd rfl (unsigned _)

end Limits

end Text
end ClusterAgent
