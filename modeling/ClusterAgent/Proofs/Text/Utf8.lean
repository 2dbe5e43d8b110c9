import ClusterAgent.Text.Utf8
import Mathlib.Data.List.Basic
namespace ClusterAgent
namespace Utf8

/-! ## Octets of one character -/

/-- Six bits of a number as an octet behind the first one. -/
def behind (bits : Nat) : UInt8 :=
  UInt8.ofNat (bits + 128)

theorem behind_spec {bits : Nat} (small : bits < 64) :
    isContinuation (behind bits) = true ∧ (behind bits).toNat % 64 = bits := by
  have every : ∀ bits < 64,
      isContinuation (behind bits) = true ∧ (behind bits).toNat % 64 = bits := by
    decide
  exact every bits small

section Starts

variable {lead second third fourth : Nat} (rest : List UInt8)

theorem start_one (small : lead < 128) :
    start (UInt8.ofNat lead) rest = .scalar (Char.ofNat lead) 1 := by
  have every : ∀ lead < 128,
      UInt8.ofNat lead < 0x80 ∧ (UInt8.ofNat lead).toNat = lead := by
    decide
  obtain ⟨short, sameNumber⟩ := every lead small
  rw [start.eq_def, if_pos short, sameNumber]

theorem start_two (large : 2 ≤ lead) (small : lead < 32) (secondSmall : second < 64) :
    start (UInt8.ofNat (lead + 192)) (behind second :: rest) =
      .scalar (Char.ofNat (lead * 64 + second)) 2 := by
  have every : ∀ lead < 32, 2 ≤ lead →
      ¬UInt8.ofNat (lead + 192) < 0x80 ∧
        (UInt8.ofNat (lead + 192) < 0xC2 || 0xF4 < UInt8.ofNat (lead + 192)) = false ∧
          UInt8.ofNat (lead + 192) < 0xE0 ∧ (UInt8.ofNat (lead + 192)).toNat % 32 = lead := by
    decide
  obtain ⟨notOne, begins, two, sameLead⟩ := every lead small large
  obtain ⟨continues, sameSecond⟩ := behind_spec secondSmall
  simp only [start, notOne, begins, two, continues, sameLead, scalarValue, sameSecond, if_true,
    if_false, Bool.false_eq_true, List.foldl_cons, List.foldl_nil]

theorem start_three (small : lead < 16) (secondSmall : second < 64) (thirdSmall : third < 64)
    (shortest : lead = 0 → 32 ≤ second) (noSurrogate : lead = 13 → second < 32) :
    start (UInt8.ofNat (lead + 224)) (behind second :: behind third :: rest) =
      .scalar (Char.ofNat ((lead * 64 + second) * 64 + third)) 3 := by
  have every : ∀ lead < 16,
      ¬UInt8.ofNat (lead + 224) < 0x80 ∧
        (UInt8.ofNat (lead + 224) < 0xC2 || 0xF4 < UInt8.ofNat (lead + 224)) = false ∧
          ¬UInt8.ofNat (lead + 224) < 0xE0 ∧ UInt8.ofNat (lead + 224) < 0xF0 ∧
            (UInt8.ofNat (lead + 224)).toNat % 16 = lead := by
    decide
  have everySecond : ∀ lead < 16, ∀ second < 64, (lead = 0 → 32 ≤ second) →
      (lead = 13 → second < 32) →
        secondAllowed (UInt8.ofNat (lead + 224)) (behind second) = true := by
    decide +kernel
  obtain ⟨notOne, begins, notTwo, three, sameLead⟩ := every lead small
  have allowed := everySecond lead small second secondSmall shortest noSurrogate
  obtain ⟨_, sameSecond⟩ := behind_spec secondSmall
  obtain ⟨continues, sameThird⟩ := behind_spec thirdSmall
  simp only [start, notOne, begins, notTwo, three, allowed, continues, sameLead, scalarValue,
    sameSecond, sameThird, if_true, if_false, Bool.false_eq_true, Bool.not_true, List.foldl_cons,
    List.foldl_nil]

theorem start_four (small : lead < 5) (secondSmall : second < 64) (thirdSmall : third < 64)
    (fourthSmall : fourth < 64) (shortest : lead = 0 → 16 ≤ second)
    (inRange : lead = 4 → second < 16) :
    start (UInt8.ofNat (lead + 240)) (behind second :: behind third :: behind fourth :: rest) =
      .scalar (Char.ofNat (((lead * 64 + second) * 64 + third) * 64 + fourth)) 4 := by
  have every : ∀ lead < 5,
      ¬UInt8.ofNat (lead + 240) < 0x80 ∧
        (UInt8.ofNat (lead + 240) < 0xC2 || 0xF4 < UInt8.ofNat (lead + 240)) = false ∧
          ¬UInt8.ofNat (lead + 240) < 0xE0 ∧ ¬UInt8.ofNat (lead + 240) < 0xF0 ∧
            (UInt8.ofNat (lead + 240)).toNat % 8 = lead := by
    decide
  have everySecond : ∀ lead < 5, ∀ second < 64, (lead = 0 → 16 ≤ second) →
      (lead = 4 → second < 16) →
        secondAllowed (UInt8.ofNat (lead + 240)) (behind second) = true := by
    decide +kernel
  obtain ⟨notOne, begins, notTwo, notThree, sameLead⟩ := every lead small
  have allowed := everySecond lead small second secondSmall shortest inRange
  obtain ⟨_, sameSecond⟩ := behind_spec secondSmall
  obtain ⟨thirdContinues, sameThird⟩ := behind_spec thirdSmall
  obtain ⟨continues, sameFourth⟩ := behind_spec fourthSmall
  simp only [start, notOne, begins, notTwo, notThree, allowed, thirdContinues, continues, sameLead,
    scalarValue, sameSecond, sameThird, sameFourth, if_true, if_false, Bool.false_eq_true,
    Bool.not_true, List.foldl_cons, List.foldl_nil]

/-- The octets of a character are found to begin with it, whatever follows them. -/
theorem start_encoded (character : Char) :
    ∃ first later, String.utf8EncodeChar character = first :: later ∧
      start first (later ++ rest) = .scalar character (later.length + 1) := by
  have sameCharacter : Char.ofNat character.val.toNat = character := Char.ofNat_toNat character
  have valid : character.val.toNat < 0xD800 ∨
      0xDFFF < character.val.toNat ∧ character.val.toNat < 0x110000 := character.valid
  rw [String.utf8EncodeChar]
  generalize character.val.toNat = value at sameCharacter valid ⊢
  subst sameCharacter
  by_cases one : value ≤ 0x7f
  · rw [if_pos one]
    exact ⟨_, _, rfl, start_one _ (by omega)⟩
  by_cases two : value ≤ 0x7ff
  · rw [if_neg one, if_pos two]
    refine ⟨_, _, rfl, (start_two rest (by omega) (by omega) (by omega)).trans ?_⟩
    rw [show value / 64 % 32 * 64 + value % 64 = value by omega]
    rfl
  by_cases three : value ≤ 0xffff
  · rw [if_neg one, if_neg two, if_pos three]
    refine ⟨_, _, rfl,
      (start_three rest (by omega) (by omega) (by omega) (by omega) (by omega)).trans ?_⟩
    rw [show (value / 4096 % 16 * 64 + value / 64 % 64) * 64 + value % 64 = value by omega]
    rfl
  · rw [if_neg one, if_neg two, if_neg three]
    refine ⟨_, _, rfl, (start_four rest (by omega) (by omega) (by omega) (by omega) (by omega)
      (by omega)).trans ?_⟩
    rw [show ((value / 262144 % 8 * 64 + value / 4096 % 64) * 64 + value / 64 % 64) * 64 +
      value % 64 = value by omega]
    rfl

end Starts

/-! ## Octets of a text -/

section Replacing

variable (mark : List Char)

theorem replacing_skip (done rest : List UInt8) :
    replacing mark done.length (done ++ rest) = replacing mark 0 rest := by
  induction done with
  | nil => rfl
  | cons octet done inductionHypothesis => exact inductionHypothesis

/-- The octets of a text read as the text, whatever follows them. -/
theorem replacing_encoded (text : List Char) (rest : List UInt8) :
    replacing mark 0 (text.flatMap String.utf8EncodeChar ++ rest) =
      text ++ replacing mark 0 rest := by
  induction text with
  | nil => rfl
  | cons character text inductionHypothesis =>
      rw [List.flatMap_cons, List.append_assoc]
      obtain ⟨first, later, octets, begins⟩ :=
        start_encoded (text.flatMap String.utf8EncodeChar ++ rest) character
      rw [octets, List.cons_append, replacing.eq_3, begins]
      dsimp only
      rw [Nat.add_sub_cancel, replacing_skip, inductionHypothesis, List.cons_append]

/-- The octet 255 begins no character. -/
theorem replacing_foreign (rest : List UInt8) :
    replacing mark 0 (0xFF :: rest) = mark ++ replacing mark 0 rest :=
  rfl

end Replacing

theorem octets_toUTF8 (text : String) :
    text.toUTF8.data.toList = text.toList.flatMap String.utf8EncodeChar := by
  have encoded : text.toUTF8 = text.toList.utf8Encode := by
    rw [String.toUTF8_eq_toByteArray, ← String.toByteArray_ofList, String.ofList_toList]
  rw [encoded, List.utf8Encode, List.data_toByteArray]

theorem octets_of_decode {octets : ByteArray} {text : String} (decoded : decode octets = .ok text) :
    octets.data.toList = text.toList.flatMap String.utf8EncodeChar := by
  have same : octets = text.toUTF8 := by
    rw [decode, String.fromUTF8?] at decoded
    split at decoded
    · rename_i found
      split at found
      · cases decoded
        cases found
        rfl
      · cases found
    · cases decoded
  rw [same, octets_toUTF8]

end Utf8
end ClusterAgent
