import ClusterAgent.Json.Reading
import ClusterAgent.Json.Value
namespace ClusterAgent
namespace Json

/-! ## Characters of a string literal -/

section Escapes

variable {pending : Option Nat} {character : Char}

theorem readLiteral_escaped {letter : Char}
    (escaped : simpleEscape? letter = some character) (rest : List Char) :
    readLiteral pending ('\\' :: letter :: rest) =
      (readLiteral none rest).map fun inner =>
        if pending.isSome then inner.unpaired else inner.push character := by
  have notUnicode : letter ≠ 'u' := by
    rintro rfl
    cases escaped
  rw [readLiteral.eq_4 pending letter rest fun _ _ _ _ _ isUnicode => absurd isUnicode notUnicode,
    escaped]

theorem readLiteral_unicode {a b c d : Char} {unit : Nat} (digits : hex4? a b c d = some unit)
    (belowSurrogates : unit < 0xD800) (rest : List Char) :
    readLiteral none ('\\' :: 'u' :: a :: b :: c :: d :: rest) =
      (readLiteral none rest).map (Literal.push (Char.ofNat unit)) := by
  have notLow : isLow unit = false := by
    simp only [isLow, Bool.and_eq_false_iff, decide_eq_false_iff_not]
    omega
  have notHigh : isHigh unit = false := by
    simp only [isHigh, Bool.and_eq_false_iff, decide_eq_false_iff_not]
    omega
  rw [readLiteral.eq_3, digits]
  simp only [notLow, notHigh, Bool.false_eq_true, if_false]

theorem readLiteral_character (notQuote : character ≠ '"')
    (stands : ¬(character.toNat < 32 ∨ character = '\\')) (rest : List Char) :
    readLiteral pending (character :: rest) =
      (readLiteral none rest).map fun inner =>
        if pending.isSome then inner.unpaired else inner.push character := by
  have notBackslash : character ≠ '\\' := fun isBackslash => stands (Or.inr isBackslash)
  rw [readLiteral.eq_5 pending character rest notQuote
    (fun _ _ _ _ _ isBackslash => absurd isBackslash notBackslash)
    (fun _ _ isBackslash => absurd isBackslash notBackslash), if_neg stands]

/-- Control characters are written by a number of four digits, which fills up with zeros. -/
theorem hexadecimal_oneDigit {value : Nat} (small : value < 16) :
    Text.hexadecimal value = [value.digitChar] ∧
      hex4? '0' '0' '0' value.digitChar = some value := by
  have every : ∀ value < 16, Text.hexadecimal value = [value.digitChar] ∧
      hex4? '0' '0' '0' value.digitChar = some value := by
    decide
  exact every value small

theorem hexadecimal_twoDigits {value : Nat} (small : value < 32) (large : 16 ≤ value) :
    Text.hexadecimal value = ['1', (value - 16).digitChar] ∧
      hex4? '0' '0' '1' (value - 16).digitChar = some value := by
  have every : ∀ value < 32, 16 ≤ value →
      Text.hexadecimal value = ['1', (value - 16).digitChar] ∧
        hex4? '0' '0' '1' (value - 16).digitChar = some value := by
    decide
  exact every value small large

theorem readLiteral_escape (character : Char) (rest : List Char) :
    readLiteral none (escape character ++ rest) =
      (readLiteral none rest).map (Literal.push character) := by
  by_cases quote : character = '"'
  · subst quote
    exact readLiteral_escaped rfl rest
  by_cases backslash : character = '\\'
  · subst backslash
    exact readLiteral_escaped rfl rest
  by_cases backspace : character = '\x08'
  · subst backspace
    exact readLiteral_escaped rfl rest
  by_cases formFeed : character = '\x0c'
  · subst formFeed
    exact readLiteral_escaped rfl rest
  by_cases lineFeed : character = '\n'
  · subst lineFeed
    exact readLiteral_escaped rfl rest
  by_cases carriageReturn : character = '\r'
  · subst carriageReturn
    exact readLiteral_escaped rfl rest
  by_cases tabulator : character = '\t'
  · subst tabulator
    exact readLiteral_escaped rfl rest
  -- What is left has no short escape: it is written by its number or as it is.
  simp only [escape, quote, backslash, backspace, formFeed, lineFeed, carriageReturn, tabulator,
    if_false]
  have sameCharacter : Char.ofNat character.toNat = character := Char.ofNat_toNat character
  by_cases short : character.toNat < 16
  · obtain ⟨written, read⟩ := hexadecimal_oneDigit short
    rw [if_pos short, written]
    have unescaped := readLiteral_unicode read (by omega) rest
    rwa [sameCharacter] at unescaped
  by_cases control : character.toNat < 32
  · obtain ⟨written, read⟩ := hexadecimal_twoDigits control (by omega)
    rw [if_neg short, if_pos control, written]
    have unescaped := readLiteral_unicode read (by omega) rest
    rwa [sameCharacter] at unescaped
  · rw [if_neg short, if_neg control]
    exact readLiteral_character quote (not_or.mpr ⟨control, backslash⟩) rest

end Escapes

/-! ## Whole literals -/

/-- A text is read back from its literal, up to the quote that ends it. -/
theorem readLiteral_quoted (text rest : List Char) :
    readLiteral none (text.flatMap escape ++ '"' :: rest) = some ⟨some text, rest⟩ := by
  induction text with
  | nil => rfl
  | cons character text inductionHypothesis =>
      rw [List.flatMap_cons, List.append_assoc, readLiteral_escape, inductionHypothesis]
      rfl

/-! ## Octets that are no text -/

theorem readLiteral_faultMark (pending : Option Nat) (rest : List Char) :
    readLiteral pending (faultMark ++ rest) = (readLiteral none rest).map Literal.unpaired := by
  have lone : readLiteral none ('\\' :: 'u' :: 'd' :: 'c' :: '8' :: '0' :: rest) =
      (readLiteral none rest).map Literal.unpaired := by
    have digits : hex4? 'd' 'c' '8' '0' = some 0xDC80 := by decide
    rw [readLiteral.eq_3, digits]
    rfl
  rw [faultMark, List.cons_append, readLiteral_character (by decide) (by decide)]
  simp only [List.cons_append, List.nil_append, lone, Option.map_map]
  congr 1
  funext inner
  cases pending <;> rfl

/-- Behind a backslash and outside of strings octets that are no text are no JSON. -/
theorem faultMark_only_in_strings (rest : List Char) :
    (∀ pending, readLiteral pending ('\\' :: (faultMark ++ rest)) = none) ∧
      (∀ fuel, readValue fuel (faultMark ++ rest) = (.broken, none)) ∧
        ∀ fuel, readMembers fuel (faultMark ++ rest) = ([(none, .broken)], none) := by
  refine ⟨fun pending => ?_, fun fuel => ?_, fun fuel => ?_⟩
  · exact readLiteral.eq_4 pending '\uFFFD' _ fun _ _ _ _ _ isUnicode => nomatch isUnicode
  · cases fuel <;> rfl
  · cases fuel <;> rfl

/-- A string in which octets stand that are no text is read to its quote and has no text. -/
theorem readLiteral_faulty (front back rest : List Char) :
    readLiteral none (front.flatMap escape ++
        (faultMark ++ (back.flatMap escape ++ '"' :: rest))) = some ⟨none, rest⟩ := by
  induction front with
  | nil =>
      rw [List.flatMap_nil, List.nil_append, readLiteral_faultMark, readLiteral_quoted]
      rfl
  | cons character front inductionHypothesis =>
      rw [List.flatMap_cons, List.append_assoc, readLiteral_escape, inductionHypothesis]
      rfl

end Json
end ClusterAgent
