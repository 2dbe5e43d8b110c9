import ClusterAgent.Proofs.Json.Rendering
import Mathlib.Data.List.TakeWhile
namespace ClusterAgent
namespace Json

/-! ## Literals and what follows them -/

/-- The text is the rest of a literal with this content, whatever follows it. -/
def EndsLiteral (pending : Option Nat) (content : Option (List Char)) (text : List Char) : Prop :=
  ∀ rest, readLiteral pending (text ++ rest) = some ⟨content, rest⟩

section Literals

variable {pending later : Option Nat} {text : List Char} {literal : Literal}

/-- What a reader does to the content of a literal behind the first characters; the rest stays. -/
def Keeps (change : Literal → Literal) : Prop :=
  ∃ ofContent : Option (List Char) → Option (List Char),
    ∀ literal, change literal = ⟨ofContent literal.content, literal.rest⟩

theorem keeps_push (character : Char) : Keeps (Literal.push character) :=
  ⟨_, fun _ => rfl⟩

theorem keeps_id : Keeps id :=
  ⟨id, fun _ => rfl⟩

theorem keeps_unpaired : Keeps Literal.unpaired :=
  ⟨fun _ => none, fun _ => rfl⟩

theorem keeps_character (isPending : Bool) (character : Char) :
    Keeps fun literal => if isPending then literal.unpaired else literal.push character := by
  cases isPending
  · exact keeps_push character
  · exact keeps_unpaired

theorem endsLiteral_step (head : List Char) {change : Literal → Literal} (keeps : Keeps change)
    (step : ∀ rest, readLiteral pending (head ++ rest) = (readLiteral later rest).map change)
    (goesOn : ∀ {inner}, readLiteral later text = some inner →
      ∃ taken, text = taken ++ inner.rest ∧ EndsLiteral later inner.content taken)
    (read : (readLiteral later text).map change = some literal) :
    ∃ taken, head ++ text = taken ++ literal.rest ∧
      EndsLiteral pending literal.content taken := by
  obtain ⟨ofContent, changes⟩ := keeps
  obtain ⟨inner, readInner, rfl⟩ := Option.map_eq_some_iff.mp read
  obtain ⟨taken, shape, ends⟩ := goesOn readInner
  refine ⟨head ++ taken, ?_, fun rest => ?_⟩
  · rw [changes, List.append_assoc, ← shape]
  · rw [List.append_assoc, step, ends rest, Option.map_some, changes, changes]

theorem endsLiteral_of_read (read : readLiteral pending text = some literal) :
    ∃ taken, text = taken ++ literal.rest ∧ EndsLiteral pending literal.content taken := by
  fun_induction readLiteral pending text generalizing literal with
  | case1 => cases read
  | case2 pending rest =>
    cases read
    exact ⟨['"'], rfl, fun _ => rfl⟩
  | case3 => cases read
  | case4 a b c d rest unit digits high low inductionHypothesis =>
    refine endsLiteral_step ['\\', 'u', a, b, c, d] (keeps_push _) (fun rest => ?_)
      inductionHypothesis read
    exact (readLiteral.eq_3 _ a b c d rest).trans (by rw [digits]; exact if_pos low)
  | case5 a b c d rest unit digits high notLow inductionHypothesis =>
    refine endsLiteral_step ['\\', 'u', a, b, c, d] keeps_unpaired (fun rest => ?_)
      inductionHypothesis read
    exact (readLiteral.eq_3 _ a b c d rest).trans (by rw [digits]; exact if_neg notLow)
  | case6 a b c d rest unit digits low inductionHypothesis =>
    refine endsLiteral_step ['\\', 'u', a, b, c, d] keeps_unpaired (fun rest => ?_)
      inductionHypothesis read
    exact (readLiteral.eq_3 _ a b c d rest).trans (by rw [digits]; exact if_pos low)
  | case7 a b c d rest unit digits notLow high inductionHypothesis =>
    refine endsLiteral_step ['\\', 'u', a, b, c, d] keeps_id (fun rest => ?_)
      inductionHypothesis (by rwa [Option.map_id])
    rw [Option.map_id]
    exact (readLiteral.eq_3 _ a b c d rest).trans (by
      rw [digits]; exact (if_neg notLow).trans (if_pos high))
  | case8 a b c d rest unit digits notLow notHigh inductionHypothesis =>
    refine endsLiteral_step ['\\', 'u', a, b, c, d] (keeps_push _) (fun rest => ?_)
      inductionHypothesis read
    exact (readLiteral.eq_3 _ a b c d rest).trans (by
      rw [digits]; exact (if_neg notLow).trans (if_neg notHigh))
  | case9 => cases read
  | case10 pending escape rest _ character escaped inductionHypothesis =>
    exact endsLiteral_step ['\\', escape] (keeps_character _ _)
      (readLiteral_escaped escaped) inductionHypothesis read
  | case11 => cases read
  | case12 pending character rest notQuote _ _ stands inductionHypothesis =>
    exact endsLiteral_step [character] (keeps_character _ _)
      (readLiteral_character notQuote stands) inductionHypothesis read

end Literals

namespace Number

/-! ## Numbers and what follows them -/

/-- Before any rest that does not go on with a number, the reader takes `taken`. -/
def Takes {α : Type} (reader : List Char → Option (α × List Char)) (taken : List Char)
    (value : α) : Prop :=
  ∀ rest, EndsNumber rest → reader (taken ++ rest) = some (value, rest)

/-- What the reader takes from a text does not depend on what follows it. -/
def ReadsAgain {α : Type} (reader : List Char → Option (α × List Char)) : Prop :=
  ∀ ⦃text left : List Char⦄ ⦃value : α⦄, reader text = some (value, left) →
    ∃ taken, text = taken ++ left ∧ Takes reader taken value

section Digits

variable {digits taken left rest text behind : List Char} {isNegative : Bool}

theorem endsNumber_nil : EndsNumber [] :=
  fun _ isNext => nomatch isNext

theorem EndsDigits.before (ends : EndsDigits (taken ++ left)) (otherEnds : EndsDigits rest) :
    EndsDigits (taken ++ rest) := by
  cases taken with
  | nil => exact otherEnds
  | cons first taken => exact ends

theorem readsAgain_behind {α : Type} {reader inner : List Char → Option (α × List Char)}
    {mark : Char} {value : α} (step : ∀ behind, reader (mark :: behind) = inner behind)
    (again : ReadsAgain inner) (read : reader (mark :: behind) = some (value, left)) :
    ∃ taken, mark :: behind = taken ++ left ∧ Takes reader taken value := by
  rw [step] at read
  obtain ⟨taken, rfl, takes⟩ := again read
  exact ⟨mark :: taken, rfl, fun rest ends => (step _).trans (takes rest ends)⟩

theorem spanDigits_eq (span : spanDigits text = (digits, rest)) :
    text = digits ++ rest ∧ (∀ digit ∈ digits, digit.isDigit = true) ∧ EndsDigits rest := by
  cases span
  refine ⟨List.takeWhile_append_dropWhile.symm, fun _ => List.mem_takeWhile_imp, ?_⟩
  intro next isNext
  have stopped := List.head?_dropWhile_not Char.isDigit text
  rw [Option.mem_def.mp isNext] at stopped
  exact stopped

end Digits

/-! ## Exponents -/

section Exponents

variable {digits left rest text : List Char} {isNegative : Bool}

/-- The digits of an exponent behind its sign. -/
def exponentDigits (isNegative : Bool) (text : List Char) : Option (Int × List Char) :=
  match spanDigits text with
  | ([], _) => none
  | (digits, rest) =>
      let value : Int := digitsValue digits
      some (if isNegative then -value else value, rest)

theorem exponentDigits_span (nonempty : digits ≠ []) (span : spanDigits text = (digits, rest)) :
    exponentDigits isNegative text =
      some (if isNegative then -(digitsValue digits : Int) else digitsValue digits, rest) := by
  rw [exponentDigits, span]
  split
  · rename_i noDigits
    exact absurd (Prod.mk.inj noDigits).1 nonempty
  · rename_i same
    cases same
    rfl

theorem exponentDigits_again : ReadsAgain (exponentDigits isNegative) := by
  intro text left value read
  rcases span : spanDigits text with ⟨digits, rest⟩
  obtain ⟨shape, areDigits, _⟩ := spanDigits_eq span
  by_cases nonempty : digits = []
  · subst nonempty
    rw [exponentDigits, span] at read
    cases read
  · rw [exponentDigits_span nonempty span] at read
    cases read
    exact ⟨digits, shape, fun rest ends =>
      exponentDigits_span nonempty (spanDigits_append areDigits ends.endsDigits)⟩

theorem readExponent_unsigned (notPlus : text.head? ≠ some '+') (notMinus : text.head? ≠ some '-') :
    readExponent text = exponentDigits false text := by
  rw [readExponent.eq_def]
  split
  rename_i signed
  split at signed
  · exact absurd rfl notPlus
  · exact absurd rfl notMinus
  · cases signed
    rfl

theorem readExponent_again : ReadsAgain readExponent := by
  intro text left value read
  by_cases plus : text.head? = some '+'
  · obtain ⟨unsigned, rfl⟩ := List.head?_eq_some_iff.mp plus
    exact readsAgain_behind (fun _ => rfl) exponentDigits_again read
  by_cases minus : text.head? = some '-'
  · obtain ⟨unsigned, rfl⟩ := List.head?_eq_some_iff.mp minus
    exact readsAgain_behind (fun _ => rfl) exponentDigits_again read
  · rw [readExponent_unsigned plus minus] at read
    obtain ⟨taken, rfl, takes⟩ := exponentDigits_again read
    refine ⟨taken, rfl, fun rest ends => ?_⟩
    cases taken with
    | nil => cases takes [] endsNumber_nil
    | cons first taken =>
        have unsigned : readExponent (first :: taken ++ rest) = exponentDigits false _ :=
          readExponent_unsigned plus minus
        exact unsigned.trans (takes rest ends)

end Exponents

/-! ## Fractions -/

section Fractions

variable {digits left rest text : List Char} {isNegative : Bool} {significand exponent : Nat}
  {power : Int}

theorem powerBehind_again :
    ReadsAgain fun text => (readExponent text).map fun found =>
      (Number.decimal isNegative significand (power + found.1), found.2) := by
  intro text left value read
  obtain ⟨⟨found, _⟩, readInner, same⟩ := Option.map_eq_some_iff.mp read
  cases same
  obtain ⟨taken, shape, takes⟩ := readExponent_again readInner
  exact ⟨taken, shape, fun rest ends => congrArg (Option.map _) (takes rest ends)⟩

/-- What follows the digits of a fraction. -/
def readPower (isNegative : Bool) (significand : Nat) (power : Int) (text : List Char) :
    Option (Number × List Char) :=
  match text with
  | 'e' :: rest | 'E' :: rest =>
      (readExponent rest).map fun found =>
        (.decimal isNegative significand (power + found.1), found.2)
  | _ => some (.decimal isNegative significand power, text)

theorem readPower_plain (notSmall : text.head? ≠ some 'e') (notCapital : text.head? ≠ some 'E') :
    readPower isNegative significand power text =
      some (.decimal isNegative significand power, text) := by
  rw [readPower.eq_def]
  split
  · exact absurd rfl notSmall
  · exact absurd rfl notCapital
  · rfl

theorem EndsNumber.head?_ne (ends : EndsNumber rest) :
    rest.head? ≠ some '.' ∧ rest.head? ≠ some 'e' ∧ rest.head? ≠ some 'E' :=
  ⟨fun isPoint => (ends '.' isPoint).2.1 rfl, fun isMark => (ends 'e' isMark).2.2.1 rfl,
    fun isMark => (ends 'E' isMark).2.2.2 rfl⟩

theorem readPower_again : ReadsAgain (readPower isNegative significand power) := by
  intro text left value read
  by_cases small : text.head? = some 'e'
  · obtain ⟨behind, rfl⟩ := List.head?_eq_some_iff.mp small
    exact readsAgain_behind (fun _ => rfl) powerBehind_again read
  by_cases capital : text.head? = some 'E'
  · obtain ⟨behind, rfl⟩ := List.head?_eq_some_iff.mp capital
    exact readsAgain_behind (fun _ => rfl) powerBehind_again read
  · rw [readPower_plain small capital] at read
    cases read
    exact ⟨[], rfl, fun rest ends => readPower_plain ends.head?_ne.2.1 ends.head?_ne.2.2⟩

theorem readTail_fraction (nonempty : digits ≠ []) (span : spanDigits text = (digits, rest)) :
    readTail isNegative significand exponent ('.' :: text) =
      readPower isNegative (fractionPart significand exponent digits).1
        (fractionPart significand exponent digits).2 rest := by
  rw [readTail.eq_1, span]
  split
  · rename_i noDigits
    exact absurd (Prod.mk.inj noDigits).1 nonempty
  · rename_i same
    cases same
    rfl

theorem readTail_plain (noFraction : text.head? ≠ some '.') (notSmall : text.head? ≠ some 'e')
    (notCapital : text.head? ≠ some 'E') :
    readTail isNegative significand exponent text =
      some (whole isNegative significand exponent, text) := by
  rw [readTail.eq_def]
  split
  · exact absurd rfl noFraction
  · exact absurd rfl notSmall
  · exact absurd rfl notCapital
  · rfl

theorem fraction_again :
    ReadsAgain fun text => readTail isNegative significand exponent ('.' :: text) := by
  intro text left value read
  rcases span : spanDigits text with ⟨digits, rest⟩
  obtain ⟨rfl, areDigits, ends⟩ := spanDigits_eq span
  by_cases nonempty : digits = []
  · subst nonempty
    dsimp only at read
    rw [readTail.eq_1, span] at read
    cases read
  · dsimp only at read
    rw [readTail_fraction nonempty span] at read
    obtain ⟨taken, rfl, takes⟩ := readPower_again read
    refine ⟨digits ++ taken, (List.append_assoc ..).symm, fun rest ending => ?_⟩
    dsimp only
    rw [List.append_assoc, readTail_fraction nonempty
      (spanDigits_append areDigits (ends.before ending.endsDigits))]
    exact takes rest ending

theorem readTail_again : ReadsAgain (readTail isNegative significand exponent) := by
  intro text left value read
  by_cases point : text.head? = some '.'
  · obtain ⟨behind, rfl⟩ := List.head?_eq_some_iff.mp point
    exact readsAgain_behind (fun _ => rfl) fraction_again read
  by_cases small : text.head? = some 'e'
  · obtain ⟨behind, rfl⟩ := List.head?_eq_some_iff.mp small
    exact readsAgain_behind (fun _ => rfl) powerBehind_again read
  by_cases capital : text.head? = some 'E'
  · obtain ⟨behind, rfl⟩ := List.head?_eq_some_iff.mp capital
    exact readsAgain_behind (fun _ => rfl) powerBehind_again read
  · rw [readTail_plain point small capital] at read
    cases read
    exact ⟨[], rfl, fun rest ends =>
      readTail_plain ends.head?_ne.1 ends.head?_ne.2.1 ends.head?_ne.2.2⟩

end Fractions

/-! ## Whole numbers -/

section Whole

variable {digits left rest text : List Char} {isNegative : Bool}

theorem readUnsigned_again : ReadsAgain (readUnsigned isNegative) := by
  intro text left value read
  rcases span : spanDigits text with ⟨digits, rest⟩
  obtain ⟨rfl, areDigits, ends⟩ := spanDigits_eq span
  by_cases nonempty : digits = []
  · subst nonempty
    rw [readUnsigned, span] at read
    cases read
  by_cases padded : ∃ second others, digits = '0' :: second :: others
  · obtain ⟨_, _, rfl⟩ := padded
    rw [readUnsigned, span] at read
    cases read
  · have unpadded : ∀ second others, digits ≠ '0' :: second :: others :=
      fun second others same => padded ⟨second, others, same⟩
    rw [readUnsigned_span nonempty unpadded span] at read
    obtain ⟨taken, rfl, takes⟩ := readTail_again read
    refine ⟨digits ++ taken, (List.append_assoc ..).symm, fun rest ending => ?_⟩
    rw [List.append_assoc, readUnsigned_span nonempty unpadded
      (spanDigits_append areDigits (ends.before ending.endsDigits))]
    exact takes rest ending

/-- A number is read the same before whatever does not go on with it. -/
theorem read_again : ReadsAgain Number.read := by
  intro text left value read
  by_cases minus : text.head? = some '-'
  · obtain ⟨unsigned, rfl⟩ := List.head?_eq_some_iff.mp minus
    exact readsAgain_behind (fun _ => rfl) readUnsigned_again read
  · cases text with
    | nil => cases read
    | cons first later =>
        have notSign : first ≠ '-' := by
          rintro rfl
          exact minus rfl
        rw [read_of_notSign notSign] at read
        obtain ⟨taken, shape, takes⟩ := readUnsigned_again read
        refine ⟨taken, shape, fun rest ends => ?_⟩
        cases taken with
        | nil => cases takes [] endsNumber_nil
        | cons second taken =>
            obtain ⟨rfl, _⟩ := List.cons.inj shape
            exact (read_of_notSign notSign).trans (takes rest ends)

/-- A number begins with a digit or its sign. -/
theorem head?_of_read {value : Number} (read : Number.read text = some (value, left)) :
    ∃ first, text.head? = some first ∧ (first.isDigit = true ∨ first = '-') := by
  cases text with
  | nil => cases read
  | cons first later =>
      refine ⟨first, rfl, or_iff_not_imp_right.mpr fun notSign => ?_⟩
      rw [read_of_notSign notSign] at read
      by_contra notDigit
      have span : spanDigits (first :: later) = ([], first :: later) := by
        simp [spanDigits, notDigit]
      rw [readUnsigned, span] at read
      cases read

end Whole

end Number
end Json
end ClusterAgent
