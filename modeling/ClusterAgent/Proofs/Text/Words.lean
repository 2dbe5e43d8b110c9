import ClusterAgent.Proofs.Text.Lines
namespace ClusterAgent
namespace Text

/-! ## Octets of a text -/

/-- A character has one octet or more. -/
theorem length_le_utf8ByteSize (text : List Char) :
    text.length ≤ (String.ofList text).utf8ByteSize := by
  induction text with
  | nil => exact Nat.zero_le _
  | cons first text inductionHypothesis =>
      have positive := first.utf8Size_pos
      rw [String.ofList_cons, String.utf8ByteSize_append, String.utf8ByteSize_singleton,
        List.length_cons]
      omega

/-- A character has no more than four octets. -/
theorem utf8ByteSize_le_length (text : List Char) :
    (String.ofList text).utf8ByteSize ≤ 4 * text.length := by
  induction text with
  | nil => exact Nat.zero_le _
  | cons first text inductionHypothesis =>
      have small := first.utf8Size_le_four
      rw [String.ofList_cons, String.utf8ByteSize_append, String.utf8ByteSize_singleton,
        List.length_cons]
      omega

/-! ## Words of a text -/

/-- The text has no blank character. -/
def Solid (text : List Char) : Prop :=
  ∀ character ∈ text, isBlank character = false

theorem solid_iff_all {text : List Char} :
    Solid text ↔ (text.all fun character => !isBlank character) = true := by
  simp [Solid]

instance (text : List Char) : Decidable (Solid text) :=
  decidable_of_iff _ solid_iff_all.symm

section Words

variable {word text : List Char} {first : Char}

theorem solid_cons : Solid (first :: text) ↔ isBlank first = false ∧ Solid text :=
  List.forall_mem_cons

theorem solid_append {front rest : List Char} : Solid (front ++ rest) ↔ Solid front ∧ Solid rest :=
  List.forall_mem_append

theorem Solid.feed_not_mem (solid : Solid text) : '\n' ∉ text := by
  intro member
  cases solid '\n' member

/-- Between words of its own at both ends a text has nothing to trim. -/
theorem trimmed_between {back : List Char} (wordNonempty : word ≠ []) (wordSolid : Solid word)
    (backNonempty : back ≠ []) (backSolid : Solid back) (middle : List Char) :
    Trimmed (word ++ (middle ++ back)) := by
  constructor
  · intro character isFirst
    rw [List.head?_append_of_ne_nil _ wordNonempty] at isFirst
    exact wordSolid character (List.mem_of_mem_head? isFirst)
  · intro character isLast
    rw [← List.append_assoc, List.getLast?_append_of_ne_nil _ backNonempty] at isLast
    exact backSolid character (List.mem_of_getLast? isLast)

theorem words_cons_blank (blank : isBlank first = true) (rest : List Char) :
    words (first :: rest) = words rest := by
  rw [words.eq_def]
  exact if_pos blank

theorem words_single (solid : isBlank first = false) : words [first] = [[first]] := by
  rw [words.eq_def]
  exact if_neg (by simp [solid])

theorem words_cons_cons_blank {next : Char} (solid : isBlank first = false)
    (blank : isBlank next = true) (rest : List Char) :
    words (first :: next :: rest) = [first] :: words (next :: rest) := by
  rw [words.eq_def]
  simp only [solid, blank, Bool.false_eq_true, if_false, if_true]

theorem words_cons_cons {next : Char} (solid : isBlank first = false)
    (nextSolid : isBlank next = false) (rest : List Char) :
    words (first :: next :: rest) =
      match words (next :: rest) with
      | [] => [[first]]
      | word :: others => (first :: word) :: others := by
  have notFirst : ¬isBlank first = true := by simp [solid]
  have notNext : ¬isBlank next = true := by simp [nextSolid]
  rw [words.eq_def]
  exact (if_neg notFirst).trans (if_neg notNext)

theorem words_append {blank : Char} (nonempty : word ≠ []) (solid : Solid word)
    (isBlankThere : isBlank blank = true) (rest : List Char) :
    words (word ++ blank :: rest) = word :: words rest := by
  induction word with
  | nil => exact absurd rfl nonempty
  | cons first word inductionHypothesis =>
      obtain ⟨firstSolid, wordSolid⟩ := solid_cons.mp solid
      cases word with
      | nil =>
          rw [← words_cons_blank isBlankThere rest]
          exact words_cons_cons_blank firstSolid isBlankThere rest
      | cons next word =>
          have nextSolid := (solid_cons.mp wordSolid).1
          have read := inductionHypothesis (List.cons_ne_nil next word) wordSolid
          rw [List.cons_append] at read
          rw [List.cons_append, List.cons_append, words_cons_cons firstSolid nextSolid, read]

theorem words_ne_nil (solid : isBlank first = false) (rest : List Char) :
    words (first :: rest) ≠ [] := by
  cases rest with
  | nil => simp [words_single solid]
  | cons next rest =>
      by_cases nextBlank : isBlank next = true
      · simp [words_cons_cons_blank solid nextBlank]
      · rw [words_cons_cons solid (by simpa using nextBlank)]
        split
        · simp
        · simp

/-- A blank parts the words before it from those behind it. -/
theorem words_append_break {blank : Char} (isBlankThere : isBlank blank = true)
    (text rest : List Char) : words (text ++ blank :: rest) = words text ++ words rest := by
  induction text with
  | nil => exact words_cons_blank isBlankThere rest
  | cons first text inductionHypothesis =>
      by_cases firstBlank : isBlank first = true
      · rw [List.cons_append, words_cons_blank firstBlank, words_cons_blank firstBlank,
          inductionHypothesis]
      have firstSolid : isBlank first = false := by simpa using firstBlank
      cases text with
      | nil =>
          rw [words_single firstSolid, ← words_cons_blank isBlankThere rest]
          exact words_cons_cons_blank firstSolid isBlankThere rest
      | cons next text =>
          rw [List.cons_append] at inductionHypothesis
          rw [List.cons_append, List.cons_append]
          by_cases nextBlank : isBlank next = true
          · rw [words_cons_cons_blank firstSolid nextBlank, inductionHypothesis,
              words_cons_cons_blank firstSolid nextBlank, List.cons_append]
          · have nextSolid : isBlank next = false := by simpa using nextBlank
            rw [words_cons_cons firstSolid nextSolid, inductionHypothesis,
              words_cons_cons firstSolid nextSolid]
            rcases read : words (next :: text) with _ | ⟨word, others⟩
            · exact absurd read (words_ne_nil nextSolid text)
            · rfl

theorem words_append_blank {blank : Char} (isBlankThere : isBlank blank = true)
    (text : List Char) : words (text ++ [blank]) = words text := by
  rw [words_append_break isBlankThere]
  exact List.append_nil _

theorem words_of_solid (nonempty : word ≠ []) (solid : Solid word) : words word = [word] := by
  have read := (words_append nonempty solid rfl [] : words (word ++ [' ']) = [word])
  rwa [words_append_blank rfl] at read

theorem words_withoutReturn (line : List Char) : words (withoutReturn line) = words line := by
  rcases withoutReturn_eq_or line with same | shorter
  · rw [← same]
  · calc
      words (withoutReturn line) = words (withoutReturn line ++ ['\r']) :=
        (words_append_blank rfl _).symm
      _ = words line := congrArg words shorter.symm

theorem solid_of_mem_words : ∀ word ∈ words text, Solid word := by
  induction text with
  | nil => exact fun _ member => nomatch member
  | cons first rest inductionHypothesis =>
      by_cases firstBlank : isBlank first = true
      · rw [words_cons_blank firstBlank]
        exact inductionHypothesis
      have firstSolid : isBlank first = false := by simpa using firstBlank
      have alone : Solid [first] := solid_cons.mpr ⟨firstSolid, fun _ member => nomatch member⟩
      cases rest with
      | nil =>
          rw [words_single firstSolid]
          simpa using alone
      | cons next rest =>
          by_cases nextBlank : isBlank next = true
          · rw [words_cons_cons_blank firstSolid nextBlank]
            exact List.forall_mem_cons.mpr ⟨alone, inductionHypothesis⟩
          · rw [words_cons_cons firstSolid (by simpa using nextBlank)]
            split
            · simpa using alone
            · rename_i read
              rw [read] at inductionHypothesis
              obtain ⟨wordSolid, othersSolid⟩ := List.forall_mem_cons.mp inductionHypothesis
              exact List.forall_mem_cons.mpr
                ⟨solid_cons.mpr ⟨firstSolid, wordSolid⟩, othersSolid⟩

end Words

end Text
end ClusterAgent
