import ClusterAgent.Text.Blank
import ClusterAgent.Text.Lines
import Mathlib.Data.List.Basic
import Mathlib.Data.List.Induction
namespace ClusterAgent
namespace Text

/-! ## Lines of a written text -/

/-- The line without the carriage return at its end, if there is one. -/
def withoutReturn : List Char → List Char
  | [] => []
  | ['\r'] => []
  | character :: rest => character :: withoutReturn rest

theorem withoutReturn_cons {character : Char} {rest : List Char}
    (notReturn : ¬(character = '\r' ∧ rest = [])) :
    withoutReturn (character :: rest) = character :: withoutReturn rest := by
  rw [withoutReturn]
  rintro rfl rfl
  exact notReturn ⟨rfl, rfl⟩

/-- Only a carriage return may be missing, and it is the last character. -/
theorem withoutReturn_eq_or (line : List Char) :
    line = withoutReturn line ∨ line = withoutReturn line ++ ['\r'] := by
  induction line with
  | nil => exact Or.inl rfl
  | cons character rest inductionHypothesis =>
      by_cases last : character = '\r' ∧ rest = []
      · obtain ⟨rfl, rfl⟩ := last
        exact Or.inr rfl
      · rw [withoutReturn_cons last, List.cons_append]
        exact inductionHypothesis.imp (congrArg _) (congrArg _)

theorem withoutReturn_eq_self {line : List Char} (last : line.getLast? ≠ some '\r') :
    withoutReturn line = line := by
  rcases withoutReturn_eq_or line with same | shorter
  · exact same.symm
  · rw [shorter, List.getLast?_concat] at last
    exact absurd rfl last

theorem map_withoutReturn_eq_self {items : List (List Char)}
    (noReturn : ∀ line ∈ items, '\r' ∉ line) : items.map withoutReturn = items := by
  refine (List.map_congr_left fun line member => ?_).trans (List.map_id' items)
  exact withoutReturn_eq_self fun last =>
    noReturn line member (List.mem_of_getLast? last)

/-- A character that ends no line belongs to the line that follows it. -/
theorem lines_cons {character next : Char} {rest line : List Char} {others : List (List Char)}
    (notFeed : character ≠ '\n') (notReturn : character = '\r' → next ≠ '\n')
    (read : lines (next :: rest) = line :: others) :
    lines (character :: next :: rest) = (character :: line) :: others := by
  refine lines.eq_4 character line others next rest notFeed ?_ read
  rintro later isReturn startsWithFeed
  cases startsWithFeed
  exact notReturn isReturn rfl

/-- A line is read up to its line feed. -/
theorem lines_append_feed {line : List Char} (noFeed : '\n' ∉ line) (rest : List Char) :
    lines (line ++ '\n' :: rest) = withoutReturn line :: lines rest := by
  -- A carriage return is part of the line unless it is the last character before the feed.
  induction line with
  | nil => rfl
  | cons character line inductionHypothesis =>
      have notFeed := List.ne_of_not_mem_cons noFeed
      have noFeedLater := List.not_mem_of_not_mem_cons noFeed
      by_cases last : character = '\r' ∧ line = []
      · obtain ⟨rfl, rfl⟩ := last
        rfl
      · rw [withoutReturn_cons last]
        have read := inductionHypothesis noFeedLater
        cases line with
        | nil => exact lines_cons notFeed.symm (fun isReturn => absurd ⟨isReturn, rfl⟩ last) read
        | cons next line =>
            exact lines_cons notFeed.symm
              (fun _ => (List.ne_of_not_mem_cons noFeedLater).symm) read

/-- Lines that were written are read again, each without a carriage return at its end. -/
theorem lines_unlines {items : List (List Char)} (noFeed : ∀ line ∈ items, '\n' ∉ line) :
    lines (unlines items) = items.map withoutReturn := by
  induction items with
  | nil => rfl
  | cons line items inductionHypothesis =>
      have whole : unlines (line :: items) = line ++ '\n' :: unlines items := by
        rw [unlines, List.flatMap_cons, List.append_assoc]
        rfl
      rw [whole, lines_append_feed (noFeed line List.mem_cons_self), List.map_cons,
        inductionHypothesis fun other member => noFeed other (List.mem_cons_of_mem line member)]

theorem feed_not_mem_lines (text : List Char) : ∀ line ∈ lines text, '\n' ∉ line := by
  fun_induction lines text with
  | case1 => simp
  | case2 rest inductionHypothesis => simpa using inductionHypothesis
  | case3 rest inductionHypothesis => simpa using inductionHypothesis
  | case4 character notFeed line others _ _ _ read inductionHypothesis =>
      simp only [read] at inductionHypothesis ⊢
      intro other member
      rcases List.mem_cons.mp member with rfl | member
      · exact List.not_mem_cons_of_ne_of_not_mem (Ne.symm notFeed)
          (inductionHypothesis line List.mem_cons_self)
      · exact inductionHypothesis other (List.mem_cons_of_mem line member)
  | case5 character rest notFeed => simpa using Ne.symm notFeed

/-- A line has only characters of the text. -/
theorem mem_of_mem_lines {character : Char} {line : List Char} (text : List Char)
    (lineMember : line ∈ lines text) (member : character ∈ line) : character ∈ text := by
  fun_induction lines text generalizing line with
  | case1 => cases lineMember
  | case2 rest inductionHypothesis =>
      rcases List.mem_cons.mp lineMember with rfl | later
      · cases member
      · exact List.mem_cons_of_mem _ (inductionHypothesis later member)
  | case3 rest inductionHypothesis =>
      rcases List.mem_cons.mp lineMember with rfl | later
      · cases member
      · exact List.mem_cons_of_mem _ (List.mem_cons_of_mem _ (inductionHypothesis later member))
  | case4 first notFeed front others next rest _ read inductionHypothesis =>
      simp only [read] at inductionHypothesis lineMember
      rcases List.mem_cons.mp lineMember with rfl | later
      · rcases List.mem_cons.mp member with rfl | inFront
        · exact List.mem_cons_self
        · exact List.mem_cons_of_mem _ (inductionHypothesis List.mem_cons_self inFront)
      · exact List.mem_cons_of_mem _
          (inductionHypothesis (List.mem_cons_of_mem front later) member)
  | case5 first rest notFeed _ unread =>
      split at lineMember
      · rename_i read
        exact (unread _ _ _ _ read rfl).elim
      · rw [List.mem_singleton.mp lineMember] at member
        rw [List.mem_singleton.mp member]
        exact List.mem_cons_self

/-! ## Blanks at the end of a line -/

theorem trimStart_append_blank {blank : Char} (isBlank : isBlank blank = true)
    (text : List Char) :
    trimStart (text ++ [blank]) =
      if (trimStart text).isEmpty then [] else trimStart text ++ [blank] := by
  rw [trimStart, trimStart, List.dropWhile_append, List.dropWhile_cons_of_pos isBlank,
    List.dropWhile_nil]

theorem trim_append_blank {blank : Char} (isBlank : isBlank blank = true) (text : List Char) :
    trim (text ++ [blank]) = trim text := by
  rw [trim, trimStart_append_blank isBlank, trim]
  split
  · rename_i empty
    rw [List.isEmpty_iff.mp empty]
  · simp only [trimEnd, List.reverse_append, List.reverse_singleton, List.singleton_append,
      List.dropWhile_cons, isBlank, if_true]

theorem trim_append_blanks {back : List Char} (blank : ∀ character ∈ back, isBlank character = true)
    (text : List Char) : trim (text ++ back) = trim text := by
  induction back using List.reverseRecOn with
  | nil => rw [List.append_nil]
  | append_singleton back last inductionHypothesis =>
      rw [List.forall_mem_append] at blank
      rw [← List.append_assoc, trim_append_blank (blank.2 last List.mem_cons_self),
        inductionHypothesis blank.1]

theorem trim_surrounded {front back : List Char}
    (blankFront : ∀ character ∈ front, isBlank character = true)
    (blankBack : ∀ character ∈ back, isBlank character = true) (text : List Char) :
    trim (front ++ text ++ back) = trim text := by
  rw [trim_append_blanks blankBack, trim, trimStart, List.dropWhile_append_of_pos blankFront]
  rfl

theorem trim_withoutReturn (line : List Char) : trim (withoutReturn line) = trim line := by
  rcases withoutReturn_eq_or line with same | shorter
  · rw [← same]
  · calc
      trim (withoutReturn line) = trim (withoutReturn line ++ ['\r']) :=
        (trim_append_blank rfl _).symm
      _ = trim line := congrArg trim shorter.symm

theorem isBlank_of_isDigit {character : Char} (digit : character.isDigit = true) :
    isBlank character = false := by
  have bounds : 48 ≤ character.toNat ∧ character.toNat ≤ 57 := by
    simpa [Char.isDigit, UInt32.le_iff_toNat_le] using digit
  simp only [isBlank, Bool.or_eq_false_iff, Bool.and_eq_false_iff, decide_eq_false_iff_not,
    beq_eq_false_iff_ne]
  omega

/-! ## Texts without blanks around them -/

/-- The text neither begins nor ends with a blank. -/
structure Trimmed (text : List Char) : Prop where
  first : ∀ character ∈ text.head?, isBlank character = false
  last : ∀ character ∈ text.getLast?, isBlank character = false

theorem not_isBlank_head?_dropWhile (text : List Char) :
    ∀ character ∈ (text.dropWhile isBlank).head?, isBlank character = false := by
  intro character isFirst
  have first := List.head?_dropWhile_not isBlank text
  rw [Option.mem_def.mp isFirst] at first
  exact first

theorem dropWhile_eq_self_of_head? {text : List Char}
    (first : ∀ character ∈ text.head?, isBlank character = false) :
    text.dropWhile isBlank = text := by
  cases text with
  | nil => rfl
  | cons character rest =>
      rw [List.dropWhile_cons_of_neg]
      simpa using first character rfl

theorem trimEnd_eq_self {text : List Char}
    (last : ∀ character ∈ text.getLast?, isBlank character = false) : trimEnd text = text := by
  have reversed : ∀ character ∈ text.reverse.head?, isBlank character = false := by
    rw [List.head?_reverse]
    exact last
  rw [trimEnd, dropWhile_eq_self_of_head? reversed, List.reverse_reverse]

theorem Trimmed.trim {text : List Char} (trimmed : Trimmed text) : trim text = text := by
  rw [Text.trim, trimStart, dropWhile_eq_self_of_head? trimmed.first,
    trimEnd_eq_self trimmed.last]

/-- What is dropped at the end of a text leaves a front of it. -/
theorem trimEnd_isFront (text : List Char) : trimEnd text <+: text := by
  have suffix : text.reverse.dropWhile isBlank <:+ text.reverse := List.dropWhile_suffix _
  have reversed := List.reverse_prefix.mpr suffix
  rwa [List.reverse_reverse] at reversed

/-- A text that was trimmed is not trimmed any further. -/
theorem trimmed_trim (text : List Char) : Trimmed (trim text) := by
  constructor
  · intro character isFirst
    have isFirstTrimmed : (trimEnd (trimStart text)).head? = some character := isFirst
    have isFirstBefore : (trimStart text).head? = some character := by
      obtain ⟨rest, whole⟩ := trimEnd_isFront (trimStart text)
      rw [← whole, List.head?_append, isFirstTrimmed]
      rfl
    exact not_isBlank_head?_dropWhile text character isFirstBefore
  · rw [Text.trim, trimEnd, List.getLast?_reverse]
    exact not_isBlank_head?_dropWhile _

theorem mem_of_mem_trim {text : List Char} {character : Char} (member : character ∈ trim text) :
    character ∈ text :=
  (List.dropWhile_suffix _).subset ((trimEnd_isFront _).subset member)

theorem trimmed_of_noBlank {text : List Char}
    (noBlank : ∀ character ∈ text, isBlank character = false) : Trimmed text :=
  ⟨fun character isFirst => noBlank character (List.mem_of_mem_head? isFirst),
    fun character isLast => noBlank character (List.mem_of_mem_getLast? isLast)⟩

theorem trim_eq_self {text : List Char}
    (noBlank : ∀ character ∈ text, isBlank character = false) : trim text = text :=
  (trimmed_of_noBlank noBlank).trim

/-! ## Trimming around a mark -/

theorem trimEnd_append_mark {mark : Char} (notBlank : isBlank mark = false)
    (front back : List Char) :
    trimEnd (front ++ mark :: back) = front ++ mark :: trimEnd back := by
  have reversed : (front ++ mark :: back).reverse = back.reverse ++ mark :: front.reverse := by
    simp
  have kept : (mark :: front.reverse).dropWhile isBlank = mark :: front.reverse := by
    rw [List.dropWhile_cons_of_neg]
    simpa using notBlank
  rw [trimEnd, trimEnd, reversed, List.dropWhile_append, kept]
  split
  · rename_i empty
    rw [List.isEmpty_iff.mp empty]
    simp
  · simp

/-- Only what stands behind the mark is trimmed. -/
theorem trim_append_mark {mark : Char} {front : List Char} (notBlank : isBlank mark = false)
    (startsPlain : ∀ first ∈ front.head?, isBlank first = false) (back : List Char) :
    trim (front ++ mark :: back) = front ++ mark :: trimEnd back := by
  have started : trimStart (front ++ mark :: back) = front ++ mark :: back := by
    rw [trimStart]
    cases front with
    | nil => rw [List.nil_append, List.dropWhile_cons_of_neg (by simpa using notBlank)]
    | cons first front =>
        have plain := startsPlain first rfl
        rw [List.cons_append, List.dropWhile_cons_of_neg (by simpa using plain)]
  rw [trim, started, trimEnd_append_mark notBlank]

/-! ## Splitting at a separator -/

theorem splitOnce_eq_none {separator : Char} {text : List Char} (absent : separator ∉ text) :
    splitOnce separator text = none := by
  induction text with
  | nil => rfl
  | cons character rest inductionHypothesis =>
      have different := List.ne_of_not_mem_cons absent
      have absentLater := List.not_mem_of_not_mem_cons absent
      rw [splitOnce, if_neg (Ne.symm different), inductionHypothesis absentLater, Option.map_none]

theorem splitOnce_append {separator : Char} {front : List Char} (absent : separator ∉ front)
    (rest : List Char) : splitOnce separator (front ++ separator :: rest) = some (front, rest) := by
  induction front with
  | nil => rw [List.nil_append, splitOnce, if_pos rfl]
  | cons character front inductionHypothesis =>
      have different := List.ne_of_not_mem_cons absent
      have absentLater := List.not_mem_of_not_mem_cons absent
      rw [List.cons_append, splitOnce, if_neg (Ne.symm different),
        inductionHypothesis absentLater, Option.map_some]

theorem splitOnce_eq_some {separator : Char} {text front rest : List Char}
    (split : splitOnce separator text = some (front, rest)) :
    text = front ++ separator :: rest := by
  induction text generalizing front with
  | nil => cases split
  | cons character text inductionHypothesis =>
      rw [splitOnce] at split
      by_cases here : character = separator
      · rw [if_pos here] at split
        cases split
        rw [here, List.nil_append]
      · rw [if_neg here] at split
        obtain ⟨parts, later, same⟩ := Option.map_eq_some_iff.mp split
        cases same
        rw [List.cons_append, ← inductionHypothesis later]

/-- A part of a text has only characters of the text, and no separator among them. -/
theorem mem_splitOn {separator : Char} {text : List Char} :
    ∀ part ∈ text.splitOn separator, ∀ character ∈ part,
      character ∈ text ∧ character ≠ separator := by
  induction text with
  | nil => simp
  | cons first rest inductionHypothesis =>
      rw [List.splitOn_cons_eq_if_modifyHead]
      intro part partMember character member
      by_cases isSeparator : first = separator
      · rw [if_pos (by simpa using isSeparator)] at partMember
        rcases List.mem_cons.mp partMember with rfl | later
        · cases member
        · have inner := inductionHypothesis part later character member
          exact ⟨List.mem_cons_of_mem first inner.1, inner.2⟩
      · rw [if_neg (by simpa using isSeparator)] at partMember
        rcases shape : rest.splitOn separator with _ | ⟨head, others⟩
        · exact absurd shape (List.splitOn_ne_nil _ _)
        rw [shape] at partMember inductionHypothesis
        rcases List.mem_cons.mp partMember with rfl | later
        · rcases List.mem_cons.mp member with rfl | inHead
          · exact ⟨List.mem_cons_self, isSeparator⟩
          · have inner := inductionHypothesis head (by simp) character inHead
            exact ⟨List.mem_cons_of_mem first inner.1, inner.2⟩
        · have inner := inductionHypothesis part (by simp [later]) character member
          exact ⟨List.mem_cons_of_mem first inner.1, inner.2⟩

/-! ## Splitting at the first occurrence of a text -/

section Occurrences

variable {pattern text front rest : List Char}

theorem isPrefixOf?_eq_none (apart : ¬pattern <+: text) : pattern.isPrefixOf? text = none := by
  rcases found : pattern.isPrefixOf? text with _ | rest
  · rfl
  · exact absurd ⟨rest, List.isPrefixOf?_eq_some_iff_append_eq.mp found⟩ apart

theorem splitAtText_here (pattern rest : List Char) :
    splitAtText pattern (pattern ++ rest) = some ([], rest) := by
  have found : pattern.isPrefixOf? (pattern ++ rest) = some rest :=
    List.isPrefixOf?_eq_some_iff_append_eq.mpr rfl
  cases whole : pattern ++ rest with
  | nil =>
      obtain ⟨rfl, rfl⟩ := List.append_eq_nil_iff.mp whole
      rfl
  | cons first others =>
      rw [whole] at found
      rw [splitAtText, found]

theorem splitAtText_later {first : Char} (notHere : ¬pattern <+: first :: text) :
    splitAtText pattern (first :: text) =
      (splitAtText pattern text).map fun parts => (first :: parts.1, parts.2) := by
  rw [splitAtText, isPrefixOf?_eq_none notHere]

theorem splitAtText_eq_some (split : splitAtText pattern text = some (front, rest)) :
    text = front ++ pattern ++ rest := by
  induction text generalizing front with
  | nil =>
      rw [splitAtText] at split
      split at split
      · rename_i empty
        cases split
        rw [List.isEmpty_iff.mp empty]
        rfl
      · cases split
  | cons first text inductionHypothesis =>
      by_cases here : pattern <+: first :: text
      · obtain ⟨after, whole⟩ := here
        rw [← whole, splitAtText_here] at split
        cases split
        rw [← whole, List.nil_append]
      · rw [splitAtText_later here] at split
        obtain ⟨parts, later, same⟩ := Option.map_eq_some_iff.mp split
        cases same
        rw [inductionHypothesis later]
        rfl

/-- What is found in the front of a text is found first in all of it. -/
theorem splitAtText_append (split : splitAtText pattern text = some (front, rest))
    (more : List Char) : splitAtText pattern (text ++ more) = some (front, rest ++ more) := by
  induction text generalizing front with
  | nil =>
      obtain ⟨shorter, rfl⟩ := List.append_eq_nil_iff.mp (splitAtText_eq_some split).symm
      obtain ⟨rfl, rfl⟩ := List.append_eq_nil_iff.mp shorter
      exact splitAtText_here [] more
  | cons first text inductionHypothesis =>
      by_cases here : pattern <+: first :: text
      · obtain ⟨after, whole⟩ := here
        rw [← whole, splitAtText_here] at split
        cases split
        rw [← whole, List.append_assoc]
        exact splitAtText_here pattern (rest ++ more)
      · rw [splitAtText_later here] at split
        obtain ⟨parts, later, same⟩ := Option.map_eq_some_iff.mp split
        cases same
        -- The rest of the text holds the pattern, which therefore does not reach beyond it.
        have fits : pattern.length ≤ (first :: text).length := by
          have whole := congrArg List.length (splitAtText_eq_some later)
          simp only [List.length_append, List.length_cons] at whole ⊢
          omega
        have stillNotHere : ¬pattern <+: first :: (text ++ more) := fun isFront =>
          here (List.prefix_of_prefix_length_le isFront (List.prefix_append _ more) fits)
        rw [List.cons_append, splitAtText_later stillNotHere, inductionHypothesis later,
          Option.map_some]

theorem splitAtText_ne_none (front rest : List Char) :
    splitAtText pattern (front ++ (pattern ++ rest)) ≠ none := by
  induction front with
  | nil => simp [splitAtText_here]
  | cons first front inductionHypothesis =>
      by_cases here : pattern <+: first :: (front ++ (pattern ++ rest))
      · obtain ⟨after, whole⟩ := here
        simp [← whole, splitAtText_here]
      · rw [List.cons_append, splitAtText_later here]
        simpa using inductionHypothesis

/-- Where a pattern is found first does not depend on what follows it. -/
theorem splitAtText_behind (split : splitAtText pattern text = some (front, rest))
    (other : List Char) :
    splitAtText pattern (front ++ (pattern ++ other)) = some (front, other) := by
  have whole := splitAtText_eq_some split
  rcases found : splitAtText pattern (front ++ (pattern ++ [])) with _ | ⟨earlier, left⟩
  · exact absurd found (splitAtText_ne_none front [])
  have foundThere := splitAtText_append found
  simp only [List.append_nil, List.append_assoc] at foundThere whole
  rw [whole, foundThere rest] at split
  obtain ⟨rfl, same⟩ := Prod.mk.inj (Option.some.inj split)
  rw [foundThere other, List.append_left_eq_self.mp same]
  rfl

/-- A text that ends before a character foreign to the pattern has all of what starts in it. -/
theorem prefix_of_foreign {foreign : Char} (notInside : foreign ∉ pattern)
    (isFront : pattern <+: front ++ foreign :: rest) : pattern <+: front := by
  obtain ⟨more, whole⟩ := isFront
  rcases List.append_eq_append_iff.mp whole with ⟨others, isFront, _⟩ | ⟨others, longer, after⟩
  · exact ⟨others, isFront.symm⟩
  · cases others with
    | nil => exact ⟨[], by simpa using longer⟩
    | cons next others =>
        obtain ⟨rfl, _⟩ := List.cons.inj after
        exact absurd (by simp [longer]) notInside

/-- A word that a pattern cannot start in. -/
theorem splitAtText_skip {first : Char} {others word : List Char} (noStart : first ∉ word)
    (rest : List Char) :
    splitAtText (first :: others) (word ++ rest) =
      (splitAtText (first :: others) rest).map fun parts => (word ++ parts.1, parts.2) := by
  induction word with
  | nil => simp
  | cons next word inductionHypothesis =>
      have different := List.ne_of_not_mem_cons noStart
      have noStartLater := List.not_mem_of_not_mem_cons noStart
      have notHere : ¬first :: others <+: next :: (word ++ rest) := fun isFront =>
        different (List.cons_prefix_cons.mp isFront).1
      rw [List.cons_append, splitAtText_later notHere, inductionHypothesis noStartLater,
        Option.map_map]
      rfl

/-- A pattern that is not in the front of a text and cannot touch the word behind it is first
found behind the word. -/
theorem splitAtText_barred {first foreign : Char} {others word : List Char}
    (absent : splitAtText (first :: others) front = none)
    (notInside : foreign ∉ first :: others) (noStart : first ∉ foreign :: word)
    (rest : List Char) :
    splitAtText (first :: others) (front ++ (foreign :: word ++ rest)) =
      (splitAtText (first :: others) rest).map fun parts =>
        (front ++ (foreign :: word ++ parts.1), parts.2) := by
  induction front with
  | nil => exact splitAtText_skip noStart rest
  | cons next front inductionHypothesis =>
      have notHere : ¬first :: others <+: next :: front := by
        rintro ⟨after, whole⟩
        rw [← whole, splitAtText_here] at absent
        cases absent
      have stillNotHere : ¬first :: others <+: next :: (front ++ (foreign :: word ++ rest)) := by
        intro isFront
        have reaches : first :: others <+: (next :: front) ++ foreign :: (word ++ rest) := isFront
        exact notHere (prefix_of_foreign notInside reaches)
      rw [splitAtText_later notHere] at absent
      rw [List.cons_append, splitAtText_later stillNotHere,
        inductionHypothesis (Option.map_eq_none_iff.mp absent), Option.map_map]
      rfl

end Occurrences

end Text
end ClusterAgent
