import ClusterAgent.Proofs.Net.Endpoints
import ClusterAgent.Proofs.Node.Flags
namespace ClusterAgent

open Text

namespace Endpoints

/-! ## The last word of a line with endpoints -/

/-- The endpoints behind the last blank, those in `front` among them if no blank follows. -/
def behind (front : List Endpoint) : List (List Char × Endpoint) → List Endpoint
  | [] => front
  | (blanks, endpoint) :: rest =>
      behind (if blanks.isEmpty then front ++ [endpoint] else [endpoint]) rest

/-- The word that begins with `front` if no blank follows, and the word behind the last blank
otherwise. -/
def lastWord (front : List Char) : List (List Char × Endpoint) → List Char
  | [] => front
  | (blanks, endpoint) :: rest =>
      lastWord (if blanks.isEmpty then front ++ ',' :: endpoint.text else endpoint.text) rest

namespace Listing

/-- No blank stands between the endpoints. -/
def Unbroken (listing : Listing) : Prop :=
  ∀ item ∈ listing.others, item.1 = []

/-- The endpoints behind the last blank of the list. -/
def lastRun (listing : Listing) : List Endpoint :=
  behind [listing.first] listing.others

instance (listing : Listing) : Decidable listing.Unbroken :=
  inferInstanceAs (Decidable (∀ item ∈ listing.others, item.1 = []))

end Listing

section LastWords

variable {others : List (List Char × Endpoint)} {front : List Char}

/-- What the items behind the first endpoint add to the text of a list. -/
def tailText (others : List (List Char × Endpoint)) : List Char :=
  others.flatMap fun item => ',' :: (item.1 ++ item.2.text)

theorem words_blanks_append {blanks : List Char} (blank : blanks.all isBlank = true)
    (text : List Char) : words (blanks ++ text) = words text := by
  induction blanks with
  | nil => rfl
  | cons character blanks inductionHypothesis =>
      obtain ⟨isBlank, blankLater⟩ := Bool.and_eq_true_iff.mp blank
      rw [List.cons_append, words_cons_blank isBlank, inductionHypothesis blankLater]

theorem getLast?_words (solid : Solid front) (nonempty : front ≠ [])
    (fits : ∀ item ∈ others, item.1.all isBlank = true ∧ item.2.WellFormed) :
    (words (front ++ tailText others)).getLast? = some (lastWord front others) := by
  -- The word in front grows item by item until a blank ends it; the next one starts anew.
  induction others generalizing front with
  | nil =>
      rw [tailText, List.flatMap_nil, List.append_nil, words_of_solid nonempty solid]
      rfl
  | cons item rest inductionHypothesis =>
      obtain ⟨blanks, endpoint⟩ := item
      obtain ⟨⟨blank, wellFormed⟩, restFits⟩ := List.forall_mem_cons.mp fits
      have textSolid := solid_text wellFormed
      cases blanks with
      | nil =>
          have longer : Solid (front ++ ',' :: endpoint.text) :=
            solid_append.mpr ⟨solid, solid_cons.mpr ⟨rfl, textSolid⟩⟩
          have read := inductionHypothesis longer (by simp) restFits
          rw [tailText, List.flatMap_cons, ← tailText, List.nil_append, ← List.append_assoc]
          exact read
      | cons character blanks =>
          obtain ⟨isBlank, blankLater⟩ := Bool.and_eq_true_iff.mp blank
          have read := inductionHypothesis textSolid (text_ne_nil wellFormed) restFits
          have whole : front ++ tailText ((character :: blanks, endpoint) :: rest) =
              (front ++ [',']) ++ character :: (blanks ++ (endpoint.text ++ tailText rest)) := by
            simp [tailText]
          rw [whole, words_append_break isBlank, List.getLast?_append,
            words_blanks_append blankLater, read]
          rfl

/-- Where no blank follows, the word goes on to the end of the text. -/
theorem lastWord_unbroken (unbroken : ∀ item ∈ others, item.1 = []) (front : List Char) :
    lastWord front others = front ++ tailText others := by
  induction others generalizing front with
  | nil => exact (List.append_nil front).symm
  | cons item rest inductionHypothesis =>
      obtain ⟨blanks, endpoint⟩ := item
      obtain ⟨rfl, restUnbroken⟩ := List.forall_mem_cons.mp unbroken
      have later := inductionHypothesis restUnbroken (front ++ ',' :: endpoint.text)
      rw [lastWord, if_pos List.isEmpty_nil, later, tailText, tailText, List.flatMap_cons,
        List.append_assoc]
      rfl

/-- Where a blank follows, nothing is left of what stood before. -/
theorem lastWord_broken (broken : ∃ item ∈ others, item.1 ≠ []) (front other : List Char) :
    lastWord front others = lastWord other others := by
  induction others generalizing front other with
  | nil => simp at broken
  | cons item rest inductionHypothesis =>
      obtain ⟨blanks, endpoint⟩ := item
      rw [lastWord, lastWord]
      by_cases here : blanks.isEmpty = true
      · have later : ∃ item ∈ rest, item.1 ≠ [] := by
          simpa [List.isEmpty_iff.mp here] using broken
        rw [if_pos here, if_pos here]
        exact inductionHypothesis later _ _
      · rw [if_neg here, if_neg here]

theorem lastWord_textOf {front : List Endpoint} (nonempty : front ≠ []) :
    lastWord (textOf front) others = textOf (behind front others) := by
  induction others generalizing front with
  | nil => rfl
  | cons item rest inductionHypothesis =>
      obtain ⟨blanks, endpoint⟩ := item
      rw [lastWord, behind]
      by_cases here : blanks.isEmpty = true
      · rw [if_pos here, if_pos here, ← textOf_concat nonempty]
        exact inductionHypothesis (by simp)
      · rw [if_neg here, if_neg here, ← textOf_single endpoint]
        exact inductionHypothesis (List.cons_ne_nil _ _)

theorem behind_ne_nil {front : List Endpoint} (nonempty : front ≠ []) :
    behind front others ≠ [] := by
  induction others generalizing front with
  | nil => exact nonempty
  | cons item rest inductionHypothesis =>
      rw [behind]
      apply inductionHypothesis
      split
      · simp
      · simp

theorem mem_of_mem_behind {front : List Endpoint} {endpoint : Endpoint}
    (member : endpoint ∈ behind front others) :
    endpoint ∈ front ∨ endpoint ∈ others.map Prod.snd := by
  induction others generalizing front with
  | nil => exact Or.inl member
  | cons item rest inductionHypothesis =>
      obtain ⟨blanks, next⟩ := item
      rw [behind] at member
      rw [List.map_cons, List.mem_cons]
      rcases inductionHypothesis member with inFront | inRest
      · split at inFront
        · rcases List.mem_append.mp inFront with inFront | isNext
          · exact Or.inl inFront
          · exact Or.inr (Or.inl (List.mem_singleton.mp isNext))
        · exact Or.inr (Or.inl (List.mem_singleton.mp inFront))
      · exact Or.inr (Or.inr inRest)

end LastWords

/-! ## What a reader of the flag is given -/

/-- What stands behind the first equals sign, or all of a text without one. -/
def behindSign (text : List Char) : List Char :=
  match splitOnce '=' text with
  | some (_, rest) => rest
  | none => text

namespace Listing

/-- What of a list is the value of the flag that it stands behind. -/
def seen (separator : Char) (listing : Listing) : List Char :=
  if listing.Unbroken ∧ separator = '=' then listing.text else behindSign (textOf listing.lastRun)

/-- Nothing of the list is lost. -/
def Whole (separator : Char) (listing : Listing) : Prop :=
  listing.Unbroken ∧ (separator = '=' ∨ '=' ∉ listing.text)

end Listing

section Seen

variable {listing : Listing} {separator : Char} {flag : List Char}

theorem text_eq (listing : Listing) :
    listing.text = listing.first.text ++ tailText listing.others := by
  rw [Listing.text, intercalate_cons, List.flatMap_map, tailText]

theorem listing_ne_nil (wellFormed : listing.WellFormed) : listing.text ≠ [] := by
  rw [text_eq]
  exact List.append_ne_nil_of_left_ne_nil (text_ne_nil wellFormed.first) _

theorem lastWord_first (listing : Listing) :
    lastWord listing.first.text listing.others = textOf listing.lastRun := by
  rw [← textOf_single, lastWord_textOf (List.cons_ne_nil _ _), Listing.lastRun]

theorem textOf_lastRun (unbroken : listing.Unbroken) :
    textOf listing.lastRun = listing.text := by
  rw [← lastWord_first, lastWord_unbroken unbroken, text_eq]

theorem lastRun_subset (listing : Listing) : listing.lastRun ⊆ listing.endpoints := by
  intro endpoint member
  rw [Listing.endpoints, List.mem_cons]
  exact (mem_of_mem_behind member).imp_left List.mem_singleton.mp

theorem text_subset {endpoint : Endpoint} (isListed : endpoint ∈ listing.endpoints) :
    endpoint.text ⊆ listing.text := by
  rw [text_eq]
  rcases List.mem_cons.mp isListed with rfl | isOther
  · exact List.subset_append_left _ _
  · obtain ⟨item, member, rfl⟩ := List.mem_map.mp isOther
    intro character inText
    refine List.mem_append_right _ (List.mem_flatMap.mpr ⟨item, member, ?_⟩)
    exact List.mem_cons_of_mem _ (List.mem_append_right _ inText)

theorem solid_behindSign {text : List Char} (solid : Solid text) : Solid (behindSign text) := by
  rw [behindSign]
  split
  · rename_i parted
    exact Flags.solid_of_splitOnce solid parted
  · exact solid

/-- A text is left as it is only if it has no equals sign. -/
theorem behindSign_eq_self {text : List Char} : behindSign text = text ↔ '=' ∉ text := by
  rw [behindSign]
  constructor
  · intro same member
    rcases parted : splitOnce '=' text with _ | ⟨front, rest⟩
    · obtain ⟨front, rest, whole, absent⟩ := List.eq_append_cons_of_mem member
      rw [whole, splitOnce_append absent] at parted
      cases parted
    · have whole := splitOnce_eq_some parted
      rw [parted] at same
      dsimp only at same
      have longer := congrArg List.length whole
      rw [List.length_append, List.length_cons, same] at longer
      omega
  · intro absent
    rw [splitOnce_eq_none absent]

theorem not_solid_of_broken (wellFormed : listing.WellFormed) (broken : ¬listing.Unbroken) :
    ¬Solid listing.text := by
  intro solid
  refine broken fun item isOther => ?_
  obtain ⟨blank, _⟩ := wellFormed.others item isOther
  rcases shape : item.1 with _ | ⟨character, blanks⟩
  · rfl
  · have inItem : character ∈ item.1 := by simp [shape]
    have inText : character ∈ listing.text := by
      rw [text_eq]
      refine List.mem_append_right _ (List.mem_flatMap.mpr ⟨item, isOther, ?_⟩)
      exact List.mem_cons_of_mem _ (List.mem_append_left _ inItem)
    have notBlank := solid character inText
    rw [List.all_eq_true.mp blank character inItem] at notBlank
    cases notBlank

theorem wellFormed_lastRun (wellFormed : listing.WellFormed) :
    ∀ endpoint ∈ listing.lastRun, endpoint.WellFormed :=
  fun endpoint member => wellFormed.endpoints endpoint (lastRun_subset listing member)

theorem lastRun_ne_nil (listing : Listing) : listing.lastRun ≠ [] :=
  behind_ne_nil (List.cons_ne_nil _ _)

/-- The whole list is seen exactly when it is unbroken and its equals signs, if there are any,
stand behind the one that ends the flag. -/
theorem seen_eq_text (wellFormed : listing.WellFormed) :
    listing.seen separator = listing.text ↔ listing.Whole separator := by
  rw [Listing.seen, Listing.Whole]
  by_cases unbroken : listing.Unbroken
  · by_cases sign : separator = '='
    · simp [unbroken, sign]
    · rw [if_neg (by simp [sign]), textOf_lastRun unbroken, behindSign_eq_self]
      simp [unbroken, sign]
  · rw [if_neg (by simp [unbroken])]
    refine iff_of_false (fun same => ?_) (by simp [unbroken])
    refine not_solid_of_broken wellFormed unbroken ?_
    rw [← same]
    exact solid_behindSign (solid_textOf (wellFormed_lastRun wellFormed))

/-- Without equals signs, what is seen of a list are the endpoints behind its last blank. -/
theorem seen_eq_textOf (noSign : '=' ∉ listing.text) :
    listing.seen separator = textOf listing.lastRun := by
  have noSignBehind : '=' ∉ textOf listing.lastRun := by
    intro member
    rcases mem_textOf member with isComma | ⟨endpoint, inRun, inText⟩
    · cases isComma
    · exact noSign (text_subset (lastRun_subset listing inRun) inText)
  rw [Listing.seen]
  by_cases straight : listing.Unbroken ∧ separator = '='
  · rw [if_pos straight, textOf_lastRun straight.1]
  · rw [if_neg straight, behindSign_eq_self.mpr noSignBehind]

theorem hosts_seen (wellFormed : listing.WellFormed) (noSign : '=' ∉ listing.text) :
    hosts (String.ofList (listing.seen separator)) = hostsOf listing.lastRun := by
  rw [seen_eq_textOf noSign, hosts_textOf (wellFormed_lastRun wellFormed)]

end Seen

/-! ## The flag on its line -/

section Line

variable {listing : Listing} {separator : Char} {flag : List Char}

theorem getLast?_tailText {others : List (List Char × Endpoint)} {front : List Char}
    (fits : ∀ item ∈ others, item.2.WellFormed) (nonempty : front ≠ [])
    (last : ∀ character ∈ front.getLast?, isBlank character = false) :
    ∀ character ∈ (front ++ tailText others).getLast?, isBlank character = false := by
  induction others generalizing front with
  | nil => rwa [tailText, List.flatMap_nil, List.append_nil]
  | cons item rest inductionHypothesis =>
      obtain ⟨wellFormed, restFits⟩ := List.forall_mem_cons.mp fits
      have whole : front ++ tailText (item :: rest) =
          (front ++ ',' :: (item.1 ++ item.2.text)) ++ tailText rest := by
        rw [tailText, List.flatMap_cons, ← tailText, List.append_assoc]
      have regroup : front ++ ',' :: (item.1 ++ item.2.text) =
          (front ++ ',' :: item.1) ++ item.2.text := by simp
      rw [whole]
      refine inductionHypothesis restFits (by simp) fun character isLast => ?_
      rw [regroup, List.getLast?_append_of_ne_nil _ (text_ne_nil wellFormed)] at isLast
      exact solid_text wellFormed character (List.mem_of_getLast? isLast)

theorem trimmed_line (isFlag : Flags.IsFlag flag) (wellFormed : listing.WellFormed)
    (separator : Char) : Trimmed (flag ++ separator :: listing.text) := by
  constructor
  · intro character isFirst
    rw [List.head?_append_of_ne_nil _ isFlag.nonempty] at isFirst
    exact isFlag.solid character (List.mem_of_mem_head? isFirst)
  · have whole : flag ++ separator :: listing.text =
        ((flag ++ [separator]) ++ listing.first.text) ++ tailText listing.others := by
      simp [text_eq]
    have firstNonempty := text_ne_nil wellFormed.first
    rw [whole]
    refine getLast?_tailText (fun item isOther => (wellFormed.others item isOther).2)
      (List.append_ne_nil_of_right_ne_nil _ firstNonempty) fun character isLast => ?_
    rw [List.getLast?_append_of_ne_nil _ firstNonempty] at isLast
    exact solid_text wellFormed.first character (List.mem_of_getLast? isLast)

/-- Behind an equals sign the list goes on with the word of the flag, and behind a space it has
words of its own. -/
theorem getLast?_line (isFlag : Flags.IsFlag flag) (wellFormed : listing.WellFormed)
    (separates : Flags.isNameEnd separator = true) :
    (words (flag ++ separator :: listing.text)).getLast? =
      some (if listing.Unbroken ∧ separator = '=' then flag ++ '=' :: listing.text
        else textOf listing.lastRun) := by
  have firstSolid := solid_text wellFormed.first
  have firstNonempty := text_ne_nil wellFormed.first
  by_cases sign : separator = '='
  · subst sign
    have whole : flag ++ '=' :: listing.text =
        (flag ++ '=' :: listing.first.text) ++ tailText listing.others := by
      simp [text_eq]
    have solid : Solid (flag ++ '=' :: listing.first.text) :=
      solid_append.mpr ⟨isFlag.solid, solid_cons.mpr ⟨rfl, firstSolid⟩⟩
    rw [whole, getLast?_words solid (by simp) wellFormed.others]
    by_cases unbroken : listing.Unbroken
    · rw [if_pos ⟨unbroken, rfl⟩, lastWord_unbroken unbroken]
    · have broken : ∃ item ∈ listing.others, item.1 ≠ [] := by
        simpa [Listing.Unbroken] using unbroken
      rw [if_neg fun straight => unbroken straight.1, lastWord_broken broken _ listing.first.text,
        lastWord_first]
  · have space : separator = ' ' := by simpa [Flags.isNameEnd, sign] using separates
    subst space
    have read := getLast?_words firstSolid firstNonempty wellFormed.others
    rw [words_append isFlag.nonempty isFlag.solid rfl, ← List.singleton_append,
      List.getLast?_append, text_eq, read, lastWord_first, if_neg (by simp)]
    rfl

/-- Endpoints with schemes are not taken for a flag. -/
theorem textOf_lastRun_ne (schemes : ∀ endpoint ∈ listing.endpoints, endpoint.scheme ≠ none)
    (noColon : ':' ∉ flag) : textOf listing.lastRun ≠ flag := by
  rintro rfl
  rcases run : listing.lastRun with _ | ⟨endpoint, rest⟩
  · exact lastRun_ne_nil listing run
  have isListed : endpoint ∈ listing.endpoints :=
    lastRun_subset listing (by rw [run]; exact List.mem_cons_self)
  obtain ⟨scheme, given⟩ := Option.ne_none_iff_exists'.mp (schemes endpoint isListed)
  refine noColon ?_
  rw [run, textOf_cons, Endpoint.text, Endpoint.schemeText, given]
  simp

theorem valueOn_listing (isFlag : Flags.IsFlag flag) (noColon : ':' ∉ flag)
    (wellFormed : listing.WellFormed)
    (schemes : ∀ endpoint ∈ listing.endpoints, endpoint.scheme ≠ none)
    (separates : Flags.isNameEnd separator = true) :
    Flags.valueOn flag (flag ++ separator :: listing.text) = some (listing.seen separator) := by
  rw [Flags.valueOn, if_pos (Flags.nameOf_append isFlag separates _),
    getLast?_line isFlag wellFormed separates, Option.map_some, Listing.seen]
  by_cases straight : listing.Unbroken ∧ separator = '='
  · rw [if_pos straight, if_pos straight, splitOnce_append isFlag.noSign]
  · rw [if_neg straight, if_neg straight, behindSign]
    rcases splitOnce '=' (textOf listing.lastRun) with _ | parts
    · exact congrArg some (if_neg (textOf_lastRun_ne schemes noColon))
    · rfl

/-- The first line of a flag decides what is seen of the list on it. -/
theorem value_listing {content : List Char} {front back : List (List Char)}
    (isFlag : Flags.IsFlag flag) (noColon : ':' ∉ flag) (wellFormed : listing.WellFormed)
    (schemes : ∀ endpoint ∈ listing.endpoints, endpoint.scheme ≠ none)
    (separates : Flags.isNameEnd separator = true)
    (reads : lines content = front ++ (flag ++ separator :: listing.text) :: back)
    (isFirst : ∀ line ∈ front, Flags.nameOf (trim line) ≠ flag) :
    Flags.value flag content = listing.seen separator := by
  refine Flags.value_of_line reads isFirst ?_
  rw [(trimmed_line isFlag wellFormed separator).trim]
  exact valueOn_listing isFlag noColon wellFormed schemes separates

end Line

end Endpoints
end ClusterAgent
