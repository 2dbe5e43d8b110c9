import ClusterAgent.Node.Autodetection
import ClusterAgent.Proofs.Net.Ip.Characters
import ClusterAgent.Proofs.Text.Lines
namespace ClusterAgent
namespace Autodetection

open Text

/-! ## What stands between a hint and its value -/

/-- Separators, with the label of a value among them at most once. -/
inductive IsGap : List Char → Prop
  | plain {gap : List Char} (separators : ∀ character ∈ gap, isSeparator character = true) :
      IsGap gap
  | labelled {front back : List Char}
      (separatorsBefore : ∀ character ∈ front, isSeparator character = true)
      (separatorsBehind : ∀ character ∈ back, isSeparator character = true) :
      IsGap (front ++ valueLabel ++ back)

/-- The text ends, or a blank or a quote comes next. -/
def EndsThere (rest : List Char) : Prop :=
  ∀ first ∈ rest.head?, endsValue first = true

section Cutting

variable {gap text rest : List Char} {first : Char}

theorem IsGap.not_mem {character : Char} (isGap : IsGap gap)
    (notSeparator : isSeparator character = false) (notInLabel : character ∉ valueLabel) :
    character ∉ gap := by
  cases isGap with
  | plain separators =>
      intro member
      rw [separators character member] at notSeparator
      cases notSeparator
  | labelled separatorsBefore separatorsBehind =>
      intro member
      rcases List.mem_append.mp member with member | inBack
      · rcases List.mem_append.mp member with inFront | inLabel
        · rw [separatorsBefore character inFront] at notSeparator
          cases notSeparator
        · exact notInLabel inLabel
      · rw [separatorsBehind character inBack] at notSeparator
        cases notSeparator

theorem skipSeparators_append (separators : ∀ character ∈ gap, isSeparator character = true)
    (notSeparator : isSeparator first = false) :
    skipSeparators (gap ++ first :: text) = some (gap, first :: text) := by
  have dropped : (gap ++ first :: text).dropWhile isSeparator = first :: text := by
    rw [List.dropWhile_append_of_pos separators,
      List.dropWhile_cons_of_neg (by simp [notSeparator])]
  have taken : (gap ++ first :: text).takeWhile isSeparator = gap := by
    rw [List.takeWhile_append_of_pos separators,
      List.takeWhile_cons_of_neg (by simp [notSeparator]), List.append_nil]
  rw [skipSeparators, dropped, taken]

theorem skipSeparators_eq_some (skipped : skipSeparators text = some (gap, rest)) :
    text = gap ++ rest ∧ rest ≠ [] ∧ ∀ character ∈ gap, isSeparator character = true := by
  rw [skipSeparators] at skipped
  split at skipped
  · cases skipped
  · rename_i notEmpty
    cases skipped
    exact ⟨List.takeWhile_append_dropWhile.symm, notEmpty,
      List.all_eq_true.mp List.all_takeWhile⟩

/-- Behind a gap the value begins, unless it looks like a label. -/
theorem cutValue_append (isGap : IsGap gap) (notSeparator : isSeparator first = false)
    (notLabel : first ≠ 'v') (text : List Char) :
    cutValue (gap ++ first :: text) =
      some ⟨gap, (first :: text).takeWhile (!endsValue ·),
        (first :: text).dropWhile (!endsValue ·)⟩ := by
  cases isGap with
  | plain separators =>
      have unlabelled : valueLabel.isPrefixOf? (first :: text) = none :=
        isPrefixOf?_eq_none fun isFront => notLabel (List.cons_prefix_cons.mp isFront).1.symm
      rw [cutValue, skipSeparators_append separators notSeparator]
      simp only [Option.bind_eq_bind, Option.bind_some, unlabelled, Option.pure_def]
  | @labelled front back separatorsBefore separatorsBehind =>
      have whole : front ++ valueLabel ++ back ++ first :: text =
          front ++ 'v' :: ("alue:".toList ++ (back ++ first :: text)) := by
        simp [valueLabel]
      have label : valueLabel.isPrefixOf? ('v' :: ("alue:".toList ++ (back ++ first :: text))) =
          some (back ++ first :: text) :=
        List.isPrefixOf?_eq_some_iff_append_eq.mpr rfl
      rw [whole, cutValue, skipSeparators_append separatorsBefore (by decide)]
      simp only [Option.bind_eq_bind, Option.bind_some, label,
        skipSeparators_append separatorsBehind notSeparator, Option.map_some, Option.pure_def]

theorem endsThere_dropWhile (text : List Char) :
    EndsThere (text.dropWhile (!endsValue ·)) := by
  intro first isFirst
  have stopped := List.head?_dropWhile_not (!endsValue ·) text
  rw [Option.mem_def.mp isFirst] at stopped
  simpa using stopped

theorem cutValue_eq_some {cut : Cut} (found : cutValue text = some cut) :
    text = cut.before ++ (cut.value ++ cut.rest) ∧ IsGap cut.before ∧ EndsThere cut.rest := by
  obtain ⟨⟨front, rest⟩, skipped, found⟩ := Option.bind_eq_some_iff.mp found
  obtain ⟨whole, _, separators⟩ := skipSeparators_eq_some skipped
  dsimp only at found
  split at found
  · cases found
    refine ⟨?_, .plain separators, endsThere_dropWhile rest⟩
    rw [List.takeWhile_append_dropWhile]
    exact whole
  · rename_i behind isLabel
    obtain ⟨parts, labelled, found⟩ := Option.bind_eq_some_iff.mp found
    obtain ⟨⟨back, last⟩, skippedBehind, rfl⟩ := Option.map_eq_some_iff.mp labelled
    cases found
    obtain ⟨wholeBehind, _, separatorsBehind⟩ := skipSeparators_eq_some skippedBehind
    have labelFirst := List.isPrefixOf?_eq_some_iff_append_eq.mp isLabel
    refine ⟨?_, .labelled separators separatorsBehind, endsThere_dropWhile last⟩
    rw [List.takeWhile_append_dropWhile, whole, ← labelFirst, wholeBehind]
    simp only [List.append_assoc]

end Cutting

/-! ## Texts that lead to the value of a hint -/

def IsHint (hint : List Char) : Prop :=
  hint = "IP_AUTODETECTION_METHOD".toList ∨ hint = "IP6_AUTODETECTION_METHOD".toList

/-- The text ends with a gap behind the first hint in it. -/
def Leads (hint text : List Char) : Prop :=
  ∃ front gap, splitAtText hint text = some (front, gap) ∧ IsGap gap

/-- The methods that a hint has before a patch and after it. -/
inductive IsMethod : List Char → Prop
  | firstFound : IsMethod firstFound
  | reaching {host : List Char} (noHint : 'I' ∉ host) : IsMethod (reaching host)

section Leading

variable {hint other method front rest text : List Char} {first : Char}

theorem isHint_hintFor (host : List Char) : IsHint (hintFor host) := by
  rw [hintFor]
  split
  · exact Or.inr rfl
  · exact Or.inl rfl

theorem IsHint.eq_cons (isHint : IsHint hint) : ∃ others, hint = 'I' :: others := by
  rcases isHint with rfl | rfl
  · exact ⟨_, rfl⟩
  · exact ⟨_, rfl⟩

theorem IsMethod.eq_cons (isMethod : IsMethod method) :
    ∃ first others, method = first :: others ∧ (first = 'f' ∨ first = 'c') ∧
      'I' ∉ first :: others := by
  cases isMethod with
  | firstFound => exact ⟨'f', _, rfl, Or.inl rfl, by decide⟩
  | @reaching host noHint =>
      refine ⟨'c', "an-reach=".toList ++ host, rfl, Or.inr rfl, ?_⟩
      intro member
      rcases List.mem_cons.mp member with same | member
      · cases same
      · rcases List.mem_append.mp member with inMark | inHost
        · exact absurd inMark (by decide)
        · exact noHint inHost

/-- No method starts within a hint. -/
theorem IsHint.not_mem (isHint : IsHint hint) (starts : first = 'f' ∨ first = 'c') :
    first ∉ hint := by
  rcases isHint with rfl | rfl <;> rcases starts with rfl | rfl <;> decide

/-- No method starts within a gap. -/
theorem IsGap.start_not_mem {gap : List Char} (isGap : IsGap gap)
    (starts : first = 'f' ∨ first = 'c') : first ∉ gap := by
  rcases starts with rfl | rfl
  · exact isGap.not_mem (by decide) (by decide)
  · exact isGap.not_mem (by decide) (by decide)

theorem cutValue_method {gap : List Char} (isGap : IsGap gap)
    (starts : first = 'f' ∨ first = 'c') (text : List Char) :
    cutValue (gap ++ first :: text) =
      some ⟨gap, (first :: text).takeWhile (!endsValue ·),
        (first :: text).dropWhile (!endsValue ·)⟩ := by
  rcases starts with rfl | rfl
  · exact cutValue_append isGap (by decide) (by decide) text
  · exact cutValue_append isGap (by decide) (by decide) text

theorem EndsThere.cut (ends : EndsThere rest) :
    (firstFound ++ rest).takeWhile (!endsValue ·) = firstFound ∧
      (firstFound ++ rest).dropWhile (!endsValue ·) = rest := by
  have solid : ∀ character ∈ firstFound, (!endsValue character) = true :=
    List.all_eq_true.mp (by decide)
  rw [List.takeWhile_append_of_pos solid, List.dropWhile_append_of_pos solid]
  cases rest with
  | nil => exact ⟨List.append_nil _, rfl⟩
  | cons first rest =>
      have stops : endsValue first = true := ends first rfl
      simp [stops]

/-- A patch changes the value behind the first hint, and nothing else. -/
theorem patch_eq_some_iff {manifest host patched : List Char} :
    patch manifest host = some patched ↔
      ∃ front rest, manifest = front ++ (firstFound ++ rest) ∧ Leads (hintFor host) front ∧
        EndsThere rest ∧ patched = front ++ (reaching host ++ rest) := by
  constructor
  · intro succeeded
    obtain ⟨⟨before, after⟩, split, succeeded⟩ := Option.bind_eq_some_iff.mp succeeded
    obtain ⟨cut, found, succeeded⟩ := Option.bind_eq_some_iff.mp succeeded
    obtain ⟨shape, isGap, ends⟩ := cutValue_eq_some found
    split at succeeded
    · rename_i isFirstFound
      cases succeeded
      have whole := splitAtText_eq_some split
      refine ⟨before ++ (hintFor host ++ cut.before), cut.rest, ?_,
        ⟨before, cut.before, splitAtText_behind split cut.before, isGap⟩, ends, ?_⟩
      · rw [whole, shape, isFirstFound]
        simp only [List.append_assoc]
      · simp only [List.append_assoc]
    · cases succeeded
  · rintro ⟨front, rest, rfl, ⟨before, gap, split, isGap⟩, ends, rfl⟩
    have whole := splitAtText_eq_some split
    have cut : cutValue (gap ++ (firstFound ++ rest)) =
        some ⟨gap, (firstFound ++ rest).takeWhile (!endsValue ·),
          (firstFound ++ rest).dropWhile (!endsValue ·)⟩ :=
      cutValue_method isGap (Or.inl rfl) _
    rw [ends.cut.1, ends.cut.2] at cut
    rw [patch, splitAtText_append split]
    simp only [Option.bind_eq_bind, Option.bind_some, cut, if_true, whole, List.append_assoc]

end Leading

/-! ## Hints that do not meet -/

section Apart

variable {hint other method methodOther front frontOther middle rest restOther : List Char}

/-- What leads to a value does not end with a part of one. -/
theorem Leads.not_into {first : Char} {more : List Char}
    (leads : Leads hint (front ++ first :: more))
    (isHint : IsHint hint) (starts : first = 'f' ∨ first = 'c') (noHint : 'I' ∉ first :: more) :
    False := by
  obtain ⟨before, gap, split, isGap⟩ := leads
  have whole := splitAtText_eq_some split
  rw [List.append_assoc] at whole
  rcases List.append_eq_append_iff.mp whole with ⟨inside, _, inWord⟩ | ⟨inside, _, inHint⟩
  · obtain ⟨others, rfl⟩ := isHint.eq_cons
    exact noHint (by simp [inWord])
  · have member : first ∈ hint ++ gap := by simp [inHint]
    rcases List.mem_append.mp member with inName | inGap
    · exact isHint.not_mem starts inName
    · exact isGap.start_not_mem starts inGap

/-- A text leads from one hint only, which is the one with its last `D`. -/
theorem Leads.hint_unique (leads : Leads hint front) (leadsOther : Leads other front)
    (isHint : IsHint hint) (isHintOther : IsHint other) : hint = other := by
  have stem {name : List Char} (isName : IsHint name) : ∃ stem, name = stem ++ ['D'] ∧
      (stem = "IP_AUTODETECTION_METHO".toList ∨ stem = "IP6_AUTODETECTION_METHO".toList) := by
    rcases isName with rfl | rfl
    · exact ⟨_, rfl, Or.inl rfl⟩
    · exact ⟨_, rfl, Or.inr rfl⟩
  have cutAtLast {name text : List Char} (leads : Leads (name ++ ['D']) text) :
      ∃ before gap, splitOnce 'D' text.reverse = some (gap, (before ++ name).reverse) := by
    obtain ⟨before, gap, split, isGap⟩ := leads
    have notInGap : 'D' ∉ gap.reverse := fun member =>
      isGap.not_mem (by decide) (by decide) (List.mem_reverse.mp member)
    have reversed : text.reverse = gap.reverse ++ 'D' :: (before ++ name).reverse := by
      simp [splitAtText_eq_some split]
    exact ⟨before, gap.reverse, reversed ▸ splitOnce_append notInGap _⟩
  obtain ⟨name, rfl, isName⟩ := stem isHint
  obtain ⟨nameOther, rfl, isNameOther⟩ := stem isHintOther
  obtain ⟨before, gap, cut⟩ := cutAtLast leads
  obtain ⟨beforeOther, gapOther, cutOther⟩ := cutAtLast leadsOther
  have same : before ++ name = beforeOther ++ nameOther :=
    List.reverse_injective (Prod.mk.inj (Option.some.inj (cut.symm.trans cutOther))).2
  have isEnd : name <:+ before ++ name := List.suffix_append _ _
  have isEndOther : nameOther <:+ before ++ name := same ▸ List.suffix_append _ _
  rcases isName with rfl | rfl <;> rcases isNameOther with rfl | rfl
  · rfl
  · exact absurd (List.suffix_of_suffix_length_le isEnd isEndOther (by decide)) (by decide)
  · exact absurd (List.suffix_of_suffix_length_le isEndOther isEnd (by decide)) (by decide)
  · rfl

/-- Of the values behind two different hints, one ends before what leads to the other does. -/
theorem Leads.behind {gone left : List Char} (leads : Leads hint front)
    (leadsOther : Leads other (front ++ gone)) (isHint : IsHint hint) (isHintOther : IsHint other)
    (different : hint ≠ other) (isMethod : IsMethod method) (same : method ++ rest = gone ++ left) :
    ∃ middle, gone = method ++ middle ∧ rest = middle ++ left := by
  rcases List.append_eq_append_iff.mp same with found | ⟨middle, shape, _⟩
  · exact found
  · obtain ⟨first, others, isCons, starts, noHint⟩ := isMethod.eq_cons
    cases gone with
    | nil =>
        rw [List.append_nil] at leadsOther
        exact absurd (leads.hint_unique leadsOther isHint isHintOther) different
    | cons next gone =>
        rw [isCons] at shape
        obtain ⟨rfl, rfl⟩ := List.cons.inj shape
        refine (leadsOther.not_into isHintOther starts fun member => noHint ?_).elim
        simpa using Or.imp_right Or.inl (List.mem_cons.mp member)

theorem Leads.apart (leads : Leads hint front) (leadsOther : Leads other frontOther)
    (isHint : IsHint hint) (isHintOther : IsHint other) (different : hint ≠ other)
    (isMethod : IsMethod method) (isMethodOther : IsMethod methodOther)
    (same : front ++ (method ++ rest) = frontOther ++ (methodOther ++ restOther)) :
    (∃ middle, frontOther = front ++ (method ++ middle) ∧
        rest = middle ++ (methodOther ++ restOther)) ∨
      ∃ middle, front = frontOther ++ (methodOther ++ middle) ∧
        restOther = middle ++ (method ++ rest) := by
  rcases List.append_eq_append_iff.mp same with ⟨gone, rfl, left⟩ | ⟨gone, rfl, left⟩
  · obtain ⟨middle, rfl, shape⟩ :=
      leads.behind leadsOther isHint isHintOther different isMethod left
    exact Or.inl ⟨middle, rfl, shape⟩
  · obtain ⟨middle, rfl, shape⟩ :=
      leadsOther.behind leads isHintOther isHint different.symm isMethodOther left
    exact Or.inr ⟨middle, rfl, shape⟩

/-- Another method in front of a hint changes nothing of what leads to its value. -/
theorem Leads.replace (leads : Leads hint (front ++ (method ++ rest))) (isHint : IsHint hint)
    (isMethod : IsMethod method) (isMethodOther : IsMethod methodOther) :
    Leads hint (front ++ (methodOther ++ rest)) := by
  obtain ⟨before, gap, split, isGap⟩ := leads
  obtain ⟨others, rfl⟩ := isHint.eq_cons
  obtain ⟨first, word, rfl, starts, noHint⟩ := isMethod.eq_cons
  obtain ⟨firstOther, wordOther, rfl, startsOther, noHintOther⟩ := isMethodOther.eq_cons
  rcases found : splitAtText ('I' :: others) front with _ | ⟨earlier, gapEarlier⟩
  · rw [splitAtText_barred found (isHint.not_mem starts) noHint] at split
    obtain ⟨⟨later, gapLater⟩, splitLater, shape⟩ := Option.map_eq_some_iff.mp split
    cases shape
    refine ⟨front ++ (firstOther :: wordOther ++ later), gapLater, ?_, isGap⟩
    rw [splitAtText_barred found (isHint.not_mem startsOther) noHintOther, splitLater]
    rfl
  · rw [splitAtText_append found] at split
    cases split
    exact (isGap.start_not_mem starts (by simp)).elim

theorem EndsThere.replace (ends : EndsThere (middle ++ (method ++ rest)))
    (isMethod : IsMethod method) (other : List Char) : EndsThere (middle ++ other) := by
  cases middle with
  | nil =>
      obtain ⟨first, word, rfl, starts, _⟩ := isMethod.eq_cons
      have stops : endsValue first = true := ends first rfl
      rcases starts with rfl | rfl <;> exact absurd stops (by decide)
  | cons first middle => exact ends

end Apart

/-! ## Patches one after another -/

section Patching

variable {manifest patched final host other : List Char}

/-- A hint leads to a host only once. -/
theorem patch_again (once : patch manifest host = some patched)
    (same : hintFor other = hintFor host) : patch patched other = none := by
  rcases again : patch patched other with _ | twice
  · rfl
  obtain ⟨front, rest, _, ⟨before, gap, split, isGap⟩, _, shape⟩ := patch_eq_some_iff.mp once
  obtain ⟨frontAgain, restAgain, shapeAgain, ⟨_, gapAgain, splitAgain, isGapAgain⟩, _⟩ :=
    patch_eq_some_iff.mp again
  have found := splitAtText_append split (reaching host ++ rest)
  have foundAgain := splitAtText_append splitAgain (firstFound ++ restAgain)
  rw [← shape] at found
  rw [← shapeAgain, same, found] at foundAgain
  obtain ⟨_, behind⟩ := Prod.mk.inj (Option.some.inj foundAgain)
  have cut : (cutValue (gap ++ (reaching host ++ rest))).bind (·.value.head?) = some 'c' := by
    rw [show reaching host ++ rest = 'c' :: ("an-reach=".toList ++ host ++ rest) from rfl,
      cutValue_method isGap (Or.inr rfl)]
    rfl
  rw [behind, show firstFound ++ restAgain = 'f' :: ("irst-found".toList ++ restAgain) from rfl,
    cutValue_method isGapAgain (Or.inl rfl)] at cut
  cases cut

theorem patch_swap (noHint : 'I' ∉ host) (noHintOther : 'I' ∉ other)
    (different : hintFor host ≠ hintFor other) (first : patch manifest host = some patched)
    (second : patch patched other = some final) :
    ∃ between, patch manifest other = some between ∧ patch between host = some final := by
  obtain ⟨front, rest, rfl, leads, ends, rfl⟩ := patch_eq_some_iff.mp first
  obtain ⟨frontOther, restOther, same, leadsOther, endsOther, rfl⟩ := patch_eq_some_iff.mp second
  have isHint := isHint_hintFor host
  have isHintOther := isHint_hintFor other
  rcases leads.apart leadsOther isHint isHintOther different (.reaching noHint) .firstFound
      same with
    ⟨middle, rfl, rfl⟩ | ⟨middle, rfl, rfl⟩
  · refine ⟨front ++ (firstFound ++ (middle ++ (reaching other ++ restOther))), ?_, ?_⟩
    · refine patch_eq_some_iff.mpr ⟨front ++ (firstFound ++ middle), restOther, by simp,
        leadsOther.replace isHintOther (.reaching noHint) .firstFound, endsOther, by simp⟩
    · exact patch_eq_some_iff.mpr
        ⟨front, _, rfl, leads, ends.replace .firstFound _, by simp⟩
  · refine ⟨frontOther ++ (reaching other ++ (middle ++ (firstFound ++ rest))), ?_, ?_⟩
    · exact patch_eq_some_iff.mpr ⟨frontOther, _, by simp, leadsOther,
        endsOther.replace (.reaching noHint) _, rfl⟩
    · exact patch_eq_some_iff.mpr ⟨frontOther ++ (reaching other ++ middle), rest, by simp,
        leads.replace isHint .firstFound (.reaching noHintOther), ends, by simp⟩

/-- A patch for one hint keeps another hint patchable. -/
theorem patch_both {patchedOther : List Char} (noHint : 'I' ∉ host)
    (different : hintFor host ≠ hintFor other) (first : patch manifest host = some patched)
    (second : patch manifest other = some patchedOther) :
    ∃ final, patch patched other = some final := by
  obtain ⟨front, rest, rfl, leads, ends, rfl⟩ := patch_eq_some_iff.mp first
  obtain ⟨frontOther, restOther, same, leadsOther, endsOther, _⟩ := patch_eq_some_iff.mp second
  have isHintOther := isHint_hintFor other
  rcases leads.apart leadsOther (isHint_hintFor host) isHintOther different .firstFound
      .firstFound same with
    ⟨middle, rfl, rfl⟩ | ⟨middle, rfl, rfl⟩
  · exact ⟨_, patch_eq_some_iff.mpr ⟨front ++ (reaching host ++ middle), restOther, by simp,
      leadsOther.replace isHintOther .firstFound (.reaching noHint), endsOther, rfl⟩⟩
  · exact ⟨_, patch_eq_some_iff.mpr ⟨frontOther, middle ++ (reaching host ++ rest), by simp,
      leadsOther, endsOther.replace .firstFound _, rfl⟩⟩

/-- Two hosts can be patched in if and only if they can be in the other order, which makes no
difference. -/
theorem patch_comm (noHint : 'I' ∉ host) (noHintOther : 'I' ∉ other) (manifest : List Char) :
    ((patch manifest host).bind fun patched => patch patched other) =
      (patch manifest other).bind fun patched => patch patched host := by
  by_cases same : hintFor host = hintFor other
  · have never {one two : List Char} (same : hintFor one = hintFor two) :
        ((patch manifest one).bind fun patched => patch patched two) = none := by
      rcases once : patch manifest one with _ | patched
      · rfl
      · exact patch_again once same.symm
    rw [never same, never same.symm]
  · refine Option.ext fun final => ?_
    simp only [Option.bind_eq_some_iff]
    constructor
    · rintro ⟨patched, first, second⟩
      exact patch_swap noHint noHintOther same first second
    · rintro ⟨patched, first, second⟩
      exact patch_swap noHintOther noHint (Ne.symm same) first second

end Patching

/-! ## Methods of hints -/

/-- The first value behind the first hint of a manifest. -/
def method? (hint manifest : List Char) : Option (List Char) := do
  let (_, after) ← splitAtText hint manifest
  let cut ← cutValue after
  return cut.value

theorem patch_isSome_iff {manifest host : List Char} :
    (patch manifest host).isSome ↔ method? (hintFor host) manifest = some firstFound := by
  rw [patch, method?]
  rcases splitAtText (hintFor host) manifest with _ | ⟨before, after⟩
  · simp
  · rcases found : cutValue after with _ | cut
    · simp [found]
    · by_cases isFirstFound : cut.value = firstFound <;> simp [found, isFirstFound]

/-! ## Hosts that are addresses -/

section Addresses

variable {host : String}

theorem noHint_of_address {address : IpAddress} (reads : IpAddress.ofText? host = some address) :
    'I' ∉ host.toList :=
  IpAddress.not_mem_of_spells (IpAddress.ofChars?_eq_some_iff.mp reads) rfl (by decide) (by decide)

theorem hintFor_v4 {bits : BitVec 32} (reads : IpAddress.ofText? host = some (.v4 bits)) :
    hintFor host.toList = "IP_AUTODETECTION_METHOD".toList :=
  if_neg (IpAddress.colon_not_mem_of_v4 reads)

theorem hintFor_v6 {bits : BitVec 128} (reads : IpAddress.ofText? host = some (.v6 bits)) :
    hintFor host.toList = "IP6_AUTODETECTION_METHOD".toList :=
  if_pos (IpAddress.colon_mem_of_v6 reads)

/-- Addresses of one family share a hint. -/
theorem hintFor_eq_of_width {other : String} {address addressOther : IpAddress}
    (reads : IpAddress.ofText? host = some address)
    (readsOther : IpAddress.ofText? other = some addressOther)
    (sameFamily : address.width = addressOther.width) :
    hintFor host.toList = hintFor other.toList := by
  cases address with
  | v4 bits =>
      cases addressOther with
      | v4 bitsOther => rw [hintFor_v4 reads, hintFor_v4 readsOther]
      | v6 bitsOther => cases sameFamily
  | v6 bits =>
      cases addressOther with
      | v4 bitsOther => cases sameFamily
      | v6 bitsOther => rw [hintFor_v6 reads, hintFor_v6 readsOther]

end Addresses

/-! ## Many hosts in one manifest -/

def patchText (manifest host : String) : Option String :=
  (patch manifest.toList host.toList).map String.ofList

/-- The manifest in which hosts are patched in one after another. -/
def patchAll (manifest : String) (hosts : List String) : Option String :=
  hosts.foldlM patchText manifest

/-- The hint of the host still had the first method. -/
def StillFirstFound (host manifest : String) : Prop :=
  method? (hintFor host.toList) manifest.toList = some firstFound

section Hosts

variable {manifest patched host other : String} {hosts : List String}

theorem stillFirstFound_iff :
    StillFirstFound host manifest ↔ (patchText manifest host).isSome = true := by
  rw [StillFirstFound, ← patch_isSome_iff, patchText, Option.isSome_map]

theorem patchAll_cons (manifest host : String) (hosts : List String) :
    patchAll manifest (host :: hosts) = (patchText manifest host).bind (patchAll · hosts) :=
  List.foldlM_cons

theorem patchAll_concat (manifest host : String) (hosts : List String) :
    patchAll manifest (hosts ++ [host]) = (patchAll manifest hosts).bind (patchText · host) := by
  rw [patchAll, List.foldlM_append]
  simp [patchAll]

theorem patchText_again (once : patchText manifest host = some patched)
    (same : hintFor other.toList = hintFor host.toList) : patchText patched other = none := by
  obtain ⟨text, patchedOnce, rfl⟩ := Option.map_eq_some_iff.mp once
  rw [patchText, String.toList_ofList, patch_again patchedOnce same, Option.map_none]

theorem patchText_comm (noHint : 'I' ∉ host.toList) (noHintOther : 'I' ∉ other.toList)
    (manifest : String) :
    ((patchText manifest host).bind fun patched => patchText patched other) =
      (patchText manifest other).bind fun patched => patchText patched host := by
  have comm := congrArg (Option.map String.ofList)
    (patch_comm noHint noHintOther manifest.toList)
  simpa only [patchText, Option.bind_map, Option.map_bind, Function.comp_def,
    String.toList_ofList] using comm

/-- The order of the hosts makes no difference. -/
theorem patchAll_perm {order : List String} (perm : hosts.Perm order)
    (noHint : ∀ host ∈ hosts, 'I' ∉ host.toList) (manifest : String) :
    patchAll manifest hosts = patchAll manifest order := by
  induction perm generalizing manifest with
  | nil => rfl
  | cons host perm inductionHypothesis =>
      have later := inductionHypothesis fun other member =>
        noHint other (List.mem_cons_of_mem _ member)
      rw [patchAll_cons, patchAll_cons]
      exact congrArg (Option.bind _) (funext later)
  | swap host other hosts =>
      have comm := patchText_comm (noHint other List.mem_cons_self)
        (noHint host (List.mem_cons_of_mem _ List.mem_cons_self)) manifest
      simp only [patchAll_cons, ← Option.bind_assoc]
      rw [comm]
  | trans first second firstHypothesis secondHypothesis =>
      rw [firstHypothesis noHint, secondHypothesis fun host member =>
        noHint host (first.mem_iff.mpr member)]

/-- Each hint is patched once at most. -/
theorem hints_pairwise (noHint : ∀ host ∈ hosts, 'I' ∉ host.toList)
    (patchedAll : patchAll manifest hosts = some patched) :
    hosts.Pairwise fun host other => hintFor host.toList ≠ hintFor other.toList := by
  induction hosts generalizing manifest with
  | nil => exact List.Pairwise.nil
  | cons host hosts inductionHypothesis =>
      rw [patchAll_cons] at patchedAll
      obtain ⟨middle, once, others⟩ := Option.bind_eq_some_iff.mp patchedAll
      have noHintLater : ∀ other ∈ hosts, 'I' ∉ other.toList := fun other member =>
        noHint other (List.mem_cons_of_mem _ member)
      refine List.pairwise_cons.mpr ⟨fun other member same => ?_,
        inductionHypothesis noHintLater others⟩
      -- A second host for the hint could as well come right after the first one.
      rw [patchAll_perm (List.perm_cons_erase member) noHintLater, patchAll_cons,
        patchText_again once same.symm] at others
      cases others

end Hosts

end Autodetection
end ClusterAgent
