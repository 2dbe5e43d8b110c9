import ClusterAgent.Node.Flags
import ClusterAgent.Proofs.Files.Storing
import ClusterAgent.Proofs.Text.Words
namespace ClusterAgent
namespace Flags

open Disk Running Text

/-! ## Values on lines -/

/-- A flag that can stand on a line of its own. -/
structure IsFlag (flag : List Char) : Prop where
  nonempty : flag ≠ []
  solid : Solid flag
  noSign : '=' ∉ flag

instance (flag : List Char) : Decidable (IsFlag flag) :=
  decidable_of_iff (flag ≠ [] ∧ Solid flag ∧ '=' ∉ flag)
    ⟨fun ⟨nonempty, solid, noSign⟩ => ⟨nonempty, solid, noSign⟩,
      fun isFlag => ⟨isFlag.nonempty, isFlag.solid, isFlag.noSign⟩⟩

section Lines

variable {flag value : List Char}

theorem not_isNameEnd (isFlag : IsFlag flag) :
    ∀ character ∈ flag, (!isNameEnd character) = true := by
  intro character member
  have notSpace : character ≠ ' ' := by
    rintro rfl
    cases isFlag.solid ' ' member
  have notSign : character ≠ '=' := by
    rintro rfl
    exact isFlag.noSign member
  simp [isNameEnd, notSpace, notSign]

theorem nameOf_append (isFlag : IsFlag flag) {mark : Char} (ends : isNameEnd mark = true)
    (rest : List Char) : nameOf (flag ++ mark :: rest) = flag := by
  rw [nameOf, List.takeWhile_append_of_pos (not_isNameEnd isFlag),
    List.takeWhile_cons_of_neg (by simp [ends]), List.append_nil]

theorem nameOf_lineOf (isFlag : IsFlag flag) (value : List Char) :
    nameOf (lineOf flag value) = flag := by
  rw [lineOf]
  split
  · have whole : (flag ++ []).takeWhile (fun character => !isNameEnd character) = flag ++ [] :=
      List.takeWhile_append_of_pos (not_isNameEnd isFlag)
    rwa [List.append_nil] at whole
  · exact nameOf_append isFlag rfl value

theorem solid_lineOf (isFlag : IsFlag flag) (valueSolid : Solid value) :
    Solid (lineOf flag value) := by
  rw [lineOf]
  split
  · exact isFlag.solid
  · exact solid_append.mpr ⟨isFlag.solid, solid_cons.mpr ⟨rfl, valueSolid⟩⟩

theorem lineOf_ne_nil (isFlag : IsFlag flag) (value : List Char) : lineOf flag value ≠ [] := by
  rw [lineOf]
  split
  · exact isFlag.nonempty
  · simp

theorem valueOn_lineOf (isFlag : IsFlag flag) (valueSolid : Solid value) :
    valueOn flag (trim (lineOf flag value)) = some value := by
  have solid := solid_lineOf isFlag valueSolid
  have word := words_of_solid (lineOf_ne_nil isFlag value) solid
  rw [trim_eq_self solid, valueOn, if_pos (nameOf_lineOf isFlag value), word]
  simp only [List.getLast?_singleton, Option.map_some]
  rw [lineOf]
  by_cases empty : value = []
  · subst empty
    simp [splitOnce_eq_none isFlag.noSign]
  · rw [if_neg (by simpa using empty), splitOnce_append isFlag.noSign]

theorem valueOn_of_other {line : List Char} (other : nameOf (trim line) ≠ flag) :
    valueOn flag (trim line) = none := by
  rw [valueOn, if_neg other]

/-- The first line of a flag decides its value. -/
theorem value_of_line {content line : List Char} {front back : List (List Char)}
    (reads : lines content = front ++ line :: back)
    (isFirst : ∀ other ∈ front, nameOf (trim other) ≠ flag)
    (found : valueOn flag (trim line) = some value) : Flags.value flag content = value := by
  have others : front.findSome? (fun other => valueOn flag (trim other)) = none := by
    rw [List.findSome?_eq_none_iff]
    exact fun other member => valueOn_of_other (isFirst other member)
  rw [Flags.value, reads, List.findSome?_append, others, Option.none_or, List.findSome?_cons,
    found]
  rfl

theorem solid_of_splitOnce {separator : Char} {text front rest : List Char} (solid : Solid text)
    (split : splitOnce separator text = some (front, rest)) : Solid rest := by
  induction text generalizing front with
  | nil => cases split
  | cons character text inductionHypothesis =>
      have textSolid := (solid_cons.mp solid).2
      rw [splitOnce] at split
      by_cases here : character = separator
      · rw [if_pos here] at split
        cases split
        exact textSolid
      · rw [if_neg here] at split
        obtain ⟨parts, later, same⟩ := Option.map_eq_some_iff.mp split
        cases same
        exact inductionHypothesis textSolid later

theorem solid_of_valueOn {line : List Char} (found : valueOn flag line = some value) :
    Solid value := by
  rw [valueOn] at found
  split at found
  · obtain ⟨last, isLast, found⟩ := Option.map_eq_some_iff.mp found
    have lastSolid : Solid last := solid_of_mem_words last (List.mem_of_getLast? isLast)
    split at found
    · rename_i parted
      subst found
      exact solid_of_splitOnce lastSolid parted
    · split at found
      · subst found
        exact fun _ member => nomatch member
      · subst found
        exact lastSolid
  · cases found

theorem solid_value (flag content : List Char) : Solid (Flags.value flag content) := by
  rw [Flags.value]
  rcases found : (lines content).findSome? fun line => valueOn flag (trim line) with _ | value
  · exact fun _ member => nomatch member
  · obtain ⟨_, line, _, _, onLine, _⟩ := List.findSome?_eq_some_iff.mp found
    exact solid_of_valueOn onLine

end Lines

/-! ## Values after a change -/

/-- The flag that a line is about. Other lines have a text there that is no flag. -/
def flagOf (line : List Char) : String :=
  String.ofList (nameOf (trim line))

/-- The value of a flag among lines, if one of them has it. -/
def valueAmong (flag : List Char) (items : List (List Char)) : Option (List Char) :=
  items.findSome? fun line => valueOn flag (trim line)

/-- Every flag can stand on a line of its own with its new value. -/
def Updates.Writable (updates : Updates) : Prop :=
  ∀ update ∈ updates, IsFlag update.1.toList ∧ Solid update.2.toList

instance (updates : Updates) : Decidable updates.Writable :=
  inferInstanceAs
    (Decidable (∀ update ∈ updates, IsFlag update.1.toList ∧ Solid update.2.toList))

/-- Every flag with its new value is a line of its own. -/
def Updates.OnLines (updates : Updates) : Prop :=
  ∀ update ∈ updates, IsFlag update.1.toList ∧ '\n' ∉ update.2.toList

instance (updates : Updates) : Decidable updates.OnLines :=
  inferInstanceAs
    (Decidable (∀ update ∈ updates, IsFlag update.1.toList ∧ '\n' ∉ update.2.toList))

theorem Updates.Writable.onLines {updates : Updates} (writable : updates.Writable) :
    updates.OnLines :=
  fun update member => (writable update member).imp_right Solid.feed_not_mem

section Changes

variable {updates : Updates} {deletions : List String} {flag value : String}
  {line : List Char} {items : List (List Char)}

theorem valueOn_lineOf_eq {name : String} (isFlag : IsFlag name.toList)
    (valueSolid : Solid value.toList) (flag : String) :
    valueOn flag.toList (trim (lineOf name.toList value.toList)) =
      if flag = name then some value.toList else none := by
  by_cases same : flag = name
  · subst same
    rw [if_pos rfl, valueOn_lineOf isFlag valueSolid]
  · have other : nameOf (trim (lineOf name.toList value.toList)) ≠ flag.toList := by
      rw [trim_eq_self (solid_lineOf isFlag valueSolid), nameOf_lineOf isFlag]
      exact fun sameName => same (String.toList_inj.mp sameName).symm
    rw [if_neg same, valueOn_of_other other]

theorem mem_of_lookup (updated : updates.lookup flag = some value) : (flag, value) ∈ updates := by
  obtain ⟨front, back, split, _⟩ := List.lookup_eq_some_iff.mp updated
  rw [split]
  exact List.mem_append_right _ List.mem_cons_self

theorem changeLine_eq (updates : Updates) (deletions : List String) (line : List Char) :
    changeLine updates deletions line =
      if flagOf line ∈ deletions then none
      else
        match updates.lookup (flagOf line) with
        | some value => some (lineOf (flagOf line).toList value.toList)
        | none => some line := by
  rw [flagOf, String.toList_ofList]
  rfl

theorem mem_remaining {update : String × String} :
    update ∈ remaining updates deletions items ↔
      update ∈ updates ∧ update.1 ∉ deletions ∧ ∀ line ∈ items, flagOf line ≠ update.1 := by
  have named : update.1 ∈ (items.map fun line => String.ofList (nameOf (trim line))) ↔
      ∃ line ∈ items, flagOf line = update.1 := List.mem_map
  rw [remaining, List.mem_filter]
  simp only [Bool.not_or, Bool.and_eq_true, Bool.not_eq_true', List.contains_eq_mem,
    decide_eq_false_iff_not, named, not_exists, not_and]
  exact and_congr_right fun _ => and_comm

/-- A line of a changed file was there before and is concerned by no change, or it holds an
updated flag. -/
theorem mem_change (member : line ∈ change updates deletions items) :
    (line ∈ items ∧ flagOf line ∉ deletions ∧ updates.lookup (flagOf line) = none) ∨
      ∃ update ∈ updates, update.1 ∉ deletions ∧
        line = lineOf update.1.toList update.2.toList := by
  rcases List.mem_append.mp member with changed | added
  · obtain ⟨old, oldMember, shape⟩ := List.mem_filterMap.mp changed
    rw [changeLine_eq] at shape
    split at shape
    · cases shape
    · rename_i notDeleted
      split at shape
      · rename_i value updated
        cases shape
        exact Or.inr ⟨_, mem_of_lookup updated, notDeleted, rfl⟩
      · rename_i notUpdated
        cases shape
        exact Or.inl ⟨oldMember, notDeleted, notUpdated⟩
  · obtain ⟨update, remains, rfl⟩ := List.mem_map.mp added
    obtain ⟨updateMember, notDeleted, _⟩ := mem_remaining.mp remains
    exact Or.inr ⟨update, updateMember, notDeleted, rfl⟩

theorem feed_not_mem_lineOf {name value : List Char} (nameWhole : '\n' ∉ name)
    (valueWhole : '\n' ∉ value) : '\n' ∉ lineOf name value := by
  rw [lineOf]
  split
  · exact nameWhole
  · simp [nameWhole, valueWhole]

theorem feed_not_mem_change (onLines : updates.OnLines) (content : List Char) :
    ∀ line ∈ change updates deletions (lines content), '\n' ∉ line := by
  intro line member
  rcases mem_change member with ⟨old, _⟩ | ⟨update, updateMember, _, rfl⟩
  · exact feed_not_mem_lines content line old
  · obtain ⟨isFlag, valueWhole⟩ := onLines update updateMember
    exact feed_not_mem_lineOf isFlag.solid.feed_not_mem valueWhole

theorem changeLine_named (notDeleted : flag ∉ deletions)
    (updated : updates.lookup flag = some value) (named : nameOf (trim line) = flag.toList) :
    changeLine updates deletions line = some (lineOf flag.toList value.toList) := by
  simp only [changeLine, named, String.ofList_toList, if_neg notDeleted, updated]

/-- What a change makes of the line of another flag is no line of this one. -/
theorem valueOn_changeLine_other (writable : updates.Writable)
    (other : nameOf (trim line) ≠ flag.toList) :
    (changeLine updates deletions line).bind (fun new => valueOn flag.toList (trim new)) =
      none := by
  unfold changeLine
  dsimp only
  split
  · rfl
  · split
    · rename_i value updated
      obtain ⟨isFlag, valueSolid⟩ := writable _ (mem_of_lookup updated)
      have written := valueOn_lineOf_eq isFlag valueSolid flag
      rw [String.toList_ofList] at written isFlag
      rw [Option.bind_some, written, if_neg]
      rintro rfl
      exact other String.toList_ofList.symm
    · exact valueOn_of_other other

theorem valueAmong_cons_change (updates : Updates) (deletions : List String) (flag : String)
    (line : List Char) (items : List (List Char)) :
    valueAmong flag.toList ((line :: items).filterMap (changeLine updates deletions)) =
      ((changeLine updates deletions line).bind fun new => valueOn flag.toList (trim new)).or
        (valueAmong flag.toList (items.filterMap (changeLine updates deletions))) := by
  rcases changed : changeLine updates deletions line with _ | new
  · rw [List.filterMap_cons_none changed, Option.bind_none, Option.none_or]
  · rw [List.filterMap_cons_some changed, Option.bind_some, valueAmong, List.findSome?_cons]
    rcases valueOn flag.toList (trim new) with _ | found
    · rfl
    · rfl

/-- Among lines of other flags a change does not bring up this one. -/
theorem valueAmong_others (writable : updates.Writable)
    (others : ∀ line ∈ items, nameOf (trim line) ≠ flag.toList) :
    valueAmong flag.toList (items.filterMap (changeLine updates deletions)) = none := by
  induction items with
  | nil => rfl
  | cons line items inductionHypothesis =>
      obtain ⟨other, othersLater⟩ := List.forall_mem_cons.mp others
      rw [valueAmong_cons_change, valueOn_changeLine_other writable other, Option.none_or,
        inductionHypothesis othersLater]

theorem valueAmong_named (writable : updates.Writable) (notDeleted : flag ∉ deletions)
    (updated : updates.lookup flag = some value)
    (named : ∃ line ∈ items, nameOf (trim line) = flag.toList) :
    valueAmong flag.toList (items.filterMap (changeLine updates deletions)) =
      some value.toList := by
  obtain ⟨isFlag, valueSolid⟩ := writable _ (mem_of_lookup updated)
  induction items with
  | nil => simp at named
  | cons line items inductionHypothesis =>
      rw [valueAmong_cons_change]
      by_cases here : nameOf (trim line) = flag.toList
      · rw [changeLine_named notDeleted updated here, Option.bind_some,
          valueOn_lineOf isFlag valueSolid, Option.some_or]
      · have later : ∃ line ∈ items, nameOf (trim line) = flag.toList := by
          simpa [here] using named
        rw [valueOn_changeLine_other writable here, Option.none_or, inductionHypothesis later]

theorem valueAmong_unchanged (writable : updates.Writable) (notDeleted : flag ∉ deletions)
    (notUpdated : updates.lookup flag = none) (items : List (List Char)) :
    valueAmong flag.toList (items.filterMap (changeLine updates deletions)) =
      valueAmong flag.toList items := by
  induction items with
  | nil => rfl
  | cons line items inductionHypothesis =>
      rw [valueAmong_cons_change, inductionHypothesis]
      by_cases here : nameOf (trim line) = flag.toList
      · have kept : changeLine updates deletions line = some line := by
          simp only [changeLine, here, String.ofList_toList, if_neg notDeleted, notUpdated]
        rw [kept, Option.bind_some, valueAmong, valueAmong, List.findSome?_cons]
        rcases valueOn flag.toList (trim line) with _ | found
        · rfl
        · rfl
      · rw [valueOn_changeLine_other writable here, Option.none_or, valueAmong, valueAmong,
          List.findSome?_cons, valueOn_of_other here]

theorem lookup_filter (keep : String → Bool) (flag : String) :
    (updates.filter fun update => keep update.1).lookup flag =
      if keep flag then updates.lookup flag else none := by
  induction updates with
  | nil => simp
  | cons update updates inductionHypothesis =>
      obtain ⟨name, value⟩ := update
      by_cases same : flag = name
      · subst same
        by_cases kept : keep flag = true
        · rw [List.filter_cons, if_pos kept, if_pos kept, List.lookup_cons_self,
            List.lookup_cons_self]
        · rw [List.filter_cons, if_neg kept, inductionHypothesis, if_neg kept, if_neg kept]
      · have different : (flag == name) = false := by simpa using same
        by_cases kept : keep name = true
        · rw [List.filter_cons, if_pos kept, List.lookup_cons, List.lookup_cons, different]
          exact inductionHypothesis
        · rw [List.filter_cons, if_neg kept, List.lookup_cons, different]
          exact inductionHypothesis

theorem valueAmong_written (writable : updates.Writable) (flag : String) :
    valueAmong flag.toList
        (updates.map fun update => lineOf update.1.toList update.2.toList) =
      (updates.lookup flag).map String.toList := by
  induction updates with
  | nil => rfl
  | cons update updates inductionHypothesis =>
      obtain ⟨⟨isFlag, valueSolid⟩, writableLater⟩ := List.forall_mem_cons.mp writable
      have later := inductionHypothesis writableLater
      rw [valueAmong] at later ⊢
      rw [List.map_cons, List.findSome?_cons, valueOn_lineOf_eq isFlag valueSolid flag]
      by_cases same : flag = update.1
      · subst same
        rw [if_pos rfl, List.lookup_cons_self, Option.map_some]
      · have different : (flag == update.1) = false := by simpa using same
        rw [if_neg same, List.lookup_cons, different]
        exact later

/-- The flags on the lines that a change adds are those that were on no line before. -/
theorem valueAmong_remaining (writable : updates.Writable) (flag : String) :
    valueAmong flag.toList
        ((remaining updates deletions items).map fun update =>
          lineOf update.1.toList update.2.toList) =
      if flag ∈ deletions ∨ ∃ line ∈ items, nameOf (trim line) = flag.toList then none
      else (updates.lookup flag).map String.toList := by
  have named : flag ∈ (items.map fun line => String.ofList (nameOf (trim line))) ↔
      ∃ line ∈ items, nameOf (trim line) = flag.toList := by
    rw [List.mem_map]
    refine exists_congr fun line => and_congr_right fun _ => ?_
    rw [← String.toList_inj, String.toList_ofList]
  have writableThere : (remaining updates deletions items).Writable :=
    fun update member => writable update (List.mem_filter.mp member).1
  rw [valueAmong_written writableThere, remaining,
    lookup_filter fun name => !((items.map fun line =>
      String.ofList (nameOf (trim line))).contains name || deletions.contains name)]
  simp only [← named]
  generalize items.map (fun line => String.ofList (nameOf (trim line))) = names
  by_cases gone : flag ∈ deletions ∨ flag ∈ names
  · have dropped : (!(names.contains flag || deletions.contains flag)) = false := by
      rcases gone with inDeletions | inNames
      · simp [inDeletions]
      · simp [inNames]
    rw [if_pos gone, dropped, if_neg Bool.false_ne_true, Option.map_none]
  · rw [if_neg gone]
    rw [not_or] at gone
    have stays : (!(names.contains flag || deletions.contains flag)) = true := by
      simp [gone.1, gone.2]
    rw [if_pos stays]

/-- After a change a deleted flag is missing, an updated one has its new value, and every other
one has the value that it had. -/
theorem valueAmong_change (writable : updates.Writable) (flag : String)
    (items : List (List Char)) :
    valueAmong flag.toList (change updates deletions items) =
      if flag ∈ deletions then none
      else
        match updates.lookup flag with
        | some value => some value.toList
        | none => valueAmong flag.toList items := by
  have parts : valueAmong flag.toList (change updates deletions items) =
      (valueAmong flag.toList (items.filterMap (changeLine updates deletions))).or
        (valueAmong flag.toList ((remaining updates deletions items).map fun update =>
          lineOf update.1.toList update.2.toList)) := by
    rw [change, valueAmong, List.findSome?_append]
    rfl
  by_cases deleted : flag ∈ deletions
  · rw [if_pos deleted, valueAmong, List.findSome?_eq_none_iff]
    intro line member
    rcases mem_change member with ⟨_, notDeleted, _⟩ | ⟨update, updateMember, notDeleted, rfl⟩
    · apply valueOn_of_other
      intro named
      rw [flagOf, named, String.ofList_toList] at notDeleted
      exact notDeleted deleted
    · obtain ⟨isFlag, valueSolid⟩ := writable update updateMember
      rw [valueOn_lineOf_eq isFlag valueSolid, if_neg]
      rintro rfl
      exact notDeleted deleted
  rw [if_neg deleted, parts, valueAmong_remaining writable]
  rcases updated : updates.lookup flag with _ | value
  · rw [valueAmong_unchanged writable deleted updated]
    simp
  · by_cases named : ∃ line ∈ items, nameOf (trim line) = flag.toList
    · rw [valueAmong_named writable deleted updated named]
      simp
    · have others : ∀ line ∈ items, nameOf (trim line) ≠ flag.toList :=
        fun line member same => named ⟨line, member, same⟩
      rw [valueAmong_others writable others, Option.none_or, if_neg (by simp [deleted, named])]
      rfl

/-- The same, when the changed lines are read again from their text. -/
theorem value_change (writable : updates.Writable) (flag : String) (content : List Char) :
    Flags.value flag.toList (unlines (change updates deletions (lines content))) =
      if flag ∈ deletions then []
      else ((updates.lookup flag).map String.toList).getD (Flags.value flag.toList content) := by
  have sameLines : ((fun line => valueOn flag.toList (trim line)) ∘ withoutReturn) =
      fun line => valueOn flag.toList (trim line) := by
    funext line
    rw [Function.comp_apply, trim_withoutReturn]
  rw [Flags.value, lines_unlines (feed_not_mem_change writable.onLines content),
    List.findSome?_map, sameLines, ← valueAmong, valueAmong_change writable]
  by_cases deleted : flag ∈ deletions
  · rw [if_pos deleted, if_pos deleted]
    rfl
  · rw [if_neg deleted, if_neg deleted]
    rcases updates.lookup flag with _ | value
    · rfl
    · rfl

/-- A flag that was given a value has it when the file is read again. -/
theorem value_set (isFlag : IsFlag flag.toList) (valueSolid : Solid value.toList)
    (content : List Char) :
    Flags.value flag.toList (unlines (change [(flag, value)] [] (lines content))) =
      value.toList := by
  have writable : Updates.Writable [(flag, value)] := by
    intro update member
    rw [List.mem_singleton.mp member]
    exact ⟨isFlag, valueSolid⟩
  rw [value_change writable, if_neg List.not_mem_nil, List.lookup_cons_self]
  rfl

end Changes

/-! ## Flag files -/

section Files

variable {service flag value : String} {before after : Disk} {touched : List (List String)}
  {updates : Updates} {deletions : List String}

theorem update_within {updates : Updates} {deletions : List String}
    (member : (Layout.flags service).names ∈ touched)
    (temporaryMember : (Layout.flags service).temporary ∈ touched) :
    Within (ChangesOnly touched) (update service updates deletions) := by
  unfold update
  split
  · exact within_pure ()
  · exact within_bind within_get fun _ =>
      within_bind (within_adapt (within_of_still (readOptional_within _))) fun _ =>
        within_adapt (writeAtomic_within _ member temporaryMember)

/-- The text of a flag file, which is empty as long as there is none. -/
def contentOf (service : String) (disk : Disk) : List Char :=
  match disk.textOf (Layout.flags service) with
  | .ok text => text.toList
  | .error _ => []

theorem lookup_eq (service flag : String) (disk : Disk) :
    lookup service flag disk =
      String.ofList (Flags.value flag.toList (contentOf service disk)) := by
  rw [lookup, run_readText, contentOf]
  rcases disk.textOf (Layout.flags service) with error | text
  · rfl
  · rfl

theorem update_writes (some : (updates.isEmpty && deletions.isEmpty) = false)
    (ran : (update service updates deletions).run before = (.ok (), after)) :
    before.refuses .read (Layout.flags service).names = none ∧
      (writeAtomic (Layout.flags service)
        (String.ofList (unlines
          (change updates deletions (lines (contentOf service before))))).toUTF8).run before =
        (.ok (), after) := by
  rw [update, if_neg (Bool.eq_false_iff.mp some)] at ran
  obtain ⟨_, _, fetched, ran⟩ := bind_ok ran
  cases fetched
  obtain ⟨content, _, read, ran⟩ := bind_ok ran
  obtain ⟨rfl, allowed, given⟩ := readOptional_ok (adapt_ok read)
  refine ⟨allowed, ?_⟩
  rcases given with ⟨text, found, rfl⟩ | ⟨missing, rfl⟩
  · rw [contentOf, found]
    exact adapt_ok ran
  · rw [contentOf, missing]
    exact adapt_ok ran

/-- The file that a change reads is allowed to be read, and it holds the changed lines
afterwards. -/
theorem update_ok (some : (updates.isEmpty && deletions.isEmpty) = false)
    (ran : (update service updates deletions).run before = (.ok (), after)) :
    before.refuses .read (Layout.flags service).names = none ∧
      (Layout.flags service).asDirectory = false ∧
      after.Stores (Layout.flags service)
        (String.ofList (unlines
          (change updates deletions (lines (contentOf service before))))) := by
  obtain ⟨allowed, wrote⟩ := update_writes some ran
  exact ⟨allowed, plain_of_writeAtomic wrote, writeAtomic_stores wrote⟩

theorem contentOf_update (some : (updates.isEmpty && deletions.isEmpty) = false)
    (ran : (update service updates deletions).run before = (.ok (), after)) :
    contentOf service after =
      unlines (change updates deletions (lines (contentOf service before))) := by
  obtain ⟨allowed, plain, stored⟩ := update_ok some ran
  have changes : ChangesOnly
      [(Layout.flags service).names, (Layout.flags service).temporary] before after :=
    (update_within (by simp) (by simp)).reaches ran
  rw [← changes.refuses] at allowed
  have nonempty : (Layout.flags service).names ≠ [] := by simp [Layout.flags, Place.under]
  rw [contentOf, stored.textOf plain nonempty allowed]
  exact String.toList_ofList

/-- After a change a deleted flag has no value, an updated one its new value and every other one
the value that it had. -/
theorem lookup_update (writable : updates.Writable)
    (ran : (update service updates deletions).run before = (.ok (), after)) (flag : String) :
    lookup service flag after =
      if flag ∈ deletions then ""
      else (updates.lookup flag).getD (lookup service flag before) := by
  by_cases some : (updates.isEmpty && deletions.isEmpty) = false
  · rw [lookup_eq, contentOf_update some ran, value_change writable, lookup_eq]
    by_cases deleted : flag ∈ deletions
    · rw [if_pos deleted, if_pos deleted]
    · rw [if_neg deleted, if_neg deleted]
      rcases updates.lookup flag with _ | value
      · rfl
      · exact String.ofList_toList
  · rw [Bool.not_eq_false] at some
    rw [update, if_pos some] at ran
    cases ran
    rw [Bool.and_eq_true, List.isEmpty_iff, List.isEmpty_iff] at some
    obtain ⟨rfl, rfl⟩ := some
    rfl

theorem lookup_of_textOf {disk : Disk} {text : String}
    (read : disk.textOf (Layout.flags service) = .ok text) (flag : String) :
    lookup service flag disk = String.ofList (Flags.value flag.toList text.toList) := by
  rw [lookup, run_readText, read]

theorem lookup_of_absent {disk : Disk}
    (absent : disk.entryAt? (Layout.flags service).names = none) (flag : String) :
    lookup service flag disk = "" := by
  rw [lookup, run_readText]
  rcases read : disk.textOf (Layout.flags service) with error | text
  · rfl
  · obtain ⟨_, _, present⟩ := entry_of_textOf_ok read
    rw [absent] at present
    cases present

theorem solid_lookup (service flag : String) (disk : Disk) :
    Solid (lookup service flag disk).toList := by
  rw [lookup_eq, String.toList_ofList]
  exact solid_value _ _

theorem lookup_set (isFlag : IsFlag flag.toList) (valueSolid : Solid value.toList)
    (ran : (update service [(flag, value)] []).run before = (.ok (), after)) :
    lookup service flag after = value := by
  rw [lookup_eq, contentOf_update rfl ran, value_set isFlag valueSolid, String.ofList_toList]

end Files

end Flags
end ClusterAgent
