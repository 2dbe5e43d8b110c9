import ClusterAgent.Proofs.Files.Renewing
import ClusterAgent.Proofs.Node.Flags
namespace ClusterAgent
namespace Flags

open Disk Running Text

/-! ## Updates in order -/

/-- Each flag has one value, and the flags are in order. -/
def Updates.Ordered (updates : Updates) : Prop :=
  updates.Pairwise fun one other => one.1 < other.1

section Order

variable {updates : Updates} {flag value : String}

theorem flag_of_mem_insert {update : String × String}
    (member : update ∈ updates.insert flag value) : update.1 = flag ∨ update ∈ updates := by
  induction updates with
  | nil =>
      rw [List.mem_singleton.mp member]
      exact Or.inl rfl
  | cons first rest inductionHypothesis =>
      rw [Updates.insert] at member
      split at member
      · rcases List.mem_cons.mp member with rfl | later
        · exact Or.inl rfl
        · exact Or.inr (List.mem_cons_of_mem _ later)
      · split at member
        · rcases List.mem_cons.mp member with rfl | later
          · exact Or.inl rfl
          · exact Or.inr later
        · rcases List.mem_cons.mp member with rfl | later
          · exact Or.inr List.mem_cons_self
          · exact (inductionHypothesis later).imp_right (List.mem_cons_of_mem _)

theorem Updates.Ordered.insert (ordered : updates.Ordered) (flag value : String) :
    (updates.insert flag value).Ordered := by
  induction updates with
  | nil => exact List.pairwise_singleton _ _
  | cons first rest inductionHypothesis =>
      obtain ⟨isFirst, restOrdered⟩ := List.pairwise_cons.mp ordered
      rw [Updates.insert]
      by_cases same : flag = first.1
      · rw [if_pos same, same]
        exact List.pairwise_cons.mpr ⟨isFirst, restOrdered⟩
      · rw [if_neg same]
        by_cases before : flag < first.1
        · rw [if_pos before]
          refine List.pairwise_cons.mpr ⟨List.forall_mem_cons.mpr ⟨before, ?_⟩, ordered⟩
          exact fun other member => String.lt_trans before (isFirst other member)
        · have behind : first.1 < flag := String.not_le.mp fun le =>
            same (String.le_antisymm le (String.not_lt.mp before))
          rw [if_neg before]
          refine List.pairwise_cons.mpr ⟨fun other member => ?_, inductionHypothesis restOrdered⟩
          rcases flag_of_mem_insert member with isFlag | old
          · rw [isFlag]
            exact behind
          · exact isFirst other old

theorem ordered_ofList (items : List (String × String)) : (Updates.ofList items).Ordered := by
  suffices folded : ∀ updates : Updates, updates.Ordered →
      Updates.Ordered (items.foldl (fun updates item => updates.insert item.1 item.2) updates) from
    folded [] List.Pairwise.nil
  induction items with
  | nil => exact fun _ ordered => ordered
  | cons item items inductionHypothesis =>
      exact fun updates ordered => inductionHypothesis _ (ordered.insert item.1 item.2)

theorem lookup_of_mem (ordered : updates.Ordered) (member : (flag, value) ∈ updates) :
    updates.lookup flag = some value := by
  induction updates with
  | nil => cases member
  | cons first rest inductionHypothesis =>
      obtain ⟨isFirst, restOrdered⟩ := List.pairwise_cons.mp ordered
      rcases List.mem_cons.mp member with rfl | later
      · exact List.lookup_cons_self
      · have different : (flag == first.1) = false := by
          have smaller : first.1 < flag := isFirst (flag, value) later
          refine beq_false_of_ne fun same => ?_
          rw [same] at smaller
          exact String.lt_irrefl _ smaller
        rw [List.lookup_cons, different]
        exact inductionHypothesis restOrdered later

end Order

/-! ## Merged lines -/

/-- The flag of the line is neither deleted nor updated. -/
def Untouched (updates : Updates) (deletions : List String) (line : List Char) : Prop :=
  flagOf line ∉ deletions ∧ flagOf line ∉ updates.map Prod.fst

instance (updates : Updates) (deletions : List String) (line : List Char) :
    Decidable (Untouched updates deletions line) :=
  inferInstanceAs (Decidable (_ ∧ _))

/-- What the old lines have become: lines of deleted flags are dropped, those of updated flags
have the new form of the flag, and all others are as they were. -/
inductive Rewritten (updates : Updates) (deletions : List String) :
    List (List Char) → List (List Char) → Prop
  | nil : Rewritten updates deletions [] []
  | dropped {line : List Char} {old new : List (List Char)}
      (deleted : flagOf line ∈ deletions) (rest : Rewritten updates deletions old new) :
      Rewritten updates deletions (line :: old) new
  | replaced {line : List Char} {old new : List (List Char)} {value : String}
      (notDeleted : flagOf line ∉ deletions) (updated : (flagOf line, value) ∈ updates)
      (rest : Rewritten updates deletions old new) :
      Rewritten updates deletions (line :: old)
        (lineOf (flagOf line).toList value.toList :: new)
  | kept {line : List Char} {old new : List (List Char)}
      (untouched : Untouched updates deletions line)
      (rest : Rewritten updates deletions old new) :
      Rewritten updates deletions (line :: old) (line :: new)

/-- The new lines are the old ones with the changes made. -/
structure Merged (updates : Updates) (deletions : List String) (old new : List (List Char)) :
    Prop where
  others : new.filter (fun line => Untouched updates deletions line) =
    old.filter (fun line => Untouched updates deletions line)
  places : ∃ (inPlace : List (List Char)) (added : Updates),
    new = inPlace ++ added.map (fun update => lineOf update.1.toList update.2.toList) ∧
      Rewritten updates deletions old inPlace ∧ added.Ordered ∧
      ∀ update, update ∈ added ↔
        update ∈ updates ∧ update.1 ∉ deletions ∧ ∀ line ∈ old, flagOf line ≠ update.1

section Merging

variable {updates : Updates} {deletions : List String} {line : List Char}
  {items old new : List (List Char)}

/-- A value may have blanks around it, which are trimmed behind the equals sign only. -/
theorem flagOf_lineOf {name : String} (isFlag : IsFlag name.toList) (value : String) :
    flagOf (lineOf name.toList value.toList) = name := by
  have named : nameOf (trim (lineOf name.toList value.toList)) = name.toList := by
    by_cases empty : value.toList = []
    · have alone : lineOf name.toList value.toList = name.toList := if_pos (by simp [empty])
      rw [alone, trim_eq_self isFlag.solid]
      exact nameOf_lineOf isFlag []
    · have signed : lineOf name.toList value.toList = name.toList ++ '=' :: value.toList :=
        if_neg (by simpa using empty)
      rw [signed, trim_append_mark rfl fun first isFirst =>
        isFlag.solid first (List.mem_of_mem_head? isFirst)]
      exact nameOf_append isFlag rfl _
  rw [flagOf, named, String.ofList_toList]

theorem flagOf_withoutReturn (line : List Char) : flagOf (withoutReturn line) = flagOf line := by
  rw [flagOf, flagOf, trim_withoutReturn]

theorem lookup_eq_none {flag : String} : updates.lookup flag = none ↔
    flag ∉ updates.map Prod.fst := by
  rw [List.lookup_eq_none_iff]
  simp only [bne_iff_ne, List.mem_map, not_exists, not_and]
  exact forall₂_congr fun _ _ => ne_comm

theorem rewritten_changeLine (updates : Updates) (deletions : List String)
    (items : List (List Char)) :
    Rewritten updates deletions items (items.filterMap (changeLine updates deletions)) := by
  induction items with
  | nil => exact Rewritten.nil
  | cons line items inductionHypothesis =>
      by_cases deleted : flagOf line ∈ deletions
      · rw [List.filterMap_cons_none (by rw [changeLine_eq, if_pos deleted])]
        exact Rewritten.dropped deleted inductionHypothesis
      · rcases updated : updates.lookup (flagOf line) with _ | value
        · rw [List.filterMap_cons_some (by rw [changeLine_eq, if_neg deleted, updated])]
          exact Rewritten.kept ⟨deleted, lookup_eq_none.mp updated⟩ inductionHypothesis
        · rw [List.filterMap_cons_some (by rw [changeLine_eq, if_neg deleted, updated])]
          exact Rewritten.replaced deleted (mem_of_lookup updated) inductionHypothesis

theorem not_untouched_lineOf (onLines : updates.OnLines) {update : String × String}
    (member : update ∈ updates) :
    ¬Untouched updates deletions (lineOf update.1.toList update.2.toList) := by
  rintro ⟨_, notUpdated⟩
  rw [flagOf_lineOf (onLines update member).1] at notUpdated
  exact notUpdated (List.mem_map_of_mem member)

theorem Rewritten.filter_untouched (rewritten : Rewritten updates deletions old new)
    (onLines : updates.OnLines) :
    new.filter (fun line => Untouched updates deletions line) =
      old.filter (fun line => Untouched updates deletions line) := by
  induction rewritten with
  | nil => rfl
  | dropped deleted _ inductionHypothesis =>
      rw [inductionHypothesis, List.filter_cons_of_neg]
      simpa using fun untouched : Untouched _ _ _ => untouched.1 deleted
  | replaced _ updated _ inductionHypothesis =>
      have oldTouched : ¬Untouched updates deletions _ := fun untouched =>
        untouched.2 (List.mem_map_of_mem updated)
      have newTouched : ¬Untouched updates deletions _ := not_untouched_lineOf onLines updated
      rw [List.filter_cons_of_neg (by simpa using newTouched),
        List.filter_cons_of_neg (by simpa using oldTouched), inductionHypothesis]
  | kept untouched _ inductionHypothesis =>
      rw [List.filter_cons_of_pos (by simpa using untouched),
        List.filter_cons_of_pos (by simpa using untouched), inductionHypothesis]

theorem merged_change (ordered : updates.Ordered) (onLines : updates.OnLines)
    (deletions : List String) (items : List (List Char)) :
    Merged updates deletions items (change updates deletions items) := by
  have rewritten := rewritten_changeLine updates deletions items
  constructor
  · have noneAdded : ((remaining updates deletions items).map fun update =>
        lineOf update.1.toList update.2.toList).filter
          (fun line => Untouched updates deletions line) = [] := by
      rw [List.filter_eq_nil_iff]
      intro line member
      obtain ⟨update, remains, rfl⟩ := List.mem_map.mp member
      simpa using not_untouched_lineOf onLines (mem_remaining.mp remains).1
    rw [change, List.filter_append, noneAdded, List.append_nil,
      rewritten.filter_untouched onLines]
  · exact ⟨_, remaining updates deletions items, rfl, rewritten, ordered.filter _,
      fun _ => mem_remaining⟩

/-! ## The same change once more -/

/-- Every update that is not deleted is on a line of the changed file. -/
theorem named_of_change {update : String × String} (onLines : updates.OnLines)
    (member : update ∈ updates) (notDeleted : update.1 ∉ deletions) :
    ∃ line ∈ change updates deletions items, flagOf line = update.1 := by
  have isFlag := (onLines update member).1
  by_cases named : ∃ line ∈ items, flagOf line = update.1
  · obtain ⟨line, lineMember, isNamed⟩ := named
    rcases updated : updates.lookup (flagOf line) with _ | value
    · rw [isNamed] at updated
      exact absurd (List.mem_map_of_mem member) (lookup_eq_none.mp updated)
    · refine ⟨lineOf update.1.toList value.toList, List.mem_append_left _ ?_,
        flagOf_lineOf isFlag value⟩
      refine List.mem_filterMap.mpr ⟨line, lineMember, ?_⟩
      rw [changeLine_eq, updated, isNamed, if_neg notDeleted]
  · refine ⟨lineOf update.1.toList update.2.toList, List.mem_append_right _ ?_,
      flagOf_lineOf isFlag update.2⟩
    have remains : update ∈ remaining updates deletions items :=
      mem_remaining.mpr ⟨member, notDeleted, fun line lineMember same =>
        named ⟨line, lineMember, same⟩⟩
    exact List.mem_map.mpr ⟨update, remains, rfl⟩

/-- A line of the changed file is what the change makes of it when it is read again. -/
theorem changeLine_again (ordered : updates.Ordered) (onLines : updates.OnLines)
    (noReturn : ∀ line ∈ items, '\r' ∉ line) (member : line ∈ change updates deletions items) :
    changeLine updates deletions (withoutReturn line) = some line := by
  rw [changeLine_eq, flagOf_withoutReturn]
  rcases mem_change member with ⟨oldMember, notDeleted, notUpdated⟩ |
    ⟨update, updateMember, notDeleted, rfl⟩
  · have whole : withoutReturn line = line := withoutReturn_eq_self fun isLast =>
      noReturn line oldMember (List.mem_of_getLast? isLast)
    rw [whole, if_neg notDeleted, notUpdated]
  · rw [flagOf_lineOf (onLines update updateMember).1, if_neg notDeleted,
      lookup_of_mem ordered updateMember]

theorem change_again (ordered : updates.Ordered) (onLines : updates.OnLines)
    (noReturn : ∀ line ∈ items, '\r' ∉ line) :
    change updates deletions ((change updates deletions items).map withoutReturn) =
      change updates deletions items := by
  have inPlace : ((change updates deletions items).map withoutReturn).filterMap
      (changeLine updates deletions) = change updates deletions items := by
    rw [List.filterMap_map]
    calc
      _ = (change updates deletions items).filterMap some :=
        List.filterMap_congr fun _ member => changeLine_again ordered onLines noReturn member
      _ = change updates deletions items := List.filterMap_some
  have nothingNew : remaining updates deletions
      ((change updates deletions items).map withoutReturn) = [] := by
    refine List.eq_nil_iff_forall_not_mem.mpr fun update remains => ?_
    obtain ⟨member, notDeleted, missing⟩ := mem_remaining.mp remains
    obtain ⟨line, lineMember, named⟩ := named_of_change onLines member notDeleted
    refine missing (withoutReturn line) (List.mem_map_of_mem lineMember) ?_
    rw [flagOf_withoutReturn, named]
  rw [change, inPlace, nothingNew, List.map_nil, List.append_nil]

end Merging

/-! ## Merged files -/

section Files

variable {service : String} {updates : Updates} {deletions : List String} {before after : Disk}

/-- A flag file that can be read and replaced, or made, can be changed. -/
theorem update_runs (accepts : Accepts (Layout.flags service) before)
    (readable : before.textOf (Layout.flags service) = .error .notFound ∨
      ∃ text, before.textOf (Layout.flags service) = .ok text)
    (updates : Updates) (deletions : List String) :
    ∃ after, (update service updates deletions).run before = (.ok (), after) := by
  obtain ⟨content, given⟩ : ∃ content,
      (readOptional (Layout.flags service)).run before = (.ok content, before) := by
    rcases readable with missing | ⟨text, read⟩
    · exact ⟨none, by rw [run_readOptional, missing]; rfl⟩
    · exact ⟨some text, by rw [run_readOptional, read]⟩
  unfold update
  split
  · exact ⟨before, rfl⟩
  · obtain ⟨after, wrote⟩ := writeAtomic_accepted accepts (String.ofList (unlines
      (change updates deletions (lines (content.getD "").toList)))).toUTF8
    refine ⟨after, ?_⟩
    rw [run_bind, run_get]
    dsimp only
    rw [run_bind, run_adapt, given]
    dsimp only [Except.mapError]
    rw [run_adapt, wrote]
    rfl

/-- The same change can be made again, and the file keeps its text, octet for octet. -/
theorem update_again (some : (updates.isEmpty && deletions.isEmpty) = false)
    (ordered : updates.Ordered) (onLines : updates.OnLines)
    (noReturn : '\r' ∉ contentOf service before)
    (ran : (update service updates deletions).run before = (.ok (), after)) :
    ∃ again, (update service updates deletions).run after = (.ok (), again) ∧
      again.Stores (Layout.flags service)
        (String.ofList (unlines
          (change updates deletions (lines (contentOf service before))))) := by
  obtain ⟨allowed, wrote⟩ := update_writes some ran
  have renewable := renewable_of_writeAtomic wrote
  have changes : ChangesOnly
      [(Layout.flags service).names, (Layout.flags service).temporary] before after :=
    (update_within (by simp) (by simp)).reaches ran
  rw [← changes.refuses] at allowed
  have read := (writeAtomic_stores wrote).textOf renewable.plain renewable.nonempty allowed
  obtain ⟨again, ranAgain⟩ := update_runs renewable.accepts (Or.inr ⟨_, read⟩) updates deletions
  have noReturnThere : ∀ line ∈ lines (contentOf service before), '\r' ∉ line :=
    fun line lineMember member => noReturn (mem_of_mem_lines _ lineMember member)
  have sameLines : change updates deletions (lines (contentOf service after)) =
      change updates deletions (lines (contentOf service before)) := by
    rw [contentOf_update some ran, lines_unlines (feed_not_mem_change onLines _),
      change_again ordered onLines noReturnThere]
  obtain ⟨_, _, stored⟩ := update_ok some ranAgain
  rw [sameLines] at stored
  exact ⟨again, ranAgain, stored⟩

/-- A change keeps all other lines and their order, changes or drops the lines of its flags where
they stand, appends what was missing and does nothing when it is made again. -/
theorem update_merges (some : (updates.isEmpty && deletions.isEmpty) = false)
    (ordered : updates.Ordered) (onLines : updates.OnLines)
    (noReturn : '\r' ∉ contentOf service before) :
    (Accepts (Layout.flags service) before →
      (before.textOf (Layout.flags service) = .error .notFound ∨
        ∃ text, before.textOf (Layout.flags service) = .ok text) →
      ∃ after, (update service updates deletions).run before = (.ok (), after)) ∧
    ∀ after, (update service updates deletions).run before = (.ok (), after) →
      ∃ new : List (List Char),
        after.Stores (Layout.flags service) (String.ofList (unlines new)) ∧
          (∀ line ∈ new, '\n' ∉ line) ∧
          Merged updates deletions (lines (contentOf service before)) new ∧
          ∃ again, (update service updates deletions).run after = (.ok (), again) ∧
            again.Stores (Layout.flags service) (String.ofList (unlines new)) := by
  refine ⟨fun accepts readable => update_runs accepts readable updates deletions, ?_⟩
  intro after ran
  obtain ⟨_, _, stored⟩ := update_ok some ran
  exact ⟨change updates deletions (lines (contentOf service before)), stored,
    feed_not_mem_change onLines _, merged_change ordered onLines deletions _,
    update_again some ordered onLines noReturn ran⟩

end Files

/-! ## A file with odd lines -/

/-- The file has a comment, a blank line, an indented line, a flag that stands there twice and a
last line that is not ended. -/
def unevenFlags : Disk :=
  { Disk.empty "/data" with
    entries :=
      [(["args"], .directory),
        (["args", "kubelet"], .file "# own\n\n  --v 2\n--a=1 --b=2\n--v=3\n--gone".toUTF8 false)] }

/-- A value has blanks, one is empty, and one flag is also deleted. -/
def unevenUpdates : Updates :=
  Updates.ofList [("--v", " 4 5 "), ("--new", ""), ("--gone", "x"), ("--c", "=")]

theorem unevenFlags_accepts : Accepts (Layout.flags "kubelet") unevenFlags := by
  have file : unevenFlags.entryAt? ["args", "kubelet"] =
      some (.file "# own\n\n  --v 2\n--a=1 --b=2\n--v=3\n--gone".toUTF8 false) := rfl
  have beside : unevenFlags.entryAt? ["args", "kubelet.tmp"] = none := rfl
  have names : (Layout.flags "kubelet").names = ["args", "kubelet"] := by decide +kernel
  have temporary : (Layout.flags "kubelet").temporary = ["args", "kubelet.tmp"] := by
    decide +kernel
  refine ⟨by decide +kernel, by simp [names], ?_, ?_, ?_, rfl, rfl, rfl⟩
  · rw [names]
    exact reaches_pair rfl
  · rw [names, file]
    simp
  · rw [temporary, beside]
    simp

theorem unevenFlags_merged :
    unevenUpdates.Ordered ∧ unevenUpdates.OnLines ∧ '\r' ∉ contentOf "kubelet" unevenFlags ∧
      ∃ after new again,
        (update "kubelet" unevenUpdates ["--gone"]).run unevenFlags = (.ok (), after) ∧
          contentOf "kubelet" after =
            "# own\n\n--v= 4 5 \n--a=1 --b=2\n--v= 4 5 \n--c==\n--new\n".toList ∧
          after.Stores (Layout.flags "kubelet") (String.ofList (unlines new)) ∧
          Merged unevenUpdates ["--gone"] (lines (contentOf "kubelet" unevenFlags)) new ∧
          (update "kubelet" unevenUpdates ["--gone"]).run after = (.ok (), again) ∧
          again.Stores (Layout.flags "kubelet") (String.ofList (unlines new)) := by
  have ordered : unevenUpdates.Ordered := ordered_ofList _
  have onLines : unevenUpdates.OnLines := by decide +kernel
  have noReturn : '\r' ∉ contentOf "kubelet" unevenFlags := by decide +kernel
  have readable : ∃ text, unevenFlags.textOf (Layout.flags "kubelet") = .ok text :=
    ⟨"# own\n\n  --v 2\n--a=1 --b=2\n--v=3\n--gone", by decide +kernel⟩
  have changesSome : (unevenUpdates.isEmpty && ["--gone"].isEmpty) = false := rfl
  obtain ⟨runs, merges⟩ := update_merges changesSome ordered onLines noReturn
  obtain ⟨after, ran⟩ := runs unevenFlags_accepts (Or.inr readable)
  obtain ⟨new, stored, _, merged, again, ranAgain, storedAgain⟩ := merges after ran
  have changed : unlines (change unevenUpdates ["--gone"]
      (lines (contentOf "kubelet" unevenFlags))) =
        "# own\n\n--v= 4 5 \n--a=1 --b=2\n--v= 4 5 \n--c==\n--new\n".toList := by
    decide +kernel
  have content := (contentOf_update rfl ran).trans changed
  exact ⟨ordered, onLines, noReturn, after, new, again, ran, content, stored, merged, ranAgain,
    storedAgain⟩

end Flags
end ClusterAgent
