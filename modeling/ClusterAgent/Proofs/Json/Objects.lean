import ClusterAgent.Proofs.Json.Grammar
namespace ClusterAgent
namespace Json

/-! ## Texts that break off -/

section BreakingOff

variable {fuel : Nat} {text left : List Char} {value : Reading}

def ValuesComplete (fuel : Nat) : Prop :=
  ∀ text,
    (readValue fuel text).1.isComplete = (readValue fuel text).2.isSome

def ItemsComplete (fuel : Nat) : Prop :=
  ∀ text,
    Reading.allComplete (readItems fuel text).1 = (readItems fuel text).2.isSome

def MembersComplete (fuel : Nat) : Prop :=
  ∀ text,
    Reading.membersComplete (readMembers fuel text).1 =
      (readMembers fuel text).2.isSome

theorem valuesComplete_succ (items : ItemsComplete fuel) (members : MembersComplete fuel) :
    ValuesComplete (fuel + 1) := by
  intro text
  rw [readValue.eq_2]
  split
  · rfl
  · rfl
  · rfl
  · split <;> rfl
  · split
    · rfl
    · exact items _
  · split
    · rfl
    · exact members _
  · split <;> rfl

theorem itemsComplete_succ (values : ValuesComplete fuel) (items : ItemsComplete fuel) :
    ItemsComplete (fuel + 1) := by
  intro text
  have complete := values text
  rw [readItems.eq_2]
  split
  · rename_i read
    rw [read] at complete
    simpa [Reading.allComplete] using complete
  · rename_i read
    rw [read] at complete
    split
    · simpa [Reading.allComplete] using complete
    · rw [Reading.allComplete, complete, items]
      rfl
    · simp [Reading.allComplete, Reading.isComplete]

theorem membersComplete_succ (values : ValuesComplete fuel) (members : MembersComplete fuel) :
    MembersComplete (fuel + 1) := by
  intro text
  rw [readMembers.eq_2]
  split
  · split
    · rfl
    · dsimp only
      split
      · rename_i rest _
        have complete := values rest
        split
        · rename_i read
          rw [read] at complete
          simpa [Reading.membersComplete] using complete
        · rename_i read
          rw [read] at complete
          split
          · simpa [Reading.membersComplete] using complete
          · rw [Reading.membersComplete, complete, members]
            rfl
          · simp [Reading.membersComplete, Reading.isComplete]
      · rfl
  · rfl

/-- What is read is complete exactly if the reader came to its end. -/
theorem complete_iff_ended (fuel : Nat) :
    ValuesComplete fuel ∧ ItemsComplete fuel ∧ MembersComplete fuel := by
  induction fuel with
  | zero => exact ⟨fun _ => rfl, fun _ => rfl, fun _ => rfl⟩
  | succ fuel inductionHypothesis =>
      obtain ⟨values, items, members⟩ := inductionHypothesis
      exact ⟨valuesComplete_succ items members, itemsComplete_succ values items,
        membersComplete_succ values members⟩

/-- A complete value was read to its end. -/
theorem ended_of_complete (complete : (read text).1.isComplete = true) :
    ∃ left, readValue (2 * text.length + 2) text = ((read text).1, some left) ∧
      (read text).2 = (skipSpace left).isEmpty := by
  have ended := (complete_iff_ended (2 * text.length + 2)).1 text
  rw [read] at complete ⊢
  rcases found : readValue (2 * text.length + 2) text with ⟨value, _ | left⟩
  · rw [found] at complete ended
    rw [ended] at complete
    cases complete
  · exact ⟨left, rfl, rfl⟩

theorem complete_of_ended (ended : (read text).2 = true) : (read text).1.isComplete = true := by
  have complete := (complete_iff_ended (2 * text.length + 2)).1 text
  rw [read] at ended ⊢
  rcases found : readValue (2 * text.length + 2) text with ⟨value, _ | left⟩
  · rw [found] at ended
    cases ended
  · rw [found] at complete
    exact complete

end BreakingOff

/-! ## Members and objects -/

/-- The text is one member of this name, as it may stand between the braces of an object. -/
def IsMember (name : String) (text : List Char) : Prop :=
  ∃ value, read ('{' :: text ++ ['}']) = (.object [(some name, value)], true)

/-- Whether what was read is an object with one member, of this name. -/
def hasMember (name : String) : Reading × Bool → Bool
  | (.object [(some found, _)], true) => found == name
  | _ => false

theorem isMember_iff {name : String} {text : List Char} :
    IsMember name text ↔ hasMember name (read ('{' :: text ++ ['}'])) = true := by
  constructor
  · rintro ⟨value, alone⟩
    rw [alone]
    exact beq_self_eq_true name
  · intro computed
    rw [hasMember.eq_def] at computed
    split at computed
    · rename_i alone
      obtain rfl := beq_iff_eq.mp computed
      exact ⟨_, alone⟩
    · cases computed

instance (name : String) (text : List Char) : Decidable (IsMember name text) :=
  decidable_of_iff _ isMember_iff.symm

/-- The text of an object with members, and whatever stands behind it. -/
structure ObjectText where
  front : List Char
  members : List (List Char)
  behind : List Char
  isBlank : AllSpace front
  nonempty : members ≠ []
  areMembers : ∀ member ∈ members, ∃ name, IsMember name member

def ObjectText.text (object : ObjectText) : List Char :=
  object.front ++ '{' :: ([','].intercalate object.members ++ '}' :: object.behind)

/-- A member as it is written, without blanks. -/
def memberText (name : String) (value : Json) : List Char :=
  quoted name.toList ++ ':' :: value.render

/-- A member with a string in which octets stand that are no text. -/
def faultyText (name : String) (before after : List Char) : List Char :=
  quoted name.toList ++
    ':' :: '"' :: (before.flatMap escape ++ (faultMark ++ (after.flatMap escape ++ ['"'])))

section Objects

variable {front behind text left part : List Char} {parts : List (List Char)} {name : String}
  {members : List (Option String × Reading)} {value : Reading} {fuel : Nat}

theorem WritesMember.head? {member : Option String × Reading}
    (writes : WritesMember member part) (rest : List Char) :
    (skipSpace (part ++ rest)).head? = some '"' := by
  obtain ⟨front, literal, middle, written, back, content, rfl, blank, _⟩ := writes
  rw [List.append_assoc, List.cons_append, skipSpace_behind blank rfl]
  rfl

theorem head?_parts (writes : List.Forall₂ WritesMember members parts)
    (nonempty : parts ≠ []) (rest : List Char) :
    (skipSpace ([','].intercalate parts ++ rest)).head? = some '"' := by
  cases writes with
  | nil => exact absurd rfl nonempty
  | cons first later =>
      cases later with
      | nil =>
          rw [List.intercalate_singleton]
          exact first.head? rest
      | cons next later =>
          rw [List.intercalate_cons_cons, List.append_assoc, List.append_assoc]
          exact first.head? _

theorem readValue_parts (blank : AllSpace front) (nonempty : parts ≠ [])
    (writes : List.Forall₂ WritesMember members parts)
    (enough : 2 * ([','].intercalate parts).length + 1 ≤ fuel) (behind : List Char) :
    readValue (fuel + 1) (front ++ '{' :: ([','].intercalate parts ++ '}' :: behind)) =
      (.object members, some behind) := by
  refine read_of_valueStep ?_
  rw [skipSpace_behind blank rfl]
  refine .members ?_ (readMembers_parts writes nonempty enough)
  rw [head?_parts writes nonempty]
  decide

theorem read_parts (blank : AllSpace front) (nonempty : parts ≠ [])
    (writes : List.Forall₂ WritesMember members parts) (behind : List Char) :
    read (front ++ '{' :: ([','].intercalate parts ++ '}' :: behind)) =
      (.object members, (skipSpace behind).isEmpty) := by
  rw [read, readValue_parts blank nonempty writes]
  simp only [List.length_append, List.length_cons]
  omega

/-- An object with members was written as parts, one for each member. -/
theorem parts_of_readValue (nonempty : members ≠ [])
    (read : readValue (fuel + 1) text = (.object members, some left)) :
    ∃ front parts, text = front ++ '{' :: ([','].intercalate parts ++ '}' :: left) ∧
      AllSpace front ∧ parts ≠ [] ∧ List.Forall₂ WritesMember members parts := by
  have step := valueStep_of_read read
  obtain ⟨front, shape, blank⟩ := skipSpace_cases text
  generalize skipSpace text = stripped at step shape
  cases step with
  | noMembers => exact absurd rfl nonempty
  | members _ readInner =>
      obtain ⟨parts, someParts, rfl, writes⟩ := (written_of_read fuel).2.2 readInner
      exact ⟨front, parts, shape, blank, someParts, writes⟩

theorem parts_of_read (nonempty : members ≠ []) (complete : Reading.membersComplete members = true)
    (found : (read text).1 = .object members) :
    ∃ front parts behind, text = front ++ '{' :: ([','].intercalate parts ++ '}' :: behind) ∧
      AllSpace front ∧ parts ≠ [] ∧ List.Forall₂ WritesMember members parts := by
  have wholeComplete : (read text).1.isComplete = true := by
    rw [found]
    exact complete
  obtain ⟨left, ended, _⟩ := ended_of_complete wholeComplete
  rw [found] at ended
  obtain ⟨front, parts, shape, rest⟩ := parts_of_readValue nonempty ended
  exact ⟨front, parts, left, shape, rest⟩

theorem allSpace_nil : AllSpace [] :=
  fun _ member => absurd member List.not_mem_nil

theorem isMember_of_writes (writes : WritesMember (some name, value) part) :
    IsMember name part := by
  have alone := read_parts allSpace_nil (List.cons_ne_nil part [])
    (.cons writes .nil) []
  rw [List.intercalate_singleton] at alone
  exact ⟨value, alone⟩

theorem allSpace_of_skipSpace (onlyBlanks : (skipSpace left).isEmpty = true) : AllSpace left := by
  obtain ⟨front, shape, blank⟩ := skipSpace_cases left
  rw [List.isEmpty_iff.mp onlyBlanks, List.append_nil] at shape
  rwa [shape]

theorem isMember_memberText {value : Json} (fitting : value.fits = true) :
    IsMember name (memberText name value) := by
  have whole : (Json.object [(name, value)]).fits = true := by
    rw [fits, membersFit, fitting]
    rfl
  exact ⟨value.reading, read_render whole⟩

theorem isMember_faultyText (name : String) (before after : List Char) :
    IsMember name (faultyText name before after) := by
  have endsName : EndsLiteral none (some name.toList) (name.toList.flatMap escape ++ ['"']) := by
    intro rest
    rw [List.append_assoc, List.singleton_append, readLiteral_quoted]
  have writesText : WritesValue (.text none)
      ('"' :: (before.flatMap escape ++ (faultMark ++ (after.flatMap escape ++ ['"'])))) := by
    intro fuel rest enough _
    obtain ⟨fuel, rfl⟩ : ∃ left, fuel = left + 1 := by
      rw [List.length_cons] at enough
      exact ⟨fuel - 1, by omega⟩
    have read := readLiteral_faulty before after rest
    refine read_of_valueStep ?_
    simp only [List.cons_append, List.append_assoc, List.nil_append]
    rw [skipSpace_cons rfl]
    exact .text read
  have writes : WritesMember (some name, .text none) (faultyText name before after) := by
    refine ⟨[], _, [], _, [], _, ?_, allSpace_nil, endsName, allSpace_nil, writesText,
      allSpace_nil, ?_⟩
    · simp [faultyText, quoted]
    · rw [Option.map_some, String.ofList_toList]
  exact isMember_of_writes writes

/-- The closing brace is the last one when only blanks follow it. -/
theorem eq_of_closing {body other : List Char} (blank : AllSpace left)
    (same : body ++ '}' :: left = other ++ ['}']) : body = other := by
  rcases List.eq_nil_or_concat left with rfl | ⟨front, last, rfl⟩
  · exact List.append_cancel_right same
  · have regrouped : (body ++ '}' :: front) ++ [last] = other ++ ['}'] := by
      rw [← same]
      simp
    obtain ⟨_, isLast⟩ := List.append_inj' regrouped rfl
    obtain rfl := List.singleton_inj.mp isLast
    cases blank '}' (by simp)

theorem writes_of_isMember (isMember : IsMember name part) :
    ∃ value, WritesMember (some name, value) part ∧ value.isComplete = true := by
  obtain ⟨value, alone⟩ := isMember
  have ended : (read ('{' :: part ++ ['}'])).2 = true := by rw [alone]
  have complete := complete_of_ended ended
  obtain ⟨left, readLeft, behind⟩ := ended_of_complete complete
  rw [alone] at complete readLeft behind
  obtain ⟨front, parts, shape, blank, _, writes⟩ :=
    parts_of_readValue (List.cons_ne_nil _ _) readLeft
  have noFront : front = [] := by
    cases front with
    | nil => rfl
    | cons first front =>
        obtain ⟨rfl, _⟩ := List.cons.inj shape
        cases blank '{' (by simp)
  subst noFront
  cases writes with
  | cons first later =>
      cases later
      refine ⟨value, ?_, ?_⟩
      · have blankLeft : AllSpace left := allSpace_of_skipSpace behind.symm
        obtain ⟨_, same⟩ := List.cons.inj shape
        rw [List.intercalate_singleton] at same
        rwa [← eq_of_closing blankLeft same.symm]
      · simpa [Reading.isComplete, Reading.membersComplete] using complete

theorem exists_writes (areMembers : ∀ member ∈ parts, ∃ name, IsMember name member) :
    ∃ members, List.Forall₂ WritesMember members parts := by
  induction parts with
  | nil => exact ⟨[], .nil⟩
  | cons part parts inductionHypothesis =>
      obtain ⟨name, isMember⟩ := areMembers part (by simp)
      obtain ⟨value, writes, _⟩ := writes_of_isMember isMember
      obtain ⟨members, later⟩ :=
        inductionHypothesis fun member among => areMembers member (by simp [among])
      exact ⟨(some name, value) :: members, .cons writes later⟩

theorem ObjectText.isObject (object : ObjectText) :
    ∃ members, (read object.text).1 = .object members := by
  obtain ⟨members, writes⟩ := exists_writes object.areMembers
  exact ⟨members, by rw [text, read_parts object.isBlank object.nonempty writes]⟩

theorem exists_isMember (writes : List.Forall₂ WritesMember members parts)
    (named : ∀ member ∈ members, member.1.isSome) :
    ∀ part ∈ parts, ∃ name, IsMember name part := by
  induction writes with
  | nil => simp
  | @cons member part members parts first later inductionHypothesis =>
      obtain ⟨key, value⟩ := member
      rw [List.forall_mem_cons] at named ⊢
      obtain ⟨name, rfl⟩ := Option.isSome_iff_exists.mp named.1
      exact ⟨⟨name, isMember_of_writes first⟩, inductionHypothesis named.2⟩

end Objects

end Json
end ClusterAgent
