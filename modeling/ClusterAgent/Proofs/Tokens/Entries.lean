import ClusterAgent.Node.Tokens
import ClusterAgent.Proofs.Text.Lines
namespace ClusterAgent
namespace Tokens

/-! ## Entries that admit a token -/

/-- The entry is one of `token`, and it has no expiry or one that is a number of 64 bits after
`now`. The empty token has no entry. -/
structure Admits (token : String) (now : Int) (entry : Entry) : Prop where
  nonempty : token ≠ ""
  token : entry.token = token.toList
  inTime : ∀ text, entry.expiry = some text →
    ∃ time, Text.readInt64 (Text.trim text) = .ok time ∧ now < time

theorem isValidAt_iff {now : Int} {entry : Entry} :
    entry.isValidAt now = true ↔
      ∀ text, entry.expiry = some text →
        ∃ time, Text.readInt64 (Text.trim text) = .ok time ∧ now < time := by
  obtain ⟨token, expiry⟩ := entry
  cases expiry with
  | none => simp [Entry.isValidAt]
  | some text =>
      simp only [Entry.isValidAt, Option.some.injEq, forall_eq']
      rcases Text.readInt64 (Text.trim text) with error | time
      · simp
      · simp

theorem accepts_iff {token : String} {now : Int} {line : List Char} (nonempty : token ≠ "") :
    accepts token.toList now line = true ↔ Admits token now (Entry.ofLine line) := by
  rw [accepts, Bool.and_eq_true, beq_iff_eq, isValidAt_iff]
  exact ⟨fun ⟨same, inTime⟩ => ⟨nonempty, same, inTime⟩,
    fun admits => ⟨admits.token, admits.inTime⟩⟩

/-! ## Spending an entry -/

section Spending

variable {token : List Char} {now : Int}

/-- Spending takes out the first line that is accepted and nothing else. -/
theorem spend_eq_some {lines kept : List (List Char)} (spent : spend token now lines = some kept) :
    ∃ front line back,
      lines = front ++ line :: back ∧ kept = front ++ back ∧ accepts token now line = true ∧
        ∀ earlier ∈ front, accepts token now earlier = false := by
  induction lines generalizing kept with
  | nil => cases spent
  | cons line rest inductionHypothesis =>
      rw [spend] at spent
      split at spent
      · rename_i accepted
        cases spent
        exact ⟨[], line, rest, rfl, rfl, accepted, by simp⟩
      · rename_i notAccepted
        obtain ⟨keptLater, spentLater, rfl⟩ := Option.map_eq_some_iff.mp spent
        obtain ⟨front, found, back, shape, keptShape, accepted, earliest⟩ :=
          inductionHypothesis spentLater
        refine ⟨line :: front, found, back, by rw [shape, List.cons_append],
          by rw [keptShape, List.cons_append], accepted, ?_⟩
        intro earlier member
        rcases List.mem_cons.mp member with rfl | member
        · simpa using notAccepted
        · exact earliest earlier member

theorem spend_eq_none {lines : List (List Char)} (unspent : spend token now lines = none) :
    ∀ line ∈ lines, accepts token now line = false := by
  induction lines with
  | nil => simp
  | cons line rest inductionHypothesis =>
      rw [spend] at unspent
      split at unspent
      · cases unspent
      · rename_i notAccepted
        intro other member
        rcases List.mem_cons.mp member with rfl | member
        · simpa using notAccepted
        · exact inductionHypothesis (Option.map_eq_none_iff.mp unspent) other member

end Spending

/-! ## Entries and their lines -/

/-- A carriage return at the end of a line is no part of its entry. -/
theorem ofLine_withoutReturn (line : List Char) :
    Entry.ofLine (Text.withoutReturn line) = Entry.ofLine line := by
  rw [Entry.ofLine, Text.trim_withoutReturn, Entry.ofLine]

theorem digit_or_sign_of_mem {time : Int} {character : Char}
    (member : character ∈ (toString time).toList) :
    character.isDigit = true ∨ character = '-' := by
  have digits : ∀ number : Nat, character ∈ (toString number).toList →
      character.isDigit = true := by
    intro number inDigits
    rw [Nat.toString_eq_repr, Nat.toList_repr] at inDigits
    exact Nat.isDigit_of_mem_toDigits (by decide) (by decide) inDigits
  cases time with
  | ofNat number => exact Or.inl (digits number member)
  | negSucc number =>
      have shape : toString (Int.negSucc number) = "-" ++ toString (number + 1) := rfl
      rw [shape, String.toList_append, List.mem_append] at member
      rcases member with sign | inDigits
      · exact Or.inr (by simpa using sign)
      · exact Or.inl (digits _ inDigits)

theorem isBlank_toString (time : Int) :
    ∀ character ∈ (toString time).toList, Text.isBlank character = false := by
  intro character member
  rcases digit_or_sign_of_mem member with digit | rfl
  · exact Text.isBlank_of_isDigit digit
  · rfl

/-- The entry that is added for a token. -/
def issued (token : String) (expiry : Option Int) : Entry :=
  ⟨token.toList, expiry.map fun time => (toString time).toList⟩

section Issuing

variable {token : String}

/-- A token that can stand on a line has neither bars nor blanks in it. -/
theorem mem_of_checkToken (allowed : checkToken token = .ok ()) :
    ∀ character ∈ token.toList, character ≠ '|' ∧ Text.isBlank character = false := by
  rw [checkToken] at allowed
  split at allowed
  · cases allowed
  · split at allowed
    · cases allowed
    · rename_i noneBad
      simpa [not_or] using noneBad

theorem isBlank_toLine_issued (allowed : checkToken token = .ok ()) (expiry : Option Int) :
    ∀ character ∈ (issued token expiry).toLine, Text.isBlank character = false := by
  intro character member
  cases expiry with
  | none => exact (mem_of_checkToken allowed character member).2
  | some time =>
      rcases List.mem_append.mp member with inToken | inExpiry
      · exact (mem_of_checkToken allowed character inToken).2
      · rcases List.mem_cons.mp inExpiry with rfl | inNumber
        · rfl
        · exact isBlank_toString time character inNumber

theorem feed_not_mem_toLine (allowed : checkToken token = .ok ()) (expiry : Option Int) :
    '\n' ∉ (issued token expiry).toLine := by
  intro member
  cases isBlank_toLine_issued allowed expiry '\n' member

/-- An entry that was issued is read again as it is. -/
theorem ofLine_toLine_issued (allowed : checkToken token = .ok ()) (expiry : Option Int) :
    Entry.ofLine (issued token expiry).toLine = issued token expiry := by
  have noBar : '|' ∉ token.toList := fun member => (mem_of_checkToken allowed '|' member).1 rfl
  rw [Entry.ofLine, Text.trim_eq_self (isBlank_toLine_issued allowed expiry)]
  cases expiry with
  | none =>
      have unsplit : Text.splitOnce '|' (issued token none).toLine = none :=
        Text.splitOnce_eq_none noBar
      rw [unsplit]
      rfl
  | some time =>
      have parted : Text.splitOnce '|' (issued token (some time)).toLine =
          some (token.toList, (toString time).toList) := Text.splitOnce_append noBar _
      rw [parted]
      rfl

end Issuing

end Tokens
end ClusterAgent
