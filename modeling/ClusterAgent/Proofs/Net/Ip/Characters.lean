import ClusterAgent.Proofs.Net.Ip.Reading
import ClusterAgent.Text.Blank
namespace ClusterAgent
namespace IpAddress

/-! ## The characters of addresses -/

/-- A kind of characters to which the digits of a base belong. -/
def HasDigits (base : Nat) (kind : Char → Bool) : Prop :=
  ∀ character, (Text.digitValue? base character).isSome = true → kind character = true

section Kinds

variable {kind : Char → Bool} {text : List Char} {address : IpAddress}
  {pieces : List (List Char)}

theorem hasDigits_of_le {base larger : Nat} (ordered : base ≤ larger)
    (digits : HasDigits larger kind) : HasDigits base kind :=
  fun character isDigit => digits character (Text.isSome_digitValue?_of_le ordered isDigit)

theorem hasDigits_ne {base : Nat} {excluded : Char}
    (notDigit : Text.digitValue? base excluded = none) : HasDigits base (· != excluded) := by
  intro character isDigit
  refine bne_iff_ne.mpr ?_
  rintro rfl
  rw [notDigit] at isDigit
  cases isDigit

theorem all_of_dotted (digits : HasDigits 10 kind) (point : kind '.' = true) (bits : BitVec 32) :
    ∀ character ∈ dotted bits, kind character = true := by
  obtain ⟨first, second, third, fourth, _, written⟩ := dotted_eq bits
  have inOctet (octet : Nat) : ∀ character ∈ Text.decimal octet, kind character = true :=
    fun character member => digits character
      ((Text.numeral_toDigits (by decide) (by decide)).areDigits character member)
  rw [written]
  simp only [List.mem_append, List.mem_cons]
  rintro character (member | rfl | member | rfl | member | rfl | member)
  · exact inOctet first character member
  · exact point
  · exact inOctet second character member
  · exact point
  · exact inOctet third character member
  · exact point
  · exact inOctet fourth character member

theorem all_of_pieces {endsDotted : Bool} {items : List Nat} (digits : HasDigits 16 kind)
    (point : kind '.' = true) (written : Pieces endsDotted pieces items) :
    ∀ piece ∈ pieces, ∀ character ∈ piece, kind character = true := by
  induction written with
  | nil => nofun
  | last bits =>
      intro piece member
      rw [List.mem_singleton.mp member]
      exact all_of_dotted (hasDigits_of_le (by decide) digits) point bits
  | cons isGroup later inductionHypothesis =>
      refine List.forall_mem_cons.mpr ⟨fun character member => ?_, inductionHypothesis⟩
      exact digits character (isGroup.numeral.areDigits character member)

theorem all_of_joined (colon : kind ':' = true)
    (inside : ∀ piece ∈ pieces, ∀ character ∈ piece, kind character = true) :
    ∀ character ∈ joined pieces, kind character = true := by
  cases pieces with
  | nil => nofun
  | cons piece pieces =>
      intro character member
      rw [joined_cons, List.mem_append] at member
      rcases member with inFirst | inLater
      · exact inside piece List.mem_cons_self character inFirst
      · obtain ⟨other, isPiece, inOther⟩ := List.mem_flatMap.mp inLater
        rcases List.mem_cons.mp inOther with rfl | inPiece
        · exact colon
        · exact inside other (List.mem_cons_of_mem piece isPiece) character inPiece

theorem all_of_spellsGroups {items : List Nat} (written : SpellsGroups text items)
    (digits : HasDigits 16 kind) (point : kind '.' = true) (colon : kind ':' = true) :
    ∀ character ∈ text, kind character = true := by
  cases written with
  | whole written _ => exact all_of_joined colon (all_of_pieces digits point written)
  | shortened writtenFront writtenBack _ =>
      intro character member
      rw [List.mem_append, List.mem_cons, List.mem_cons] at member
      rcases member with inFront | rfl | rfl | inBack
      · exact all_of_joined colon (all_of_pieces digits point writtenFront) character inFront
      · exact colon
      · exact colon
      · exact all_of_joined colon (all_of_pieces digits point writtenBack) character inBack

/-- The characters of a text that writes an address are of every kind with the characters of
addresses. -/
theorem all_of_spells (written : Spells text address) (digits : HasDigits 16 kind)
    (point : kind '.' = true) (colon : kind ':' = true) :
    ∀ character ∈ text, kind character = true := by
  cases written with
  | v4 bits => exact all_of_dotted (hasDigits_of_le (by decide) digits) point bits
  | v6 written => exact all_of_spellsGroups written digits point colon

theorem not_mem_of_spells {excluded : Char} (written : Spells text address)
    (notDigit : Text.digitValue? 16 excluded = none) (notPoint : '.' ≠ excluded)
    (notColon : ':' ≠ excluded) : excluded ∉ text := by
  intro member
  have different := all_of_spells written (hasDigits_ne notDigit) (bne_iff_ne.mpr notPoint)
    (bne_iff_ne.mpr notColon) excluded member
  exact bne_iff_ne.mp different rfl

end Kinds

/-! ## Hosts -/

/-- Neither blanks nor the brackets that stand around a host. -/
def isHostCharacter (character : Char) : Bool :=
  !Text.isBlank character && character != '[' && character != ']'

theorem isHostCharacter_of_digit {base : Nat} {character : Char}
    (digit : (Text.digitValue? base character).isSome = true) :
    isHostCharacter character = true := by
  have ranges : 48 ≤ character.toNat ∧ character.toNat ≤ 57 ∨
      97 ≤ character.toNat ∧ character.toNat ≤ 122 ∨
        65 ≤ character.toNat ∧ character.toNat ≤ 90 := by
    simp only [Text.digitValue?, Char.le_def, UInt32.le_iff_toNat_le] at digit
    split at digit
    · rename_i bounds
      exact Or.inl bounds
    · split at digit
      · rename_i bounds
        exact Or.inr (Or.inl bounds)
      · split at digit
        · rename_i bounds
          exact Or.inr (Or.inr bounds)
        · cases digit
  have notBlank : Text.isBlank character = false := by
    simp only [Text.isBlank, Bool.or_eq_false_iff, Bool.and_eq_false_iff,
      decide_eq_false_iff_not, beq_eq_false_iff_ne]
    omega
  have notOpen : character ≠ '[' := by
    rintro rfl
    simp at ranges
  have notClose : character ≠ ']' := by
    rintro rfl
    simp at ranges
  simp [isHostCharacter, notBlank, notOpen, notClose]

theorem isHostCharacter_of_ofChars? {text : List Char} {address : IpAddress}
    (read : ofChars? text = some address) :
    ∀ character ∈ text, isHostCharacter character = true :=
  all_of_spells (ofChars?_eq_some_iff.mp read) (fun _ => isHostCharacter_of_digit) (by decide)
    (by decide)

theorem isHostCharacter_of_mem_toChars (address : IpAddress) :
    ∀ character ∈ address.toChars, isHostCharacter character = true :=
  isHostCharacter_of_ofChars? (ofChars?_eq_some_iff.mpr (spells_toChars address))

/-! ## Colons -/

section Colons

variable {text : List Char}

theorem colon_not_mem_of_v4 {bits : BitVec 32} (read : ofChars? text = some (.v4 bits)) :
    ':' ∉ text := by
  have noColon : HasDigits 10 (· != ':') := hasDigits_ne rfl
  intro member
  cases ofChars?_eq_some_iff.mp read with
  | v4 bits => cases all_of_dotted noColon (by decide) bits ':' member

theorem colon_mem_of_spellsGroups {items : List Nat} (written : SpellsGroups text items) :
    ':' ∈ text := by
  cases written with
  | shortened _ _ _ => exact List.mem_append_right _ List.mem_cons_self
  | whole written eight =>
      -- Eight groups are more than one piece.
      cases written with
      | nil => cases eight
      | last bits => cases eight
      | cons _ later =>
          rw [joined_cons]
          cases later with
          | nil => cases eight
          | last bits => exact List.mem_append_right _ List.mem_cons_self
          | cons _ _ => exact List.mem_append_right _ List.mem_cons_self

theorem colon_mem_of_v6 {bits : BitVec 128} (read : ofChars? text = some (.v6 bits)) :
    ':' ∈ text := by
  cases ofChars?_eq_some_iff.mp read with
  | v6 written => exact colon_mem_of_spellsGroups written

end Colons

end IpAddress
end ClusterAgent
