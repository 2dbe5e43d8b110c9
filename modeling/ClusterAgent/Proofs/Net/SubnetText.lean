import ClusterAgent.Net.Cidr
import ClusterAgent.Proofs.Net.Ip.Characters
import ClusterAgent.Proofs.Text.Lines
namespace ClusterAgent

open Text

namespace Cidr

/-! ## The texts of a subnet -/

/-- The text writes the address and a number below 256, with a slash between them. The number is
the length where the address has so many bits; otherwise all its bits are. -/
inductive Denotes (text : String) (address : IpAddress) (length : Nat) : Prop
  | intro (front back : List Char) (number : Nat) (parted : text.toList = front ++ '/' :: back)
      (written : IpAddress.Spells front address) (counted : WritesUnsigned 10 256 back number)
      (clamped : length = min number address.width)

section Texts

variable {text : String} {cidr : Cidr} {address : IpAddress} {length : Nat}

theorem slash_not_mem_of_spells {front : List Char} (written : IpAddress.Spells front address) :
    '/' ∉ front :=
  IpAddress.not_mem_of_spells written rfl (by decide) (by decide)

theorem new_eq_self {number : Nat} (clamped : cidr.length = min number cidr.address.width) :
    new cidr.address number = cidr := by
  obtain ⟨address, length, bounded⟩ := cidr
  dsimp only at clamped
  subst clamped
  rfl

/-- A text is read as what it denotes, and only then. -/
theorem parse_eq_ok_iff : parse text = .ok cidr ↔ Denotes text cidr.address cidr.length := by
  rw [parse]
  constructor
  · intro read
    split at read
    · cases read
    · rename_i front back split
      split at read
      · cases read
      · rename_i found spelled
        split at read
        · cases read
        · rename_i number counted
          cases read
          exact ⟨front, back, number, splitOnce_eq_some split,
            IpAddress.ofChars?_eq_some_iff.mp spelled,
            (readUnsigned_eq_ok_iff (by decide) (by decide)).mp counted, rfl⟩
  · rintro ⟨front, back, number, parted, written, counted, clamped⟩
    rw [parted, splitOnce_append (slash_not_mem_of_spells written)]
    simp only [IpAddress.ofChars?_eq_some_iff.mpr written,
      (readUnsigned_eq_ok_iff (by decide) (by decide)).mpr counted, new_eq_self clamped]

theorem toList_toText (cidr : Cidr) :
    cidr.toText.toList = cidr.address.toChars ++ '/' :: decimal cidr.length := by
  change (cidr.address.toText ++ "/" ++ Nat.repr cidr.length).toList = _
  simp only [IpAddress.toText, String.toList_append, String.toList_ofList, Nat.toList_repr,
    List.append_assoc]
  rfl

theorem width_lt (address : IpAddress) : address.width < 256 := by
  have every : 32 < 256 ∧ 128 < 256 := by decide
  cases address with
  | v4 bits => exact every.1
  | v6 bits => exact every.2

/-- A subnet is what its text denotes. -/
theorem denotes_toText (cidr : Cidr) : Denotes cidr.toText cidr.address cidr.length := by
  have small : cidr.length < 256 := Nat.lt_of_le_of_lt cidr.length_le_width (width_lt _)
  have counted : WritesUnsigned 10 256 (decimal cidr.length) cidr.length :=
    .digits (numeral_toDigits (by decide) (by decide)) small
  exact ⟨_, _, _, toList_toText cidr, IpAddress.spells_toChars _, counted,
    (Nat.min_eq_left cidr.length_le_width).symm⟩

theorem parse_toText (cidr : Cidr) : parse cidr.toText = .ok cidr :=
  parse_eq_ok_iff.mpr (denotes_toText cidr)

theorem toText_inj {left right : Cidr} : left.toText = right.toText ↔ left = right := by
  refine ⟨fun same => ?_, congrArg toText⟩
  have read := parse_toText left
  rw [same, parse_toText] at read
  exact (Except.ok.inj read).symm

theorem Denotes.parse_eq (denotes : Denotes text address length) :
    parse text = .ok (new address length) := by
  obtain ⟨front, back, number, parted, written, counted, clamped⟩ := denotes
  have again : min length address.width = min number address.width := by
    rw [clamped, Nat.min_assoc, Nat.min_self]
  exact parse_eq_ok_iff.mpr ⟨front, back, number, parted, written, counted, again⟩

/-- Texts that are read print alike where they denote the same. -/
theorem toText_eq_iff_denotes {left right : String} {leftCidr rightCidr : Cidr}
    (readLeft : parse left = .ok leftCidr) (readRight : parse right = .ok rightCidr) :
    leftCidr.toText = rightCidr.toText ↔
      ∃ address length, Denotes left address length ∧ Denotes right address length := by
  rw [toText_inj]
  constructor
  · rintro rfl
    exact ⟨_, _, parse_eq_ok_iff.mp readLeft, parse_eq_ok_iff.mp readRight⟩
  · rintro ⟨address, length, denotesLeft, denotesRight⟩
    rw [denotesLeft.parse_eq] at readLeft
    rw [denotesRight.parse_eq] at readRight
    exact (Except.ok.inj readLeft).symm.trans (Except.ok.inj readRight)

end Texts

/-- The text of a subnet loses nothing of it. Whatever address and length a subnet is made of, its
text is read as the address and the length, where the width of the address bounds the length; it is
the canonical text of the address with the length in decimal digits. A text is read exactly when it
denotes an address and a length, as these. What was read is read again from its own text, and two
texts that are read print alike exactly when they denote the same. -/
theorem text_lossless :
    (∀ address length, ∃ cidr,
        parse (new address length).toText = .ok cidr ∧
          cidr.address = address ∧ cidr.length = min length address.width) ∧
      (∀ cidr : Cidr, ∃ front,
        IpAddress.Canonical cidr.address front ∧
          cidr.toText.toList = front ++ '/' :: decimal cidr.length) ∧
        (∀ text cidr, parse text = .ok cidr ↔ Denotes text cidr.address cidr.length) ∧
          (∀ text cidr, parse text = .ok cidr → parse cidr.toText = .ok cidr) ∧
            ∀ left right leftCidr rightCidr,
              parse left = .ok leftCidr → parse right = .ok rightCidr →
                (leftCidr.toText = rightCidr.toText ↔
                  ∃ address length, Denotes left address length ∧
                    Denotes right address length) := by
  refine ⟨fun address length => ?_, fun cidr => ?_, fun text cidr => ?_, fun text cidr read => ?_,
    fun left right leftCidr rightCidr readLeft readRight => ?_⟩
  · exact ⟨new address length, parse_toText _, rfl, rfl⟩
  · exact ⟨_, IpAddress.canonical_toChars _, toList_toText cidr⟩
  · exact parse_eq_ok_iff
  · exact parse_toText cidr
  · exact toText_eq_iff_denotes readLeft readRight

/-- One mapped address, with letters of either case, zeros in front, a plus sign and a length beyond
the width. -/
theorem mapped_address_spelled_twice :
    parse "::FFFF:10.0.0.2/200" = .ok (new (.v6 0xFFFF0A000002) 128) ∧
      parse "0:0:0:0:0:ffff:0a00:0002/+128" = .ok (new (.v6 0xFFFF0A000002) 128) ∧
        (new (.v6 0xFFFF0A000002) 128).toText = "::ffff:10.0.0.2/128" ∧
          parse (new (.v6 0xFFFF0A000002) 128).toText = .ok (new (.v6 0xFFFF0A000002) 128) ∧
            ∃ address length, Denotes "::FFFF:10.0.0.2/200" address length ∧
              Denotes "0:0:0:0:0:ffff:0a00:0002/+128" address length := by
  have lossless := text_lossless
  have readLeft : parse "::FFFF:10.0.0.2/200" = .ok (new (.v6 0xFFFF0A000002) 128) := by
    rfl
  have readRight : parse "0:0:0:0:0:ffff:0a00:0002/+128" =
      .ok (new (.v6 0xFFFF0A000002) 128) := by
    rfl
  have printed : (new (.v6 0xFFFF0A000002) 128).toText = "::ffff:10.0.0.2/128" := by
    rfl
  exact ⟨readLeft, readRight, printed, lossless.2.2.2.1 _ _ readLeft,
    (lossless.2.2.2.2 _ _ _ _ readLeft readRight).mp rfl⟩

end Cidr
end ClusterAgent
