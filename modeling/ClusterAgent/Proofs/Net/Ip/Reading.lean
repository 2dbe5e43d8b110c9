import ClusterAgent.Proofs.Net.Ip.Canonical
import ClusterAgent.Proofs.Net.Ip.Spelling
namespace ClusterAgent

open Text

namespace IpAddress

/-! ## Canonical texts are read -/

section Groups

variable {items : List Nat} {text : List Char} {bits : BitVec 128} {inner : BitVec 32}

theorem isGroup_hexadecimal {group : Nat} (small : group < 65536) :
    IsGroup (hexadecimal group) group :=
  ⟨numeral_toDigits (by decide) (by decide),
    (Nat.length_toDigits_le_iff (by decide) (by decide)).mpr small⟩

theorem pieces_hexadecimal (small : ∀ group ∈ items, group < 65536) :
    Pieces false (items.map hexadecimal) items := by
  induction items with
  | nil => exact .nil
  | cons group items inductionHypothesis =>
      rw [List.forall_mem_cons] at small
      exact .cons (isGroup_hexadecimal small.1) (inductionHypothesis small.2)

/-- A double colon may stand for any zeros, of which there is at least one. -/
theorem spellsGroups_of_zeros {position count : Nat} (eight : items.length = 8)
    (small : ∀ group ∈ items, group < 65536) (zeros : ZerosAt items position count)
    (nonempty : 0 < count) :
    SpellsGroups (colonSeparated (items.take position) ++
      ':' :: ':' :: colonSeparated (items.drop (position + count))) items := by
  have smallFront : ∀ group ∈ items.take position, group < 65536 :=
    fun group member => small group (List.mem_of_mem_take member)
  have smallBack : ∀ group ∈ items.drop (position + count), group < 65536 :=
    fun group member => small group (List.mem_of_mem_drop member)
  have parted := zeros.split
  have lengths := congrArg List.length parted
  rw [List.length_append, List.length_append, List.length_replicate, eight] at lengths
  have missing : 8 - (items.take position).length - (items.drop (position + count)).length =
      count := by
    omega
  have written := SpellsGroups.shortened (pieces_hexadecimal smallFront)
    (pieces_hexadecimal smallBack) (by omega)
  rw [missing, List.append_assoc, ← parted] at written
  exact written

theorem assemble_mapped (isMapped : IsMapped bits inner) :
    assemble 65536 (List.replicate 5 0 ++ 0xFFFF :: groupsOfOctets (octets inner)) =
      bits.toNat := by
  have bound := inner.isLt
  rw [isMapped, ← assemble_octets inner]
  simp only [octets, groupsOfOctets, List.map_cons, List.map_nil, assemble, List.take_succ_cons,
    List.take_zero, List.drop_succ_cons, List.drop_zero, List.foldl_append, List.foldl_cons,
    List.foldl_nil, List.replicate_succ, List.replicate_zero]
  omega

theorem spellsGroups_mapped (isMapped : IsMapped bits inner) :
    SpellsGroups ("::ffff:".toList ++ dotted inner) (groups bits) := by
  have mark : IsGroup ['f', 'f', 'f', 'f'] 0xFFFF := by
    have digits : hexadecimal 0xFFFF = ['f', 'f', 'f', 'f'] := by decide
    rw [← digits]
    exact isGroup_hexadecimal (by decide)
  have text : "::ffff:".toList ++ dotted inner =
      joined [] ++ ':' :: ':' :: joined [['f', 'f', 'f', 'f'], dotted inner] := by
    rw [joined_cons]
    simp [joined, afterColons, List.intercalate]
  have written : SpellsGroups ("::ffff:".toList ++ dotted inner)
      (List.replicate 5 0 ++ 0xFFFF :: groupsOfOctets (octets inner)) := by
    have short : 0 + 3 < 8 := by decide
    rw [text]
    exact .shortened .nil (.cons mark (.last inner)) short
  have whole : groups bits = List.replicate 5 0 ++ 0xFFFF :: groupsOfOctets (octets inner) := by
    rw [← groups_ofNat_assemble written.length_eq written.lt, assemble_mapped isMapped,
      BitVec.ofNat_toNat, BitVec.setWidth_eq]
  rwa [whole]

theorem spells_of_canonical {address : IpAddress} (canonical : Canonical address text) :
    Spells text address := by
  cases canonical with
  | v4 bits => exact .v4 bits
  | mapped isMapped => exact .v6 (spellsGroups_mapped isMapped)
  | plain notMapped noRun =>
      exact .v6 (.whole (pieces_hexadecimal group_lt_of_mem) rfl)
  | shortened notMapped several run =>
      exact .v6 (spellsGroups_of_zeros rfl group_lt_of_mem run.zeros
        (Nat.zero_lt_of_lt several))

end Groups

theorem spells_toChars (address : IpAddress) : Spells address.toChars address :=
  spells_of_canonical (canonical_toChars address)

/-- The text of an address is read as the address. -/
@[simp] theorem ofText?_toText (address : IpAddress) : ofText? address.toText = some address := by
  rw [ofText?, toText, String.toList_ofList, ofChars?_eq_some_iff]
  exact spells_toChars address

end IpAddress
end ClusterAgent
