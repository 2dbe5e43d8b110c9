import ClusterAgent.Net.Cidr
namespace ClusterAgent

namespace IpAddress

/-! ## Leading bits of an address -/

/-- The bit at a position of an address, the highest at position zero. -/
def bitAt : IpAddress → Nat → Bool
  | .v4 bits, position => bits.getMsbD position
  | .v6 bits, position => bits.getMsbD position

/-- The two addresses are of one family and have the same `count` leading bits. -/
structure SameFront (count : Nat) (left right : IpAddress) : Prop where
  family : left.width = right.width
  bits : ∀ position, position < count → left.bitAt position = right.bitAt position

section Fronts

variable {count shorter : Nat} {left middle right : IpAddress}

theorem bitAt_of_width_le {address : IpAddress} {position : Nat}
    (behind : address.width ≤ position) : address.bitAt position = false := by
  cases address with
  | v4 bits => exact BitVec.getMsbD_of_ge bits position behind
  | v6 bits => exact BitVec.getMsbD_of_ge bits position behind

namespace SameFront

theorem refl (count : Nat) (address : IpAddress) : SameFront count address address :=
  ⟨rfl, fun _ _ => rfl⟩

theorem symm (same : SameFront count left right) : SameFront count right left :=
  ⟨same.family.symm, fun position inFront => (same.bits position inFront).symm⟩

theorem trans (first : SameFront count left middle) (second : SameFront count middle right) :
    SameFront count left right :=
  ⟨first.family.trans second.family,
    fun position inFront => (first.bits position inFront).trans (second.bits position inFront)⟩

theorem mono (same : SameFront count left right) (fewer : shorter ≤ count) :
    SameFront shorter left right :=
  ⟨same.family, fun position inFront => same.bits position (Nat.lt_of_lt_of_le inFront fewer)⟩

/-- An address has no bits behind its width in which it could differ from another. -/
theorem min_width_iff :
    SameFront (min count left.width) left right ↔ SameFront count left right := by
  refine ⟨fun same => ⟨same.family, fun position inFront => ?_⟩,
    fun same => same.mono (Nat.min_le_left _ _)⟩
  by_cases inWidth : position < left.width
  · exact same.bits position (Nat.lt_min.mpr ⟨inFront, inWidth⟩)
  · have behind : left.width ≤ position := Nat.le_of_not_lt inWidth
    rw [bitAt_of_width_le behind, bitAt_of_width_le (same.family ▸ behind)]

theorem zero_iff : SameFront 0 left right ↔ left.width = right.width :=
  ⟨fun same => same.family, fun family => ⟨family, fun _ inFront => nomatch inFront⟩⟩

theorem width_iff : SameFront left.width left right ↔ right = left := by
  constructor
  · rintro ⟨family, bits⟩
    cases left with
    | v4 leftBits =>
        cases right with
        | v4 rightBits => exact congrArg _ (BitVec.eq_of_getMsbD_eq bits).symm
        | v6 rightBits => cases family
    | v6 leftBits =>
        cases right with
        | v4 rightBits => cases family
        | v6 rightBits => exact congrArg _ (BitVec.eq_of_getMsbD_eq bits).symm
  · rintro rfl
    exact refl _ _

end SameFront

end Fronts

end IpAddress

namespace Cidr

open IpAddress

/-! ## Masks -/

section Masks

variable {width length : Nat}

theorem getMsbD_mask {position : Nat} (inWidth : position < width) :
    (mask width length).getMsbD position = decide (position < length) := by
  rw [mask, BitVec.getMsbD_shiftLeft, BitVec.getMsbD_allOnes]
  exact decide_eq_decide.mpr (by omega)

/-- A mask leaves of a word its leading bits. -/
theorem and_mask_eq_iff {left right : BitVec width} :
    left &&& mask width length = right &&& mask width length ↔
      ∀ position, position < length → left.getMsbD position = right.getMsbD position := by
  constructor
  · intro same position inFront
    by_cases inWidth : position < width
    · have bits := congrArg (fun word => word.getMsbD position) same
      simpa only [BitVec.getMsbD_and, getMsbD_mask inWidth, inFront, decide_true,
        Bool.and_true] using bits
    · have behind : width ≤ position := Nat.le_of_not_lt inWidth
      rw [BitVec.getMsbD_of_ge left position behind, BitVec.getMsbD_of_ge right position behind]
  · intro same
    refine BitVec.eq_of_getMsbD_eq fun position inWidth => ?_
    rw [BitVec.getMsbD_and, BitVec.getMsbD_and, getMsbD_mask inWidth]
    by_cases inFront : position < length
    · rw [same position inFront]
    · rw [decide_eq_false inFront, Bool.and_false, Bool.and_false]

end Masks

/-! ## Addresses in a subnet -/

theorem contains_iff {cidr : Cidr} {other : IpAddress} :
    cidr.contains other = true ↔ SameFront cidr.length cidr.address other := by
  obtain ⟨address, length, bounded⟩ := cidr
  cases address with
  | v4 net =>
      cases other with
      | v4 bits =>
          have agree : (net &&& mask 32 length == bits &&& mask 32 length) = true ↔ _ :=
            beq_iff_eq.trans and_mask_eq_iff
          exact agree.trans ⟨fun same => ⟨rfl, same⟩, fun same => same.bits⟩
      | v6 bits => exact ⟨nofun, fun same => nomatch same.family⟩
  | v6 net =>
      cases other with
      | v4 bits => exact ⟨nofun, fun same => nomatch same.family⟩
      | v6 bits =>
          have agree : (net &&& mask 128 length == bits &&& mask 128 length) = true ↔ _ :=
            beq_iff_eq.trans and_mask_eq_iff
          exact agree.trans ⟨fun same => ⟨rfl, same⟩, fun same => same.bits⟩

/-- The subnet of an address holds the addresses that begin as it does. -/
theorem contains_new_iff {address other : IpAddress} {length : Nat} :
    (new address length).contains other = true ↔ SameFront length address other :=
  contains_iff.trans SameFront.min_width_iff

theorem contains_new_mono {address other : IpAddress} {shorter length : Nat}
    (fewer : shorter ≤ length) (held : (new address length).contains other = true) :
    (new address shorter).contains other = true :=
  contains_new_iff.mpr ((contains_new_iff.mp held).mono fewer)

theorem equivalence_contains_new (length : Nat) :
    Equivalence fun left right => (new left length).contains right = true := by
  refine ⟨fun address => ?_, fun held => ?_, fun first second => ?_⟩
  · exact contains_new_iff.mpr (.refl length address)
  · exact contains_new_iff.mpr (contains_new_iff.mp held).symm
  · exact contains_new_iff.mpr ((contains_new_iff.mp first).trans (contains_new_iff.mp second))

/-- An address lies in a subnet exactly when it is of the same family and its leading bits, as many
as name the subnet, are the same: the family alone where no bits name it, the address itself where
all bits do. A wider subnet holds what a narrower one does, and lying in one subnet of a size is an
equivalence. -/
theorem contains_iff_leading_bits (address : IpAddress) (length : Nat) :
    (∀ other, (new address length).contains other = true ↔
        SameFront (min length address.width) address other) ∧
      (∀ other, (new address 0).contains other = true ↔ address.width = other.width) ∧
        (∀ other, (new address address.width).contains other = true ↔ other = address) ∧
          (∀ shorter other, shorter ≤ length → (new address length).contains other = true →
            (new address shorter).contains other = true) ∧
            Equivalence fun left right => (new left length).contains right = true := by
  refine ⟨fun other => contains_iff, fun other => ?_, fun other => ?_, fun _ _ => ?_, ?_⟩
  · exact contains_new_iff.trans SameFront.zero_iff
  · exact contains_new_iff.trans SameFront.width_iff
  · exact contains_new_mono
  · exact equivalence_contains_new length

/-! ## A network of seventeen bits -/

/-- The last bit that names the network is the first of the third octet. -/
theorem contains_of_wider_network :
    17 ≤ 24 ∧ (new (.v4 0x0A018001) 24).contains (.v4 0x0A0180FF) = true ∧
      (new (.v4 0x0A018001) 17).contains (.v4 0x0A0180FF) = true ∧
        (new (.v4 0x0A018001) 17).contains (.v4 0x0A010001) = false := by
  have leading := contains_iff_leading_bits (.v4 0x0A018001) 24
  have inside : (new (.v4 0x0A018001) 24).contains (.v4 0x0A0180FF) = true := by decide
  exact ⟨by decide, inside, leading.2.2.2.1 17 _ (by decide) inside, by decide⟩

end Cidr
end ClusterAgent
