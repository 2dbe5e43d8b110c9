import ClusterAgent.Net.BindAddress
import ClusterAgent.Proofs.Net.HostPort
import ClusterAgent.Proofs.Net.Subnets
namespace ClusterAgent

namespace Cidr

/-! ## Subnets and loopback -/

/-- The subnet holds loopback addresses only, or none. -/
def KeepsLoopback (cidr : Cidr) : Prop :=
  ∀ address, cidr.contains address = true → address.isLoopback = cidr.address.isLoopback

/-- Addresses of the smaller family that agree under a mask of at least eight bits have the same
first octet. -/
theorem shiftRight_eq_of_mask {length : Nat} (long : 8 ≤ length) {left right : BitVec 32}
    (agree : left &&& mask 32 length = right &&& mask 32 length) :
    left.toNat >>> 24 = right.toNat >>> 24 := by
  have octets : left >>> 24 = right >>> 24 := by
    refine BitVec.eq_of_getMsbD_eq fun position inWidth => ?_
    have inOctet : position - 24 < length := by omega
    rw [BitVec.getMsbD_ushiftRight, BitVec.getMsbD_ushiftRight,
      and_mask_eq_iff.mp agree (position - 24) inOctet]
  simpa only [BitVec.toNat_ushiftRight] using congrArg BitVec.toNat octets

/-- The loopback addresses of the smaller family fill a subnet, so that a narrower one is all
inside or all outside. -/
theorem keepsLoopback_v4 {bits : BitVec 32} {length : Nat} {bounded : length ≤ 32}
    (long : 8 ≤ length) : KeepsLoopback ⟨.v4 bits, length, bounded⟩ := by
  intro address held
  cases address with
  | v4 other =>
      have agree : bits &&& mask 32 length = other &&& mask 32 length := beq_iff_eq.mp held
      have same := shiftRight_eq_of_mask long agree
      simp only [IpAddress.isLoopback, same]
  | v6 other => cases held

end Cidr

namespace Interfaces

/-! ## Selecting a bind address -/

theorem mem_of_foldl_narrower {cidrs : List Cidr} {best : Option Cidr} {cidr : Cidr}
    (found : cidrs.foldl narrower best = some cidr) : best = some cidr ∨ cidr ∈ cidrs := by
  induction cidrs generalizing best with
  | nil => exact Or.inl found
  | cons first rest inductionHypothesis =>
      rcases inductionHypothesis found with kept | later
      · rw [narrower.eq_def] at kept
        split at kept
        · exact Or.inr (List.mem_cons.mpr (Or.inl (Option.some.inj kept).symm))
        · split at kept
          · exact Or.inr (List.mem_cons.mpr (Or.inl (Option.some.inj kept).symm))
          · exact Or.inl kept
      · exact Or.inr (List.mem_cons_of_mem _ later)

theorem mem_of_narrowest {cidrs : List Cidr} {cidr : Cidr}
    (found : narrowest cidrs = some cidr) : cidr ∈ cidrs := by
  rcases mem_of_foldl_narrower found with impossible | member
  · cases impossible
  · exact member

/-- The selected address is that of a listed interface: the address itself, or one on whose
subnet it lies. -/
theorem select_eq_some {cidrs : List Cidr} {address selected : IpAddress}
    (found : select cidrs address = some selected) :
    ∃ cidr ∈ cidrs,
      cidr.address = selected ∧ (selected = address ∨ cidr.contains address = true) := by
  rw [select] at found
  split at found
  · rename_i itself listed
    have same := List.find?_some listed
    rw [Bool.and_eq_true, beq_iff_eq] at same
    cases found
    exact ⟨itself, List.mem_of_find?_eq_some listed, rfl, Or.inl same.1⟩
  · split at found
    · rename_i around isNarrowest
      have member := List.mem_filter.mp (mem_of_narrowest isNarrowest)
      have holds := (Bool.and_eq_true _ _ ▸ member.2).2
      cases found
      exact ⟨around, member.1, rfl, Or.inr holds⟩
    · obtain ⟨cidr, listed, rfl⟩ := Option.map_eq_some_iff.mp found
      have same := List.find?_some listed
      rw [beq_iff_eq] at same
      exact ⟨cidr, List.mem_of_find?_eq_some listed, rfl, Or.inl same⟩

/-- Where subnets do not mix loopback addresses with others, the selected address is on loopback
exactly when the one asked for is. -/
theorem isLoopback_select {cidrs : List Cidr} {address selected : IpAddress}
    (separate : ∀ cidr ∈ cidrs, cidr.KeepsLoopback)
    (found : select cidrs address = some selected) :
    selected.isLoopback = address.isLoopback := by
  obtain ⟨cidr, member, rfl, same | holds⟩ := select_eq_some found
  · rw [same]
  · exact (separate cidr member address holds).symm

/-- Without a list of interfaces the bind address is the contacted host; otherwise the contacted
host is an address, and the bind address is the one selected for it. -/
theorem bindAddress_eq_ok {interfaces : Interfaces} {contacted host : String}
    (found : interfaces.bindAddress contacted = .ok host) :
    interfaces = none ∧ host = (HostPort.split contacted).host ∨
      ∃ cidrs address selected,
        interfaces = some cidrs ∧
          IpAddress.ofText? (HostPort.split contacted).host = some address ∧
            select cidrs address = some selected ∧ host = selected.toText := by
  unfold bindAddress at found
  dsimp only at found
  split at found
  · cases found
    exact Or.inl ⟨rfl, rfl⟩
  · rename_i cidrs
    split at found
    · rename_i selected chosen
      obtain ⟨address, reads, isSelected⟩ := Option.bind_eq_some_iff.mp chosen
      cases found
      exact Or.inr ⟨cidrs, address, selected, rfl, reads, isSelected, rfl⟩
    · cases found

/-- A contacted host that is an address leads to a bind address that is one. -/
theorem ofText?_bindAddress {interfaces : Interfaces} {contacted host : String}
    {address : IpAddress} (found : interfaces.bindAddress contacted = .ok host)
    (reads : IpAddress.ofText? (HostPort.split contacted).host = some address) :
    ∃ bound, IpAddress.ofText? host = some bound ∧
      (interfaces = none ∧ bound = address ∨
        ∃ cidrs, interfaces = some cidrs ∧ select cidrs address = some bound) := by
  rcases bindAddress_eq_ok found with ⟨unlisted, rfl⟩ | ⟨cidrs, other, selected, listed, readsToo,
    isSelected, rfl⟩
  · exact ⟨address, reads, Or.inl ⟨unlisted, rfl⟩⟩
  · rw [reads] at readsToo
    cases readsToo
    exact ⟨selected, IpAddress.ofText?_toText selected, Or.inr ⟨cidrs, listed, isSelected⟩⟩

end Interfaces
end ClusterAgent
