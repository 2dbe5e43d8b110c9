import ClusterAgent.Proofs.Net.BindAddress
import Mathlib.Data.List.MinMax
namespace ClusterAgent
namespace Interfaces

/-! ## Which interface answers for an address -/

/-- The address lies in the subnet, and the subnet is that of a network, not of one host. -/
def Surrounds (address : IpAddress) (cidr : Cidr) : Prop :=
  cidr.isHostMask = false ∧ cidr.contains address = true

/-- The subnet is the first listed among the narrowest networks around the address. -/
structure Nearest (cidrs : List Cidr) (address : IpAddress) (cidr : Cidr) : Prop where
  surrounds : Surrounds address cidr
  listed : ∃ front back,
    cidrs = front ++ cidr :: back ∧
      (∀ earlier ∈ front, Surrounds address earlier → earlier.length < cidr.length) ∧
        ∀ later ∈ back, Surrounds address later → later.length ≤ cidr.length

/-- The address is that of a listed interface with a network. -/
def IsOwn (cidrs : List Cidr) (address : IpAddress) : Prop :=
  ∃ cidr ∈ cidrs, cidr.address = address ∧ cidr.isHostMask = false

/-- Which of the listed addresses answers for an address. -/
inductive Selects (cidrs : List Cidr) (address : IpAddress) : IpAddress → Prop
  | own (isOwn : IsOwn cidrs address) : Selects cidrs address address
  | near {cidr : Cidr} (notOwn : ¬IsOwn cidrs address) (nearest : Nearest cidrs address cidr) :
      Selects cidrs address cidr.address
  | lone {cidr : Cidr} (notOwn : ¬IsOwn cidrs address)
      (apart : ∀ other ∈ cidrs, ¬Surrounds address other) (member : cidr ∈ cidrs)
      (same : cidr.address = address) : Selects cidrs address address

/-- No interface has the address, and no network is around it. -/
def IsForeign (cidrs : List Cidr) (address : IpAddress) : Prop :=
  ∀ cidr ∈ cidrs, cidr.address ≠ address ∧ ¬Surrounds address cidr

/-- Networks of the same size around the address have the same interface address. -/
def Unambiguous (cidrs : List Cidr) (address : IpAddress) : Prop :=
  ∀ first ∈ cidrs, ∀ second ∈ cidrs, Surrounds address first → Surrounds address second →
    first.length = second.length → first.address = second.address

instance (address : IpAddress) (cidr : Cidr) : Decidable (Surrounds address cidr) :=
  inferInstanceAs (Decidable (_ ∧ _))

instance (cidrs : List Cidr) (address : IpAddress) : Decidable (Unambiguous cidrs address) :=
  inferInstanceAs (Decidable (∀ first ∈ cidrs, ∀ second ∈ cidrs, _))

section Narrowest

variable {cidrs : List Cidr} {cidr : Cidr}

theorem narrowest_eq_argmax (cidrs : List Cidr) :
    narrowest cidrs = cidrs.argmax Cidr.length := by
  have sameStep : narrower =
      List.argAux fun later earlier : Cidr => earlier.length < later.length := by
    funext best cidr
    cases best with
    | none => rfl
    | some earlier => rfl
  rw [narrowest, sameStep, List.argmax]

theorem narrowest_eq_none : narrowest cidrs = none ↔ cidrs = [] := by
  rw [narrowest_eq_argmax, List.argmax_eq_none]

/-- All subnets listed before the first narrowest one are wider. -/
theorem narrowest_eq_some (found : narrowest cidrs = some cidr) :
    ∃ front back,
      cidrs = front ++ cidr :: back ∧ (∀ earlier ∈ front, earlier.length < cidr.length) ∧
        ∀ later ∈ back, later.length ≤ cidr.length := by
  have best : cidr ∈ cidrs.argmax Cidr.length := by
    rw [← narrowest_eq_argmax]
    exact found
  obtain ⟨front, back, split, notEarlier⟩ := List.eq_append_cons_of_mem (List.argmax_mem best)
  refine ⟨front, back, split, ?_, ?_⟩
  · intro earlier inFront
    have member : earlier ∈ cidrs := by
      rw [split]
      exact List.mem_append_left _ inFront
    by_contra notWider
    have firstOfEquals := List.index_of_argmax best member (Nat.le_of_not_lt notWider)
    have position : cidrs.idxOf cidr = front.length := by
      rw [split, List.idxOf_append_of_notMem notEarlier, List.idxOf_cons_self, Nat.add_zero]
    have earlierPosition : cidrs.idxOf earlier < front.length := by
      rw [split, List.idxOf_append_of_mem inFront]
      exact List.idxOf_lt_length_of_mem inFront
    omega
  · intro later inBack
    have member : later ∈ cidrs := by
      rw [split]
      exact List.mem_append_right _ (List.mem_cons_of_mem _ inBack)
    exact List.le_of_mem_argmax member best

end Narrowest

section Selecting

variable {cidrs others : List Cidr} {address selected other : IpAddress} {cidr : Cidr}

theorem mem_networks :
    cidr ∈ cidrs.filter (fun cidr => !cidr.isHostMask && cidr.contains address) ↔
      cidr ∈ cidrs ∧ Surrounds address cidr := by
  rw [List.mem_filter, Surrounds, Bool.and_eq_true, Bool.not_eq_true']

theorem Nearest.mem (nearest : Nearest cidrs address cidr) : cidr ∈ cidrs := by
  obtain ⟨front, back, split, _⟩ := nearest.listed
  rw [split]
  exact List.mem_append_right _ List.mem_cons_self

/-- No network around the address is narrower. -/
theorem Nearest.length_le (nearest : Nearest cidrs address cidr) {around : Cidr}
    (member : around ∈ cidrs) (surrounds : Surrounds address around) :
    around.length ≤ cidr.length := by
  obtain ⟨front, back, split, wider, notNarrower⟩ := nearest.listed
  rw [split] at member
  rcases List.mem_append.mp member with inFront | inRest
  · exact Nat.le_of_lt (wider around inFront surrounds)
  · rcases List.mem_cons.mp inRest with rfl | inBack
    · exact Nat.le_refl _
    · exact notNarrower around inBack surrounds

theorem nearest_of_narrowest
    (found : narrowest
      (cidrs.filter fun cidr => !cidr.isHostMask && cidr.contains address) = some cidr) :
    Nearest cidrs address cidr := by
  have surrounds := (mem_networks.mp (mem_of_narrowest found)).2
  obtain ⟨networksBefore, networksAfter, split, wider, notNarrower⟩ := narrowest_eq_some found
  obtain ⟨front, rest, whole, before, fromHere⟩ := List.filter_eq_append_iff.mp split
  obtain ⟨between, back, restSplit, noneBetween, _, after⟩ := List.filter_eq_cons_iff.mp fromHere
  refine ⟨surrounds, front ++ between, back, ?_, ?_, ?_⟩
  · rw [whole, restSplit, List.append_assoc]
  · intro earlier inFront around
    rcases List.mem_append.mp inFront with inFront | inBetween
    · apply wider
      rw [← before]
      exact mem_networks.mpr ⟨inFront, around⟩
    · have notAround := noneBetween earlier inBetween
      rw [around.1, around.2] at notAround
      exact absurd rfl notAround
  · intro later inBack around
    apply notNarrower
    rw [← after]
    exact mem_networks.mpr ⟨inBack, around⟩

theorem isOwn_of_find? {own : Cidr}
    (found : cidrs.find? (fun cidr => cidr.address == address && !cidr.isHostMask) = some own) :
    IsOwn cidrs address ∧ own.address = address := by
  have holds := List.find?_some found
  rw [Bool.and_eq_true, beq_iff_eq, Bool.not_eq_true'] at holds
  exact ⟨⟨own, List.mem_of_find?_eq_some found, holds⟩, holds.1⟩

theorem not_isOwn_of_find?
    (missing : cidrs.find? (fun cidr => cidr.address == address && !cidr.isHostMask) = none) :
    ¬IsOwn cidrs address := by
  rintro ⟨cidr, member, same, network⟩
  have notOwn := List.find?_eq_none.mp missing cidr member
  simp [same, network] at notOwn

theorem selects_of_select (found : select cidrs address = some selected) :
    Selects cidrs address selected := by
  rw [select] at found
  split at found
  · rename_i own listed
    obtain ⟨isOwn, same⟩ := isOwn_of_find? listed
    cases found
    rw [same]
    exact .own isOwn
  · rename_i unlisted
    have notOwn := not_isOwn_of_find? unlisted
    split at found
    · rename_i around isNarrowest
      cases found
      exact .near notOwn (nearest_of_narrowest isNarrowest)
    · rename_i noNetwork
      have apart : ∀ other ∈ cidrs, ¬Surrounds address other := by
        intro other member around
        have network := mem_networks.mpr ⟨member, around⟩
        rw [narrowest_eq_none.mp noNetwork] at network
        cases network
      obtain ⟨lone, listed, rfl⟩ := Option.map_eq_some_iff.mp found
      have same : lone.address = address := by simpa using List.find?_some listed
      rw [same]
      exact .lone notOwn apart (List.mem_of_find?_eq_some listed) same

theorem select_eq_none : select cidrs address = none ↔ IsForeign cidrs address := by
  constructor
  · intro missing
    rw [select] at missing
    split at missing
    · cases missing
    · split at missing
      · cases missing
      · rename_i noNetwork
        intro cidr member
        refine ⟨?_, fun around => ?_⟩
        · have different := List.find?_eq_none.mp (Option.map_eq_none_iff.mp missing) cidr member
          simpa using different
        · have network := mem_networks.mpr ⟨member, around⟩
          rw [narrowest_eq_none.mp noNetwork] at network
          cases network
  · intro foreign
    rcases found : select cidrs address with _ | selected
    · rfl
    · cases selects_of_select found with
      | own isOwn =>
          obtain ⟨cidr, member, same, _⟩ := isOwn
          exact absurd same (foreign cidr member).1
      | near _ nearest => exact absurd nearest.surrounds (foreign _ nearest.mem).2
      | lone _ _ member same => exact absurd same (foreign _ member).1

theorem Selects.listed (selects : Selects cidrs address selected) :
    ∃ cidr ∈ cidrs, cidr.address = selected := by
  cases selects with
  | own isOwn =>
      obtain ⟨cidr, member, same, _⟩ := isOwn
      exact ⟨cidr, member, same⟩
  | near _ nearest => exact ⟨_, nearest.mem, rfl⟩
  | lone _ _ member same => exact ⟨_, member, same⟩

end Selecting

/-! ## Other orders of the same interfaces -/

section Permuted

variable {cidrs others : List Cidr} {address selected other : IpAddress}

theorem isOwn_of_perm (permutation : others.Perm cidrs) :
    IsOwn others address ↔ IsOwn cidrs address := by
  simp only [IsOwn, permutation.mem_iff]

theorem isForeign_of_perm (permutation : others.Perm cidrs) :
    IsForeign others address ↔ IsForeign cidrs address := by
  simp only [IsForeign, permutation.mem_iff]

/-- Two narrowest networks are equally narrow, whatever the order in which they are listed. -/
theorem nearest_of_perm (permutation : others.Perm cidrs) (unambiguous : Unambiguous cidrs address)
    {first second : Cidr} (nearest : Nearest cidrs address first)
    (nearestOther : Nearest others address second) : first.address = second.address := by
  have secondMember : second ∈ cidrs := permutation.mem_iff.mp nearestOther.mem
  have firstMember : first ∈ others := permutation.mem_iff.mpr nearest.mem
  have notNarrower := nearest.length_le secondMember nearestOther.surrounds
  have notWider := nearestOther.length_le firstMember nearest.surrounds
  apply unambiguous first nearest.mem second secondMember nearest.surrounds nearestOther.surrounds
  omega

theorem selects_of_perm (permutation : others.Perm cidrs) (unambiguous : Unambiguous cidrs address)
    (selects : Selects cidrs address selected) (selectsOther : Selects others address other) :
    selected = other := by
  have sameOwn : IsOwn others address ↔ IsOwn cidrs address := isOwn_of_perm permutation
  cases selects with
  | own isOwn =>
      cases selectsOther with
      | own _ => rfl
      | near notOwn _ => exact absurd (sameOwn.mpr isOwn) notOwn
      | lone notOwn _ _ _ => rfl
  | near notOwn nearest =>
      cases selectsOther with
      | own isOwn => exact absurd (sameOwn.mp isOwn) notOwn
      | near _ nearestOther => exact nearest_of_perm permutation unambiguous nearest nearestOther
      | lone _ apart _ _ =>
          exact absurd nearest.surrounds (apart _ (permutation.mem_iff.mpr nearest.mem))
  | lone notOwn apart _ _ =>
      cases selectsOther with
      | own _ => rfl
      | near _ nearestOther =>
          exact absurd nearestOther.surrounds (apart _ (permutation.mem_iff.mp nearestOther.mem))
      | lone _ _ _ _ => rfl

theorem select_of_perm (permutation : others.Perm cidrs) (unambiguous : Unambiguous cidrs address) :
    select others address = select cidrs address := by
  rcases found : select cidrs address with _ | selected
  · rw [select_eq_none] at found ⊢
    exact (isForeign_of_perm permutation).mpr found
  · rcases foundOther : select others address with _ | other
    · rw [select_eq_none, isForeign_of_perm permutation, ← select_eq_none, found] at foundOther
      cases foundOther
    · have same := selects_of_perm permutation unambiguous (selects_of_select found)
        (selects_of_select foundOther)
      rw [same]

end Permuted

/-! ## The bind address for a contacted host -/

/-- A contacted host that is no address, or a foreign one, has no bind address. Otherwise it is
that of a listed interface: the contacted address itself, or the address with which this machine
is in the nearest network. The order of the interfaces matters only between networks of one
size. -/
theorem bindAddress_nearest (cidrs : List Cidr) (contacted : String) :
    (∀ error, bindAddress (some cidrs) contacted = .error error ↔
        error = ⟨(HostPort.split contacted).host⟩ ∧
          (IpAddress.ofText? (HostPort.split contacted).host = none ∨
            ∃ address, IpAddress.ofText? (HostPort.split contacted).host = some address ∧
              IsForeign cidrs address)) ∧
      (∀ text, bindAddress (some cidrs) contacted = .ok text →
        ∃ address selected,
          IpAddress.ofText? (HostPort.split contacted).host = some address ∧
            Selects cidrs address selected ∧ (∃ cidr ∈ cidrs, cidr.address = selected) ∧
              text = selected.toText) ∧
        ∀ others, others.Perm cidrs →
          (∀ address, IpAddress.ofText? (HostPort.split contacted).host = some address →
            Unambiguous cidrs address) →
            bindAddress (some others) contacted = bindAddress (some cidrs) contacted := by
  unfold bindAddress
  dsimp only
  rcases reads : IpAddress.ofText? (HostPort.split contacted).host with _ | address
  · simp [eq_comm]
  simp only [Option.bind_some, Option.some.injEq, reduceCtorEq, exists_eq_left', false_or,
    forall_eq']
  refine ⟨fun error => ?_, fun text found => ?_, fun others permutation unambiguous => ?_⟩
  · rw [← select_eq_none]
    rcases select cidrs address with _ | selected
    · simp [eq_comm]
    · simp
  · rcases selection : select cidrs address with _ | selected
    · rw [selection] at found
      cases found
    · rw [selection] at found
      cases found
      have selects := selects_of_select selection
      exact ⟨address, selected, rfl, selects, selects.listed, rfl⟩
  · rw [select_of_perm permutation unambiguous]

/-! ## A virtual address beside a physical one -/

/-- An interface in 10.0.0.0/24. -/
def physical : Cidr := .new (.v4 0x0A000001) 24

/-- A virtual address in the same network. -/
def virtual : Cidr := .new (.v4 0x0A000064) 32

theorem virtual_unambiguous (address : IpAddress)
    (reads : IpAddress.ofText? (HostPort.split "10.0.0.100:25000").host = some address) :
    Unambiguous [virtual, physical] address := by
  have isVirtual : IpAddress.ofText? (HostPort.split "10.0.0.100:25000").host =
      some virtual.address := by
    decide +kernel
  rw [isVirtual] at reads
  cases reads
  decide +kernel

theorem virtual_bindAddress :
    bindAddress (some [virtual, physical]) "10.0.0.100:25000" = .ok "10.0.0.1" ∧
      [physical, virtual].Perm [virtual, physical] ∧
        bindAddress (some [physical, virtual]) "10.0.0.100:25000" =
          bindAddress (some [virtual, physical]) "10.0.0.100:25000" := by
  have permutation : [physical, virtual].Perm [virtual, physical] := .swap _ _ _
  have nearest := bindAddress_nearest [virtual, physical] "10.0.0.100:25000"
  exact ⟨by decide +kernel, permutation, nearest.2.2 _ permutation virtual_unambiguous⟩

end Interfaces
end ClusterAgent
