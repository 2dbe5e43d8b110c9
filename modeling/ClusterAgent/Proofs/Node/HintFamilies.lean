import ClusterAgent.Proofs.Node.Autodetection
namespace ClusterAgent
namespace Autodetection

/-! ## Hints of the two families -/

/-- The name of the hint for the family of an address. -/
def familyHint : IpAddress → List Char
  | .v4 _ => "IP_AUTODETECTION_METHOD".toList
  | .v6 _ => "IP6_AUTODETECTION_METHOD".toList

section Families

variable {host again other : String} {address addressAgain addressOther : IpAddress}
  {manifest patched : List Char}

theorem hintFor_of_address (reads : IpAddress.ofText? host = some address) :
    hintFor host.toList = familyHint address := by
  cases address with
  | v4 bits => exact hintFor_v4 reads
  | v6 bits => exact hintFor_v6 reads

theorem familyHint_ne (otherFamily : addressOther.width ≠ address.width) :
    familyHint address ≠ familyHint addressOther := by
  have different : "IP_AUTODETECTION_METHOD".toList ≠ "IP6_AUTODETECTION_METHOD".toList := by
    decide
  cases address with
  | v4 bits =>
      cases addressOther with
      | v4 bitsOther => exact absurd rfl otherFamily
      | v6 bitsOther => exact different
  | v6 bits =>
      cases addressOther with
      | v4 bitsOther => exact different.symm
      | v6 bitsOther => exact absurd rfl otherFamily

/-- A patch changes one value only: the first one behind the hint for the family of the host,
which was the first address found. After it no other host of this family can be patched in, and
a host of the other family can be exactly if it could before, with one outcome in either order. -/
theorem patch_local_and_apart (reads : IpAddress.ofText? host = some address)
    (readsAgain : IpAddress.ofText? again = some addressAgain)
    (readsOther : IpAddress.ofText? other = some addressOther)
    (sameFamily : addressAgain.width = address.width)
    (otherFamily : addressOther.width ≠ address.width)
    (once : patch manifest host.toList = some patched) :
    (∃ front rest,
      manifest = front ++ (firstFound ++ rest) ∧
        patched = front ++ (reaching host.toList ++ rest) ∧
        Leads (familyHint address) front ∧ EndsThere rest) ∧
      patch patched again.toList = none ∧
      ((patch patched other.toList).isSome ↔ (patch manifest other.toList).isSome) ∧
      patch patched other.toList =
        (patch manifest other.toList).bind fun patchedOther => patch patchedOther host.toList := by
  have noHint := noHint_of_address reads
  have hint := hintFor_of_address reads
  have different : hintFor host.toList ≠ hintFor other.toList := by
    rw [hint, hintFor_of_address readsOther]
    exact familyHint_ne otherFamily
  have eitherOrder := patch_comm noHint (noHint_of_address readsOther) manifest
  rw [once, Option.bind_some] at eitherOrder
  refine ⟨?_, ?_, ⟨fun succeeds => ?_, fun succeeds => ?_⟩, eitherOrder⟩
  · obtain ⟨front, rest, before, leads, ends, after⟩ := patch_eq_some_iff.mp once
    exact ⟨front, rest, before, after, hint ▸ leads, ends⟩
  · exact patch_again once (hintFor_eq_of_width readsAgain reads sameFamily)
  · rw [eitherOrder] at succeeds
    exact Option.isSome_of_isSome_bind succeeds
  · obtain ⟨patchedOther, second⟩ := Option.isSome_iff_exists.mp succeeds
    exact Option.isSome_iff_exists.mpr (patch_both noHint different once second)

end Families

/-! ## A manifest with both layouts -/

/-- One hint stands in the layout of a container's environment, the other beside its value, and
the first is named a second time further down. -/
def mixedManifest (method methodOther : List Char) : List Char :=
  "# é\n- name: IP6_AUTODETECTION_METHOD\n  value: \"".toList ++ methodOther ++
    "\"\nIP_AUTODETECTION_METHOD: '".toList ++ method ++
    "'\nIP6_AUTODETECTION_METHOD: first-found".toList

theorem mixedManifest_patched :
    IpAddress.ofText? "10.0.0.2" = some (.v4 0x0A000002) ∧
      IpAddress.ofText? "10.0.0.3" = some (.v4 0x0A000003) ∧
      IpAddress.ofText? "fd00::2" = some (.v6 0xFD000000000000000000000000000002) ∧
      patch (mixedManifest firstFound firstFound) "10.0.0.2".toList =
        some (mixedManifest "can-reach=10.0.0.2".toList firstFound) ∧
      patch (mixedManifest "can-reach=10.0.0.2".toList firstFound) "10.0.0.3".toList = none ∧
      ((patch (mixedManifest "can-reach=10.0.0.2".toList firstFound) "fd00::2".toList).isSome ↔
        (patch (mixedManifest firstFound firstFound) "fd00::2".toList).isSome) ∧
      patch (mixedManifest "can-reach=10.0.0.2".toList firstFound) "fd00::2".toList =
        some (mixedManifest "can-reach=10.0.0.2".toList "can-reach=fd00::2".toList) := by
  have reads : IpAddress.ofText? "10.0.0.2" = some (.v4 0x0A000002) := by decide +kernel
  have readsAgain : IpAddress.ofText? "10.0.0.3" = some (.v4 0x0A000003) := by decide +kernel
  have readsOther : IpAddress.ofText? "fd00::2" =
      some (.v6 0xFD000000000000000000000000000002) := by
    decide +kernel
  have once : patch (mixedManifest firstFound firstFound) "10.0.0.2".toList =
      some (mixedManifest "can-reach=10.0.0.2".toList firstFound) := by
    decide +kernel
  have apart := patch_local_and_apart reads readsAgain readsOther rfl (by decide) once
  exact ⟨reads, readsAgain, readsOther, once, apart.2.1, apart.2.2.1, by decide +kernel⟩

end Autodetection
end ClusterAgent
