import ClusterAgent.Node.Flags
import ClusterAgent.Node.State
import ClusterAgent.Proofs.Files.Elsewhere
namespace ClusterAgent

open Running

/-! ## What a node's state is read from -/

/-- The flags of a service are read from their file and nothing else. -/
theorem Flags.lookup_congr {left right : Disk} {service : String}
    (same : left.textOf (Layout.flags service) = right.textOf (Layout.flags service))
    (flag : String) : lookup service flag left = lookup service flag right := by
  rw [lookup, lookup, Disk.run_readText, Disk.run_readText, same]
  rcases right.textOf (Layout.flags service) with error | content <;> rfl

section Elsewhere

variable {touched : List (List String)} {before after : Disk}

theorem Flags.lookup_elsewhere (changes : Disk.ChangesOnly touched before after)
    (service flag : String) (elsewhere : Disk.Elsewhere touched (Layout.flags service).names) :
    lookup service flag after = lookup service flag before :=
  lookup_congr (changes.textOf elsewhere) flag

theorem NodeState.backend_elsewhere (changes : Disk.ChangesOnly touched before after)
    (elsewhere : Disk.Elsewhere touched Layout.replicatedStoreMarker.names) :
    backend after = backend before := by
  rw [backend, backend, changes.holds elsewhere]

end Elsewhere

/-! ## Keys and tokens -/

namespace NodeState

theorem readKeyPair_within (certificate key : Place) :
    Within Eq (readKeyPair certificate key) :=
  within_bind (Disk.readWhole_within _) fun _ =>
    within_bind (Disk.readWhole_within _) fun _ => within_pure _

theorem adminToken_within : Within Eq adminToken := by
  refine within_bind within_get fun disk =>
    within_bind (within_adapt (Disk.readWhole_within _)) fun content => ?_
  split
  · exact within_pure _
  · exact within_throw _

theorem readKeyPair_ok {certificate key : Place} {disk : Disk} {pair : KeyPair}
    (ran : (readKeyPair certificate key).run disk = (.ok pair, disk)) :
    disk.textOf certificate = .ok pair.certificate ∧ disk.textOf key = .ok pair.key := by
  obtain ⟨_, _, readCertificate, ran⟩ := bind_ok ran
  cases (Disk.readWhole_within _).reaches readCertificate
  obtain ⟨_, _, readKey, ran⟩ := bind_ok ran
  cases (Disk.readWhole_within _).reaches readKey
  cases ran
  exact ⟨Disk.readWhole_ok readCertificate, Disk.readWhole_ok readKey⟩

end NodeState

end ClusterAgent
