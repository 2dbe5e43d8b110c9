import ClusterAgent.Proofs.Files.Footprint
namespace ClusterAgent
namespace Disk

/-! ## Reading away from a change -/

/-- No touched entry stands below the same top directory as the names. -/
def Elsewhere (touched : List (List String)) (names : List String) : Prop :=
  ∀ place ∈ touched, place.head? ≠ names.head?

instance (touched : List (List String)) (names : List String) :
    Decidable (Elsewhere touched names) :=
  inferInstanceAs (Decidable (∀ place ∈ touched, place.head? ≠ names.head?))

theorem head?_of_front {front names : List String} (isFront : front <+: names)
    (nonempty : front ≠ []) : names.head? = front.head? := by
  obtain ⟨rest, rfl⟩ := isFront
  cases front with
  | nil => exact absurd rfl nonempty
  | cons first front => rfl

namespace ChangesOnly

variable {touched : List (List String)} {before after : Disk}

/-- Directories on the way to a touched entry share its top directory. -/
theorem entryAt?_elsewhere (changes : ChangesOnly touched before after) {front names : List String}
    (elsewhere : Elsewhere touched names) (isFront : front <+: names) (nonempty : front ≠ []) :
    after.entryAt? front = before.entryAt? front := by
  refine changes.entryAt? fun place member onTheWay => elsewhere place member ?_
  rw [head?_of_front isFront nonempty, head?_of_front onTheWay nonempty]

theorem locate (changes : ChangesOnly touched before after) {above names : List String}
    (elsewhere : Elsewhere touched (above ++ names)) :
    after.locate above names = before.locate above names := by
  induction names generalizing above with
  | nil => rfl
  | cons name rest inductionHypothesis =>
      rw [← List.singleton_append, ← List.append_assoc] at elsewhere
      have here : after.entryAt? (above ++ [name]) = before.entryAt? (above ++ [name]) :=
        changes.entryAt?_elsewhere elsewhere (List.prefix_append _ _) (by simp)
      rw [Disk.locate, Disk.locate, here, inductionHypothesis elsewhere]

theorem find (changes : ChangesOnly touched before after) {place : Place}
    (elsewhere : Elsewhere touched place.names) : after.find place = before.find place := by
  have way : Elsewhere touched ([] ++ place.names) := elsewhere
  rw [Disk.find, Disk.find, changes.locate way]

theorem holds (changes : ChangesOnly touched before after) {place : Place}
    (elsewhere : Elsewhere touched place.names) : after.holds place = before.holds place := by
  rw [Disk.holds, Disk.holds, changes.find elsewhere]

theorem contentOf (changes : ChangesOnly touched before after) {place : Place}
    (elsewhere : Elsewhere touched place.names) :
    after.contentOf place = before.contentOf place := by
  rw [Disk.contentOf, Disk.contentOf, changes.refuses, changes.find elsewhere]

theorem textOf (changes : ChangesOnly touched before after) {place : Place}
    (elsewhere : Elsewhere touched place.names) : after.textOf place = before.textOf place := by
  rw [Disk.textOf, Disk.textOf, changes.contentOf elsewhere]

end ChangesOnly

end Disk
end ClusterAgent
