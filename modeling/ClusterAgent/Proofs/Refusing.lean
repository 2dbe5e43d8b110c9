import ClusterAgent.Proofs.Running
namespace ClusterAgent
namespace Running

section Refusing

variable {σ ε δ α β : Type}

/-! ## Actions that fail in other ways -/

/-- The action fails with none of the `refused` errors. -/
def Avoids (refused : ε → Prop) (action : Action σ ε α) : Prop :=
  ∀ before error after, action.run before = (.error error, after) → ¬refused error

variable {refused : ε → Prop}

theorem avoids_pure (value : α) : Avoids refused (pure value : Action σ ε α) := by
  intro before error after ran
  cases ran

theorem avoids_get : Avoids refused (get : Action σ ε σ) := by
  intro before error after ran
  cases ran

theorem avoids_throw {error : ε} (allowed : ¬refused error) :
    Avoids refused (throw error : Action σ ε α) := by
  intro before other after ran
  cases ran
  exact allowed

theorem avoids_bind {action : Action σ ε α} {next : α → Action σ ε β}
    (first : Avoids refused action) (second : ∀ value, Avoids refused (next value)) :
    Avoids refused (action >>= next) := by
  intro before error after ran
  rcases bind_error ran with failed | ⟨value, middle, _, failed⟩
  · exact first before error after failed
  · exact second value middle error after failed

/-- An action of which every failure is named otherwise avoids the errors. -/
theorem avoids_adapt {change : δ → ε} (action : Action σ δ α)
    (allowed : ∀ cause, ¬refused (change cause)) :
    Avoids refused (ExceptT.adapt change action) := by
  intro before error after ran
  obtain ⟨cause, _, rfl⟩ := adapt_error ran
  exact allowed cause

theorem avoids_mk {result : Except ε α}
    (allowed : ∀ error, result = .error error → ¬refused error) :
    Avoids refused (ExceptT.mk (pure result) : Action σ ε α) := by
  intro before error after ran
  exact allowed error (congrArg Prod.fst ran)

theorem avoids_mapM {action : α → Action σ ε β} {items : List α}
    (each : ∀ item ∈ items, Avoids refused (action item)) :
    Avoids refused (items.mapM action) := by
  induction items with
  | nil => exact avoids_pure []
  | cons item rest inductionHypothesis =>
      obtain ⟨first, others⟩ := List.forall_mem_cons.mp each
      rw [List.mapM_cons]
      exact avoids_bind first fun _ =>
        avoids_bind (inductionHypothesis others) fun _ => avoids_pure _

/-! ## Actions that are refused before they do anything -/

/-- When the action fails with one of the `refused` errors, the state is as it was. -/
def RefusedFirst (refused : ε → Prop) (action : Action σ ε α) : Prop :=
  ∀ before error after,
    action.run before = (.error error, after) → refused error → after = before

theorem refusedFirst_of_avoids {action : Action σ ε α} (avoids : Avoids refused action) :
    RefusedFirst refused action :=
  fun before error after ran isRefused => absurd isRefused (avoids before error after ran)

theorem refusedFirst_of_still {action : Action σ ε α} (still : Within Eq action) :
    RefusedFirst refused action :=
  fun _ _ _ ran _ => (still.reaches ran).symm

theorem refusedFirst_adapt {change : δ → ε} {action : Action σ δ α}
    (inner : RefusedFirst (fun cause => refused (change cause)) action) :
    RefusedFirst refused (ExceptT.adapt change action) := by
  intro before error after ran isRefused
  obtain ⟨cause, failed, rfl⟩ := adapt_error ran
  exact inner before cause after failed isRefused

/-- Checks may stand before an action that is refused before it does anything. -/
theorem refusedFirst_check {action : Action σ ε α} {next : α → Action σ ε β}
    (still : Within Eq action) (second : ∀ value, RefusedFirst refused (next value)) :
    RefusedFirst refused (action >>= next) := by
  intro before error after ran isRefused
  rcases bind_error ran with failed | ⟨value, middle, passed, failed⟩
  · exact (still.reaches failed).symm
  · cases still.reaches passed
    exact second value before error after failed isRefused

/-- After such an action only other failures may come. -/
theorem refusedFirst_bind {action : Action σ ε α} {next : α → Action σ ε β}
    (first : RefusedFirst refused action) (second : ∀ value, Avoids refused (next value)) :
    RefusedFirst refused (action >>= next) := by
  intro before error after ran isRefused
  rcases bind_error ran with failed | ⟨value, middle, _, failed⟩
  · exact first before error after failed isRefused
  · exact absurd isRefused (second value middle error after failed)

end Refusing

end Running
end ClusterAgent
