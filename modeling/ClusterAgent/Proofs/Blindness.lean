import ClusterAgent.Proofs.Running
namespace ClusterAgent
namespace Running

section Blindness

variable {σ ε δ α β : Type}

/-! ## Actions that cannot tell states apart -/

/-- From states that `Alike` relates the action has the same result and leads to states that
it relates again. -/
def Blind (Alike : σ → σ → Prop) (action : Action σ ε α) : Prop :=
  ∀ left right, Alike left right →
    (action.run left).1 = (action.run right).1 ∧
      Alike (action.run left).2 (action.run right).2

variable {Alike : σ → σ → Prop}

theorem blind_pure (value : α) : Blind Alike (pure value : Action σ ε α) :=
  fun _ _ alike => ⟨rfl, alike⟩

theorem blind_throw (error : ε) : Blind Alike (throw error : Action σ ε α) :=
  fun _ _ alike => ⟨rfl, alike⟩

theorem blind_modify {change : σ → σ}
    (kept : ∀ left right, Alike left right → Alike (change left) (change right)) :
    Blind Alike (modify change : Action σ ε Unit) :=
  fun left right alike => ⟨rfl, kept left right alike⟩

theorem blind_bind {action : Action σ ε α} {next : α → Action σ ε β}
    (first : Blind Alike action) (second : ∀ value, Blind Alike (next value)) :
    Blind Alike (action >>= next) := by
  intro left right alike
  obtain ⟨sameResult, alikeAfter⟩ := first left right alike
  rw [run_bind, run_bind]
  rcases ranLeft : action.run left with ⟨leftResult, leftAfter⟩
  rcases ranRight : action.run right with ⟨rightResult, rightAfter⟩
  rw [ranLeft, ranRight] at sameResult alikeAfter
  obtain rfl : leftResult = rightResult := sameResult
  cases leftResult with
  | error error => exact ⟨rfl, alikeAfter⟩
  | ok value => exact second value leftAfter rightAfter alikeAfter

/-- What is read from the state may be used where it is the same in states that are alike. -/
theorem blind_get {next : σ → Action σ ε α}
    (same : ∀ left right, Alike left right → next left = next right)
    (second : ∀ state, Blind Alike (next state)) : Blind Alike (get >>= next) := by
  intro left right alike
  rw [run_bind, run_bind, run_get, run_get]
  dsimp only
  rw [same left right alike]
  exact second right left right alike

theorem blind_adapt {change : ε → δ} {action : Action σ ε α} (inner : Blind Alike action) :
    Blind Alike (ExceptT.adapt change action) := by
  intro left right alike
  obtain ⟨sameResult, alikeAfter⟩ := inner left right alike
  exact ⟨congrArg (Except.mapError change) sameResult, alikeAfter⟩

theorem blind_mapM {action : α → Action σ ε β} {items : List α}
    (each : ∀ item, Blind Alike (action item)) : Blind Alike (items.mapM action) := by
  induction items with
  | nil => exact blind_pure []
  | cons item rest inductionHypothesis =>
      rw [List.mapM_cons]
      exact blind_bind (each item) fun _ =>
        blind_bind inductionHypothesis fun _ => blind_pure _

end Blindness

end Running
end ClusterAgent
