import ClusterAgent.World
namespace ClusterAgent
namespace Running

/-! ## Running actions one after another -/

/-- What changes a state and may fail: operations on a disk and activities in a world are of
this kind. -/
abbrev Action (σ ε α : Type) := ExceptT ε (StateM σ) α

section Results

variable {σ ε δ α β : Type}

theorem run_get (state : σ) :
    (get : Action σ ε σ).run state = (.ok state, state) :=
  rfl

theorem run_bind (action : Action σ ε α) (next : α → Action σ ε β) (state : σ) :
    (action >>= next).run state =
      match action.run state with
      | (.ok value, middle) => (next value).run middle
      | (.error error, middle) => (.error error, middle) := by
  change
    (match action.run state with
      | (result, middle) => ExceptT.bindCont next result middle) = _
  obtain ⟨result, middle⟩ := action.run state
  cases result <;> rfl

theorem run_adapt (change : ε → δ) (action : Action σ ε α) (state : σ) :
    (ExceptT.adapt change action).run state =
      ((action.run state).1.mapError change, (action.run state).2) :=
  rfl

theorem run_tryCatch (action : Action σ ε α) (handler : ε → Action σ ε α) (state : σ) :
    (tryCatch action handler).run state =
      match action.run state with
      | (.ok value, middle) => (.ok value, middle)
      | (.error error, middle) => (handler error).run middle := by
  change
    (match action.run state with
      | (result, middle) =>
          (match result with
            | .ok value => (pure (.ok value) : StateM σ (Except ε α))
            | .error error => handler error) middle) = _
  obtain ⟨result, middle⟩ := action.run state
  cases result <;> rfl

theorem run_of_toOption {action : Action σ ε α} {before : σ} {result : α}
    (evaluated : (action.run before).1.toOption = some result) :
    action.run before = (.ok result, (action.run before).2) := by
  rcases ran : action.run before with ⟨error | value, after⟩
  · rw [ran] at evaluated
    cases evaluated
  · rw [ran] at evaluated
    cases evaluated
    rfl

/-- The error of a result, if it is one. -/
def errorOf? : Except ε α → Option ε
  | .ok _ => none
  | .error error => some error

theorem run_of_errorOf? {action : Action σ ε α} {before : σ} {error : ε}
    (evaluated : errorOf? (action.run before).1 = some error) :
    action.run before = (.error error, (action.run before).2) := by
  rcases ran : action.run before with ⟨failure | value, after⟩
  · rw [ran] at evaluated
    cases evaluated
    rfl
  · rw [ran] at evaluated
    cases evaluated

/-- A sequence that succeeds passes through a state in between. -/
theorem bind_ok {action : Action σ ε α} {next : α → Action σ ε β} {before after : σ} {result : β}
    (ran : (action >>= next).run before = (.ok result, after)) :
    ∃ value middle,
      action.run before = (.ok value, middle) ∧
        (next value).run middle = (.ok result, after) := by
  rw [run_bind] at ran
  rcases first : action.run before with ⟨value | value, middle⟩
  · rw [first] at ran
    cases ran
  · rw [first] at ran
    exact ⟨value, middle, rfl, ran⟩

/-- A sequence fails with its first part or after it. -/
theorem bind_error {action : Action σ ε α} {next : α → Action σ ε β} {before after : σ}
    {error : ε} (ran : (action >>= next).run before = (.error error, after)) :
    action.run before = (.error error, after) ∨
      ∃ value middle,
        action.run before = (.ok value, middle) ∧
          (next value).run middle = (.error error, after) := by
  rw [run_bind] at ran
  rcases first : action.run before with ⟨value | value, middle⟩
  · rw [first] at ran
    cases ran
    exact Or.inl rfl
  · rw [first] at ran
    exact Or.inr ⟨value, middle, rfl, ran⟩

/-- A sequence ends with the failure of its first part, or with what follows it. -/
theorem bind_cases {action : Action σ ε α} {next : α → Action σ ε β} {before after : σ}
    {result : Except ε β} (ran : (action >>= next).run before = (result, after)) :
    (∃ error, action.run before = (.error error, after)) ∨
      ∃ value middle,
        action.run before = (.ok value, middle) ∧ (next value).run middle = (result, after) := by
  cases result with
  | error error => exact (bind_error ran).imp_left fun failed => ⟨error, failed⟩
  | ok value => exact Or.inr (bind_ok ran)

/-- What is given, a value or an error, is decided without a look at the state. -/
theorem given_cases {given : Except ε α} {next : α → Action σ ε β} {before after : σ}
    {result : Except ε β}
    (ran : ((ExceptT.mk (pure given) : Action σ ε α) >>= next).run before = (result, after)) :
    (∃ error, given = .error error ∧ after = before) ∨
      ∃ value, given = .ok value ∧ (next value).run before = (result, after) := by
  rcases bind_cases ran with ⟨error, failed⟩ | ⟨value, _, succeeded, ran⟩
  · obtain ⟨isError, rfl⟩ := Prod.mk.inj failed
    exact Or.inl ⟨error, isError, rfl⟩
  · obtain ⟨isValue, rfl⟩ := Prod.mk.inj succeeded
    exact Or.inr ⟨value, isValue, ran⟩

theorem given_ok {given : Except ε α} {next : α → Action σ ε β} {before after : σ} {result : β}
    (ran : ((ExceptT.mk (pure given) : Action σ ε α) >>= next).run before =
      (.ok result, after)) :
    ∃ value, given = .ok value ∧ (next value).run before = (.ok result, after) := by
  obtain ⟨value, _, succeeded, ran⟩ := bind_ok ran
  obtain ⟨isValue, rfl⟩ := Prod.mk.inj succeeded
  exact ⟨value, isValue, ran⟩

theorem run_given {given : Except ε α} {value : α} (isValue : given = .ok value)
    (next : α → Action σ ε β) (state : σ) :
    ((ExceptT.mk (pure given) : Action σ ε α) >>= next).run state = (next value).run state := by
  subst isValue
  rfl

theorem adapt_cases {change : ε → δ} {action : Action σ ε α} {before after : σ}
    {result : Except δ α} (ran : (ExceptT.adapt change action).run before = (result, after)) :
    ∃ inner, action.run before = (inner, after) := by
  rw [run_adapt] at ran
  exact ⟨_, Prod.ext rfl (Prod.mk.inj ran).2⟩

theorem adapt_ok {change : ε → δ} {action : Action σ ε α} {before after : σ} {result : α}
    (ran : (ExceptT.adapt change action).run before = (.ok result, after)) :
    action.run before = (.ok result, after) := by
  rw [run_adapt] at ran
  rcases first : action.run before with ⟨value | value, middle⟩
  · rw [first] at ran
    cases ran
  · rw [first] at ran
    cases ran
    rfl

theorem adapt_error {change : ε → δ} {action : Action σ ε α} {before after : σ} {error : δ}
    (ran : (ExceptT.adapt change action).run before = (.error error, after)) :
    ∃ cause, action.run before = (.error cause, after) ∧ change cause = error := by
  rw [run_adapt] at ran
  rcases first : action.run before with ⟨value | value, middle⟩
  · rw [first] at ran
    cases ran
    exact ⟨value, rfl, rfl⟩
  · rw [first] at ran
    cases ran

theorem adapt_bind (change : ε → δ) (action : Action σ ε α) (next : α → Action σ ε β) :
    ExceptT.adapt change (action >>= next) =
      ExceptT.adapt change action >>= fun value => ExceptT.adapt change (next value) := by
  funext state
  change (ExceptT.adapt change (action >>= next)).run state =
    (ExceptT.adapt change action >>= fun value => ExceptT.adapt change (next value)).run state
  rw [run_adapt, run_bind, run_bind, run_adapt]
  rcases action.run state with ⟨error | value, middle⟩
  · rfl
  · rfl

theorem mapM_nil_ok {action : α → Action σ ε β} {before after : σ} {results : List β}
    (ran : (([] : List α).mapM action).run before = (.ok results, after)) :
    results = [] ∧ after = before := by
  cases ran
  exact ⟨rfl, rfl⟩

/-- Of a list of actions that succeeds the first action and the rest succeed. -/
theorem mapM_cons_ok {action : α → Action σ ε β} {item : α} {rest : List α} {before after : σ}
    {results : List β}
    (ran : ((item :: rest).mapM action).run before = (.ok results, after)) :
    ∃ result later middle,
      results = result :: later ∧ (action item).run before = (.ok result, middle) ∧
        (rest.mapM action).run middle = (.ok later, after) := by
  rw [List.mapM_cons] at ran
  obtain ⟨result, middle, first, ran⟩ := bind_ok ran
  obtain ⟨later, last, others, ran⟩ := bind_ok ran
  cases ran
  exact ⟨result, later, middle, rfl, first, others⟩

end Results

/-! ## What an action does to the state -/

section Reach

variable {σ ε δ α β : Type} (Change : σ → σ → Prop)

/-- The action changes the state in no other way than `Change` allows, whether it succeeds or
fails. -/
def Within (action : Action σ ε α) : Prop :=
  ∀ state, Change state (action.run state).2

variable {Change}

theorem Within.reaches {action : Action σ ε α} {before after : σ} {result : Except ε α}
    (inner : Within Change action) (ran : action.run before = (result, after)) :
    Change before after := by
  have reached := inner before
  rwa [ran] at reached

instance equalityRefl (σ : Type) : Std.Refl (@Eq σ) :=
  ⟨fun _ => rfl⟩

theorem within_pure [Std.Refl Change] (value : α) :
    Within Change (pure value : Action σ ε α) :=
  fun state => Std.Refl.refl state

theorem within_throw [Std.Refl Change] (error : ε) :
    Within Change (throw error : Action σ ε α) :=
  fun state => Std.Refl.refl state

theorem within_get [Std.Refl Change] : Within Change (get : Action σ ε σ) :=
  fun state => Std.Refl.refl state

theorem within_modify {change : σ → σ} (allowed : ∀ state, Change state (change state)) :
    Within Change (modify change : Action σ ε Unit) :=
  allowed

theorem within_bind [Trans Change Change Change] {action : Action σ ε α}
    {next : α → Action σ ε β} (first : Within Change action)
    (second : ∀ value, Within Change (next value)) : Within Change (action >>= next) := by
  intro state
  have reached := first state
  rw [run_bind]
  rcases ran : action.run state with ⟨value | value, middle⟩
  · simpa only [ran] using reached
  · rw [ran] at reached
    exact Trans.trans reached (second value middle)

theorem within_adapt {change : ε → δ} {action : Action σ ε α} (inner : Within Change action) :
    Within Change (ExceptT.adapt change action) :=
  inner

theorem within_mapM [Std.Refl Change] [Trans Change Change Change] {action : α → Action σ ε β}
    {items : List α} (each : ∀ item, Within Change (action item)) :
    Within Change (items.mapM action) := by
  induction items with
  | nil => exact within_pure []
  | cons item rest inductionHypothesis =>
      rw [List.mapM_cons]
      exact within_bind (each item) fun _ =>
        within_bind inductionHypothesis fun _ => within_pure _

theorem within_mono {Wider : σ → σ → Prop} {action : Action σ ε α}
    (inner : Within Change action)
    (wider : ∀ before after, Change before after → Wider before after) : Within Wider action :=
  fun state => wider _ _ (inner state)

end Reach

/-! ## Actions that succeed -/

section Success

variable {σ ε δ α β : Type}

/-- From a good state the action succeeds and leaves a good state. -/
def Works (Good : σ → Prop) (action : Action σ ε α) : Prop :=
  ∀ before, Good before → ∃ value after, action.run before = (.ok value, after) ∧ Good after

variable {Good : σ → Prop}

theorem works_pure (value : α) : Works Good (pure value : Action σ ε α) :=
  fun before good => ⟨value, before, rfl, good⟩

theorem works_get : Works Good (get : Action σ ε σ) :=
  fun before good => ⟨before, before, rfl, good⟩

theorem works_modify {change : σ → σ} (keeps : ∀ state, Good state → Good (change state)) :
    Works Good (modify change : Action σ ε Unit) :=
  fun before good => ⟨(), change before, rfl, keeps before good⟩

theorem works_bind {action : Action σ ε α} {next : α → Action σ ε β} (first : Works Good action)
    (second : ∀ value, Works Good (next value)) : Works Good (action >>= next) := by
  intro before good
  obtain ⟨value, middle, ran, goodMiddle⟩ := first before good
  obtain ⟨result, after, ranNext, goodAfter⟩ := second value middle goodMiddle
  refine ⟨result, after, ?_, goodAfter⟩
  rw [run_bind, ran]
  exact ranNext

theorem works_adapt {change : ε → δ} {action : Action σ ε α} (inner : Works Good action) :
    Works Good (ExceptT.adapt change action) := by
  intro before good
  obtain ⟨value, after, ran, goodAfter⟩ := inner before good
  refine ⟨value, after, ?_, goodAfter⟩
  rw [run_adapt, ran]
  rfl

theorem works_mapM {action : α → Action σ ε β} {items : List α}
    (each : ∀ item ∈ items, Works Good (action item)) : Works Good (items.mapM action) := by
  induction items with
  | nil => exact works_pure []
  | cons item rest inductionHypothesis =>
      obtain ⟨first, others⟩ := List.forall_mem_cons.mp each
      rw [List.mapM_cons]
      exact works_bind first fun _ =>
        works_bind (inductionHypothesis others) fun _ => works_pure _

end Success

end Running

namespace World

open Running

/-! ## Operations on the data directory as activities -/

section Lifting

variable {ε α : Type}

theorem run_onDisk (step : Disk.Step ε α) (world : World) :
    (onDisk step).run world =
      ((step.run world.disk).1, { world with disk := (step.run world.disk).2 }) :=
  rfl

theorem onDisk_ran {step : Disk.Step ε α} {before after : World} {result : Except ε α}
    (ran : (onDisk step).run before = (result, after)) :
    step.run before.disk = (result, after.disk) ∧ after = { before with disk := after.disk } := by
  rw [run_onDisk] at ran
  obtain ⟨rfl, rfl⟩ := Prod.mk.inj ran
  exact ⟨rfl, rfl⟩

theorem onDisk_still {step : Disk.Step ε α} (still : Within Eq step) :
    Within Eq (onDisk step) := by
  intro world
  rw [run_onDisk, ← still world.disk]

theorem onDisk_bind {β : Type} (step : Disk.Step ε α) (next : α → Disk.Step ε β) :
    onDisk (step >>= next) = onDisk step >>= fun value => onDisk (next value) := by
  funext world
  change (onDisk (step >>= next)).run world =
    (onDisk step >>= fun value => onDisk (next value)).run world
  rw [run_bind, run_onDisk, run_onDisk, run_bind]
  rcases step.run world.disk with ⟨error | value, disk⟩ <;> rfl

end Lifting

end World
end ClusterAgent
