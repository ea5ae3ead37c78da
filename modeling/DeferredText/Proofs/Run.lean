import DeferredText.Resolve.Schedule

/-!
Contract: how the run of a task ends, without counting deliveries.

A run ends with a result and the world it leaves. Runs compose like the tasks they
are runs of, which lets a run be taken apart where a task was put together.

Owns: runs to an end, their composition, and their agreement with `runToEnd`.

Does not own: what the tasks of a cache do in their runs.
-/

namespace DeferredText

variable {α β : Type} {start : Starter} {suspended : List Suspended} {world after : World}

/-- What a delivery does to a task that waits for a promise: it goes on, if the delivery
is for it and the promise is decided. -/
def World.wakes
    (world : World)
    (promise : Nat)
    (delivery : Delivery) : Option (Outcome Value) :=
  if delivery.resumes promise then world.outcome? promise else none

/-- The run of a step beside suspended tasks ends with a result in a world. -/
inductive Ends (start : Starter) :
    List Suspended → Step CacheState α → Except Stop α → World → Prop where
  | done {suspended : List Suspended} {result : Except Stop α} {state : CacheState} :
      Ends start suspended (.done result state) result ⟨state, suspended⟩
  | stalled {suspended : List Suspended} {promise : Nat} {state : CacheState}
      {resume : Outcome Value → CacheState → Step CacheState α}
      (idle : World.next? ⟨state, suspended⟩ = none) :
      Ends start suspended (.waiting promise state resume) (.error .stalled) ⟨state, suspended⟩
  | resumed {suspended : List Suspended} {promise : Nat} {state : CacheState}
      {resume : Outcome Value → CacheState → Step CacheState α}
      {delivery : Delivery} {rest : World} {outcome : Outcome Value}
      {result : Except Stop α} {after : World}
      (due : World.next? ⟨state, suspended⟩ = some (delivery, rest))
      (wakes : rest.wakes promise delivery = some outcome)
      (further : Ends start rest.suspended (resume outcome rest.state) result after) :
      Ends start suspended (.waiting promise state resume) result after
  | delivered {suspended : List Suspended} {promise : Nat} {state : CacheState}
      {resume : Outcome Value → CacheState → Step CacheState α}
      {delivery : Delivery} {rest : World} {result : Except Stop α} {after : World}
      (due : World.next? ⟨state, suspended⟩ = some (delivery, rest))
      (sleeps : rest.wakes promise delivery = none)
      (further : Ends start (rest.deliver start delivery).suspended
        (.waiting promise (rest.deliver start delivery).state resume) result after) :
      Ends start suspended (.waiting promise state resume) result after

/-- The run of a task in a world ends with a result in another world. -/
def World.Runs
    (start : Starter)
    (world : World)
    (task : Task CacheState α)
    (result : Except Stop α)
    (after : World) : Prop :=
  Ends start world.suspended (task world.state) result after

/-! ### Agreement with the counted run -/

theorem runToEnd_waiting (fuel promise : Nat) (state : CacheState)
    (resume : Outcome Value → CacheState → Step CacheState α) :
    runToEnd start (fuel + 1) suspended (.waiting promise state resume) =
      match World.next? ⟨state, suspended⟩ with
      | none => (.error .stalled, ⟨state, suspended⟩)
      | some (delivery, rest) =>
          match rest.wakes promise delivery with
          | some outcome => runToEnd start fuel rest.suspended (resume outcome rest.state)
          | none =>
              runToEnd start fuel (rest.deliver start delivery).suspended
                (.waiting promise (rest.deliver start delivery).state resume) := by
  rw [runToEnd]
  cases World.next? ⟨state, suspended⟩ with
  | none => rfl
  | some pair =>
      obtain ⟨delivery, rest⟩ := pair
      dsimp only [World.wakes]
      cases delivery.resumes promise <;> cases rest.outcome? promise <;> rfl

/-- With enough fuel the counted run is the run that ends. -/
theorem Ends.runToEnd {step : Step CacheState α} {result : Except Stop α}
    (ends : Ends start suspended step result after) :
    ∃ fuel, ∀ more, fuel ≤ more → runToEnd start more suspended step = (result, after) := by
  induction ends with
  | done =>
      refine ⟨0, fun more _ => ?_⟩
      cases more <;> rfl
  | stalled idle =>
      refine ⟨1, fun more enough => ?_⟩
      obtain ⟨fuel, rfl⟩ := Nat.exists_eq_add_of_le' enough
      rw [runToEnd_waiting, idle]
  | resumed due wakes further inductionHypothesis =>
      obtain ⟨fuel, rest⟩ := inductionHypothesis
      refine ⟨fuel + 1, fun more enough => ?_⟩
      obtain ⟨extra, rfl⟩ := Nat.exists_eq_add_of_le' (Nat.le_of_add_left_le enough)
      rw [runToEnd_waiting, due]
      dsimp only
      rw [wakes]
      exact rest extra (by omega)
  | delivered due sleeps further inductionHypothesis =>
      obtain ⟨fuel, rest⟩ := inductionHypothesis
      refine ⟨fuel + 1, fun more enough => ?_⟩
      obtain ⟨extra, rfl⟩ := Nat.exists_eq_add_of_le' (Nat.le_of_add_left_le enough)
      rw [runToEnd_waiting, due]
      dsimp only
      rw [sleeps]
      exact rest extra (by omega)

/-- A counted run that was not cut short is a run that ends. -/
theorem Ends.of_runToEnd (fuel : Nat) {step : Step CacheState α} {result : Except Stop α}
    (counted : DeferredText.runToEnd start fuel suspended step = (result, after))
    (complete : result ≠ .error .exhausted) :
    Ends start suspended step result after := by
  induction fuel generalizing suspended step with
  | zero =>
      cases step with
      | done given state =>
          cases counted
          exact .done
      | waiting promise state resume =>
          cases counted
          exact absurd rfl complete
  | succ fuel inductionHypothesis =>
      cases step with
      | done given state =>
          cases counted
          exact .done
      | waiting promise state resume =>
          rw [runToEnd_waiting] at counted
          cases due : World.next? ⟨state, suspended⟩ with
          | none =>
              rw [due] at counted
              cases counted
              exact .stalled due
          | some pair =>
              obtain ⟨delivery, rest⟩ := pair
              rw [due] at counted
              dsimp only at counted
              cases wakes : rest.wakes promise delivery with
              | some outcome =>
                  rw [wakes] at counted
                  exact .resumed due wakes (inductionHypothesis counted)
              | none =>
                  rw [wakes] at counted
                  exact .delivered due wakes (inductionHypothesis counted)

theorem World.Runs.run {task : Task CacheState α} {result : Except Stop α}
    (runs : World.Runs start world task result after) :
    ∃ fuel, ∀ more, fuel ≤ more → world.run start more task = (result, after) :=
  Ends.runToEnd runs

/-! ### Composition -/

theorem Ends.andThen {step : Step CacheState α} {next : α → CacheState → Step CacheState β}
    {value : α} {middle : World} {result : Except Stop β}
    (first : Ends start suspended step (.ok value) middle)
    (second : Ends start middle.suspended (next value middle.state) result after) :
    Ends start suspended (step.andThen next) result after := by
  generalize given : Except.ok value = outcome at first
  induction first with
  | done =>
      subst given
      exact second
  | stalled idle => cases given
  | resumed due wakes further inductionHypothesis =>
      exact .resumed due wakes (inductionHypothesis second given)
  | delivered due sleeps further inductionHypothesis =>
      exact .delivered due sleeps (inductionHypothesis second given)

theorem Ends.andThen_error {step : Step CacheState α}
    {next : α → CacheState → Step CacheState β} {stop : Stop}
    (first : Ends start suspended step (.error stop) after) :
    Ends start suspended (step.andThen next) (.error stop) after := by
  generalize given : Except.error stop = outcome at first
  induction first with
  | done =>
      subst given
      exact .done
  | stalled idle =>
      cases given
      exact .stalled idle
  | resumed due wakes further inductionHypothesis =>
      exact .resumed due wakes (inductionHypothesis given)
  | delivered due sleeps further inductionHypothesis =>
      exact .delivered due sleeps (inductionHypothesis given)

private theorem Ends.andThen_cases_done {given : Except Stop α} {state : CacheState}
    {next : α → CacheState → Step CacheState β} {result : Except Stop β}
    (ends : Ends start suspended ((Step.done given state).andThen next) result after) :
    (∃ value middle, Ends start suspended (.done given state) (.ok value) middle ∧
      Ends start middle.suspended (next value middle.state) result after) ∨
    (∃ stop, result = .error stop ∧
      Ends start suspended (.done given state) (.error stop) after) := by
  cases given with
  | ok value => exact .inl ⟨value, ⟨state, suspended⟩, .done, ends⟩
  | error stop =>
      cases ends
      exact .inr ⟨stop, rfl, .done⟩

/-- Where the run of a sequence came through, or stopped. -/
theorem Ends.andThen_cases {step : Step CacheState α}
    {next : α → CacheState → Step CacheState β} {result : Except Stop β}
    (ends : Ends start suspended (step.andThen next) result after) :
    (∃ value middle, Ends start suspended step (.ok value) middle ∧
      Ends start middle.suspended (next value middle.state) result after) ∨
    (∃ stop, result = .error stop ∧ Ends start suspended step (.error stop) after) := by
  generalize whole : step.andThen next = sequence at ends
  induction ends generalizing step with
  | done =>
      cases step with
      | done given state => exact Ends.andThen_cases_done (whole ▸ .done)
      | waiting promise state resume => cases whole
  | stalled idle =>
      cases step with
      | done given state => exact Ends.andThen_cases_done (whole ▸ .stalled idle)
      | waiting promise state resume =>
          cases whole
          exact .inr ⟨.stalled, rfl, .stalled idle⟩
  | resumed due wakes further inductionHypothesis =>
      cases step with
      | done given state => exact Ends.andThen_cases_done (whole ▸ .resumed due wakes further)
      | waiting promise state resume =>
          cases whole
          rcases inductionHypothesis rfl with ⟨value, middle, first, second⟩ | ⟨stop, same, first⟩
          · exact .inl ⟨value, middle, .resumed due wakes first, second⟩
          · exact .inr ⟨stop, same, .resumed due wakes first⟩
  | delivered due sleeps further inductionHypothesis =>
      cases step with
      | done given state => exact Ends.andThen_cases_done (whole ▸ .delivered due sleeps further)
      | waiting promise state resume =>
          cases whole
          rcases @inductionHypothesis (.waiting _ _ resume) rfl with
            ⟨value, middle, first, second⟩ | ⟨stop, same, first⟩
          · exact .inl ⟨value, middle, .delivered due sleeps first, second⟩
          · exact .inr ⟨stop, same, .delivered due sleeps first⟩

/-- A result with a failure handed over as a value. -/
def caught : Except Stop α → Except Stop (Outcome α)
  | .ok value => .ok (.ok value)
  | .error (.failed failure) => .ok (.error failure)
  | .error stop => .error stop

theorem Step.attempt_done (result : Except Stop α) (state : CacheState) :
    (Step.done result state).attempt = .done (caught result) state := by
  rcases result with (failure | _ | _) | value <;> rfl

theorem Action.attempt_eq {σ : Type} (action : Action σ α) (state : σ) :
    Action.attempt action state = (caught (action state).1, (action state).2) := by
  rw [Action.attempt]
  rcases action state with ⟨(failure | _ | _) | value, next⟩ <;> rfl

theorem Ends.attempt {step : Step CacheState α} {result : Except Stop α}
    (ends : Ends start suspended step result after) :
    Ends start suspended step.attempt (caught result) after := by
  induction ends with
  | done =>
      rw [Step.attempt_done]
      exact .done
  | stalled idle => exact .stalled idle
  | resumed due wakes further inductionHypothesis => exact .resumed due wakes inductionHypothesis
  | delivered due sleeps further inductionHypothesis =>
      exact .delivered due sleeps inductionHypothesis

/-! ### Tasks -/

namespace World

variable {task : Task CacheState α} {next : α → Task CacheState β} {value : α} {middle : World}

theorem Runs.bind {result : Except Stop β}
    (first : World.Runs start world task (.ok value) middle)
    (second : World.Runs start middle (next value) result after) :
    World.Runs start world (task >>= next) result after :=
  Ends.andThen first second

theorem Runs.bind_error {stop : Stop}
    (first : World.Runs start world task (.error stop) after) :
    World.Runs start world (task >>= next) (.error stop) after :=
  Ends.andThen_error first

theorem runs_pure (value : α) :
    World.Runs start world (pure value : Task CacheState α) (.ok value) world :=
  Ends.done

/-- An action runs at once and leaves the waiting tasks alone. -/
theorem runs_action {action : CacheAction α} {result : Except Stop α}
    (acts : action world.state = (result, after.state))
    (same : after.suspended = world.suspended) :
    World.Runs start world (Task.ofAction action) result after := by
  have immediate : Task.ofAction action world.state = .done result after.state := by
    rw [Task.ofAction, acts]
  rw [World.Runs, immediate, ← same]
  exact .done

theorem Runs.bind_action {action : CacheAction α} {state : CacheState} {result : Except Stop β}
    (acts : action world.state = (.ok value, state))
    (second : World.Runs start ⟨state, world.suspended⟩ (next value) result after) :
    World.Runs start world (Task.ofAction action >>= next) result after := by
  have first : World.Runs start world (Task.ofAction action) (.ok value)
      ⟨state, world.suspended⟩ := runs_action acts rfl
  exact first.bind second

/-- A sequence whose first part changes nothing runs like the rest. -/
theorem Runs.bind_read {action : CacheAction α} {result : Except Stop β}
    (reads : action world.state = (.ok value, world.state))
    (second : World.Runs start world (next value) result after) :
    World.Runs start world (Task.ofAction action >>= next) result after :=
  Runs.bind_action reads second

theorem Runs.bind_get {next : CacheState → Task CacheState β} {result : Except Stop β}
    (second : World.Runs start world (next world.state) result after) :
    World.Runs start world (Task.ofAction get >>= next) result after := by
  have reads : (get : CacheAction CacheState) world.state = (.ok world.state, world.state) := rfl
  exact Runs.bind_read reads second

/-- Catching failures leaves the run as it is and hands a failure over. -/
theorem Runs.attempt {result : Except Stop α}
    (runs : World.Runs start world task result after) :
    World.Runs start world task.attempt (caught result) after :=
  Ends.attempt runs

end World

end DeferredText
