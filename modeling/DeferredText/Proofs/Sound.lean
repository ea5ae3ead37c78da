import DeferredText.Proofs.Tidy

/-!
Contract: whatever runs, recorded calls stay in order.

A step is sound if it preserves the invariant of recorded calls until it is done or
waits, and goes on sound whatever happened to the cache meanwhile. A resolution starts
only calls it has taken off a waitlist, each right after taking it.

Owns: sound tasks, and that everything a cache runs is sound.

Does not own: what users do with a cache (`Proofs.Sessions`).
-/

namespace DeferredText

open CacheState Territory

variable {α β : Type} {before middle after state : CacheState} {index number : Nat}

namespace Step

/-- From the given state on, the step advances the cache, however it is interrupted. -/
def Sound : CacheState → Step CacheState α → Prop
  | before, .done _ after => Advances before after
  | before, .waiting _ middle resume =>
      Advances before middle ∧
        ∀ outcome later, Advances middle later → Sound later (resume outcome later)

theorem Sound.after_advances {step : Step CacheState α} (advances : Advances before middle)
    (sound : Sound middle step) : Sound before step := by
  cases step with
  | done result after => exact advances.trans sound
  | waiting promise after resume => exact ⟨advances.trans sound.1, sound.2⟩

theorem Sound.andThen {step : Step CacheState α} {next : α → CacheState → Step CacheState β}
    (sound : Sound before step)
    (further : ∀ value after, Advances before after → Sound after (next value after)) :
    Sound before (step.andThen next) := by
  induction step generalizing before with
  | done result after =>
      cases result with
      | ok value => exact (further value after sound).after_advances sound
      | error stop => exact sound
  | waiting promise middle resume inductionHypothesis =>
      obtain ⟨advances, goesOn⟩ := sound
      refine ⟨advances, ?_⟩
      intro outcome later waited
      apply inductionHypothesis outcome later (goesOn outcome later waited)
      intro value after later
      exact further value after ((advances.trans waited).trans later)

theorem Sound.attempt {step : Step CacheState α} (sound : Sound before step) :
    Sound before step.attempt := by
  induction step generalizing before with
  | done result after =>
      rw [attempt_done]
      exact sound
  | waiting promise middle resume inductionHypothesis =>
      refine ⟨sound.1, ?_⟩
      intro outcome later waited
      exact inductionHypothesis outcome later (sound.2 outcome later waited)

end Step

namespace Task

/-- The task advances every cache whose calls are in order. -/
def Sound (task : Task CacheState α) : Prop :=
  ∀ state, state.Tidy → Step.Sound state (task state)

theorem sound_pure (value : α) : Sound (pure value : Task CacheState α) :=
  fun _ tidy => .refl tidy

theorem Sound.bind {task : Task CacheState α} {next : α → Task CacheState β} (first : task.Sound)
    (second : ∀ value, (next value).Sound) : Sound (task >>= next) := by
  intro state tidy
  apply (first state tidy).andThen
  intro value after advances
  exact second value after advances.tidy

theorem Sound.attempt {task : Task CacheState α} (sound : task.Sound) : Sound task.attempt :=
  fun state tidy => (sound state tidy).attempt

theorem sound_stop (reason : Stop) : Sound (stop reason : Task CacheState α) :=
  fun _ tidy => .refl tidy

theorem sound_await (promise : Nat) : Sound (await promise) := by
  intro state tidy
  refine ⟨.refl tidy, ?_⟩
  intro outcome later waited
  cases outcome <;> exact Advances.refl waited.tidy

/-- An action, and then a step that depends on the state it leaves. -/
theorem sound_action_then {action : CacheAction α} {next : α → Task CacheState β}
    (advances : Advances state (action state).2)
    (further : ∀ value after, action state = (.ok value, after) →
      Step.Sound after (next value after)) :
    Step.Sound state ((ofAction action >>= next) state) := by
  have opened : (ofAction action >>= next) state =
      (Step.done (action state).1 (action state).2).andThen fun value => next value := rfl
  rw [opened]
  rcases reached : action state with ⟨stop | value, after⟩
  · rw [reached] at advances
    exact advances
  · rw [reached] at advances
    exact (further value after reached).after_advances advances

/-- The same for an action whose result is known. -/
theorem sound_change_then {action : CacheAction α} {next : α → Task CacheState β} {value : α}
    (acts : action state = (.ok value, after)) (advances : Advances state after)
    (further : Step.Sound after (next value after)) :
    Step.Sound state ((ofAction action >>= next) state) := by
  apply sound_action_then
  · rw [acts]
    exact advances
  · intro other reached same
    rw [acts] at same
    cases same
    exact further

theorem sound_ofAction {spent : Set Nat} {action : CacheAction α}
    (respects : Action.Respects (Onward spent) action) (tidy : state.Tidy)
    (isSpent : ∀ number ∈ spent, state.Spent number) :
    Step.Sound state (ofAction action state) := by
  have advances := respects state tidy isSpent
  rw [ofAction]
  generalize action state = reached at advances ⊢
  exact advances

/-- An action that needs to know of no call. -/
theorem Sound.of_action {action : CacheAction α} (respects : Action.Respects (Onward ∅) action) :
    Sound (ofAction action) :=
  fun _ tidy => sound_ofAction respects tidy fun _ member => absurd member (Set.notMem_empty _)

end Task

open DeferredText.Task

/-! ### Implementations -/

section Implementations

variable {granted : Routine → CacheAction Value} {render : NestedRender}

theorem Coroutine.sound_run (respects : ∀ routine, Action.Respects (Onward ∅) (granted routine))
    (renders : ∀ template data, (render template data).Sound) (coroutine : Coroutine) :
    (coroutine.run granted render).Sound := by
  induction coroutine with
  | finish value => exact sound_pure value
  | fail failure => exact .of_action (Action.quiet_fail failure)
  | compute routine next inductionHypothesis =>
      exact (Sound.of_action (respects routine).attempt).bind inductionHypothesis
  | render template data next inductionHypothesis =>
      exact (renders template data).attempt.bind inductionHypothesis

/-- The implementation of a call that was taken and not started is started once. -/
theorem Invoke.sound_implementation (limits : Limits) (current : Option Nat) (cycleId : String)
    (renders : ∀ template data, (render template data).Sound)
    (tidy : state.Tidy) (ready : state.Ready number) :
    Step.Sound state (Invoke.implementation limits current cycleId render number state) := by
  have reads : (get : CacheAction CacheState) state = (.ok state, state) := rfl
  rw [Invoke.implementation]
  apply sound_change_then reads (.refl tidy)
  cases found : state.invocations[number]? with
  | none => exact Advances.refl tidy
  | some invocation =>
      have starts : noteStart number state = (.ok (), state.noteStarted number) := rfl
      have advances := (Change.starts state number ready).advances tidy
      apply sound_change_then starts advances
      refine (?_ : Task.Sound _) _ advances.tidy
      split
      · exact (Sound.of_action (quiet_noteCall _ _)).bind fun _ =>
          Coroutine.sound_run (quiet_runRoutine limits current) renders _
      · exact (Sound.of_action (quiet_makePromise _ cycleId)).bind fun promise =>
          (Sound.of_action
            (quiet_callback (quiet_runRoutine limits current) current promise _ _)).bind fun _ =>
              sound_await promise

end Implementations

/-! ### Resolutions -/

namespace Drain

variable {invoke : Invoke} {spent : Set Nat}

theorem onward_abort (member : number ∈ spent) (index : Nat) (cycle name : Value) (started : Int)
    (failure : Failure) :
    Action.Respects (Onward spent) (abort index number cycle name started failure) :=
  (onward_setStatus member .failed).bind fun _ =>
    (onward_clearWaitlist index).bind fun _ =>
      (quiet_elapsedSince started).bind fun _ =>
        (quiet_tell _).bind fun _ => (quiet_tell _).bind fun _ => Action.quiet_fail failure

theorem onward_accept (member : number ∈ spent) (cycle name value : Value) (token : String)
    (started : Int) (progress : Progress) :
    Action.Respects (Onward spent) (accept number cycle name token started progress value) :=
  (onward_setStatus member .completed).bind fun _ =>
    (Action.quiet_ofOutcome _).bind fun _ =>
      (quiet_elapsedSince started).bind fun _ =>
        (quiet_tell _).bind fun _ => Action.quiet_pure _

/-- The implementation may be run of every call that was taken and not started. -/
def Invoke.Sound (invoke : Invoke) : Prop :=
  ∀ number state, state.Tidy → state.Ready number → Step.Sound state (invoke number state)

theorem sound_step (sound : Invoke.Sound invoke) (tidy : state.Tidy) (ready : state.Ready number)
    (progress : Progress) : Step.Sound state (step invoke index number progress state) := by
  have reads : (get : CacheAction CacheState) state = (.ok state, state) := rfl
  have isSpent : ∀ {after : CacheState}, Advances state after →
      ∀ other ∈ ({number} : Set Nat), after.Spent other := by
    rintro after advances other rfl
    exact advances.staysSpent ready.1
  rw [step_eq]
  apply sound_change_then reads (.refl tidy)
  cases found : state.invocations[number]? with
  | none => exact Advances.refl tidy
  | some invocation =>
    dsimp only
    by_cases needed : isNeeded progress.text invocation.token (state.queued index) = true
    · -- Settling the arguments and writing to the log leave the call ready.
      rw [if_pos needed]
      have prepares := advances_prepared tidy ready.1 progress.results
      have readyPrepared := ready.advances prepares (by rw [prepared]; split <;> rfl)
      apply sound_change_then (prepare_eq _) prepares
      apply sound_change_then argumentsOf_eq (.refl prepares.tidy)
      have tellsOnward : ∀ event, Action.Respects (Onward ∅) (tell event) := quiet_tell
      apply sound_action_then (tellsOnward _ _ prepares.tidy (by simp))
      intro _ told tells
      obtain ⟨lines, rfl⟩ := tell_lines tells
      have writes : Advances (state.prepared number progress.results)
          ((state.prepared number progress.results).withLines lines) :=
        .of_idle prepares.tidy rfl rfl
      apply (sound number _ writes.tidy (readyPrepared.advances writes rfl)).attempt.andThen
      rintro (failure | value) after advances
      · exact sound_ofAction (onward_abort (Set.mem_singleton number) index _ _ _ failure) advances.tidy
          (isSpent ((prepares.trans writes).trans advances))
      · exact sound_ofAction (onward_accept (Set.mem_singleton number) _ _ value _ _ progress) advances.tidy
          (isSpent ((prepares.trans writes).trans advances))
    · rw [if_neg needed]
      have skips : Advances state (state.withStatus number .skipped) :=
        onward_setStatus (Set.mem_singleton number) .skipped state tidy (isSpent (.refl tidy))
      apply sound_change_then (setStatus_eq _) skips
      exact ((Sound.of_action (quiet_tell _)).bind fun _ => sound_pure _) _ skips.tidy

theorem sound_loop (sound : Invoke.Sound invoke) (fuel : Nat) (progress : Progress) :
    (loop invoke index fuel progress).Sound := by
  induction fuel generalizing progress with
  | zero => exact sound_stop .exhausted
  | succ fuel inductionHypothesis =>
      intro state tidy
      rw [loop_succ]
      cases queued : state.queue index with
      | nil => exact sound_change_then (takeNext_nil queued) (.refl tidy) (.refl tidy)
      | cons number rest =>
          have takes : Advances state (state.withQueue index rest) :=
            (Change.leaves state index rest (by rw [queued]; exact List.sublist_cons_self _ _)).advances tidy
          apply sound_change_then (takeNext_cons queued) takes
          apply (sound_step sound takes.tidy (ready_taken tidy queued) progress).andThen
          intro next after advances
          exact inductionHypothesis next after advances.tidy

theorem sound_run (sound : Invoke.Sound invoke) (fuel : Nat) (text : String) :
    (run invoke fuel index text).Sound := by
  rw [run_eq]
  exact (Sound.of_action Action.quiet_get).bind fun _ =>
    (Sound.of_action (quiet_tell _)).bind fun _ =>
      (sound_loop sound fuel (.start text)).bind fun _ =>
        (Sound.of_action (quiet_elapsedSince _)).bind fun _ =>
          (Sound.of_action (quiet_tell _)).bind fun _ => sound_pure _

end Drain

/-! ### Renderings -/

namespace Cache

variable {limits : Limits} {current : Option Nat} {done : Option Notify}

/-- The completion function, if there is one, only adds calls. -/
def Notifies (done : Option Notify) : Prop :=
  ∀ notify ∈ done, ∀ current call, Action.Respects (Onward ∅) (notify current call)

theorem sound_invoker {nested : NestedRender}
    (renders : ∀ template data, (nested template data).Sound) (index : Nat) :
    Drain.Invoke.Sound (invoker limits current index nested) := by
  intro number state tidy ready
  have reads : (get : CacheAction CacheState) state = (.ok state, state) := rfl
  apply sound_change_then reads (.refl tidy)
  exact Invoke.sound_implementation limits current _ renders tidy ready

theorem sound_resolveWaitlist {invoke : Drain.Invoke} (sound : Drain.Invoke.Sound invoke)
    (fuel : Nat) (notifies : Notifies done) (current : Option Nat) (index : Nat) (text : String) :
    (resolveWaitlist invoke fuel done current index text).Sound := by
  rw [resolveWaitlist_eq]
  apply (Drain.sound_run sound fuel text).attempt.bind
  rintro (failure | result)
  · exact .of_action (quiet_handFailure notifies current failure)
  · exact .of_action (quiet_handText notifies current result)

theorem onward_renderFailed (notifies : Notifies done) (index : Nat) (failure : Failure) :
    Action.Respects (Onward ∅) (renderFailed done index failure) :=
  Action.quiet_get.bind fun _ =>
    (quiet_tell _).bind fun _ =>
      (onward_clearWaitlist index).discard.bind fun _ =>
        quiet_handFailure notifies (some index) failure

theorem sound_renderWithin (depth : Nat) (notifies : Notifies done) (template data : Value) :
    (renderWithin limits current depth done template data).Sound := by
  induction depth generalizing done template data with
  | zero => exact sound_stop .exhausted
  | succ depth inductionHypothesis =>
      have nests : ∀ template data, (nested limits current depth template data).Sound :=
        fun template data => (inductionHypothesis (by simp [Notifies]) template data).bind
          fun text => sound_pure (asValue text)
      rw [renderWithin_succ]
      apply (Sound.of_action onward_openWaitlist).bind
      intro index
      apply (Sound.of_action (quiet_renderPass limits index template data).attempt).bind
      rintro (failure | rendered)
      · exact .of_action (onward_renderFailed notifies index failure)
      · exact (Sound.of_action (quiet_renderCompleted index rendered)).bind fun _ =>
          sound_resolveWaitlist (sound_invoker nests index) limits.steps notifies current index
            rendered.text

theorem sound_render (notifies : Notifies done) (template data : Value) :
    (render limits current done template data).Sound :=
  sound_renderWithin limits.depth notifies template data

theorem sound_startRender (limits : Limits) (promise : Nat) (template data : Value)
    (current : Option Nat) : (startRender limits promise template data current).Sound := by
  apply (sound_render _ template data).bind fun _ => sound_pure _
  intro notify isReport current call
  cases isReport
  exact quiet_reportTo promise current call

end Cache

end DeferredText
