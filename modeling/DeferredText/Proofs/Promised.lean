import DeferredText.Proofs.Retired

/-!
Contract: who reports to a promise.

A task reports to the promises that it was given and to those that it makes itself. Between
two waits it makes fresh promises, leaves the outcomes of older ones alone, and puts what it
schedules behind everything that is due.

Owns: what a step assigns, given the promises it may report to, and that every task of a
cache reports to its own promises only.

Does not own: the promises of tasks that wait beside it (`Proofs.Reserved`).
-/

namespace DeferredText

open CacheState DeferredText.Action

variable {α β : Type}

/-- The promise that a delivery is about. -/
def Delivery.target : Delivery → Nat
  | .settle promise _ => promise
  | .complete promise _ => promise
  | .begin promise _ _ _ => promise
  | .resume promise => promise

namespace CacheState

/-- What a change does that reports to its own promises only. -/
structure Assigns (own : Set Nat) (before after : CacheState) : Prop where
  promises : ∃ made, after.promises = before.promises ++ made
  ready : ∃ added, after.ready = before.ready ++ added ∧
    ∀ delivery ∈ added, delivery.target ∈ own ∨
      (before.promises.length ≤ delivery.target ∧ delivery.target < after.promises.length)
  log : after.log = before.log

variable {own wider : Set Nat} {before middle after state : CacheState} {promise : Nat}

theorem Assigns.length_le (assigns : Assigns own before after) :
    before.promises.length ≤ after.promises.length := by
  obtain ⟨made, same⟩ := assigns.promises
  rw [same, List.length_append]
  exact Nat.le_add_right _ _

/-- Promises, deliveries and the log stay as they are. -/
theorem Assigns.of_same (promises : after.promises = before.promises)
    (ready : after.ready = before.ready) (log : after.log = before.log) :
    Assigns own before after :=
  ⟨⟨[], by simpa using promises⟩, ⟨[], by simpa using ready, by simp⟩, log⟩

theorem Assigns.refl (own : Set Nat) (state : CacheState) : Assigns own state state :=
  .of_same rfl rfl rfl

theorem Assigns.mono (assigns : Assigns own before after) (subset : own ⊆ wider) :
    Assigns wider before after := by
  obtain ⟨added, same, targets⟩ := assigns.ready
  exact ⟨assigns.promises,
    ⟨added, same, fun delivery member => (targets delivery member).imp_left (@subset _)⟩,
    assigns.log⟩

/-- The second change may also report to promises that the first one made. -/
theorem Assigns.trans (first : Assigns own before middle) (second : Assigns wider middle after)
    (granted : ∀ promise ∈ wider, promise ∈ own ∨
      (before.promises.length ≤ promise ∧ promise < middle.promises.length)) :
    Assigns own before after := by
  obtain ⟨made, madeSame⟩ := first.promises
  obtain ⟨more, moreSame⟩ := second.promises
  obtain ⟨added, addedSame, targets⟩ := first.ready
  obtain ⟨others, othersSame, othersTargets⟩ := second.ready
  have older := first.length_le
  have newer := second.length_le
  refine ⟨⟨made ++ more, by rw [moreSame, madeSame, List.append_assoc]⟩,
    ⟨added ++ others, by rw [othersSame, addedSame, List.append_assoc], ?_⟩,
    second.log.trans first.log⟩
  intro delivery member
  rcases List.mem_append.mp member with early | late
  · exact (targets delivery early).imp_right fun fresh => ⟨fresh.1, fresh.2.trans_le newer⟩
  · rcases othersTargets delivery late with given | fresh
    · exact (granted _ given).imp_right fun inside => ⟨inside.1, inside.2.trans_le newer⟩
    · exact .inr ⟨older.trans fresh.1, fresh.2⟩

theorem Assigns.then (first : Assigns own before middle) (second : Assigns own middle after) :
    Assigns own before after :=
  first.trans second fun _ => .inl

/-! ### Elementary changes -/

theorem assigns_recordedIn (index : Nat) (invocation : Invocation) (supply : Supply) :
    Assigns own state (state.recordedIn index invocation supply) :=
  .of_same rfl rfl rfl

theorem assigns_begun (template data : Value) (current : Option Nat) :
    Assigns own state (state.begun template data current) := by
  refine ⟨⟨_, rfl⟩, ⟨_, rfl, ?_⟩, rfl⟩
  intro delivery member
  obtain rfl := List.mem_singleton.mp member
  exact .inr ⟨Nat.le_refl _, by simp [begun, Delivery.target]⟩

theorem log_of_core (same : after.core = before.core) : after.log = before.log := by
  simp only [core, Prod.mk.injEq] at same
  exact same.2.2.1

instance (own : Set Nat) : Allows (Assigns own) where
  refl := .refl own
  trans := .then
  calm := fun same _ promises ready => .of_same promises ready (log_of_core same)
  recorded := fun _ index invocation supply _ => assigns_recordedIn index invocation supply
  begun := fun _ template data current => assigns_begun template data current

/-- What is due for a promise of one's own may be scheduled. -/
theorem assigns_schedule {delivery : Delivery} (owned : delivery.target ∈ own) :
    Respects (Assigns own) (schedule delivery) := by
  intro state
  refine ⟨⟨[], (List.append_nil _).symm⟩, ⟨[delivery], rfl, ?_⟩, rfl⟩
  intro other member
  obtain rfl := List.mem_singleton.mp member
  exact .inl owned

theorem assigns_makePromise (helperName cycleId : String) :
    Respects (Assigns own) (makePromise helperName cycleId) :=
  fun _ => ⟨⟨_, rfl⟩, ⟨[], (List.append_nil _).symm, by simp⟩, rfl⟩

theorem assigns_openWaitlist : Respects (Assigns own) openWaitlist :=
  fun _ => .of_same rfl rfl rfl

theorem assigns_takeNext (index : Nat) : Respects (Assigns own) (takeNext index) := by
  intro state
  rw [takeNext_eq]
  split <;> exact .of_same rfl rfl rfl

theorem assigns_clearWaitlist (index : Nat) : Respects (Assigns own) (clearWaitlist index) :=
  fun _ => .of_same rfl rfl rfl

theorem assigns_setStatus (number : Nat) (status : InvocationStatus) :
    Respects (Assigns own) (setStatus number status) :=
  fun _ => .of_same rfl rfl rfl

theorem assigns_noteStart (number : Nat) : Respects (Assigns own) (noteStart number) :=
  fun _ => .of_same rfl rfl rfl

theorem assigns_prepare (number : Nat) (results : Results) :
    Respects (Assigns own) (Drain.prepare number results) := by
  intro state
  rw [prepare_eq, prepared]
  split <;> exact .of_same rfl rfl rfl

end CacheState

variable {own wider : Set Nat} {before middle state later : CacheState} {promise : Nat}

/-! ### Steps -/

namespace Step

/-- Whenever the step goes on, it reports only to its own promises and to those that it makes
meanwhile, and it waits only for a promise that it has just made. -/
def Assigns (own : Set Nat) : CacheState → Step CacheState α → Prop
  | before, .done _ after => CacheState.Assigns own before after
  | before, .waiting promise middle resume =>
      CacheState.Assigns own before middle ∧
        before.promises.length ≤ promise ∧ promise < middle.promises.length ∧
        ∀ outcome later, middle.promises.length ≤ later.promises.length →
          Assigns own later (resume outcome later)

theorem Assigns.then {step : Step CacheState α} (first : CacheState.Assigns own before middle)
    (assigns : Assigns own middle step) : Assigns own before step := by
  cases step with
  | done result after => exact CacheState.Assigns.then first assigns
  | waiting promise after resume =>
      obtain ⟨changes, fresh, inside, resumes⟩ := assigns
      exact ⟨first.then changes, first.length_le.trans fresh, inside, resumes⟩

theorem Assigns.andThen {step : Step CacheState α} {next : α → CacheState → Step CacheState β}
    (assigns : Assigns own before step)
    (further : ∀ value after, Assigns own after (next value after)) :
    Assigns own before (step.andThen next) := by
  induction step generalizing before with
  | done result after =>
      cases result with
      | ok value => exact .then assigns (further value after)
      | error stop => exact assigns
  | waiting promise middle resume inductionHypothesis =>
      obtain ⟨changes, fresh, inside, resumes⟩ := assigns
      refine ⟨changes, fresh, inside, ?_⟩
      intro outcome later waited
      exact inductionHypothesis outcome later (resumes outcome later waited)

theorem Assigns.attempt {step : Step CacheState α} (assigns : Assigns own before step) :
    Assigns own before step.attempt := by
  induction step generalizing before with
  | done result after =>
      rw [attempt_done]
      exact assigns
  | waiting promise middle resume inductionHypothesis =>
      obtain ⟨changes, fresh, inside, resumes⟩ := assigns
      refine ⟨changes, fresh, inside, ?_⟩
      intro outcome later waited
      exact inductionHypothesis outcome later (resumes outcome later waited)

end Step

namespace Task

/-- From every state, the task reports only to the given promises and its own. -/
def Assigns (own : Set Nat) (task : Task CacheState α) : Prop :=
  ∀ state, Step.Assigns own state (task state)

theorem assigns_pure (value : α) : Assigns own (pure value : Task CacheState α) := .refl own

theorem assigns_stop (reason : Stop) : Assigns own (stop reason : Task CacheState α) := .refl own

theorem Assigns.bind {task : Task CacheState α} {next : α → Task CacheState β}
    (first : task.Assigns own) (second : ∀ value, (next value).Assigns own) :
    Assigns own (task >>= next) :=
  fun state => (first state).andThen fun value after => second value after

theorem Assigns.attempt {task : Task CacheState α} (assigns : task.Assigns own) :
    Assigns own task.attempt :=
  fun state => (assigns state).attempt

theorem Assigns.of_action {action : CacheAction α}
    (respects : Respects (CacheState.Assigns own) action) : Assigns own (ofAction action) := by
  intro state
  have assigns := respects state
  rw [ofAction]
  generalize action state = reached at assigns ⊢
  exact assigns

end Task

open DeferredText.Task

/-! ### Implementations -/

section Implementations

variable {granted : Routine → CacheAction Value} {render : NestedRender}

theorem Coroutine.assigns_run
    (respects : ∀ routine, Respects (CacheState.Assigns own) (granted routine))
    (renders : ∀ template data, (render template data).Assigns own) (coroutine : Coroutine) :
    (coroutine.run granted render).Assigns own := by
  induction coroutine with
  | finish value => exact assigns_pure value
  | fail failure => exact .of_action (quiet_fail failure)
  | compute routine next inductionHypothesis =>
      exact (Assigns.of_action (respects routine).attempt).bind inductionHypothesis
  | render template data next inductionHypothesis =>
      exact (renders template data).attempt.bind inductionHypothesis

/-- A handler reports to the promise of its callback. -/
theorem Handler.assigns_run
    (respects : ∀ routine, Respects (CacheState.Assigns own) (granted routine))
    (owned : promise ∈ own) (current : Option Nat) (handler : Handler) :
    Respects (CacheState.Assigns own) (handler.run granted promise current) := by
  induction handler with
  | finish => exact quiet_pure ()
  | fail failure => exact quiet_fail failure
  | compute routine next inductionHypothesis =>
      exact (respects routine).attempt.bind inductionHypothesis
  | complete completion next inductionHypothesis =>
      exact (assigns_schedule owned).bind fun _ => inductionHypothesis
  | completeLater completion next inductionHypothesis =>
      exact (assigns_schedule owned).bind fun _ => inductionHypothesis
  | startRender template data next inductionHypothesis =>
      exact (assigns_schedule owned).bind fun _ => inductionHypothesis

theorem Invoke.assigns_callback
    (respects : ∀ routine, Respects (CacheState.Assigns own) (granted routine))
    (owned : promise ∈ own) (current : Option Nat) (target : Callable) (arguments : Arguments) :
    Respects (CacheState.Assigns own)
      (Invoke.callback granted current promise target arguments) := by
  rw [Invoke.callback.eq_def]
  dsimp only
  split
  · rename_i implementation
    split
    · exact (quiet_noteCall implementation.label arguments).bind fun _ =>
        Handler.assigns_run respects owned current _
    · exact (quiet_noteCall implementation.label arguments).bind fun _ => (respects _).discard
    · exact quiet_pure ()
  · exact (target.quiet_call respects _).discard

/-- The promise that an implementation waits for is one that was made for it. -/
theorem Invoke.assigns_owed (limits : Limits) (current : Option Nat) (name cycleId : String)
    (target : Callable) (arguments : Arguments) :
    Assigns own (ofAction (makePromise name cycleId) >>= fun promise =>
      ofAction (callback (runRoutine limits current) current promise target arguments) >>= fun _ =>
        await promise) := by
  intro state
  let promised : CacheState :=
    { state with promises := state.promises ++ [⟨name, cycleId, none⟩] }
  have makes : makePromise name cycleId state = (.ok state.promises.length, promised) := rfl
  have reports : Respects (CacheState.Assigns (own ∪ {state.promises.length}))
      (callback (runRoutine limits current) current state.promises.length target arguments) :=
    assigns_callback (quiet_runRoutine limits current) (.inr rfl) current target arguments
  have calls : CacheState.Assigns own state
      (callback (runRoutine limits current) current state.promises.length target arguments
        promised).2 := by
    refine (assigns_makePromise name cycleId state).trans (reports promised) ?_
    rintro promise (given | rfl)
    · exact .inl given
    · exact .inr ⟨Nat.le_refl _, by simp [makes, promised]⟩
  have grown := (reports promised).length_le
  rw [Task.bind_ok makes]
  rcases called : callback (runRoutine limits current) current state.promises.length target
    arguments promised with ⟨stop | _, answered⟩
  · rw [called] at calls
    rw [Task.bind_stop called]
    exact calls
  · rw [called] at calls grown
    rw [Task.bind_ok called]
    have inside : state.promises.length < answered.promises.length :=
      Nat.lt_of_lt_of_le (by simp [promised]) grown
    refine ⟨calls, Nat.le_refl _, inside, ?_⟩
    rintro (failure | value) later - <;> exact .refl own later

theorem Invoke.assigns_implementation (limits : Limits) (current : Option Nat) (cycleId : String)
    (renders : ∀ template data, (render template data).Assigns own) (number : Nat) :
    (Invoke.implementation limits current cycleId render number).Assigns own := by
  apply (Assigns.of_action quiet_get).bind
  intro state
  split
  · exact assigns_pure _
  · apply (Assigns.of_action (assigns_noteStart number)).bind
    intro _
    split
    · exact (Assigns.of_action (quiet_noteCall _ _)).bind fun _ =>
        Coroutine.assigns_run (quiet_runRoutine limits current) renders _
    · exact assigns_owed limits current _ cycleId _ _

end Implementations

/-! ### Resolutions -/

namespace Drain

variable {invoke : Invoke}

theorem assigns_abort (index number : Nat) (cycle name : Value) (started : Int)
    (failure : Failure) :
    Respects (CacheState.Assigns own) (abort index number cycle name started failure) :=
  (assigns_setStatus number .failed).bind fun _ =>
    (assigns_clearWaitlist index).bind fun _ =>
      (quiet_elapsedSince started).bind fun _ =>
        (quiet_tell _).bind fun _ => (quiet_tell _).bind fun _ => quiet_fail failure

theorem assigns_accept (number : Nat) (cycle name value : Value) (token : String) (started : Int)
    (progress : Progress) :
    Respects (CacheState.Assigns own) (accept number cycle name token started progress value) :=
  (assigns_setStatus number .completed).bind fun _ =>
    (quiet_ofOutcome _).bind fun _ =>
      (quiet_elapsedSince started).bind fun _ => (quiet_tell _).bind fun _ => quiet_pure _

theorem assigns_step (invokes : ∀ number, (invoke number).Assigns own) (index number : Nat)
    (progress : Progress) : (step invoke index number progress).Assigns own := by
  rw [step_eq]
  apply (Assigns.of_action quiet_get).bind
  intro state
  split
  · exact assigns_pure progress
  · split
    · refine (Assigns.of_action (assigns_prepare number progress.results)).bind fun _ => ?_
      refine (Assigns.of_action (quiet_argumentsOf number)).bind fun _ => ?_
      refine (Assigns.of_action (quiet_tell _)).bind fun _ => ?_
      apply (invokes number).attempt.bind
      rintro (failure | value)
      · exact .of_action (assigns_abort index number _ _ _ failure)
      · exact .of_action (assigns_accept number _ _ value _ _ progress)
    · exact (Assigns.of_action (assigns_setStatus number .skipped)).bind fun _ =>
        (Assigns.of_action (quiet_tell _)).bind fun _ => assigns_pure _

theorem assigns_loop (invokes : ∀ number, (invoke number).Assigns own) (index fuel : Nat)
    (progress : Progress) : (loop invoke index fuel progress).Assigns own := by
  induction fuel generalizing progress with
  | zero => exact assigns_stop .exhausted
  | succ fuel inductionHypothesis =>
      rw [loop_succ]
      apply (Assigns.of_action (assigns_takeNext index)).bind
      rintro (_ | number)
      · exact assigns_pure progress
      · exact (assigns_step invokes index number progress).bind inductionHypothesis

theorem assigns_run (invokes : ∀ number, (invoke number).Assigns own) (index fuel : Nat)
    (text : String) : (run invoke fuel index text).Assigns own := by
  rw [run_eq]
  exact (Assigns.of_action quiet_get).bind fun _ =>
    (Assigns.of_action (quiet_tell _)).bind fun _ =>
      (assigns_loop invokes index fuel (.start text)).bind fun _ =>
        (Assigns.of_action (quiet_elapsedSince _)).bind fun _ =>
          (Assigns.of_action (quiet_tell _)).bind fun _ => assigns_pure _

end Drain

/-! ### Renderings -/

namespace Cache

variable {limits : Limits} {current : Option Nat} {done : Option Notify} {nests : NestedRender}

/-- The completion function, if there is one, reports to the given promises only. -/
def Reports (own : Set Nat) (done : Option Notify) : Prop :=
  ∀ notify ∈ done, ∀ current call, Respects (CacheState.Assigns own) (notify current call)

theorem reports_none : Reports own none := by
  simp [Reports]

theorem reports_reportTo (owned : promise ∈ own) : Reports own (some (reportTo promise)) := by
  intro notify isReport current call
  cases isReport
  exact assigns_schedule owned

theorem assigns_invoker (renders : ∀ template data, (nests template data).Assigns own)
    (index number : Nat) : (invoker limits current index nests number).Assigns own :=
  (Assigns.of_action quiet_get).bind fun _ =>
    Invoke.assigns_implementation limits current _ renders number

theorem assigns_resolveWaitlist {invoke : Drain.Invoke}
    (invokes : ∀ number, (invoke number).Assigns own) (fuel : Nat) (reports : Reports own done)
    (current : Option Nat) (index : Nat) (text : String) :
    (resolveWaitlist invoke fuel done current index text).Assigns own := by
  rw [resolveWaitlist_eq]
  apply (Drain.assigns_run invokes index fuel text).attempt.bind
  rintro (failure | result)
  · exact .of_action (quiet_handFailure reports current failure)
  · exact .of_action (quiet_handText reports current result)

theorem assigns_renderFailed (reports : Reports own done) (index : Nat) (failure : Failure) :
    Respects (CacheState.Assigns own) (renderFailed done index failure) :=
  quiet_get.bind fun _ =>
    (quiet_tell _).bind fun _ =>
      (assigns_clearWaitlist index).discard.bind fun _ =>
        quiet_handFailure reports (some index) failure

theorem assigns_renderInto {depth : Nat} (reports : Reports own done)
    (renders : ∀ template data, (nested limits current depth template data).Assigns own)
    (template data : Value) (index : Nat) :
    (renderInto limits current depth done template data index).Assigns own := by
  apply (Assigns.of_action (quiet_renderPass limits index template data).attempt).bind
  rintro (failure | rendered)
  · exact .of_action (assigns_renderFailed reports index failure)
  · exact (Assigns.of_action (quiet_renderCompleted index rendered)).bind fun _ =>
      assigns_resolveWaitlist (assigns_invoker renders index) limits.steps reports current index
        rendered.text

theorem assigns_renderWithin (depth : Nat) (reports : Reports own done) (template data : Value) :
    (renderWithin limits current depth done template data).Assigns own := by
  induction depth generalizing done template data with
  | zero => exact assigns_stop .exhausted
  | succ depth inductionHypothesis =>
      rw [renderWithin_into]
      apply (Assigns.of_action assigns_openWaitlist).bind
      intro index
      refine assigns_renderInto reports (fun template data => ?_) template data index
      exact (inductionHypothesis reports_none template data).bind fun text =>
        assigns_pure (asValue text)

theorem assigns_nested (depth : Nat) (template data : Value) :
    (nested limits current depth template data).Assigns own :=
  (assigns_renderWithin depth reports_none template data).bind fun text =>
    assigns_pure (asValue text)

theorem assigns_render (reports : Reports own done) (template data : Value) :
    (render limits current done template data).Assigns own :=
  assigns_renderWithin limits.depth reports template data

/-- A rendering that was started reports to the promise it was started for. -/
theorem assigns_startRender (limits : Limits) (promise : Nat) (template data : Value)
    (current : Option Nat) : (startRender limits promise template data current).Assigns {promise} :=
  (assigns_render (reports_reportTo (Set.mem_singleton promise)) template data).bind fun _ =>
    assigns_pure _

end Cache

end DeferredText
