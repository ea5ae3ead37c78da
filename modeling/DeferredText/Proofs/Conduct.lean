import DeferredText.Proofs.Course
import DeferredText.Proofs.Guarded
import DeferredText.Proofs.Quiet

/-!
Contract: all tasks of a cache stay within territories of their own.

The resolution of a waitlist has that waitlist and the calls it took from it. Whatever
else happens, helpers that run, renderings that they wait for and renderings that they
start, has only what it opens itself.

Owns: that renderings and resolutions are guarded, and that a world without waiting
tasks is.

Does not own: what a territory is good for (`Proofs.Turns`).
-/

namespace DeferredText

open CacheState Territory

variable {α β : Type}

/-- Nothing is asked of a cache. -/
def anyState (_ : CacheState) : Prop := True

/-- Nothing is asked of a result. -/
def anyResult (_ : Except Stop α) (_ : CacheState) : Prop := True

/-- A task without a territory stays within what it opens itself. -/
def Task.Guarded (task : Task CacheState α) : Prop :=
  ∀ state, state.Orderly → Step.Guarded anyState anyResult .empty state (task state)

namespace Task

variable {task : Task CacheState α} {next : α → Task CacheState β}

theorem Guarded.bind (first : task.Guarded) (second : ∀ value, (next value).Guarded) :
    Guarded (task >>= next) := by
  intro state orderly
  apply (first state orderly).andThen orderly (.empty state)
  · intro value after keeps _ _
    exact second value after (keeps.orderly orderly)
  · exact fun _ _ _ _ _ => trivial

theorem guarded_pure (value : α) : Guarded (pure value : Task CacheState α) :=
  fun state _ => ⟨.refl _ state, trivial, trivial⟩

theorem guarded_ofAction {action : CacheAction α} (quiet : Action.Quiet action) :
    Guarded (ofAction action) := by
  intro state _
  have moves := quiet state
  rw [ofAction]
  generalize action state = reached at moves ⊢
  exact ⟨moves, trivial, trivial⟩

theorem Guarded.attempt (guarded : task.Guarded) : Guarded task.attempt := by
  intro state orderly
  apply Step.Guarded.attempt
  exact (guarded state orderly).weaken fun _ _ _ => trivial

theorem guarded_await (promise : Nat) : Guarded (await promise) := by
  intro state orderly
  refine ⟨.refl _ state, trivial, .empty, .refl _ state, .empty state, ?_⟩
  intro outcome later _ _ _
  cases outcome <;> exact ⟨.refl _ later, trivial, trivial⟩

theorem guarded_stop (reason : Stop) : Guarded (stop reason : Task CacheState α) :=
  fun state _ => ⟨.refl _ state, trivial, trivial⟩

end Task

open DeferredText.Task

/-! ### Implementations -/

section Implementations

variable {allowed : CacheState → CacheState → Prop} [Admits allowed]
  {granted : Routine → CacheAction Value} {render : NestedRender}

theorem Coroutine.guarded_run (quiet : ∀ routine, Action.Quiet (granted routine))
    (renders : ∀ template data, (render template data).Guarded) (coroutine : Coroutine) :
    (coroutine.run granted render).Guarded := by
  induction coroutine with
  | finish value => exact guarded_pure value
  | fail failure => exact guarded_ofAction (Action.quiet_fail failure)
  | compute routine next inductionHypothesis =>
      exact (guarded_ofAction (quiet routine).attempt).bind inductionHypothesis
  | render template data next inductionHypothesis =>
      exact (renders template data).attempt.bind inductionHypothesis

theorem Invoke.quiet_callback (quiet : ∀ routine, Action.Respects allowed (granted routine))
    (current : Option Nat) (promise : Nat) (target : Callable) (arguments : Arguments) :
    Action.Respects allowed (Invoke.callback granted current promise target arguments) :=
  Invoke.composed_callback (fun _ => Action.Respects allowed) quiet_schedule quiet promise target
    arguments

theorem Invoke.guarded_implementation (limits : Limits) (current : Option Nat) (cycleId : String)
    (renders : ∀ template data, (render template data).Guarded) (number : Nat) :
    (Invoke.implementation limits current cycleId render number).Guarded := by
  apply (guarded_ofAction Action.quiet_get).bind
  intro state
  split
  · exact guarded_pure _
  · apply (guarded_ofAction (quiet_noteStart number)).bind
    intro _
    split
    · exact (guarded_ofAction (quiet_noteCall _ _)).bind fun _ =>
        Coroutine.guarded_run (quiet_runRoutine limits current) renders _
    · exact (guarded_ofAction (quiet_makePromise _ cycleId)).bind fun promise =>
        (guarded_ofAction (quiet_callback (quiet_runRoutine limits current) current promise _ _)).bind
          fun _ => guarded_await promise

end Implementations

/-! ### Resolutions -/

theorem Step.andThen_assoc {γ : Type} (step : Step CacheState α)
    (next : α → CacheState → Step CacheState β) (last : β → CacheState → Step CacheState γ) :
    (step.andThen next).andThen last =
      step.andThen fun value state => (next value state).andThen last := by
  induction step with
  | done result state => cases result <;> rfl
  | waiting promise state resume inductionHypothesis =>
      simp only [Step.andThen, inductionHypothesis]

theorem Task.bind_assoc {γ : Type} (task : Task CacheState α) (next : α → Task CacheState β)
    (last : β → Task CacheState γ) :
    task >>= next >>= last = task >>= fun value => next value >>= last :=
  funext fun state => Step.andThen_assoc (task state) _ _

section Resolutions

variable {territory : Territory} {state : CacheState} {invoke : Drain.Invoke} {index number : Nat}

/-- The task stays within the territory from the given state on. -/
def Task.GuardedFrom
    (territory : Territory)
    (state : CacheState)
    (task : Task CacheState α) : Prop :=
  Step.Guarded anyState anyResult territory state (task state)

theorem Task.guardedFrom_pure (value : α) :
    GuardedFrom territory state (pure value : Task CacheState α) :=
  ⟨.refl territory state, trivial, trivial⟩

/-- An action of the territory, and then a task. -/
theorem Task.guardedFrom_action {action : CacheAction α} {next : α → Task CacheState β}
    (moves : Moves territory state (action state).2)
    (further : ∀ value after, action state = (.ok value, after) →
      GuardedFrom territory after (next value)) :
    GuardedFrom territory state (ofAction action >>= next) := by
  cases reached : action state with
  | mk result after =>
      rw [reached] at moves
      have opened : (ofAction action >>= next) state =
          (Step.done result after).andThen fun value => next value := by
        change (ofAction action state).andThen _ = _
        rw [ofAction, reached]
      rw [GuardedFrom, opened]
      cases result with
      | ok value =>
          exact Step.Guarded.after_moves moves (.refl _ _) (further value after reached)
      | error stop => exact ⟨moves, trivial, trivial⟩

/-- A task with no part in the territory, and then a task of the territory. -/
theorem Task.guardedFrom_task {task : Task CacheState α} {next : α → Task CacheState β}
    (orderly : state.Orderly) (holds : Holds territory state) (guarded : task.Guarded)
    (further : ∀ value after, after.Orderly → Holds territory after →
      GuardedFrom territory after (next value)) :
    GuardedFrom territory state (task >>= next) := by
  apply (guarded state orderly).andThen orderly holds
  · intro value after keeps _ _
    exact further value after (keeps.orderly orderly) (holds.keeps keeps)
  · exact fun _ _ _ _ _ => trivial

theorem Task.guardedFrom_last {action : CacheAction α}
    (stays : Action.Within territory action) :
    GuardedFrom territory state (ofAction action) := by
  have moves := stays state
  rw [GuardedFrom, ofAction]
  generalize action state = reached at moves ⊢
  exact ⟨moves, trivial, trivial⟩

/-- A quiet action, and then a task of the territory. -/
theorem Task.guardedFrom_quiet {action : CacheAction α} {next : α → Task CacheState β}
    (orderly : state.Orderly) (holds : Holds territory state) (quiet : Action.Quiet action)
    (further : ∀ value after, after.Orderly → Holds territory after →
      GuardedFrom territory after (next value)) :
    GuardedFrom territory state (ofAction action >>= next) :=
  guardedFrom_task orderly holds (guarded_ofAction quiet) further

theorem Task.guardedFrom_within {action : CacheAction α} {next : α → Task CacheState β}
    (orderly : state.Orderly) (holds : Holds territory state)
    (stays : Action.Within territory action)
    (further : ∀ value after, after.Orderly → Holds territory after →
      GuardedFrom territory after (next value)) :
    GuardedFrom territory state (ofAction action >>= next) := by
  apply guardedFrom_action (stays state)
  intro value after acts
  have moves := stays state
  rw [acts] at moves
  exact further value after (moves.orderly orderly) (holds.grows moves.toGrows)

/-- The oldest call is taken off a waitlist, and then a task of the larger territory. -/
theorem Task.guardedFrom_taking {rest : List Nat} {next : Option Nat → Task CacheState β}
    (queued : state.queue index = number :: rest)
    (moves : Moves territory state (state.withQueue index rest))
    (owned : index ∈ territory.waitlists)
    (further : GuardedFrom (territory.taking number) (state.withQueue index rest)
      (next (some number))) :
    GuardedFrom territory state (ofAction (takeNext index) >>= next) := by
  have opened : (ofAction (takeNext index) >>= next) state =
      next (some number) (state.withQueue index rest) := by
    change (ofAction (takeNext index) state).andThen _ = _
    rw [ofAction, takeNext_cons queued]
    rfl
  rw [GuardedFrom, opened]
  exact Step.Guarded.after_moves moves (extends_taking queued owned) further

/-- A change within the territory, and then a task. -/
theorem Task.guardedFrom_change {action : CacheAction α} {next : α → Task CacheState β}
    {value : α} {changed : CacheState}
    (orderly : state.Orderly) (holds : Holds territory state)
    (acts : action state = (.ok value, changed)) (moves : Moves territory state changed)
    (further : changed.Orderly → Holds territory changed →
      GuardedFrom territory changed (next value)) :
    GuardedFrom territory state (ofAction action >>= next) := by
  apply guardedFrom_action
  · rw [acts]
    exact moves
  · intro other after same
    rw [acts] at same
    cases same
    exact further (moves.orderly orderly) (holds.grows moves.toGrows)

theorem Territory.moves_withStatus (taken : number ∈ territory.calls)
    (status : InvocationStatus) : Moves territory state (state.withStatus number status) :=
  moves_withInvocation (.inl taken) fun _ => ⟨rfl, rfl, rfl, rfl⟩

theorem Territory.moves_prepared (taken : number ∈ territory.calls) (results : Results) :
    Moves territory state (state.prepared number results) := by
  rw [prepared]
  split
  · exact .refl territory state
  · exact moves_withInvocation (.inl taken) fun _ => ⟨rfl, rfl, rfl, rfl⟩

namespace Drain

theorem within_setStatus (taken : number ∈ territory.calls) (status : InvocationStatus) :
    Action.Within territory (setStatus number status) := fun state => by
  rw [setStatus_eq]
  exact moves_withStatus taken status

theorem within_clearWaitlist (owned : index ∈ territory.waitlists) :
    Action.Within territory (clearWaitlist index) := fun state => by
  rw [clearWaitlist_eq]
  exact moves_withQueue owned (List.nil_sublist _)

theorem quiet_elapsedSince {allowed : CacheState → CacheState → Prop} [Allows allowed]
    (started : Int) : Action.Respects allowed (elapsedSince started) :=
  fun state => Allows.refl state

theorem quiet_argumentsOf {allowed : CacheState → CacheState → Prop} [Allows allowed]
    (number : Nat) : Action.Respects allowed (argumentsOf number) :=
  fun state => Allows.refl state

theorem within_abort (owned : index ∈ territory.waitlists) (taken : number ∈ territory.calls)
    (cycle name : Value) (started : Int) (failure : Failure) :
    Action.Within territory (abort index number cycle name started failure) :=
  (within_setStatus taken .failed).bind fun _ =>
    (within_clearWaitlist owned).bind fun _ =>
      (quiet_elapsedSince started).bind fun _ =>
        (quiet_tell _).bind fun _ => (quiet_tell _).bind fun _ => Action.quiet_fail failure

theorem within_accept (taken : number ∈ territory.calls) (cycle name value : Value)
    (token : String) (started : Int) (progress : Progress) :
    Action.Within territory (accept number cycle name token started progress value) :=
  (within_setStatus taken .completed).bind fun _ =>
    (Action.quiet_ofOutcome _).bind fun _ =>
      (quiet_elapsedSince started).bind fun _ =>
        (quiet_tell _).bind fun _ => Action.quiet_pure _

theorem guarded_step_then (invokes : ∀ number, (invoke number).Guarded)
    (orderly : state.Orderly) (holds : Holds territory state)
    (owned : index ∈ territory.waitlists) (taken : number ∈ territory.calls) (progress : Progress)
    {next : Progress → Task CacheState α}
    (further : ∀ progress after, after.Orderly → Holds territory after →
      Task.GuardedFrom territory after (next progress)) :
    Task.GuardedFrom territory state (step invoke index number progress >>= next) := by
  rw [step_eq, Task.bind_assoc]
  apply guardedFrom_quiet orderly holds Action.quiet_get
  intro read state orderly holds
  split
  · exact further progress state orderly holds
  · rename_i invocation found
    split
    · simp only [Task.bind_assoc]
      apply guardedFrom_change orderly holds (prepare_eq _) (moves_prepared taken _)
      intro orderly holds
      apply guardedFrom_quiet orderly holds (quiet_argumentsOf number)
      intro arguments state orderly holds
      apply guardedFrom_quiet orderly holds (quiet_tell _)
      intro _ state orderly holds
      apply guardedFrom_task orderly holds (invokes number).attempt
      rintro (failure | value) state orderly holds
      · exact guardedFrom_within orderly holds (within_abort owned taken _ _ _ failure) further
      · exact guardedFrom_within orderly holds (within_accept taken _ _ value _ _ progress) further
    · simp only [Task.bind_assoc]
      apply guardedFrom_change orderly holds (setStatus_eq _) (moves_withStatus taken _)
      intro orderly holds
      apply guardedFrom_quiet orderly holds (quiet_tell _)
      intro _ state orderly holds
      exact further _ state orderly holds

theorem guarded_loop (invokes : ∀ number, (invoke number).Guarded) (fuel : Nat)
    (orderly : state.Orderly) (holds : Holds territory state)
    (owned : index ∈ territory.waitlists) (progress : Progress) :
    Task.GuardedFrom territory state (loop invoke index fuel progress) := by
  induction fuel generalizing territory state progress with
  | zero => exact ⟨.refl _ _, trivial, trivial⟩
  | succ fuel inductionHypothesis =>
      rw [loop_succ]
      cases queued : state.queue index with
      | nil =>
          apply guardedFrom_change orderly holds (takeNext_nil queued) (.refl _ _)
          exact fun _ _ => guardedFrom_pure progress
      | cons number rest =>
          have moves : Moves territory state (state.withQueue index rest) :=
            moves_withQueue owned (by rw [queued]; exact List.sublist_cons_self _ _)
          apply Task.guardedFrom_taking queued moves owned
          apply guarded_step_then invokes (moves.orderly orderly)
            (holds_taking queued orderly holds owned) owned (Set.mem_insert number _)
          intro progress after orderly holds
          exact inductionHypothesis orderly holds owned progress

theorem guarded_run (invokes : ∀ number, (invoke number).Guarded) (fuel : Nat) (text : String)
    (orderly : state.Orderly) (holds : Holds territory state)
    (owned : index ∈ territory.waitlists) :
    Task.GuardedFrom territory state (run invoke fuel index text) := by
  rw [run_eq]
  apply guardedFrom_quiet orderly holds Action.quiet_get
  intro read state orderly holds
  apply guardedFrom_quiet orderly holds (quiet_tell _)
  intro _ state orderly holds
  apply (guarded_loop invokes fuel orderly holds owned (.start text)).andThen_free orderly
  · intro progress after orderly _ _
    exact ((guarded_ofAction (quiet_elapsedSince _)).bind fun _ =>
      (guarded_ofAction (quiet_tell _)).bind fun _ => guarded_pure _) after orderly
  · exact fun _ _ _ _ => trivial

end Drain

namespace Cache

section Handing

variable {allowed : CacheState → CacheState → Prop}

theorem quiet_reportTo [Admits allowed] (promise : Nat) (current : Option Nat) (call : DoneCall) :
    Action.Respects allowed (reportTo promise current call) :=
  quiet_schedule _

variable [Allows allowed]

theorem quiet_handFailure {done : Option Notify}
    (notifies : ∀ notify ∈ done, ∀ current call, Action.Respects allowed (notify current call))
    (current : Option Nat) (failure : Failure) :
    Action.Respects allowed (handFailure done current failure) := by
  cases done with
  | none => exact Action.quiet_fail failure
  | some notify => exact (notifies notify rfl current _).bind fun _ => Action.quiet_pure _

theorem quiet_handText {done : Option Notify}
    (notifies : ∀ notify ∈ done, ∀ current call, Action.Respects allowed (notify current call))
    (current : Option Nat) (text : String) :
    Action.Respects allowed (handText done current text) := by
  cases done with
  | none => exact Action.quiet_pure _
  | some notify => exact (notifies notify rfl current _).bind fun _ => Action.quiet_pure _

theorem quiet_renderCompleted (index : Nat) (rendered : Rendered) :
    Action.Respects allowed (renderCompleted index rendered) :=
  Action.quiet_get.bind fun _ => quiet_tell _

end Handing

theorem guarded_resolveWaitlist (invokes : ∀ number, (invoke number).Guarded) (fuel : Nat)
    {done : Option Notify}
    (notifies : ∀ notify ∈ done, ∀ current call, Action.Quiet (notify current call))
    (current : Option Nat) (text : String)
    (orderly : state.Orderly) (holds : Holds territory state)
    (owned : index ∈ territory.waitlists) :
    Task.GuardedFrom territory state (resolveWaitlist invoke fuel done current index text) := by
  have runs := Drain.guarded_run invokes fuel text orderly holds owned
  have attempted : Task.GuardedFrom territory state (Drain.run invoke fuel index text).attempt :=
    Step.Guarded.attempt (runs.weaken fun _ _ _ => trivial)
  apply attempted.andThen_free orderly
  · rintro (failure | result) after orderly _ _
    · exact guarded_ofAction (quiet_handFailure notifies current failure) after orderly
    · exact guarded_ofAction (quiet_handText notifies current result) after orderly
  · exact fun _ _ _ _ => trivial

end Cache

end Resolutions

/-! ### Renderings -/

namespace Cache

variable {limits : Limits} {current : Option Nat}

theorem guarded_invoker {nested : NestedRender}
    (renders : ∀ template data, (nested template data).Guarded) (index number : Nat) :
    (invoker limits current index nested number).Guarded :=
  (guarded_ofAction Action.quiet_get).bind fun _ =>
    Invoke.guarded_implementation limits current _ renders number

theorem within_renderFailed {territory : Territory} {index : Nat}
    (owned : index ∈ territory.waitlists) {done : Option Notify}
    (notifies : ∀ notify ∈ done, ∀ current call, Action.Quiet (notify current call))
    (failure : Failure) : Action.Within territory (renderFailed done index failure) :=
  Action.quiet_get.bind fun _ =>
    (quiet_tell _).bind fun _ =>
      (Drain.within_clearWaitlist owned).discard.bind fun _ =>
        within_of_quiet (quiet_handFailure notifies (some index) failure) territory

theorem guarded_renderWithin (depth : Nat) {done : Option Notify}
    (notifies : ∀ notify ∈ done, ∀ current call, Action.Quiet (notify current call))
    (template data : Value) :
    (renderWithin limits current depth done template data).Guarded := by
  induction depth generalizing done template data with
  | zero => exact guarded_stop .exhausted
  | succ depth inductionHypothesis =>
      have nests : ∀ template data, (nested limits current depth template data).Guarded :=
        fun template data => (inductionHypothesis (by simp) template data).bind fun text =>
          guarded_pure (asValue text)
      intro state orderly
      rw [renderWithin_succ]
      have extending : Extends (.ofWaitlist state.waitlists.length) .empty state :=
        ⟨fun _ member => .inr (Nat.le_of_eq member.symm),
          fun _ member => absurd member (Set.notMem_empty _)⟩
      have holds : Holds (.ofWaitlist state.waitlists.length) state.opened :=
        ⟨fun _ member => by rw [member]; simp [opened],
          fun _ member => absurd member (Set.notMem_empty _),
          fun _ member => absurd member (Set.notMem_empty _)⟩
      have owned : state.waitlists.length ∈ (Territory.ofWaitlist state.waitlists.length).waitlists :=
        rfl
      apply Step.Guarded.after_moves (moves_opened state) extending
      apply guardedFrom_quiet ((moves_opened state).orderly orderly) holds
        (quiet_renderPass limits _ template data).attempt
      rintro (failure | rendered) after orderly holds
      · exact guardedFrom_last (within_renderFailed owned notifies failure)
      · apply guardedFrom_quiet orderly holds (quiet_renderCompleted _ rendered)
        intro _ after orderly holds
        exact guarded_resolveWaitlist (guarded_invoker nests _) limits.steps notifies current
          rendered.text orderly holds owned

theorem guarded_render (done : Option Notify)
    (notifies : ∀ notify ∈ done, ∀ current call, Action.Quiet (notify current call))
    (template data : Value) : (render limits current done template data).Guarded :=
  guarded_renderWithin limits.depth notifies template data

theorem guarded_startRender (limits : Limits) (promise : Nat) (template data : Value)
    (current : Option Nat) : (startRender limits promise template data current).Guarded := by
  apply (guarded_render _ _ template data).bind fun _ => guarded_pure _
  intro notify isReport current call
  cases isReport
  exact quiet_reportTo promise current call

/-- Nothing that is due breaks the guard. -/
theorem orders (limits : Limits) : Orders anyState (startRender limits) where
  begins := fun state promise template data current rest _ orderly _ => by
    have moves : Moves .empty state (state.withReady rest) := .of_core rfl
    exact guarded_startRender limits promise template data current _ (moves.orderly orderly)
  settles := fun _ _ _ _ _ _ => trivial
  completes := fun _ _ _ _ _ _ => trivial
  resumes := fun _ _ _ _ _ => trivial

theorem guarded_resolver (index number : Nat) :
    (resolver limits current index number).Guarded :=
  guarded_invoker (fun template data =>
    (guarded_render none (by simp) template data).bind fun text => guarded_pure (asValue text))
    index number

end Cache

/-- A world in which no task waits keeps off every territory that holds. -/
theorem World.guarded_of_idle {territory : Territory} {world : World}
    (orderly : world.state.Orderly) (holds : Holds territory world.state)
    (idle : world.suspended = []) : World.Guarded anyState territory world :=
  ⟨orderly, trivial, holds, [], by simp [idle], by
    constructor <;> simp⟩

theorem World.guarded_ofWaitlist {index : Nat} {world : World} (orderly : world.state.Orderly)
    (inside : index < world.state.waitlists.length) (idle : world.suspended = []) :
    World.Guarded anyState (.ofWaitlist index) world := by
  apply World.guarded_of_idle orderly _ idle
  constructor
  · rintro other rfl
    exact inside
  · exact fun _ member => absurd member (Set.notMem_empty _)
  · exact fun _ member => absurd member (Set.notMem_empty _)

end DeferredText
