import DeferredText.Proofs.Conduct

/-!
Contract: a call that nobody will take is never started.

A call that is queued on one waitlist at most can only be started by a task that takes
calls off that waitlist. Tasks take calls off the waitlists that they were given or have
opened themselves, so a waitlist whose rendering is over keeps its calls to itself.

Owns: what a step leaves to rest, given the waitlists it takes calls from, and that every
task of a cache takes calls from its own waitlists only.

Does not own: which tasks wait beside a rendering (`Proofs.Completion`).
-/

namespace DeferredText

open CacheState DeferredText.Action Invoke

variable {α β : Type}

namespace CacheState

/-- The call exists and is queued on the given waitlist, or on none. -/
structure Rests (state : CacheState) (number index : Nat) : Prop where
  exists_waitlist : index < state.waitlists.length
  exists_call : number < state.invocations.length
  only : ∀ other, number ∈ state.queue other → other = index

/-- What a change leaves alone that takes calls from its own waitlists only. -/
structure Spares (own : Set Nat) (before after : CacheState) : Prop where
  waitlists : before.waitlists.length ≤ after.waitlists.length
  fallback : after.defaultWaitlist = before.defaultWaitlist ∨
    before.waitlists.length ≤ after.defaultWaitlist
  rests : ∀ index ∉ own, ∀ number, before.Rests number index →
    after.Rests number index ∧ (number ∈ after.started → number ∈ before.started)

/-- The waitlists that were opened between two states. -/
def openedSince
    (before after : CacheState) : Set Nat :=
  {index | before.waitlists.length ≤ index ∧ index < after.waitlists.length}

variable {own wider : Set Nat} {before middle after state : CacheState} {index number : Nat}

theorem Spares.refl (own : Set Nat) (state : CacheState) : Spares own state state :=
  ⟨Nat.le_refl _, .inl rfl, fun _ _ _ rests => ⟨rests, id⟩⟩

theorem Spares.mono (spares : Spares own before after) (subset : own ⊆ wider) :
    Spares wider before after where
  waitlists := spares.waitlists
  fallback := spares.fallback
  rests := fun index outside => spares.rests index fun member => outside (subset member)

/-- The second change may also take calls from waitlists that the first one opened. -/
theorem Spares.trans (first : Spares own before middle)
    (second : Spares (own ∪ before.openedSince middle) middle after) : Spares own before after where
  waitlists := first.waitlists.trans second.waitlists
  fallback := by
    rcases second.fallback with same | fresh
    · exact same ▸ first.fallback
    · exact .inr (first.waitlists.trans fresh)
  rests := by
    intro index outside number rests
    have old : index ∉ own ∪ before.openedSince middle := by
      rintro (member | ⟨fresh, -⟩)
      · exact outside member
      · exact absurd rests.exists_waitlist (Nat.not_lt_of_le fresh)
    have half := first.rests index outside number rests
    have whole := second.rests index old number half.1
    exact ⟨whole.1, fun started => half.2 (whole.2 started)⟩

theorem Spares.then (first : Spares own before middle) (second : Spares own middle after) :
    Spares own before after :=
  first.trans (second.mono Set.subset_union_left)

/-! ### Elementary changes -/

/-- Nothing was queued that existed before, and nothing was started. -/
theorem Spares.of_queues (waitlists : before.waitlists.length ≤ after.waitlists.length)
    (fallback : after.defaultWaitlist = before.defaultWaitlist ∨
      before.waitlists.length ≤ after.defaultWaitlist)
    (invocations : before.invocations.length ≤ after.invocations.length)
    (queued : ∀ index, ∀ number ∈ after.queue index, number < before.invocations.length →
      number ∈ before.queue index)
    (started : after.started = before.started) : Spares own before after where
  waitlists := waitlists
  fallback := fallback
  rests := by
    rintro index - number rests
    refine ⟨⟨rests.exists_waitlist.trans_le waitlists, rests.exists_call.trans_le invocations, ?_⟩,
      fun isStarted => started ▸ isStarted⟩
    intro other member
    exact rests.only other (queued other number member rests.exists_call)

theorem Spares.of_moves (territory : Territory) (moves : territory.Moves before after)
    (started : after.started = before.started) : Spares own before after :=
  .of_queues moves.waitlists (.inl moves.fallback) moves.invocations moves.queued started

instance (own : Set Nat) : Admits (Spares own) where
  refl := .refl own
  trans := .then
  idle := fun same started => .of_moves .empty (.of_core same) started
  recorded := fun _ _ _ _ _ => .of_moves .empty moves_recordedIn rfl

theorem spares_opened (own : Set Nat) (state : CacheState) : Spares own state state.opened :=
  .of_moves .empty (moves_opened state) rfl

theorem spares_withQueue {numbers : List Nat} (fewer : numbers.Sublist (state.queue index)) :
    Spares own state (state.withQueue index numbers) :=
  .of_moves (.ofWaitlist index) (Territory.moves_withQueue rfl fewer) rfl

theorem spares_clearWaitlist (index : Nat) : Respects (Spares own) (clearWaitlist index) :=
  fun _ => spares_withQueue (List.nil_sublist _)

theorem spares_withInvocation (change : Invocation → Invocation) :
    Spares own state (state.withInvocation number change) :=
  .of_queues (Nat.le_refl _) (.inl rfl) (by simp [withInvocation]) (fun _ _ member _ => member) rfl

theorem spares_setStatus (number : Nat) (status : InvocationStatus) :
    Respects (Spares own) (setStatus number status) :=
  fun _ => spares_withInvocation _

theorem spares_prepared (number : Nat) (results : Results) :
    Spares own state (state.prepared number results) := by
  rw [prepared]
  split
  · exact .refl own state
  · exact spares_withInvocation _

/-- The call was queued on a waitlist that the task takes calls from. -/
def Held
    (own : Set Nat)
    (state : CacheState)
    (number : Nat) : Prop :=
  ∀ index ∉ own, ¬ state.Rests number index

theorem held_of_queued (owned : index ∈ own) (queued : number ∈ state.queue index) :
    Held own state number := by
  intro other outside rests
  exact outside (rests.only index queued ▸ owned)

/-- A call that a task has taken may be started. -/
theorem Spares.noteStart (spares : Spares own before middle) (held : Held own before number) :
    Spares own before { middle with started := middle.started ++ [number] } where
  waitlists := spares.waitlists
  fallback := spares.fallback
  rests := by
    intro index outside other rests
    obtain ⟨stays, started⟩ := spares.rests index outside other rests
    refine ⟨⟨stays.exists_waitlist, stays.exists_call, stays.only⟩, ?_⟩
    intro member
    rcases List.mem_append.mp member with old | new
    · exact started old
    · obtain rfl := List.mem_singleton.mp new
      exact absurd rests (held index outside)

end CacheState

variable {own wider : Set Nat} {before middle state later : CacheState} {index number : Nat}

/-! ### Steps -/

namespace Step

/-- Whenever the step goes on, it takes calls only from its own waitlists and from those that
it opened meanwhile. -/
def Owns : Set Nat → CacheState → Step CacheState α → Prop
  | own, before, .done _ after => Spares own before after
  | own, before, .waiting _ middle resume =>
      Spares own before middle ∧
        ∀ outcome later, middle.waitlists.length ≤ later.waitlists.length →
          Owns (own ∪ before.openedSince middle) later (resume outcome later)

theorem Owns.mono {step : Step CacheState α} (owns : Owns own before step)
    (subset : own ⊆ wider) : Owns wider before step := by
  induction step generalizing own wider before with
  | done result after => exact CacheState.Spares.mono owns subset
  | waiting promise middle resume inductionHypothesis =>
      refine ⟨owns.1.mono subset, ?_⟩
      intro outcome later waited
      exact inductionHypothesis outcome later (owns.2 outcome later waited)
        (Set.union_subset_union_left _ subset)

/-- What was done before the step belongs to it as well. -/
theorem Owns.after {step : Step CacheState α} (first : Spares own before middle)
    (owns : Owns (own ∪ before.openedSince middle) middle step) : Owns own before step := by
  cases step with
  | done result after => exact first.trans owns
  | waiting promise after resume =>
      refine ⟨first.trans owns.1, ?_⟩
      intro outcome later waited
      apply (owns.2 outcome later waited).mono
      rintro index ((member | ⟨lower, upper⟩) | ⟨lower, upper⟩)
      · exact .inl member
      · exact .inr ⟨lower, upper.trans_le owns.1.waitlists⟩
      · exact .inr ⟨first.waitlists.trans lower, upper⟩

theorem Owns.then {step : Step CacheState α} (first : Spares own before middle)
    (owns : Owns own middle step) : Owns own before step :=
  .after first (owns.mono Set.subset_union_left)

theorem Owns.andThen {step : Step CacheState α} {next : α → CacheState → Step CacheState β}
    (owns : Owns own before step)
    (further : ∀ value after, Owns own after (next value after)) :
    Owns own before (step.andThen next) := by
  induction step generalizing own before with
  | done result after =>
      cases result with
      | ok value => exact .then owns (further value after)
      | error stop => exact owns
  | waiting promise middle resume inductionHypothesis =>
      refine ⟨owns.1, ?_⟩
      intro outcome later waited
      apply inductionHypothesis outcome later (owns.2 outcome later waited)
      intro value after
      exact (further value after).mono Set.subset_union_left

theorem Owns.attempt {step : Step CacheState α} (owns : Owns own before step) :
    Owns own before step.attempt := by
  induction step generalizing own before with
  | done result after =>
      rw [attempt_done]
      exact owns
  | waiting promise middle resume inductionHypothesis =>
      refine ⟨owns.1, ?_⟩
      intro outcome later waited
      exact inductionHypothesis outcome later (owns.2 outcome later waited)

end Step

namespace Task

/-- From every state, the task takes calls only from the given waitlists and its own. -/
def Owns (own : Set Nat) (task : Task CacheState α) : Prop :=
  ∀ state, Step.Owns own state (task state)

theorem owns_pure (value : α) : Owns own (pure value : Task CacheState α) := .refl own

theorem Owns.bind {task : Task CacheState α} {next : α → Task CacheState β}
    (first : task.Owns own) (second : ∀ value, (next value).Owns own) :
    Owns own (task >>= next) :=
  fun state => (first state).andThen fun value after => second value after

theorem Owns.attempt {task : Task CacheState α} (owns : task.Owns own) : Owns own task.attempt :=
  fun state => (owns state).attempt

theorem owns_stop (reason : Stop) : Owns own (stop reason : Task CacheState α) := .refl own

theorem owns_await (promise : Nat) : Owns own (await promise) := by
  intro state
  refine ⟨.refl own state, ?_⟩
  rintro (failure | value) later - <;> exact .refl _ later

theorem Owns.of_action {action : CacheAction α} (respects : Respects (Spares own) action) :
    Owns own (ofAction action) := by
  intro state
  have spares := respects state
  rw [ofAction]
  generalize action state = reached at spares ⊢
  exact spares

theorem bind_ok {action : CacheAction α} {next : α → Task CacheState β} {value : α}
    (acts : action state = (.ok value, later)) :
    (ofAction action >>= next) state = next value later := by
  change (ofAction action state).andThen _ = _
  rw [ofAction, acts]
  rfl

theorem bind_stop {action : CacheAction α} {next : α → Task CacheState β} {stop : Stop}
    (acts : action state = (.error stop, later)) :
    (ofAction action >>= next) state = .done (.error stop) later := by
  change (ofAction action state).andThen _ = _
  rw [ofAction, acts]
  rfl

/-- The task follows an action whose result is known. -/
theorem owns_bind_action {action : CacheAction α} {next : α → Task CacheState β} {value : α}
    (acts : action state = (.ok value, later))
    (further : Step.Owns own before (next value later)) :
    Step.Owns own before ((ofAction action >>= next) state) := by
  rw [bind_ok acts]
  exact further

end Task

open DeferredText.Task

/-! ### Implementations -/

section Implementations

variable {granted : Routine → CacheAction Value} {render : NestedRender}

theorem Coroutine.owns_run (respects : ∀ routine, Respects (Spares own) (granted routine))
    (renders : ∀ template data, (render template data).Owns own) (coroutine : Coroutine) :
    (coroutine.run granted render).Owns own := by
  induction coroutine with
  | finish value => exact owns_pure value
  | fail failure => exact .of_action (quiet_fail failure)
  | compute routine next inductionHypothesis =>
      exact (Owns.of_action (respects routine).attempt).bind inductionHypothesis
  | render template data next inductionHypothesis =>
      exact (renders template data).attempt.bind inductionHypothesis

/-- The implementation of a call that the task has taken. -/
theorem Invoke.owns_implementation (limits : Limits) (current : Option Nat) (cycleId : String)
    (renders : ∀ template data, (render template data).Owns own)
    (spares : Spares own before state) (held : Held own before number) :
    Step.Owns own before (Invoke.implementation limits current cycleId render number state) := by
  have reads : (get : CacheAction CacheState) state = (.ok state, state) := rfl
  rw [Invoke.implementation]
  apply owns_bind_action reads
  cases found : state.invocations[number]? with
  | none => exact spares
  | some invocation =>
      have starts : noteStart number state =
          (.ok (), { state with started := state.started ++ [number] }) := rfl
      apply owns_bind_action starts
      refine .then (spares.noteStart held) ((?_ : Task.Owns own _) _)
      split
      · exact (Owns.of_action (quiet_noteCall _ _)).bind fun _ =>
          Coroutine.owns_run (quiet_runRoutine limits current) renders _
      · exact (Owns.of_action (quiet_makePromise _ cycleId)).bind fun promise =>
          (Owns.of_action
            (quiet_callback (quiet_runRoutine limits current) current promise _ _)).bind fun _ =>
              owns_await promise

end Implementations

/-! ### Resolutions -/

namespace Drain

variable {invoke : Invoke}

theorem spares_abort (index number : Nat) (cycle name : Value) (started : Int)
    (failure : Failure) :
    Respects (Spares own) (abort index number cycle name started failure) :=
  (spares_setStatus number .failed).bind fun _ =>
    (spares_clearWaitlist index).bind fun _ =>
      (quiet_elapsedSince started).bind fun _ =>
        (quiet_tell _).bind fun _ => (quiet_tell _).bind fun _ => quiet_fail failure

theorem spares_accept (number : Nat) (cycle name value : Value) (token : String) (started : Int)
    (progress : Progress) :
    Respects (Spares own) (accept number cycle name token started progress value) :=
  (spares_setStatus number .completed).bind fun _ =>
    (quiet_ofOutcome _).bind fun _ =>
      (quiet_elapsedSince started).bind fun _ => (quiet_tell _).bind fun _ => quiet_pure _

/-- The implementation of a call that was taken starts this call at most. -/
def Invoke.Owns
    (own : Set Nat)
    (invoke : Invoke) : Prop :=
  ∀ number before state, Spares own before state → Held own before number →
    Step.Owns own before (invoke number state)

/-- The call was taken since the earlier state. -/
theorem owns_step (invokes : Invoke.Owns own invoke) (progress : Progress)
    (spares : Spares own before state) (held : Held own before number) :
    Step.Owns own before (step invoke index number progress state) := by
  have reads : (get : CacheAction CacheState) state = (.ok state, state) := rfl
  rw [step_eq]
  apply owns_bind_action reads
  cases found : state.invocations[number]? with
  | none => exact spares
  | some invocation =>
    dsimp only
    by_cases needed : isNeeded progress.text invocation.token (state.queued index) = true
    · rw [if_pos needed]
      have prepares := spares.then (spares_prepared number progress.results)
      apply owns_bind_action (prepare_eq _)
      apply owns_bind_action argumentsOf_eq
      -- The line is the last thing that can stop the step before the call starts.
      generalize (Event.invoking _ _ _) = event
      have tells := prepares.then (quiet_tell event (state.prepared number progress.results))
      rcases told : tell event (state.prepared number progress.results) with ⟨stop | _, written⟩
      · rw [told] at tells
        rw [bind_stop told]
        exact tells
      · rw [told] at tells
        apply owns_bind_action told
        apply (invokes number before written tells held).attempt.andThen
        rintro (failure | value) after
        · exact Owns.of_action (spares_abort index number _ _ _ failure) after
        · exact Owns.of_action (spares_accept number _ _ value _ _ progress) after
    · rw [if_neg needed]
      apply owns_bind_action (setStatus_eq _)
      refine .then (spares.then (spares_setStatus number .skipped state)) ?_
      exact ((Owns.of_action (quiet_tell _)).bind fun _ => owns_pure _) _

theorem owns_loop (invokes : Invoke.Owns own invoke) (owned : index ∈ own) (fuel : Nat)
    (progress : Progress) : (loop invoke index fuel progress).Owns own := by
  induction fuel generalizing progress with
  | zero => exact owns_stop .exhausted
  | succ fuel inductionHypothesis =>
      intro state
      rw [loop_succ]
      cases queued : state.queue index with
      | nil => exact owns_bind_action (takeNext_nil queued) (.refl own state)
      | cons number rest =>
          have takes : Spares own state (state.withQueue index rest) :=
            spares_withQueue (by rw [queued]; exact List.sublist_cons_self _ _)
          have held : Held own state number := held_of_queued owned (by simp [queued])
          apply owns_bind_action (takeNext_cons queued)
          apply (owns_step invokes progress takes held).andThen
          intro next after
          exact inductionHypothesis next after

theorem owns_run (invokes : Invoke.Owns own invoke) (owned : index ∈ own) (fuel : Nat)
    (text : String) : (run invoke fuel index text).Owns own := by
  rw [run_eq]
  exact (Owns.of_action quiet_get).bind fun _ =>
    (Owns.of_action (quiet_tell _)).bind fun _ =>
      (owns_loop invokes owned fuel (.start text)).bind fun _ =>
        (Owns.of_action (quiet_elapsedSince _)).bind fun _ =>
          (Owns.of_action (quiet_tell _)).bind fun _ => owns_pure _

end Drain

/-! ### Renderings -/

namespace Cache

variable {limits : Limits} {current given : Option Nat} {done : Option Notify}

/-- The completion function, if there is one, takes no calls. -/
def Spared (done : Option Notify) : Prop :=
  ∀ notify ∈ done, ∀ current call, Respects (Spares ∅) (notify current call)

theorem Spared.respects (spared : Spared done) (own : Set Nat) :
    ∀ notify ∈ done, ∀ current call, Respects (Spares own) (notify current call) :=
  fun notify isDone current call state =>
    (spared notify isDone current call state).mono (Set.empty_subset own)

theorem owns_invoker {nested : NestedRender}
    (renders : ∀ template data, (nested template data).Owns own) (index : Nat) :
    Drain.Invoke.Owns own (invoker limits current index nested) := by
  intro number before state spares held
  have reads : (get : CacheAction CacheState) state = (.ok state, state) := rfl
  apply owns_bind_action reads
  exact Invoke.owns_implementation limits current _ renders spares held

theorem owns_resolveWaitlist {invoke : Drain.Invoke} (invokes : Drain.Invoke.Owns own invoke)
    (owned : index ∈ own) (fuel : Nat) (spared : Spared done) (current : Option Nat)
    (text : String) : (resolveWaitlist invoke fuel done current index text).Owns own := by
  rw [resolveWaitlist_eq]
  apply (Drain.owns_run invokes owned fuel text).attempt.bind
  rintro (failure | result)
  · exact .of_action (quiet_handFailure (spared.respects _) current failure)
  · exact .of_action (quiet_handText (spared.respects _) current result)

theorem spares_renderFailed (spared : Spared done) (index : Nat) (failure : Failure) :
    Respects (Spares own) (renderFailed done index failure) :=
  quiet_get.bind fun _ =>
    (quiet_tell _).bind fun _ =>
      (spares_clearWaitlist index).discard.bind fun _ =>
        quiet_handFailure (spared.respects _) (some index) failure

/-- The part of a rendering that is inside its own cycle. -/
def renderInto
    (limits : Limits)
    (current : Option Nat)
    (depth : Nat)
    (done : Option Notify)
    (template data : Value)
    (index : Nat) : Task CacheState (Option String) :=
  Task.ofAction (Action.attempt (renderPass limits index template data)) >>= fun outcome =>
    match outcome with
    | .error failure => Task.ofAction (renderFailed done index failure)
    | .ok rendered =>
        Task.ofAction (renderCompleted index rendered) >>= fun _ =>
          resolveWaitlist (invoker limits current index (nested limits current depth))
            limits.steps done current index rendered.text

theorem renderWithin_into (depth : Nat) (done : Option Notify) (template data : Value) :
    renderWithin limits current (depth + 1) done template data =
      (Task.ofAction openWaitlist >>= renderInto limits current depth done template data) := by
  rfl

theorem owns_renderInto {depth : Nat} (spared : Spared done)
    (nests : ∀ template data, (nested limits current depth template data).Owns own)
    (owned : index ∈ own) (template data : Value) :
    (renderInto limits current depth done template data index).Owns own := by
  apply (Owns.of_action (quiet_renderPass limits index template data).attempt).bind
  rintro (failure | rendered)
  · exact .of_action (spares_renderFailed spared index failure)
  · exact (Owns.of_action (quiet_renderCompleted index rendered)).bind fun _ =>
      owns_resolveWaitlist (owns_invoker nests index) owned limits.steps spared current
        rendered.text

theorem owns_renderWithin (own : Set Nat) (depth : Nat) (spared : Spared done)
    (template data : Value) : (renderWithin limits current depth done template data).Owns own := by
  induction depth generalizing own done template data with
  | zero => exact owns_stop .exhausted
  | succ depth inductionHypothesis =>
      intro state
      have nests : ∀ wider : Set Nat, ∀ template data,
          (nested limits current depth template data).Owns wider :=
        fun wider template data => (inductionHypothesis wider (by simp [Spared]) template data).bind
          fun text => owns_pure (asValue text)
      rw [renderWithin_into]
      apply owns_bind_action (openWaitlist_eq state)
      -- The waitlist that was just opened belongs to the rendering.
      have owned : state.waitlists.length ∈ own ∪ state.openedSince state.opened :=
        .inr ⟨Nat.le_refl _, by simp [opened]⟩
      exact .after (spares_opened _ state) (owns_renderInto spared (nests _) owned template data _)

theorem owns_nested (own : Set Nat) (depth : Nat) (template data : Value) :
    (nested limits current depth template data).Owns own :=
  (owns_renderWithin own depth (by simp [Spared]) template data).bind fun text =>
    owns_pure (asValue text)

theorem owns_render (own : Set Nat) (spared : Spared done) (template data : Value) :
    (render limits current done template data).Owns own :=
  owns_renderWithin own limits.depth spared template data

theorem owns_startRender (limits : Limits) (promise : Nat) (template data : Value)
    (current : Option Nat) : (startRender limits promise template data current).Owns ∅ := by
  apply (owns_render ∅ _ template data).bind fun _ => owns_pure _
  intro notify isReport current call
  cases isReport
  exact quiet_reportTo promise current call

/-- A resolution takes calls from the given waitlist, else the current one, else the default
one, which it replaces. -/
theorem owns_resolve (spared : Spared done) (given : Option Nat) (text : String)
    (owned : state.recording (given.or current) ∈ own) :
    Step.Owns own state (resolve limits current done given text state) := by
  have resolves : ∀ index ∈ own, Task.Owns own (resolveWaitlist (resolver limits current index)
      limits.steps done current index text) := by
    intro index owned
    exact owns_resolveWaitlist (owns_invoker (owns_nested own limits.depth) index) owned
      limits.steps spared current text
  rw [resolve_eq]
  rcases given with _ | index
  · rcases current with _ | index
    · have takes : takeWaitlist none none state = (.ok state.defaultWaitlist,
          { state.opened with defaultWaitlist := state.waitlists.length }) := rfl
      have replaces : Spares own state
          { state.opened with defaultWaitlist := state.waitlists.length } :=
        .of_queues (by simp [opened]) (.inr (Nat.le_refl _)) (Nat.le_refl _)
          (fun index number member _ => queue_opened state index ▸ member) rfl
      apply owns_bind_action takes
      exact .then replaces (resolves state.defaultWaitlist owned _)
    · have takes : takeWaitlist none (some index) state = (.ok index, state) := rfl
      apply owns_bind_action takes
      exact resolves index owned state
  · have takes : takeWaitlist (some index) current state = (.ok index, state) := by
      cases current <;> rfl
    apply owns_bind_action takes
    exact resolves index owned state

end Cache

end DeferredText
