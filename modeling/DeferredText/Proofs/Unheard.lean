import DeferredText.Proofs.Commands
import DeferredText.Proofs.Course
import DeferredText.Proofs.Discard
import DeferredText.Proofs.Unlogged

/-!
Contract: a session goes the same way with every log.

A step of a task that waits goes on as a closure, which sees the log as little as the step
itself did. So a whole session, deliveries and waiting tasks included, goes the way of the
session without a log for as long as no event is refused; and two sessions with different
logs go the same way, since both go that one.

Owns: the run with and without a log, and when the log changes what happens.

Does not own: which events a log refuses (`Proofs.Tellable`).
-/

namespace DeferredText

open CacheState

variable {α β : Type}

/-! ### Steps -/

namespace Step

/-- What becomes of a step from some state in the cache without a log: the same, unless the
log refuses an event on the way; and whatever the step waits for, it goes on in that manner. -/
def Blind : CacheState → Step CacheState α → Step CacheState α → Prop
  | before, .done result after, other =>
      Misses before after ∧
        (after.unwritten = before.unwritten → other = .done result after.unlogged)
  | before, .waiting promise after resume, other =>
      Misses before after ∧
        (after.unwritten = before.unwritten →
          other = .waiting promise after.unlogged resume) ∧
        ∀ outcome later, Blind later (resume outcome later) (resume outcome later.unlogged)

variable {before middle : CacheState} {step other another : Step CacheState α}

theorem Blind.after (misses : Misses before middle)
    (same : middle.unwritten = before.unwritten → another = other)
    (blind : Blind middle step other) : Blind before step another := by
  cases step with
  | done result after =>
      obtain ⟨further, unheard⟩ := blind
      exact ⟨misses.trans further, misses.unheard further same unheard⟩
  | waiting promise after resume =>
      obtain ⟨further, unheard, resumes⟩ := blind
      exact ⟨misses.trans further, misses.unheard further same unheard, resumes⟩

theorem Blind.andThen {next : α → CacheState → Step CacheState β} (first : Blind before step other)
    (second : ∀ value state, Blind state (next value state) (next value state.unlogged)) :
    Blind before (step.andThen next) (other.andThen next) := by
  induction step generalizing before other with
  | done result after =>
      obtain ⟨misses, unheard⟩ := first
      cases result with
      | error stop => exact ⟨misses, fun none => by rw [unheard none]; rfl⟩
      | ok value =>
          exact .after misses (fun none => by rw [unheard none]; rfl) (second value after)
  | waiting promise after resume inductionHypothesis =>
      obtain ⟨misses, unheard, resumes⟩ := first
      exact ⟨misses, fun none => by rw [unheard none]; rfl, fun outcome later =>
        inductionHypothesis outcome later (resumes outcome later)⟩

theorem Blind.attempt (blind : Blind before step other) :
    Blind before step.attempt other.attempt := by
  induction step generalizing before other with
  | done result after =>
      obtain ⟨misses, unheard⟩ := blind
      rcases result with (failure | _ | _) | value
      all_goals exact ⟨misses, fun none => by rw [unheard none]; rfl⟩
  | waiting promise after resume inductionHypothesis =>
      obtain ⟨misses, unheard, resumes⟩ := blind
      exact ⟨misses, fun none => by rw [unheard none]; rfl, fun outcome later =>
        inductionHypothesis outcome later (resumes outcome later)⟩

end Step

/-! ### Tasks -/

/-- The task does the same in the cache without a log, unless that refuses an event. -/
def Task.Blind (task : Task CacheState α) : Prop :=
  ∀ state, Step.Blind state (task state) (task state.unlogged)

namespace Task

theorem Blind.of_action {action : CacheAction α} (blind : action.Blind) :
    (ofAction action).Blind := by
  intro state
  obtain ⟨misses, unheard⟩ := blind state
  unfold ofAction
  rcases acts : action state with ⟨result, after⟩
  rw [acts] at misses unheard
  exact ⟨misses, fun none => by rw [unheard none]⟩

theorem blind_pure (value : α) : (pure value : Task CacheState α).Blind :=
  Blind.of_action (Action.blind_pure value)

theorem blind_stop (reason : Stop) : (stop reason : Task CacheState α).Blind :=
  Blind.of_action (Action.blind_throw reason)

theorem Blind.bind {task : Task CacheState α} {next : α → Task CacheState β} (first : task.Blind)
    (second : ∀ value, (next value).Blind) : (task >>= next).Blind :=
  fun state => (first state).andThen second

theorem Blind.attempt {task : Task CacheState α} (blind : task.Blind) : task.attempt.Blind :=
  fun state => Step.Blind.attempt (blind state)

theorem blind_await (promise : Nat) : (await promise).Blind := by
  refine fun state => ⟨.refl state, fun _ => rfl, fun outcome later => ?_⟩
  cases outcome with
  | ok value => exact ⟨.refl later, fun _ => rfl⟩
  | error failure => exact ⟨.refl later, fun _ => rfl⟩

theorem blind_read {next : CacheState → Task CacheState α}
    (same : ∀ state, next state.unlogged = next state) (further : ∀ state, (next state).Blind) :
    (ofAction get >>= next).Blind := by
  intro state
  change Step.Blind state (next state state) (next state.unlogged state.unlogged)
  rw [same]
  exact further state state

/-- What was read of the clock is a span of it. -/
theorem blind_elapsed {next : Value → Task CacheState α} (started : Int)
    (further : ∀ finish, (next (.int (elapsed started finish))).Blind) :
    (ofAction (elapsedSince started) >>= next).Blind :=
  fun state => further state.clock state

end Task

open DeferredText.Task

/-! ### Implementations -/

theorem Coroutine.blind_run {granted : Routine → CacheAction Value} {render : NestedRender}
    (blind : ∀ routine, (granted routine).Blind)
    (renders : ∀ template data, (render template data).Blind) (coroutine : Coroutine) :
    (coroutine.run granted render).Blind := by
  induction coroutine with
  | finish value => exact blind_pure value
  | fail failure => exact .of_action (Action.blind_fail failure)
  | compute routine next inductionHypothesis =>
      exact (Blind.of_action (blind routine).attempt).bind inductionHypothesis
  | render template data next inductionHypothesis =>
      exact (renders template data).attempt.bind inductionHypothesis

theorem Invoke.blind_implementation (limits : Limits) (current : Option Nat) (cycleId : String)
    {render : NestedRender} (renders : ∀ template data, (render template data).Blind)
    (number : Nat) : (Invoke.implementation limits current cycleId render number).Blind := by
  have grants := composed_runRoutine (fun _ => Action.Blind) limits current
  refine blind_read (fun _ => rfl) fun state => ?_
  cases state.invocations[number]? with
  | none => exact blind_pure _
  | some invocation =>
      refine (Blind.of_action (blind_noteStart number)).bind fun _ => ?_
      split
      · exact (Blind.of_action (blind_noteCall _ _)).bind fun _ =>
          Coroutine.blind_run grants renders _
      · exact (Blind.of_action (blind_makePromise _ cycleId)).bind fun promise =>
          (Blind.of_action (Invoke.composed_callback (fun _ => Action.Blind) blind_schedule grants
            promise _ _)).bind fun _ => blind_await promise

/-! ### Resolutions -/

namespace Drain

open DeferredText.Action

theorem blind_abort (index number : Nat) (cycle name : String) (started : Int) (failure : Failure) :
    (abort index number (.text cycle) (.text name) started failure).Blind := by
  refine (blind_updateInvocation number _).bind fun _ =>
    (blind_clearWaitlist index).bind fun remaining => ?_
  refine Action.blind_read (fun _ => rfl) fun state => ?_
  exact (blind_tell (.failed cycle name failure started state.clock)).bind fun _ =>
    (blind_tell (.aborted cycle remaining)).bind fun _ => blind_fail failure

theorem blind_accept (number : Nat) (cycle name token : String) (started : Int)
    (progress : Progress) (value : Value) :
    (accept number (.text cycle) (.text name) token started progress value).Blind := by
  refine (blind_updateInvocation number _).bind fun _ => (blind_ofOutcome _).bind fun result => ?_
  refine Action.blind_read (fun _ => rfl) fun state => ?_
  exact (blind_tell (.completed cycle name started state.clock)).bind fun _ => Action.blind_pure _

variable {invoke : Invoke}

theorem blind_step (blind : ∀ number, (invoke number).Blind) (index number : Nat)
    (progress : Progress) : (step invoke index number progress).Blind := by
  rw [step_eq]
  refine Task.blind_read (fun _ => rfl) fun state => ?_
  cases state.invocations[number]? with
  | none => exact Task.blind_pure progress
  | some invocation =>
      dsimp only
      split
      · have prepares : (prepare number progress.results).Blind := by
          unfold prepare
          split
          · exact Action.blind_pure ()
          · exact blind_updateInvocation number _
        refine (Blind.of_action prepares).bind fun _ =>
          (Blind.of_action (blind_argumentsOf number)).bind fun arguments =>
            (Blind.of_action (blind_tell (.invoking _ _ _))).bind fun _ =>
              (blind number).attempt.bind fun outcome => ?_
        cases outcome with
        | error failure => exact .of_action (blind_abort index number _ _ _ failure)
        | ok value => exact .of_action (blind_accept number _ _ _ _ progress value)
      · exact (Blind.of_action (blind_updateInvocation number _)).bind fun _ =>
          (Blind.of_action (blind_tell (.skipped _ _ _))).bind fun _ => Task.blind_pure _

theorem blind_loop (blind : ∀ number, (invoke number).Blind) (index fuel : Nat)
    (progress : Progress) : (loop invoke index fuel progress).Blind := by
  induction fuel generalizing progress with
  | zero => exact blind_stop .exhausted
  | succ fuel inductionHypothesis =>
      rw [loop_succ]
      refine (Blind.of_action (blind_takeNext index)).bind fun taken => ?_
      cases taken with
      | none => exact Task.blind_pure progress
      | some number => exact (blind_step blind index number progress).bind inductionHypothesis

theorem blind_run (blind : ∀ number, (invoke number).Blind) (fuel index : Nat) (text : String) :
    (run invoke fuel index text).Blind := by
  rw [run_eq]
  refine Task.blind_read (fun _ => rfl) fun state => ?_
  refine (Blind.of_action (blind_tell (.started _ _))).bind fun _ =>
    (blind_loop blind index fuel _).bind fun progress => Task.blind_elapsed _ fun finish => ?_
  exact (Blind.of_action (blind_tell (.finished _ _ _ _ _))).bind fun _ => Task.blind_pure _

end Drain

/-! ### Renderings -/

namespace Cache

open DeferredText.Action

/-- The completion function, if there is one, does not look at the log. -/
def Deaf (done : Option Notify) : Prop :=
  ∀ notify ∈ done, ∀ current call, (notify current call).Blind

variable {limits : Limits} {current : Option Nat} {done : Option Notify}

theorem deaf_none : Deaf none :=
  nofun

theorem blind_handFailure (deaf : Deaf done) (failure : Failure) :
    (handFailure done current failure).Blind := by
  cases done with
  | none => exact blind_fail failure
  | some notify => exact (deaf notify rfl current _).bind fun _ => Action.blind_pure none

theorem blind_handText (deaf : Deaf done) (text : String) :
    (handText done current text).Blind := by
  cases done with
  | none => exact Action.blind_pure (some text)
  | some notify => exact (deaf notify rfl current _).bind fun _ => Action.blind_pure (some text)

theorem blind_resolveWaitlist {invoke : Drain.Invoke} (blind : ∀ number, (invoke number).Blind)
    (deaf : Deaf done) (fuel index : Nat) (text : String) :
    (resolveWaitlist invoke fuel done current index text).Blind := by
  rw [resolveWaitlist_eq]
  refine (Drain.blind_run blind fuel index text).attempt.bind fun outcome => ?_
  cases outcome with
  | error failure => exact .of_action (blind_handFailure deaf failure)
  | ok result => exact .of_action (blind_handText deaf result)

theorem blind_invoker {nested : NestedRender}
    (renders : ∀ template data, (nested template data).Blind) (index number : Nat) :
    (invoker limits current index nested number).Blind :=
  Task.blind_read (fun _ => rfl) fun _ =>
    Invoke.blind_implementation limits current _ renders number

theorem blind_renderFailed (deaf : Deaf done) (index : Nat) (failure : Failure) :
    (renderFailed done index failure).Blind :=
  Action.blind_read (fun _ => rfl) fun _ => (blind_tell (.renderFailed _ failure)).bind fun _ =>
    (blind_clearWaitlist index).discard.bind fun _ => blind_handFailure deaf failure

theorem blind_renderCompleted (index : Nat) (rendered : Rendered) :
    (renderCompleted index rendered).Blind :=
  Action.blind_read (fun _ => rfl) fun _ => blind_tell (.renderCompleted _ _ _)

theorem blind_renderWithin (depth : Nat) (deaf : Deaf done) (template data : Value) :
    (renderWithin limits current depth done template data).Blind := by
  induction depth generalizing done template data with
  | zero => exact blind_stop .exhausted
  | succ depth inductionHypothesis =>
      have nests : ∀ template data, (nested limits current depth template data).Blind :=
        fun template data => (inductionHypothesis deaf_none template data).bind
          fun text => Task.blind_pure (asValue text)
      rw [renderWithin_succ]
      refine (Blind.of_action blind_openWaitlist).bind fun index => ?_
      refine (Blind.of_action (composed_renderPass (fun _ => Action.Blind) limits index template
        data).attempt).bind fun outcome => ?_
      cases outcome with
      | error failure => exact .of_action (blind_renderFailed deaf index failure)
      | ok rendered =>
          exact (Blind.of_action (blind_renderCompleted index rendered)).bind fun _ =>
            blind_resolveWaitlist (blind_invoker nests index) deaf limits.steps index rendered.text

theorem blind_takeWaitlist (given current : Option Nat) : (takeWaitlist given current).Blind := by
  cases given with
  | some index => exact Action.blind_pure index
  | none =>
      cases current with
      | some index => exact Action.blind_pure index
      | none => exact blind_of_same (fun _ => rfl) (fun _ => rfl) fun _ => rfl

theorem blind_resolve (deaf : Deaf done) (given : Option Nat) (text : String) :
    (resolve limits current done given text).Blind := by
  rw [resolve_eq]
  refine (Blind.of_action (blind_takeWaitlist given current)).bind fun index => ?_
  refine blind_resolveWaitlist (blind_invoker (fun template data => ?_) index) deaf limits.steps
    index text
  exact (blind_renderWithin limits.depth deaf_none template data).bind fun _ => Task.blind_pure _

theorem blind_startRender (limits : Limits) (promise : Nat) (template data : Value)
    (current : Option Nat) : (startRender limits promise template data current).Blind := by
  refine (blind_renderWithin limits.depth ?_ template data).bind fun _ => Task.blind_pure _
  intro notify isReport current call
  cases isReport
  exact blind_schedule _

end Cache

/-! ### Worlds -/

/-- Whatever waits for a promise goes on without looking at the log. -/
def World.Blind (world : World) : Prop :=
  ∀ task ∈ world.suspended, ∀ outcome later,
    Step.Blind later (task.resume outcome later) (task.resume outcome later.unlogged)

/-- No rendering that may be started looks at the log. -/
def Starter.Blind (start : Starter) : Prop :=
  ∀ promise template data current, (start promise template data current).Blind

namespace World

/-- The world with its cache without a log. -/
def unlogged (world : World) : World :=
  ⟨world.state.unlogged, world.suspended⟩

/-- A world that came from some state, and what becomes of that state without a log. -/
structure Parallel
    (before : CacheState)
    (world other : World) : Prop where
  blind : world.Blind
  misses : Misses before world.state
  unheard : world.state.unwritten = before.unwritten → other = world.unlogged

variable {start : Starter} {before middle : CacheState} {world other another : World}
  {delivery : Delivery} {suspended : List Suspended}

theorem Parallel.refl (blind : world.Blind) : Parallel world.state world world.unlogged :=
  ⟨blind, .refl _, fun _ => rfl⟩

theorem Parallel.after (misses : Misses before middle)
    (same : middle.unwritten = before.unwritten → another = other)
    (parallel : Parallel middle world other) : Parallel before world another := by
  obtain ⟨blind, further, unheard⟩ := parallel
  exact ⟨blind, misses.trans further, misses.unheard further same unheard⟩

theorem parallel_keep (blind : ∀ task ∈ suspended, ∀ outcome later,
      Step.Blind later (task.resume outcome later) (task.resume outcome later.unlogged))
    {step twin : Step CacheState Unit} (steps : Step.Blind before step twin) :
    Parallel before (keep suspended step) (keep suspended twin) := by
  cases step with
  | done result after =>
      obtain ⟨misses, unheard⟩ := steps
      exact ⟨blind, misses, fun none => by rw [unheard none]; rfl⟩
  | waiting promise after resume =>
      obtain ⟨misses, unheard, resumes⟩ := steps
      refine ⟨?_, misses, fun none => by rw [unheard none]; rfl⟩
      intro task member
      rcases List.mem_append.mp member with old | new
      · exact blind task old
      · rw [List.mem_singleton.mp new]
        exact resumes

theorem parallel_act {action : CacheAction α} (blind : world.Blind) (acts : action.Blind) :
    Parallel world.state ⟨(action world.state).2, world.suspended⟩
      ⟨(action world.state.unlogged).2, world.suspended⟩ := by
  obtain ⟨misses, unheard⟩ := acts world.state
  exact ⟨blind, misses, fun none => by rw [unheard none]; rfl⟩

theorem blind_settle (promise : Nat) (completion : Completion) :
    (settle promise completion).Blind := by
  intro state
  cases found : state.promises[promise]? with
  | none =>
      have unlogged : state.unlogged.promises[promise]? = none := found
      rw [settle_unknown found, settle_unknown unlogged]
      exact ⟨.refl state, fun _ => rfl⟩
  | some owed =>
      have unlogged : state.unlogged.promises[promise]? = some owed := found
      cases decided : owed.outcome with
      | some earlier =>
          rw [settle_again found decided, settle_again unlogged decided]
          exact blind_tell (.duplicate _ _) state
      | none =>
          cases becomes : completion.outcome owed.helperName with
          | error failure =>
              rw [settle_unread found decided becomes, settle_unread unlogged decided becomes]
              exact ⟨.refl state, fun _ => rfl⟩
          | ok outcome =>
              rw [settle_first found decided becomes, settle_first unlogged decided becomes]
              exact ⟨.of_same rfl rfl, fun _ => rfl⟩

theorem parallel_resume (blind : world.Blind) (promise : Nat) :
    Parallel world.state (world.resume promise) (world.unlogged.resume promise) := by
  have known : world.unlogged.outcome? promise = world.outcome? promise := rfl
  unfold World.resume
  rw [known]
  cases world.outcome? promise with
  | none => exact .refl blind
  | some outcome =>
      rw [show world.unlogged.suspended = world.suspended from rfl]
      cases found : world.suspended.find? fun task => task.promise == promise with
      | none => exact .refl blind
      | some task =>
          have member := List.mem_of_find?_eq_some found
          exact parallel_keep (fun other stays => blind other (List.mem_filter.mp stays).1)
            (blind task member outcome world.state)

theorem parallel_deliver (blind : world.Blind) (starts : Starter.Blind start) (delivery : Delivery) :
    Parallel world.state (world.deliver start delivery) (world.unlogged.deliver start delivery) := by
  cases delivery with
  | settle promise completion => exact parallel_act blind (blind_settle promise completion)
  | complete promise completion => exact parallel_act blind (blind_schedule _)
  | begin promise template data current =>
      exact parallel_keep blind (starts promise template data current world.state)
  | resume promise => exact parallel_resume blind promise

theorem next?_unlogged (world : World) :
    world.unlogged.next? = world.next?.map fun due => (due.1, due.2.unlogged) := by
  have ready : world.unlogged.state.ready = world.state.ready := rfl
  unfold next?
  rw [ready]
  cases world.state.ready <;> rfl

/-- Taking a delivery off those that are due looks at nothing else. -/
theorem next?_keeps {rest : World} (due : world.next? = some (delivery, rest)) :
    rest.suspended = world.suspended ∧ Misses world.state rest.state ∧
      rest.state.unwritten = world.state.unwritten := by
  obtain ⟨later, -, rfl⟩ := World.next?_eq due
  exact ⟨rfl, .of_same rfl rfl, rfl⟩

theorem parallel_deliverMany (starts : Starter.Blind start) (count : Nat) (blind : world.Blind) :
    Parallel world.state (world.deliverMany start count)
      (world.unlogged.deliverMany start count) := by
  induction count generalizing world with
  | zero => exact .refl blind
  | succ count inductionHypothesis =>
      unfold deliverMany
      rw [next?_unlogged]
      cases due : world.next? with
      | none => exact .refl blind
      | some first =>
          obtain ⟨delivery, rest⟩ := first
          obtain ⟨suspended, misses, same⟩ := next?_keeps due
          have restBlind : rest.Blind := by
            unfold World.Blind
            rwa [suspended]
          have delivered := parallel_deliver restBlind starts delivery
          refine Parallel.after misses (fun _ => rfl) ?_
          refine Parallel.after delivered.misses (fun none => ?_)
            (inductionHypothesis delivered.blind)
          rw [Option.map_some]
          dsimp only
          rw [delivered.unheard none]

/-- The end of a run from some state, and of the run without a log. -/
structure Alongside
    (before : CacheState)
    (ended twin : Except Stop α × World) : Prop where
  blind : ended.2.Blind
  misses : Misses before ended.2.state
  unheard : ended.2.state.unwritten = before.unwritten → twin = (ended.1, ended.2.unlogged)

theorem Alongside.after {ended twin double : Except Stop α × World} (misses : Misses before middle)
    (same : middle.unwritten = before.unwritten → double = twin)
    (alongside : Alongside middle ended twin) : Alongside before ended double := by
  obtain ⟨blind, further, unheard⟩ := alongside
  exact ⟨blind, misses.trans further, misses.unheard further same unheard⟩

/-- A step that waits is resumed, or waits on after a delivery. -/
theorem alongside_runToEnd (starts : Starter.Blind start) (fuel : Nat)
    {step twin : Step CacheState α} (blind : World.Blind ⟨before, suspended⟩)
    (steps : Step.Blind before step twin) :
    Alongside before (runToEnd start fuel suspended step) (runToEnd start fuel suspended twin) := by
  induction fuel generalizing before suspended step twin with
  | zero =>
      cases step with
      | done result after =>
          obtain ⟨misses, unheard⟩ := steps
          exact ⟨blind, misses, fun none => by rw [unheard none]; rfl⟩
      | waiting promise after resume =>
          obtain ⟨misses, unheard, -⟩ := steps
          exact ⟨blind, misses, fun none => by rw [unheard none]; rfl⟩
  | succ fuel inductionHypothesis =>
      cases step with
      | done result after =>
          obtain ⟨misses, unheard⟩ := steps
          exact ⟨blind, misses, fun none => by rw [unheard none]; rfl⟩
      | waiting promise after resume =>
          obtain ⟨misses, unheard, resumes⟩ := steps
          refine Alongside.after misses (fun none => congrArg _ (unheard none)) ?_
          have next : World.next? ⟨after.unlogged, suspended⟩ =
              (World.next? ⟨after, suspended⟩).map fun due => (due.1, due.2.unlogged) :=
            next?_unlogged ⟨after, suspended⟩
          rw [runToEnd_waiting, runToEnd_waiting, next]
          cases due : World.next? ⟨after, suspended⟩ with
          | none => exact ⟨blind, .refl after, fun _ => rfl⟩
          | some first =>
              obtain ⟨delivery, rest⟩ := first
              obtain ⟨kept, popped, same⟩ := next?_keeps due
              have restBlind : rest.Blind := by
                unfold World.Blind
                rwa [kept]
              have known : rest.unlogged.wakes promise delivery = rest.wakes promise delivery := rfl
              refine Alongside.after popped (fun _ => rfl) ?_
              rw [Option.map_some]
              dsimp only
              rw [known]
              cases rest.wakes promise delivery with
              | some outcome =>
                  exact inductionHypothesis restBlind (resumes outcome rest.state)
              | none =>
                  have delivered := parallel_deliver restBlind starts delivery
                  refine Alongside.after delivered.misses (fun none => ?_)
                    (inductionHypothesis delivered.blind ⟨.refl _, fun _ => rfl, resumes⟩)
                  dsimp only
                  rw [delivered.unheard none]
                  rfl

end World

/-! ### Sessions -/

namespace Session

/-- The session with its cache without a log. -/
def unlogged (session : Session) : Session :=
  { session with world := session.world.unlogged }

/-- What a session answers and becomes, and the same for the session without a log. -/
structure Alongside
    (before : CacheState)
    (reached twin : α × Session) : Prop where
  blind : reached.2.world.Blind
  misses : Misses before reached.2.state
  unheard : reached.2.state.unwritten = before.unwritten →
    twin = (reached.1, reached.2.unlogged)

variable {session : Session}

theorem alongside_act {action : CacheAction α} (blind : session.world.Blind)
    (acts : action.Blind) :
    Alongside session.state (session.act action) (session.unlogged.act action) := by
  obtain ⟨misses, unheard⟩ := acts session.state
  have same : session.unlogged.act action =
      ((action session.state.unlogged).1,
        session.unlogged.withState (action session.state.unlogged).2) := rfl
  rw [same]
  refine ⟨blind, misses, fun none => ?_⟩
  rw [unheard none]
  rfl

theorem alongside_perform {task : Task CacheState α} (blind : session.world.Blind)
    (runs : task.Blind) :
    Alongside session.state (session.perform task) (session.unlogged.perform task) := by
  have starts : Starter.Blind (Cache.startRender session.limits) :=
    Cache.blind_startRender session.limits
  have kept : World.Blind ⟨session.state, session.world.suspended⟩ := blind
  obtain ⟨stays, misses, unheard⟩ := World.alongside_runToEnd starts session.limits.steps kept
    (runs session.state)
  refine ⟨stays, misses, fun none => ?_⟩
  have same : session.unlogged.perform task =
      ((runToEnd (Cache.startRender session.limits) session.limits.steps session.world.suspended
          (task session.state.unlogged)).1,
        { session with world := (runToEnd (Cache.startRender session.limits) session.limits.steps
          session.world.suspended (task session.state.unlogged)).2 }) := rfl
  rw [same, unheard none]
  rfl

theorem Alongside.after {before middle : CacheState} {reached twin double : α × Session}
    (misses : Misses before middle) (same : middle.unwritten = before.unwritten → double = twin)
    (alongside : Alongside middle reached twin) : Alongside before reached double := by
  obtain ⟨blind, further, unheard⟩ := alongside
  exact ⟨blind, misses.trans further, misses.unheard further same unheard⟩

theorem alongside_takeTurns (blind : session.world.Blind) (answer : α) (count : Nat) :
    Alongside session.state (answer, session.takeTurns count)
      (answer, session.unlogged.takeTurns count) := by
  induction count generalizing session with
  | zero => exact ⟨blind, .refl _, fun _ => rfl⟩
  | succ count inductionHypothesis =>
      let turned (world : World) : Session :=
        { session with world := world.turn (Cache.startRender session.limits) }
      have turns : World.Parallel session.state (turned session.world).world
          (turned session.world.unlogged).world :=
        World.parallel_deliverMany (Cache.blind_startRender session.limits)
          session.state.ready.length blind
      have rest : Alongside (turned session.world).state
          (answer, (turned session.world).takeTurns count)
          (answer, (turned session.world).unlogged.takeTurns count) :=
        inductionHypothesis turns.blind
      refine Alongside.after turns.misses (fun none => ?_) rest
      have same : turned session.world.unlogged = (turned session.world).unlogged :=
        congrArg (fun world => { session with world := world }) (turns.unheard none)
      change (answer, (turned session.world.unlogged).takeTurns count) = _
      rw [same]

theorem deaf_notify (session : Session) (done : Option (Option Script)) :
    Cache.Deaf (done.map session.notify) := by
  intro notify isNotify current call
  rw [Option.mem_def, Option.map_eq_some_iff] at isNotify
  obtain ⟨script, -, rfl⟩ := isNotify
  have notes : Action.Blind (modify fun state : CacheState =>
      { state with delivered := state.delivered ++ [call] }) :=
    Action.blind_of_same (fun _ => rfl) (fun _ => rfl) fun _ => rfl
  refine notes.bind fun _ => ?_
  cases script with
  | none => exact Action.blind_pure ()
  | some body =>
      exact (composed_runRoutine (fun _ => Action.Blind) session.limits current _).discard

theorem Alongside.answered {before : CacheState} {asked twin : Except Stop α × Session}
    (alongside : Alongside before asked twin) (wrap : α → Answer) :
    Alongside before (Session.answered wrap asked) (Session.answered wrap twin) :=
  ⟨alongside.blind, alongside.misses, fun none => by rw [alongside.unheard none]; rfl⟩

/-- Every command has the same answer in the session without a log, and leaves the same session. -/
theorem alongside_obey (blind : session.world.Blind) (command : Command) :
    Alongside session.state (session.obey command) (session.unlogged.obey command) := by
  cases command with
  | register isAsync name source =>
      exact (alongside_act blind (Cache.blind_register isAsync name source)).answered _
  | registerBatch isAsync source =>
      exact (alongside_act blind
        (Cache.blind_walkSource session.limits session.current isAsync none source)).answered _
  | registerGroup isAsync group source =>
      exact (alongside_act blind
        (Cache.blind_registerGroup session.limits session.current isAsync group source)).answered _
  | shortForm isAsync first second =>
      exact (alongside_act blind
        (Cache.blind_shortForm session.limits session.current isAsync first second)).answered _
  | unregister name => exact (alongside_act blind (Cache.blind_unregister name)).answered _
  | lookUp name => exact (alongside_act blind (Action.blind_ofOutcome _)).answered _
  | call name arguments =>
      exact (alongside_act blind
        (Cache.blind_callFound session.limits session.current name arguments)).answered _
  | openCycle given =>
      cases given with
      | some index => exact ⟨blind, .refl _, fun _ => rfl⟩
      | none => exact ⟨blind, .of_same rfl rfl, fun _ => rfl⟩
  | closeCycle => exact ⟨blind, .refl _, fun _ => rfl⟩
  | render done template data =>
      exact (alongside_perform blind
        (Cache.blind_renderWithin session.limits.depth (deaf_notify session done) template
          data)).answered _
  | resolve done given text =>
      exact (alongside_perform blind
        (Cache.blind_resolve (deaf_notify session done) given text)).answered _
  | wait turns => exact alongside_takeTurns blind _ turns

theorem alongside_obeyAll (blind : session.world.Blind) (commands : List Command) :
    Alongside session.state (session.obeyAll commands) (session.unlogged.obeyAll commands) := by
  induction commands generalizing session with
  | nil => exact ⟨blind, .refl _, fun _ => rfl⟩
  | cons command rest inductionHypothesis =>
      have first := alongside_obey blind command
      have others := inductionHypothesis first.blind
      refine ⟨others.blind, first.misses.trans others.misses, fun none => ?_⟩
      obtain ⟨early, late⟩ := first.misses.heard others.misses none
      unfold obeyAll
      dsimp only
      rw [first.unheard early, others.unheard late]

/-- A session that begins with a cache and the one that begins with it without its log. -/
theorem alongside_begin (limits : Limits) (state : CacheState) (commands : List Command) :
    Alongside state ((begin limits state).obeyAll commands)
      ((begin limits state.unlogged).obeyAll commands) := by
  have blind : (begin limits state).world.Blind := nofun
  exact alongside_obeyAll blind commands

/-- What is refused from the beginning on was told, and the log failed to write it. -/
theorem refused_begin {limits : Limits} {state : CacheState} {commands : List Command}
    {event : Event} (none : state.unwritten = [])
    (member : event ∈ ((begin limits state).obeyAll commands).2.state.unwritten) :
    event.Told ∧ state.Refuses event := by
  obtain ⟨-, missed, kept, refused⟩ := (alongside_begin limits state commands).misses
  rw [kept, none, List.nil_append] at member
  exact refused event member

/-- What a fresh cache with the given log answers to commands, and the session that is left. -/
def attend
    (limits : Limits)
    (shape : PlaceholderShape)
    (strict warnsOnOverride : Bool)
    (commands : List Command)
    (log : Option LogSettings) : List (Except Stop Answer) × Session :=
  (Session.begin limits (.initial shape strict warnsOnOverride log)).obeyAll commands

end Session

/-- Two sessions with the same commands and different logs, or none, have the same answers and
end alike but for their logs, with the same helpers registered, the same waitlists, the same
calls of helpers and the same deliveries, as long as no event is refused. An event is refused
only by a log that fails to write it, and by a log that can cut what it shows only for want of
the text of an integer with too many digits. -/
theorem logging_unheard (limits : Limits) (shape : PlaceholderShape)
    (strict warnsOnOverride : Bool) (commands : List Session.Command) :
    (∀ log, ∀ event ∈
      (Session.attend limits shape strict warnsOnOverride commands log).2.state.unwritten,
      event.Told ∧ ∃ settings failure, log = some settings ∧
        event.lines settings = .error failure ∧ (settings.Usable → failure = .digitLimit)) ∧
      ∀ first second,
        (Session.attend limits shape strict warnsOnOverride commands first).2.state.unwritten = [] →
        (Session.attend limits shape strict warnsOnOverride commands second).2.state.unwritten = [] →
          (Session.attend limits shape strict warnsOnOverride commands first).1 =
              (Session.attend limits shape strict warnsOnOverride commands second).1 ∧
            (Session.attend limits shape strict warnsOnOverride commands first).2.unlogged =
              (Session.attend limits shape strict warnsOnOverride commands second).2.unlogged := by
  refine ⟨fun log event member => ?_, fun first second firstHeard secondHeard => ?_⟩
  · obtain ⟨told, settings, failure, isLog, fails⟩ := Session.refused_begin rfl member
    exact ⟨told, settings, failure, isLog, fails, fun usable =>
      told.failsByLength usable failure fails⟩
  · have silent (log : Option LogSettings)
        (heard : (Session.attend limits shape strict warnsOnOverride commands
          log).2.state.unwritten = []) :
        Session.attend limits shape strict warnsOnOverride commands none =
          ((Session.attend limits shape strict warnsOnOverride commands log).1,
            (Session.attend limits shape strict warnsOnOverride commands log).2.unlogged) :=
      (Session.alongside_begin limits (.initial shape strict warnsOnOverride log) commands).unheard
        heard
    have same := silent first firstHeard
    rw [silent second secondHeard] at same
    exact ⟨(congrArg Prod.fst same).symm, (congrArg Prod.snd same).symm⟩

namespace Sample

/-- A deferred helper is registered, called with an argument inside a cycle, and resolved. -/
def greeting (argument : Value) : List Session.Command :=
  let helper : Callable := .helper ⟨"g", .function, .coroutine fun _ => .finish (.text "G")⟩
  let token := (Supply.token .standard .initial).1
  [.register true (.text "g") (.callable helper), .openCycle none,
    .call (.text "g") ⟨[argument], []⟩, .closeCycle, .resolve none (some 1) token]

/-- The same with the given log, in a cache with the standard tokens. -/
def greet
    (argument : Value)
    (log : Option LogSettings) : List (Except Stop Session.Answer) × Session :=
  Session.attend ⟨3, 10⟩ .standard false false (greeting argument) log

/-- The text that was resolved, if there is one, and how often the helper was called. -/
def greeted
    (argument : Value)
    (log : Option LogSettings) : Option String × Nat :=
  match (greet argument log).1.getLast? with
  | some (.ok (.text text)) => (text, (greet argument log).2.state.calls.length)
  | _ => (none, (greet argument log).2.state.calls.length)

/-- A log that writes everything, as records. -/
def everything : LogSettings :=
  { LogSettings.standard with
    level := .text LogLevel.debug.name
    format := .text LogFormat.json.name }

/-- All that happens is written to one log and nothing to the other. -/
theorem unheard_greeting :
    greeted (.int 5) (some everything) = (some "G", 1) ∧
      (greet (.int 5) (some everything)).2.state.unwritten = [] ∧
      (greet (.int 5) none).2.state.unwritten = [] ∧
      (greet (.int 5) (some everything)).1 = (greet (.int 5) none).1 ∧
      (greet (.int 5) (some everything)).2.unlogged = (greet (.int 5) none).2.unlogged := by
  have written : (greet (.int 5) (some everything)).2.state.unwritten = [] := by
    decide +kernel
  have silent : (greet (.int 5) none).2.state.unwritten = [] := by
    decide +kernel
  have same := (logging_unheard ⟨3, 10⟩ .standard false false (greeting (.int 5))).2
    (some everything) none written silent
  exact ⟨by decide +kernel, written, silent, same⟩

/-- A log that writes errors only. -/
def errorsOnly : LogSettings :=
  { LogSettings.standard with level := .text LogLevel.error.name }

/-- The argument has too many digits for the line about the call, which is not even written: the
helper is called without the log, and not with it. -/
theorem unheard_refused :
    errorsOnly.Usable ∧ greeted huge none = (some "G", 1) ∧
      greeted huge (some errorsOnly) = (none, 0) :=
  ⟨by decide, by decide +kernel, by decide +kernel⟩

end Sample

end DeferredText
