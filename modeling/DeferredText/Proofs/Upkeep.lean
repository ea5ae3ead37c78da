import DeferredText.Proofs.Ledger
import DeferredText.Proofs.Sessions

/-!
Contract: nothing but a request to register or to remove helpers changes what is registered.

Helpers, templates and resolutions leave the registry alone, and so does whatever waits and goes
on later. So in any session the registry is what a history of changes leaves, whatever else is
asked of the session in between.

Owns: steps and worlds that keep the registry, and the history behind the registry of any session.

Does not own: which changes a command makes (`Proofs.Ledger`).
-/

namespace DeferredText

open CacheState DeferredText.Action

variable {α β : Type}

instance : Admits SameRegistry where
  refl := fun _ => rfl
  trans := fun first second => Eq.trans second first
  idle := fun same _ => by
    simp only [core, Prod.mk.injEq] at same
    exact same.2.2.2.1
  recorded := fun _ _ _ _ _ => rfl

/-! ### Steps -/

namespace Step

/-- The step leaves the registry alone, and whatever it waits for, it goes on in that manner. -/
def Keeps : CacheState → Step CacheState α → Prop
  | before, .done _ after => SameRegistry before after
  | before, .waiting _ after resume =>
      SameRegistry before after ∧ ∀ outcome later, Keeps later (resume outcome later)

variable {before middle : CacheState} {step : Step CacheState α}

theorem Keeps.after (same : SameRegistry before middle) (keeps : Keeps middle step) :
    Keeps before step := by
  cases step with
  | done result after => exact Eq.trans keeps same
  | waiting promise after resume => exact ⟨Eq.trans keeps.1 same, keeps.2⟩

theorem Keeps.andThen {next : α → CacheState → Step CacheState β} (first : Keeps before step)
    (second : ∀ value state, Keeps state (next value state)) :
    Keeps before (step.andThen next) := by
  induction step generalizing before with
  | done result after =>
      cases result with
      | error stop => exact first
      | ok value => exact .after first (second value after)
  | waiting promise after resume inductionHypothesis =>
      exact ⟨first.1, fun outcome later =>
        inductionHypothesis outcome later (first.2 outcome later)⟩

theorem Keeps.attempt (keeps : Keeps before step) : Keeps before step.attempt := by
  induction step generalizing before with
  | done result after => rcases result with (failure | _ | _) | value <;> exact keeps
  | waiting promise after resume inductionHypothesis =>
      exact ⟨keeps.1, fun outcome later =>
        inductionHypothesis outcome later (keeps.2 outcome later)⟩

end Step

/-! ### Tasks -/

/-- The task leaves the registry alone. -/
def Task.Keeps (task : Task CacheState α) : Prop :=
  ∀ state, Step.Keeps state (task state)

namespace Task

theorem Keeps.of_action {action : CacheAction α} (same : Respects SameRegistry action) :
    (ofAction action).Keeps := by
  intro state
  have kept := same state
  unfold ofAction
  generalize action state = reached at kept ⊢
  exact kept

theorem keeps_pure (value : α) : (pure value : Task CacheState α).Keeps :=
  fun _ => rfl

theorem keeps_stop (reason : Stop) : (stop reason : Task CacheState α).Keeps :=
  fun _ => rfl

theorem Keeps.bind {task : Task CacheState α} {next : α → Task CacheState β} (first : task.Keeps)
    (second : ∀ value, (next value).Keeps) : (task >>= next).Keeps :=
  fun state => (first state).andThen second

theorem Keeps.attempt {task : Task CacheState α} (keeps : task.Keeps) : task.attempt.Keeps :=
  fun state => Step.Keeps.attempt (keeps state)

theorem keeps_await (promise : Nat) : (await promise).Keeps := by
  refine fun state => ⟨rfl, fun outcome later => ?_⟩
  cases outcome <;> exact rfl

end Task

open DeferredText.Task

/-! ### Changes of waitlists and calls -/

namespace CacheState

theorem same_updateInvocation (number : Nat) (change : Invocation → Invocation) :
    Respects SameRegistry (updateInvocation number change) :=
  fun _ => rfl

theorem same_clearWaitlist (index : Nat) : Respects SameRegistry (clearWaitlist index) :=
  fun _ => rfl

theorem same_takeNext (index : Nat) : Respects SameRegistry (takeNext index) := by
  intro state
  cases queued : state.queue index with
  | nil => rw [takeNext_nil queued]; rfl
  | cons number rest => rw [takeNext_cons queued]; rfl

theorem same_openWaitlist : Respects SameRegistry openWaitlist :=
  fun _ => rfl

theorem same_noteStart (number : Nat) : Respects SameRegistry (noteStart number) :=
  fun _ => rfl

end CacheState

theorem Cache.same_takeWaitlist (given current : Option Nat) :
    Respects SameRegistry (Cache.takeWaitlist given current) := by
  cases given with
  | some index => exact quiet_pure index
  | none =>
      cases current with
      | some index => exact quiet_pure index
      | none => exact fun _ => rfl

/-! ### Implementations -/

theorem Coroutine.keeps_run (limits : Limits) (current : Option Nat) {render : NestedRender}
    (renders : ∀ template data, (render template data).Keeps) (coroutine : Coroutine) :
    (coroutine.run (runRoutine limits current) render).Keeps := by
  induction coroutine with
  | finish value => exact keeps_pure value
  | fail failure => exact .of_action (quiet_fail failure)
  | compute routine next inductionHypothesis =>
      exact (Keeps.of_action (quiet_runRoutine limits current routine).attempt).bind
        inductionHypothesis
  | render template data next inductionHypothesis =>
      exact (renders template data).attempt.bind inductionHypothesis

theorem Invoke.keeps_implementation (limits : Limits) (current : Option Nat) (cycleId : String)
    {render : NestedRender} (renders : ∀ template data, (render template data).Keeps)
    (number : Nat) : (Invoke.implementation limits current cycleId render number).Keeps := by
  refine (Keeps.of_action quiet_get).bind fun state => ?_
  cases state.invocations[number]? with
  | none => exact keeps_pure _
  | some invocation =>
      refine (Keeps.of_action (same_noteStart number)).bind fun _ => ?_
      split
      · exact (Keeps.of_action (quiet_noteCall _ _)).bind fun _ =>
          Coroutine.keeps_run limits current renders _
      · exact (Keeps.of_action (quiet_makePromise _ cycleId)).bind fun promise =>
          (Keeps.of_action (quiet_callback (quiet_runRoutine limits current) current promise _
            _)).bind fun _ => keeps_await promise

/-! ### Resolutions -/

namespace Drain

theorem same_abort (index number : Nat) (cycle name : Value) (started : Int) (failure : Failure) :
    Respects SameRegistry (abort index number cycle name started failure) :=
  (same_updateInvocation number _).bind fun _ => (same_clearWaitlist index).bind fun _ =>
    (quiet_elapsedSince started).bind fun _ => (quiet_tell _).bind fun _ =>
      (quiet_tell _).bind fun _ => quiet_fail failure

theorem same_accept (number : Nat) (cycle name : Value) (token : String) (started : Int)
    (progress : Progress) (value : Value) :
    Respects SameRegistry (accept number cycle name token started progress value) :=
  (same_updateInvocation number _).bind fun _ => (quiet_ofOutcome _).bind fun _ =>
    (quiet_elapsedSince started).bind fun _ => (quiet_tell _).bind fun _ => quiet_pure _

theorem same_prepare (number : Nat) (results : Results) :
    Respects SameRegistry (prepare number results) := by
  unfold prepare
  split
  · exact quiet_pure ()
  · exact same_updateInvocation number _

variable {invoke : Invoke}

theorem keeps_step (keeps : ∀ number, (invoke number).Keeps) (index number : Nat)
    (progress : Progress) : (step invoke index number progress).Keeps := by
  rw [step_eq]
  refine (Keeps.of_action quiet_get).bind fun state => ?_
  cases state.invocations[number]? with
  | none => exact keeps_pure progress
  | some invocation =>
      dsimp only
      split
      · refine (Keeps.of_action (same_prepare number _)).bind fun _ =>
          (Keeps.of_action (quiet_argumentsOf number)).bind fun arguments =>
            (Keeps.of_action (quiet_tell _)).bind fun _ =>
              (keeps number).attempt.bind fun outcome => ?_
        cases outcome with
        | error failure => exact .of_action (same_abort index number _ _ _ failure)
        | ok value => exact .of_action (same_accept number _ _ _ _ progress value)
      · exact (Keeps.of_action (same_updateInvocation number _)).bind fun _ =>
          (Keeps.of_action (quiet_tell _)).bind fun _ => keeps_pure _

theorem keeps_loop (keeps : ∀ number, (invoke number).Keeps) (index fuel : Nat)
    (progress : Progress) : (loop invoke index fuel progress).Keeps := by
  induction fuel generalizing progress with
  | zero => exact keeps_stop .exhausted
  | succ fuel inductionHypothesis =>
      rw [loop_succ]
      refine (Keeps.of_action (same_takeNext index)).bind fun taken => ?_
      cases taken with
      | none => exact keeps_pure progress
      | some number => exact (keeps_step keeps index number progress).bind inductionHypothesis

theorem keeps_run (keeps : ∀ number, (invoke number).Keeps) (fuel index : Nat) (text : String) :
    (run invoke fuel index text).Keeps := by
  rw [run_eq]
  exact (Keeps.of_action quiet_get).bind fun _ => (Keeps.of_action (quiet_tell _)).bind fun _ =>
    (keeps_loop keeps index fuel _).bind fun _ =>
      (Keeps.of_action (quiet_elapsedSince _)).bind fun _ =>
        (Keeps.of_action (quiet_tell _)).bind fun _ => keeps_pure _

end Drain

/-! ### Renderings -/

namespace Cache

variable {limits : Limits} {current : Option Nat} {done : Option Notify}

/-- The completion function, if there is one, leaves the registry alone. -/
def Trusted (done : Option Notify) : Prop :=
  ∀ notify ∈ done, ∀ current call, Respects SameRegistry (notify current call)

theorem trusted_none : Trusted none :=
  nofun

theorem keeps_resolveWaitlist {invoke : Drain.Invoke} (keeps : ∀ number, (invoke number).Keeps)
    (trusted : Trusted done) (fuel index : Nat) (text : String) :
    (resolveWaitlist invoke fuel done current index text).Keeps := by
  rw [resolveWaitlist_eq]
  refine (Drain.keeps_run keeps fuel index text).attempt.bind fun outcome => ?_
  cases outcome with
  | error failure => exact .of_action (quiet_handFailure trusted current failure)
  | ok result => exact .of_action (quiet_handText trusted current result)

theorem keeps_invoker {nested : NestedRender}
    (renders : ∀ template data, (nested template data).Keeps) (index number : Nat) :
    (invoker limits current index nested number).Keeps :=
  (Keeps.of_action quiet_get).bind fun _ =>
    Invoke.keeps_implementation limits current _ renders number

theorem same_renderFailed (trusted : Trusted done) (index : Nat) (failure : Failure) :
    Respects SameRegistry (renderFailed done index failure) :=
  quiet_get.bind fun _ => (quiet_tell _).bind fun _ => (same_clearWaitlist index).discard.bind
    fun _ => quiet_handFailure trusted (some index) failure

theorem keeps_renderWithin (depth : Nat) (trusted : Trusted done) (template data : Value) :
    (renderWithin limits current depth done template data).Keeps := by
  induction depth generalizing done template data with
  | zero => exact keeps_stop .exhausted
  | succ depth inductionHypothesis =>
      have nests : ∀ template data, (nested limits current depth template data).Keeps :=
        fun template data => (inductionHypothesis trusted_none template data).bind
          fun text => keeps_pure (asValue text)
      rw [renderWithin_succ]
      refine (Keeps.of_action same_openWaitlist).bind fun index => ?_
      refine (Keeps.of_action
        (quiet_renderPass limits index template data).attempt).bind fun outcome => ?_
      cases outcome with
      | error failure => exact .of_action (same_renderFailed trusted index failure)
      | ok rendered =>
          exact (Keeps.of_action (quiet_renderCompleted index rendered)).bind fun _ =>
            keeps_resolveWaitlist (keeps_invoker nests index) trusted limits.steps index
              rendered.text

theorem keeps_resolve (trusted : Trusted done) (given : Option Nat) (text : String) :
    (resolve limits current done given text).Keeps := by
  rw [resolve_eq]
  refine (Keeps.of_action (same_takeWaitlist given current)).bind fun index => ?_
  refine keeps_resolveWaitlist (keeps_invoker (fun template data => ?_) index) trusted limits.steps
    index text
  exact (keeps_renderWithin limits.depth trusted_none template data).bind fun _ => keeps_pure _

theorem keeps_startRender (limits : Limits) (promise : Nat) (template data : Value)
    (current : Option Nat) : (startRender limits promise template data current).Keeps := by
  refine (keeps_renderWithin limits.depth ?_ template data).bind fun _ => keeps_pure _
  intro notify isReport current call
  cases isReport
  exact quiet_reportTo promise current call

end Cache

/-! ### Worlds -/

/-- Whatever waits for a promise goes on without changing the registry. -/
def World.Keeps (world : World) : Prop :=
  ∀ task ∈ world.suspended, ∀ outcome later, Step.Keeps later (task.resume outcome later)

/-- No rendering that may be started changes the registry. -/
def Starter.Keeps (start : Starter) : Prop :=
  ∀ promise template data current, (start promise template data current).Keeps

namespace World

/-- A world that came from some state without a change of the registry. -/
structure Kept
    (before : CacheState)
    (world : World) : Prop where
  keeps : world.Keeps
  same : SameRegistry before world.state

variable {start : Starter} {before middle : CacheState} {world : World} {suspended : List Suspended}

theorem Kept.after (same : SameRegistry before middle) (kept : Kept middle world) :
    Kept before world :=
  ⟨kept.keeps, Eq.trans kept.same same⟩

theorem kept_keep (keeps : ∀ task ∈ suspended, ∀ outcome later,
      Step.Keeps later (task.resume outcome later))
    {step : Step CacheState Unit} (steps : Step.Keeps before step) :
    Kept before (keep suspended step) := by
  cases step with
  | done result after => exact ⟨keeps, steps⟩
  | waiting promise after resume =>
      obtain ⟨same, resumes⟩ := steps
      refine ⟨fun task member => ?_, same⟩
      rcases List.mem_append.mp member with old | new
      · exact keeps task old
      · rw [List.mem_singleton.mp new]
        exact resumes

theorem steady_keeps (starts : Starter.Keeps start) :
    Steady start World.Keeps fun before after => Kept before.state after :=
  .of_keeping (fun keeps => ⟨keeps, rfl⟩) (fun first second => .after first.same second) Kept.keeps
    (fun keeps _ _ _ _ => ⟨keeps, rfl⟩)
    (fun keeps promise template data current =>
      kept_keep keeps (starts promise template data current _))
    fun keeps task member outcome _ among =>
      kept_keep (fun other stays => keeps other (among stays)) (keeps task member outcome _)

theorem carries_keeping : Step.Carries (fun before after => Kept before.state after)
    fun world (step : Step CacheState α) => world.Keeps ∧ Step.Keeps world.state step where
  stands := by
    rintro world (⟨result, after⟩ | ⟨promise, after, resume⟩) ⟨keeps, steps⟩
    · exact ⟨keeps, steps⟩
    · exact ⟨keeps, steps.1⟩
  resumes := fun ⟨_, steps⟩ kept outcome => ⟨kept.keeps, steps.2 outcome _⟩
  sleeps := fun ⟨_, steps⟩ kept => ⟨kept.keeps, rfl, steps.2⟩

end World

/-! ### Registrations -/

namespace Cache

open Registry

/-- The action makes changes of the registry, and no others. -/
def Changes (action : CacheAction α) : Prop :=
  ∀ state history, state.registry.Tracks history →
    ∃ changes, (action state).2.registry.Tracks (history ++ changes)

theorem Changes.of_same {action : CacheAction α} (same : Respects SameRegistry action) :
    Changes action := by
  intro state history tracks
  have kept : (action state).2.registry = state.registry := same state
  exact ⟨[], by rwa [List.append_nil, kept]⟩

theorem Changes.bind {action : CacheAction α} {next : α → CacheAction β} (first : Changes action)
    (second : ∀ value, Changes (next value)) : Changes (action >>= next) := by
  intro state history tracks
  obtain ⟨changes, after⟩ := first state history tracks
  rw [bind_eq]
  generalize action state = reached at after ⊢
  rcases reached with ⟨stop | value, middle⟩
  · exact ⟨changes, after⟩
  · obtain ⟨more, last⟩ := second value middle _ after
    exact ⟨changes ++ more, by rwa [← List.append_assoc]⟩

/-- A batch makes the changes of the leaves that it registers. -/
theorem Changes.of_adds {action : CacheAction (List String)} {isAsync : Bool}
    {leaves : List (String × Callable)} (adds : Adds isAsync leaves action) : Changes action := by
  intro state history tracks
  have begun : (Session.begin Session.standardLimits state).state.registry.Tracks history := tracks
  obtain ⟨added, -, after, -⟩ := Session.tracks_batch begun adds
  exact ⟨Session.stored isAsync added, after⟩

theorem changes_register (isAsync : Bool) (name : Value) (source : Source) :
    Changes (register isAsync name source) := by
  intro state history tracks
  have begun : (Session.begin Session.standardLimits state).state.registry.Tracks history := tracks
  obtain ⟨changes, after, -⟩ := Session.follows_register begun isAsync name source
  exact ⟨changes, after⟩

theorem changes_registerGroup (limits : Limits) (current : Option Nat) (isAsync : Bool)
    (group : Value) (source : Source) :
    Changes (registerGroup limits current isAsync group source) := by
  cases valid : isValidName group with
  | false =>
      have rejects : Rejects (registerGroup limits current isAsync group source) :=
        registerGroup_refused limits current valid source
      exact .of_same fun state => (rejects state).2
  | true =>
      cases group with
      | text start => exact .of_adds (adds_registerGroup limits current valid source)
      | _ => cases valid

/-- A short form registers or looks up, and does so in one of the other ways. -/
theorem changes_shortForm (limits : Limits) (current : Option Nat) (isAsync : Bool)
    (first second : Source) : Changes (shortForm limits current isAsync first second) := by
  have registers : ∀ name source, Changes (do
      discard (register isAsync name source)
      return ShortAnswer.source source) := fun name source =>
    ((changes_register isAsync name source).bind fun _ => .of_same (quiet_pure _)).bind
      fun _ => .of_same (quiet_pure _)
  have batch : ∀ source, Changes (do
      return ShortAnswer.names (← registerBatch limits current isAsync source)) := fun source =>
    (Changes.of_adds (adds_walkSource limits current none source)).bind
      fun _ => .of_same (quiet_pure _)
  unfold shortForm
  split
  · split
    · exact .of_same (quiet_get.bind fun _ => (quiet_ofOutcome _).bind fun _ => quiet_pure _)
    · exact (changes_registerGroup limits current isAsync _ _).bind fun _ => .of_same (quiet_pure _)
    · exact registers _ _
  · split
    · exact .of_same (quiet_get.bind fun _ => quiet_pure _)
    · split
      · split
        · exact registers _ _
        · exact batch _
      · exact batch _

end Cache

/-! ### Sessions -/

namespace Session

open Registry

/-- A session in which whatever waits keeps the registry, which is what a history leaves. -/
structure Upheld
    (session : Session)
    (history : List Change) : Prop where
  keeps : session.world.Keeps
  tracks : session.state.registry.Tracks history

/-- The history goes on, and the session is upheld. -/
def Upholds
    (history : List Change)
    (session : Session) : Prop :=
  ∃ changes, session.Upheld (history ++ changes)

variable {session after : Session} {history : List Change}

theorem Upheld.of_same (upheld : session.Upheld history)
    (kept : World.Kept session.state after.world) : Upholds history after := by
  have same : after.state.registry = session.state.registry := kept.same
  refine ⟨[], kept.keeps, ?_⟩
  rw [List.append_nil, same]
  exact upheld.tracks

theorem Upheld.act {action : CacheAction α} (upheld : session.Upheld history)
    (acts : Cache.Changes action) : Upholds history (session.act action).2 := by
  obtain ⟨changes, tracks⟩ := acts session.state history upheld.tracks
  exact ⟨changes, upheld.keeps, tracks⟩

theorem steady_startRender (limits : Limits) : World.Steady (Cache.startRender limits) World.Keeps
    fun before after => World.Kept before.state after :=
  World.steady_keeps (Cache.keeps_startRender limits)

theorem Upheld.perform {task : Task CacheState α} (upheld : session.Upheld history)
    (keeps : task.Keeps) : Upholds history (session.perform task).2 :=
  upheld.of_same ((steady_startRender session.limits).runToEnd World.carries_keeping
    session.limits.steps ⟨upheld.keeps, keeps session.state⟩)

/-- Every command makes changes of the registry by registering or removing helpers, or none. -/
theorem Upheld.obey (upheld : session.Upheld history) (command : Command) :
    Upholds history (session.obey command).2 := by
  cases command with
  | register isAsync name source => exact upheld.act (Cache.changes_register isAsync name source)
  | registerBatch isAsync source =>
      exact upheld.act (.of_adds
        (Cache.adds_walkSource session.limits session.current none source))
  | registerGroup isAsync group source =>
      exact upheld.act
        (Cache.changes_registerGroup session.limits session.current isAsync group source)
  | shortForm isAsync first second =>
      exact upheld.act (Cache.changes_shortForm session.limits session.current isAsync first second)
  | unregister name =>
      obtain ⟨changes, tracks, -⟩ := follows_unregister upheld.tracks name
      exact ⟨changes, upheld.keeps, tracks⟩
  | lookUp name => exact upheld.act (.of_same (quiet_ofOutcome _))
  | call name arguments =>
      exact upheld.act (.of_same
        (Cache.quiet_callFound session.limits session.current name arguments))
  | openCycle given =>
      cases given with
      | some index => exact upheld.of_same ⟨upheld.keeps, rfl⟩
      | none => exact upheld.of_same ⟨upheld.keeps, rfl⟩
  | closeCycle => exact upheld.of_same ⟨upheld.keeps, rfl⟩
  | render done template data =>
      exact upheld.perform
        (Cache.keeps_renderWithin session.limits.depth (session.quiet_notify done) template data)
  | resolve done given text =>
      exact upheld.perform (Cache.keeps_resolve (session.quiet_notify done) given text)
  | wait turns =>
      exact upheld.of_same ((steady_startRender session.limits).takeTurns upheld.keeps turns)

theorem Upheld.obeyAll (upheld : session.Upheld history) (commands : List Command) :
    Upholds history (session.obeyAll commands).2 := by
  induction commands generalizing session history with
  | nil => exact upheld.of_same ⟨upheld.keeps, rfl⟩
  | cons command rest inductionHypothesis =>
      obtain ⟨changes, first⟩ := upheld.obey command
      obtain ⟨more, last⟩ := inductionHypothesis first
      exact ⟨changes ++ more, by rwa [← List.append_assoc]⟩

/-- Whatever is asked of a session that begins with no helpers, its registry is what a history
leaves. -/
theorem tracks_attend (limits : Limits) (shape : PlaceholderShape) (strict warnsOnOverride : Bool)
    (commands : List Command) (log : Option LogSettings) :
    ∃ history, (attend limits shape strict warnsOnOverride commands
      log).2.state.registry.Tracks history := by
  have upheld : (Session.begin limits (.initial shape strict warnsOnOverride log)).Upheld [] :=
    ⟨nofun, tracks_empty⟩
  obtain ⟨history, last⟩ := upheld.obeyAll commands
  exact ⟨history, last.tracks⟩

end Session

end DeferredText
