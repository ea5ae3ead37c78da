import DeferredText.Proofs.Needed
import DeferredText.Proofs.Retired
import DeferredText.Proofs.Sessions

/-!
Contract: the two ways to hand over the result of a rendering or a resolution.

A run with a completion function is the run without one, up to its end. There the function
is called once: with the text, which is returned as well, or with the failure that the other
run raises. A line that cannot be written when a template was evaluated escapes both ways.

Owns: the agreement of the two runs, and that what a rendering has recorded and not started
is not started by anybody after it.

Does not own: what a step takes calls from (`Proofs.Retired`).
-/

namespace DeferredText

open CacheState

/-! ### Two runs that agree -/

/-- A completion function that never fails. -/
def Notify.Calm (notify : Notify) : Prop :=
  ∀ within call state, ∃ after, notify within call state = (.ok (), after)

/-- The result and the state in which a run without completion function ended, and those of
the run with one. -/
inductive HandedOver (notify : Notify) (within : Option Nat) :
    Except Stop (Option String) → CacheState → Except Stop (Option String) → CacheState → Prop where
  | text {text : String} {state after : CacheState}
      (called : notify within ⟨none, some text⟩ state = (.ok (), after)) :
      HandedOver notify within (.ok (some text)) state (.ok (some text)) after
  | failure {failure : Failure} {state after : CacheState}
      (called : notify within ⟨some failure, none⟩ state = (.ok (), after)) :
      HandedOver notify within (.error (.failed failure)) state (.ok none) after
  | unfinished {stop : Stop} {state : CacheState} (cut : ∀ failure, stop ≠ .failed failure) :
      HandedOver notify within (.error stop) state (.error stop) state

/-- The runs end with the same tasks waiting beside them, and the completion function was
called once, at the end. -/
structure World.Agrees
    (notify : Notify)
    (within : Option Nat)
    (plain handed : Except Stop (Option String) × World) : Prop where
  ends : HandedOver notify within plain.1 plain.2.state handed.1 handed.2.state
  beside : handed.2.suspended = plain.2.suspended

variable {α : Type} {notify : Notify} {within : Option Nat} {start : Starter}

/-- The steps wait for the same promises in the same states until they end. -/
inductive Step.Agrees (notify : Notify) (within : Option Nat) :
    Step CacheState (Option String) → Step CacheState (Option String) → Prop where
  | done {result returned : Except Stop (Option String)} {state after : CacheState}
      (ends : HandedOver notify within result state returned after) :
      Step.Agrees notify within (.done result state) (.done returned after)
  | waiting {promise : Nat} {state : CacheState}
      {plain handed : Outcome Value → CacheState → Step CacheState (Option String)}
      (resumes : ∀ outcome later,
        Step.Agrees notify within (plain outcome later) (handed outcome later)) :
      Step.Agrees notify within (.waiting promise state plain) (.waiting promise state handed)

theorem Step.Agrees.runToEnd {plain handed : Step CacheState (Option String)}
    (agrees : Step.Agrees notify within plain handed) (fuel : Nat) (suspended : List Suspended) :
    World.Agrees notify within (runToEnd start fuel suspended plain)
      (runToEnd start fuel suspended handed) := by
  induction fuel generalizing plain handed suspended with
  | zero =>
      cases agrees with
      | done ends => exact ⟨ends, rfl⟩
      | waiting resumes => exact ⟨.unfinished nofun, rfl⟩
  | succ fuel inductionHypothesis =>
      cases agrees with
      | done ends => exact ⟨ends, rfl⟩
      | @waiting promise state plain handed resumes =>
          rw [runToEnd_waiting, runToEnd_waiting]
          cases due : World.next? ⟨state, suspended⟩ with
          | none => exact ⟨.unfinished nofun, rfl⟩
          | some pair =>
              obtain ⟨delivery, rest⟩ := pair
              dsimp only
              cases rest.wakes promise delivery with
              | some outcome => exact inductionHypothesis (resumes outcome rest.state) _
              | none => exact inductionHypothesis (.waiting resumes) _

/-- What is done with the outcome of a step decides whether the whole agrees. -/
theorem Step.Agrees.of_attempt
    {plain handed : Outcome α → CacheState → Step CacheState (Option String)}
    (ends : ∀ outcome state, Step.Agrees notify within (plain outcome state) (handed outcome state))
    (step : Step CacheState α) :
    Step.Agrees notify within (step.attempt.andThen plain) (step.attempt.andThen handed) := by
  induction step with
  | done result state =>
      rw [Step.attempt_done]
      rcases result with (failure | _ | _) | value
      · exact ends (.error failure) state
      · exact .done (.unfinished nofun)
      · exact .done (.unfinished nofun)
      · exact ends (.ok value) state
  | waiting promise state resume inductionHypothesis => exact .waiting inductionHypothesis

/-! ### Lines -/

namespace CacheState

variable {state : CacheState} {event : Event}

theorem tell_written (writes : state.Writes event) :
    ∃ lines, tell event state = (.ok (), state.withLines lines) := by
  obtain ⟨lines, tells, -⟩ := (World.ofState state).tells_writes writes
  exact ⟨lines, tells⟩

theorem tell_unwritten (unwritten : ¬ state.Writes event) :
    ∃ failure, tell event state = (.error (.failed failure), state.refusing event) := by
  rw [Writes] at unwritten
  push Not at unwritten
  obtain ⟨settings, log, never⟩ := unwritten
  cases lines : event.lines settings with
  | ok lines' => exact absurd lines (never lines')
  | error failure =>
      refine ⟨failure, ?_⟩
      rw [tell_eq, log, Option.map_some, lines]

end CacheState

namespace Cache

variable {limits : Limits} {current given : Option Nat} {index : Nat} {state : CacheState}

/-- An action whose failures are caught stops otherwise only. -/
theorem attempt_stops {action : CacheAction α} {stop : Stop} {after : CacheState}
    (stops : Action.attempt action state = (.error stop, after)) :
    ∀ failure, stop ≠ .failed failure := by
  rw [Action.attempt_eq] at stops
  generalize action state = reached at stops
  rcases reached with ⟨(failure | _ | _) | value, after⟩ <;> cases stops <;> exact nofun

theorem handFailure_agrees (calm : notify.Calm) (failure : Failure) (state : CacheState) :
    Step.Agrees notify within (Task.ofAction (handFailure none within failure) state)
      (Task.ofAction (handFailure (some notify) within failure) state) := by
  obtain ⟨after, called⟩ := calm within ⟨some failure, none⟩ state
  have handed : handFailure (some notify) within failure state = (.ok none, after) :=
    Action.bind_ok called rfl
  rw [Task.ofAction, Task.ofAction, handed]
  exact .done (.failure called)

theorem handText_agrees (calm : notify.Calm) (text : String) (state : CacheState) :
    Step.Agrees notify within (Task.ofAction (handText none within text) state)
      (Task.ofAction (handText (some notify) within text) state) := by
  obtain ⟨after, called⟩ := calm within ⟨none, some text⟩ state
  have handed : handText (some notify) within text state = (.ok (some text), after) :=
    Action.bind_ok called rfl
  rw [Task.ofAction, Task.ofAction, handed]
  exact .done (.text called)

theorem resolveWaitlist_agrees (calm : notify.Calm) (invoke : Drain.Invoke) (fuel : Nat)
    (current : Option Nat) (index : Nat) (text : String) (state : CacheState) :
    Step.Agrees notify current (resolveWaitlist invoke fuel none current index text state)
      (resolveWaitlist invoke fuel (some notify) current index text state) := by
  rw [resolveWaitlist_eq, resolveWaitlist_eq]
  apply Step.Agrees.of_attempt
  rintro (failure | result) state
  · exact handFailure_agrees calm failure state
  · exact handText_agrees calm result state

/-- What a rendering tells the log when its template was evaluated. -/
def evaluated
    (index : Nat)
    (state : CacheState) : Outcome Rendered → Event
  | .error failure => .renderFailed (.text (state.cycleId index)) (.failure failure)
  | .ok rendered =>
      .renderCompleted (.text (state.cycleId index)) (.int rendered.expressions.length)
        (.int (state.waitlist index).pending.length)

/-- The log can write what a rendering tells it when its template was evaluated. -/
def EvaluationWritten
    (limits : Limits)
    (state : CacheState)
    (template data : Value) : Prop :=
  ∀ outcome passed,
    Action.attempt (renderPass limits state.waitlists.length template data) state.opened =
      (.ok outcome, passed) →
    passed.Writes (evaluated state.waitlists.length passed outcome)

theorem renderFailed_eq (done : Option Notify) (index : Nat) (failure : Failure)
    (state : CacheState) :
    renderFailed done index failure state =
      (tell (evaluated index state (.error failure)) >>= fun _ =>
        discard (clearWaitlist index) >>= fun _ =>
          handFailure done (some index) failure) state := by
  rfl

theorem renderCompleted_eq (index : Nat) (rendered : Rendered) (state : CacheState) :
    renderCompleted index rendered state = tell (evaluated index state (.ok rendered)) state := by
  rfl

/-- A line that cannot be written ends the rendering before anything is handed over. -/
theorem renderInto_unwritten (limits : Limits) (current : Option Nat) (depth : Nat)
    {outcome : Outcome Rendered} {passed : CacheState} {template data : Value}
    (passes : Action.attempt (renderPass limits index template data) state =
      (.ok outcome, passed))
    (unwritten : ¬ passed.Writes (evaluated index passed outcome)) :
    ∃ failure, ∀ done, renderInto limits current depth done template data index state =
      .done (.error (.failed failure)) (passed.refusing (evaluated index passed outcome)) := by
  obtain ⟨failure, tells⟩ := tell_unwritten unwritten
  refine ⟨failure, fun done => ?_⟩
  rw [renderInto, Task.bind_ok passes]
  cases outcome with
  | error cause =>
      have stops : renderFailed done index cause passed =
          (.error (.failed failure), passed.refusing (evaluated index passed (.error cause))) := by
        rw [renderFailed_eq]
        exact Action.bind_error tells
      dsimp only
      rw [Task.ofAction, stops]
  | ok rendered =>
      rw [← renderCompleted_eq] at tells
      exact Task.bind_stop tells

/-- A rendering inside its own cycle hands over what it would return or raise. -/
theorem renderInto_agrees (limits : Limits) (current : Option Nat) (depth : Nat)
    (calm : notify.Calm) {template data : Value}
    (written : ∀ outcome passed,
      Action.attempt (renderPass limits index template data) state = (.ok outcome, passed) →
        passed.Writes (evaluated index passed outcome)) :
    ∃ within, (within = current ∨ within = some index) ∧
      Step.Agrees notify within (renderInto limits current depth none template data index state)
        (renderInto limits current depth (some notify) template data index state) := by
  rw [renderInto, renderInto]
  rcases passes : Action.attempt (renderPass limits index template data) state with
    ⟨stop | failure | rendered, passed⟩
  · -- An action whose failures are caught stops otherwise only.
    refine ⟨current, .inl rfl, ?_⟩
    rw [Task.bind_stop passes, Task.bind_stop passes]
    exact .done (.unfinished (attempt_stops passes))
  · obtain ⟨lines, tells⟩ := tell_written (written _ _ passes)
    refine ⟨some index, .inr rfl, ?_⟩
    rw [Task.bind_ok passes, Task.bind_ok passes]
    have clears : ∀ done, Task.ofAction (renderFailed done index failure) passed =
        Task.ofAction (handFailure done (some index) failure)
          ((passed.withLines lines).withQueue index []) := by
      intro done
      have failed : renderFailed done index failure passed =
          handFailure done (some index) failure
            ((passed.withLines lines).withQueue index []) := by
        have drops : discard (clearWaitlist index) (passed.withLines lines) =
            (.ok (), (passed.withLines lines).withQueue index []) := rfl
        rw [renderFailed_eq]
        exact Action.bind_ok tells (Action.bind_ok drops rfl)
      rw [Task.ofAction, failed]
      rfl
    dsimp only
    rw [clears, clears]
    exact handFailure_agrees calm failure _
  · obtain ⟨lines, tells⟩ := tell_written (written _ _ passes)
    refine ⟨current, .inl rfl, ?_⟩
    rw [← renderCompleted_eq] at tells
    rw [Task.bind_ok passes, Task.bind_ok passes]
    dsimp only
    rw [Task.bind_ok tells, Task.bind_ok tells]
    exact resolveWaitlist_agrees calm _ _ current index rendered.text _

theorem resolve_agrees (calm : notify.Calm) (given : Option Nat) (text : String)
    (state : CacheState) :
    Step.Agrees notify current (resolve limits current none given text state)
      (resolve limits current (some notify) given text state) := by
  rw [resolve_eq, resolve_eq]
  rcases takes : takeWaitlist given current state with ⟨stop | index, taken⟩
  · rcases given with _ | index <;> rcases current with _ | index <;> cases takes
  · rw [Task.bind_ok takes, Task.bind_ok takes]
    exact resolveWaitlist_agrees calm _ _ current index text taken

/-- A log that can write every line can write that a template was evaluated. -/
theorem evaluationWritten_of_writes {template data : Value}
    (writes : ∀ event, state.Writes event) : EvaluationWritten limits state template data := by
  intro outcome passed passes settings logs
  have moves : Territory.Moves .empty state.opened
      (Action.attempt (renderPass limits state.waitlists.length template data) state.opened).2 :=
    (quiet_renderPass limits _ template data).attempt state.opened
  rw [passes] at moves
  have same : passed.log = state.log := moves.log
  exact writes _ settings (same ▸ logs)

/-- The run of a rendering, apart from the opening of its cycle. -/
theorem run_render {depth : Nat} (deep : limits.depth = depth + 1) (world : World) (fuel : Nat)
    (done : Option Notify) (template data : Value) :
    world.run start fuel (render limits current done template data) =
      runToEnd start fuel world.suspended
        (renderInto limits current depth done template data world.state.waitlists.length
          world.state.opened) := by
  rw [World.run, render, deep, renderWithin_into, Task.bind_ok (openWaitlist_eq world.state)]

theorem run_render_shallow (shallow : limits.depth = 0) (world : World) (fuel : Nat)
    (done : Option Notify) (template data : Value) :
    world.run start fuel (render limits current done template data) =
      (.error .exhausted, world) := by
  rw [World.run, render, shallow]
  cases fuel <;> rfl

end Cache

/-! ### What waits beside a rendering -/

/-- What a waiting task does when it is resumed takes calls from its own waitlists only. -/
def Suspended.Owns
    (own : Set Nat)
    (state : CacheState)
    (task : Suspended) : Prop :=
  ∀ outcome later, state.waitlists.length ≤ later.waitlists.length →
    Step.Owns own later (task.resume outcome later)

namespace World

/-- The waiting tasks take no calls from some of the waitlists. -/
structure Sparing (barred : Set Nat) (world : World) : Prop where
  opened : ∀ index ∈ barred, index < world.state.waitlists.length
  tasks : ∀ task ∈ world.suspended, ∃ own,
    (∀ index ∈ own, index < world.state.waitlists.length ∧ index ∉ barred) ∧
      task.Owns own world.state

/-- The world went on to one in which the waiting tasks still spare the waitlists, and calls
were taken from other ones at most, and from those of a task. -/
def Passes
    (barred own : Set Nat)
    (before after : World) : Prop :=
  after.Sparing barred ∧ Spares (barredᶜ ∪ own) before.state after.state

variable {barred own : Set Nat} {world rest before middle after : World} {delivery : Delivery}
  {state : CacheState}

theorem Passes.trans (first : Passes barred own before middle)
    (second : Passes barred own middle after) : Passes barred own before after :=
  ⟨second.1, first.2.then second.2⟩

theorem Sparing.passes (sparing : world.Sparing barred) : Passes barred own world world :=
  ⟨sparing, .refl _ _⟩

theorem Sparing.withState (sparing : world.Sparing barred)
    (spares : Spares (barredᶜ ∪ own) world.state state) :
    Passes barred own world (world.withState state) := by
  refine ⟨⟨fun index member => (sparing.opened index member).trans_le spares.waitlists, ?_⟩, spares⟩
  intro task member
  obtain ⟨mine, apart, owns⟩ := sparing.tasks task member
  refine ⟨mine, fun index owned => ?_, ?_⟩
  · exact ⟨(apart index owned).1.trans_le spares.waitlists, (apart index owned).2⟩
  · intro outcome later waited
    exact owns outcome later (spares.waitlists.trans waited)

/-- A task that is kept beside the others has only waitlists that are not barred. -/
theorem Sparing.keep (sparing : world.Sparing barred) {fewer : List Suspended}
    (among : ∀ task ∈ fewer, task ∈ world.suspended) {mine : Set Nat}
    (apart : ∀ index ∈ mine, index < world.state.waitlists.length ∧ index ∉ barred)
    {step : Step CacheState Unit} (owns : Step.Owns mine world.state step) :
    Passes barred own world (World.keep fewer step) := by
  have within : mine ⊆ barredᶜ ∪ own := fun index member => .inl (apart index member).2
  cases step with
  | done result state =>
      have passes := sparing.withState (CacheState.Spares.mono owns within)
      exact ⟨⟨passes.1.opened, fun task member => passes.1.tasks task (among task member)⟩,
        passes.2⟩
  | waiting promise state resume =>
      obtain ⟨spares, resumes⟩ := owns
      have passes := sparing.withState (spares.mono within)
      refine ⟨⟨passes.1.opened, ?_⟩, passes.2⟩
      intro task member
      rcases List.mem_append.mp member with old | new
      · exact passes.1.tasks task (among task old)
      · obtain rfl := List.mem_singleton.mp new
        refine ⟨mine ∪ world.state.openedSince state, ?_, resumes⟩
        rintro index (owned | ⟨lower, upper⟩)
        · exact ⟨(apart index owned).1.trans_le spares.waitlists, (apart index owned).2⟩
        · refine ⟨upper, fun member => ?_⟩
          exact absurd (sparing.opened index member) (Nat.not_lt_of_le lower)

/-- A waitlist that exists does not become the default one. -/
theorem Passes.fallback (passes : Passes barred own before after) (sparing : before.Sparing barred)
    (spared : before.state.defaultWaitlist ∉ barred) : after.state.defaultWaitlist ∉ barred := by
  intro member
  rcases passes.2.fallback with same | fresh
  · exact spared (same ▸ member)
  · exact absurd (sparing.opened _ member) (Nat.not_lt_of_le fresh)

/-- A waitlist that is just opened belongs to none of the waiting tasks. -/
theorem Sparing.opening (sparing : world.Sparing ∅) :
    (world.withState world.state.opened).Sparing {world.state.waitlists.length} := by
  have grows := (spares_opened ∅ world.state).waitlists
  constructor
  · rintro index rfl
    simp [World.withState, CacheState.opened]
  · intro task member
    obtain ⟨own, inside, owns⟩ := sparing.tasks task member
    refine ⟨own, fun index owned => ?_, fun outcome later waited => ?_⟩
    · have old := (inside index owned).1
      exact ⟨old.trans_le grows, Nat.ne_of_lt old⟩
    · exact owns outcome later (grows.trans waited)

/-- What is opened later belongs to nobody yet. -/
theorem Sparing.opening_within (sparing : world.Sparing barred) {wider : Set Nat}
    (within : wider ⊆ barredᶜ ∪ own) (after : CacheState) :
    wider ∪ world.state.openedSince after ⊆ barredᶜ ∪ own := by
  rintro index (owned | ⟨lower, -⟩)
  · exact within owned
  · exact .inl fun member => absurd (sparing.opened index member) (Nat.not_lt_of_le lower)

theorem Sparing.next (own : Set Nat) (sparing : world.Sparing barred)
    (due : world.next? = some (delivery, rest)) : Passes barred own world rest := by
  obtain ⟨later, ready, rfl⟩ := World.next?_eq due
  exact sparing.withState (.of_moves .empty (.of_core rfl) rfl)

/-- Every rendering that may be started takes calls from its own waitlists only. -/
def Separates (start : Starter) : Prop :=
  ∀ promise template data current, (start promise template data current).Owns ∅

theorem steady_sparing (own : Set Nat) (separates : Separates start) :
    Steady start (Sparing barred) (Passes barred own) :=
  .of_keeping Sparing.passes Passes.trans And.left
    (fun sparing _ _ _ _ => sparing.withState (.of_moves .empty (.of_core rfl) rfl))
    (fun sparing promise template data current =>
      sparing.keep (fun _ member => member) (fun _ member => absurd member (Set.notMem_empty _))
        (separates promise template data current _))
    fun sparing task member outcome _ among => by
      obtain ⟨mine, apart, owns⟩ := sparing.tasks task member
      exact sparing.keep among apart (owns outcome _ (Nat.le_refl _))

/-- A step that owns waitlists spares the others. What it opens on its way is not barred, so it
may be added to what it owns. -/
theorem carries_owning : Step.Carries (Passes barred own) fun world (step : Step CacheState α) =>
    world.Sparing barred ∧ ∃ wider ⊆ barredᶜ ∪ own, Step.Owns wider world.state step where
  stands := by
    rintro world (⟨result, after⟩ | ⟨promise, after, resume⟩) ⟨sparing, wider, within, owns⟩
    · exact sparing.withState (CacheState.Spares.mono owns within)
    · exact sparing.withState (owns.1.mono within)
  resumes := by
    rintro world later promise after resume ⟨sparing, wider, within, owns⟩ passes outcome
    exact ⟨passes.1, _, sparing.opening_within within after,
      owns.2 outcome later.state passes.2.waitlists⟩
  sleeps := by
    rintro world later promise after resume ⟨sparing, wider, within, owns⟩ passes
    refine ⟨passes.1, _, sparing.opening_within within after, .refl _ _, ?_⟩
    intro outcome last waited
    exact (owns.2 outcome last (passes.2.waitlists.trans waited)).mono Set.subset_union_left

/-- The run of a step beside tasks that spare the waitlists, also if the run is cut short. -/
theorem Sparing.runToEnd (sparing : world.Sparing barred) (separates : Separates start)
    (fuel : Nat) {step : Step CacheState α} (owns : Step.Owns own world.state step) :
    Passes barred own world (runToEnd start fuel world.suspended step).2 :=
  (steady_sparing own separates).runToEnd carries_owning fuel
    ⟨sparing, own, Set.subset_union_right, owns⟩

theorem Sparing.ends (sparing : world.Sparing barred) (separates : Separates start)
    {step : Step CacheState α} (owns : Step.Owns own world.state step) {result : Except Stop α}
    (ends : Ends start world.suspended step result after) : Passes barred own world after :=
  (steady_sparing own separates).ends carries_owning
    ⟨sparing, own, Set.subset_union_right, owns⟩ ends

end World

/-! ### Sessions -/

namespace Session

variable {session before middle after : Session} {barred : Set Nat}

/-- A request names a waitlist. -/
def Request.waitlist? : Request → Option Nat
  | .resolve _ given _ => given
  | _ => none

/-- What users do with a session without ever naming one of some waitlists. -/
inductive UsesBut (barred : Set Nat) : Session → Session → Prop where
  | nothing (session : Session) : UsesBut barred session session
  | request {before after : Session} (request : Request)
      (spared : ∀ index ∈ request.waitlist?, index ∉ barred) (uses : UsesBut barred before after) :
      UsesBut barred before (after.serve request)
  | opens {before after : Session} (given : Option Nat) (spared : ∀ index ∈ given, index ∉ barred)
      (uses : UsesBut barred before after) : UsesBut barred before (after.opening given)
  | closes {before after : Session} (uses : UsesBut barred before after) :
      UsesBut barred before after.closeCycle

theorem Uses.usesBut (uses : Uses before after) : UsesBut ∅ before after := by
  induction uses with
  | nothing => exact .nothing _
  | request request _ inductionHypothesis =>
      exact .request request (fun _ _ => Set.notMem_empty _) inductionHypothesis
  | opens given _ _ inductionHypothesis =>
      exact .opens given (fun _ _ => Set.notMem_empty _) inductionHypothesis
  | closes _ inductionHypothesis => exact .closes inductionHypothesis

/-- Neither a waiting task nor an open cycle nor the default takes calls from the waitlists. -/
structure Sparing (barred : Set Nat) (session : Session) : Prop where
  world : session.world.Sparing barred
  cycles : ∀ index ∈ session.cycles, index ∉ barred
  fallback : session.state.defaultWaitlist ∉ barred

/-- The session went on and spares the waitlists still. -/
def Passes
    (barred : Set Nat)
    (before after : Session) : Prop :=
  after.Sparing barred ∧ Spares barredᶜ before.state after.state

theorem Sparing.of_world (sparing : session.Sparing barred) {own : Set Nat}
    (spared : own ⊆ barredᶜ) (passes : World.Passes barred own session.world after.world)
    (cycles : ∀ index ∈ after.cycles, index ∉ barred) : Passes barred session after :=
  ⟨⟨passes.1, cycles, passes.fallback sparing.world sparing.fallback⟩,
    passes.2.mono (Set.union_subset (Set.Subset.refl _) spared)⟩

theorem Passes.trans (first : Passes barred before middle) (second : Passes barred middle after) :
    Passes barred before after :=
  ⟨second.1, first.2.then second.2⟩

theorem separates_startRender (limits : Limits) : World.Separates (Cache.startRender limits) :=
  fun promise template data current => Cache.owns_startRender limits promise template data current

theorem Sparing.perform {α : Type} {task : Task CacheState α} {own : Set Nat}
    (sparing : session.Sparing barred) (owns : Step.Owns own session.state (task session.state))
    (spared : own ⊆ barredᶜ) : Passes barred session (session.perform task).2 :=
  sparing.of_world spared
    (sparing.world.runToEnd (separates_startRender session.limits) session.limits.steps owns)
    sparing.cycles

theorem Sparing.serve (sparing : session.Sparing barred) (request : Request)
    (spared : ∀ index ∈ request.waitlist?, index ∉ barred) :
    Passes barred session (session.serve request) := by
  cases request with
  | call name arguments =>
      have calls : Spares ∅ session.state
          (Cache.callFound session.limits session.current name arguments session.state).2 :=
        Cache.quiet_callFound session.limits session.current name arguments session.state
      exact sparing.of_world (Set.empty_subset _)
        (sparing.world.withState (calls.mono (Set.empty_subset _))) sparing.cycles
  | resolve done given text =>
      -- None of the waitlists that may be taken is one of those to be spared.
      have taken : session.state.recording (given.or session.current) ∉ barred := by
        rcases given with _ | index
        · rcases current : session.current with _ | index
          · exact sparing.fallback
          · exact sparing.cycles index (List.mem_of_mem_head? current)
        · exact spared index rfl
      exact sparing.perform
        (Cache.owns_resolve (session.quiet_notify done) given text (Set.mem_singleton _))
        (Set.singleton_subset_iff.mpr taken)
  | render done template data =>
      exact sparing.perform
        (Cache.owns_render ∅ (session.quiet_notify done) template data session.state)
        (Set.empty_subset _)
  | wait turns =>
      have passes : World.Passes barred ∅ session.world (session.takeTurns turns).world :=
        (World.steady_sparing ∅ (separates_startRender session.limits)).takeTurns sparing.world turns
      refine sparing.of_world (Set.empty_subset _) passes ?_
      rw [session.cycles_serve]
      exact sparing.cycles

theorem Sparing.opening (sparing : session.Sparing barred) {given : Option Nat}
    (spared : ∀ index ∈ given, index ∉ barred) : Passes barred session (session.opening given) := by
  cases given with
  | some index =>
      refine ⟨⟨sparing.world, ?_, sparing.fallback⟩, .refl _ _⟩
      intro other member
      rcases List.mem_cons.mp member with rfl | old
      · exact spared other rfl
      · exact sparing.cycles other old
  | none =>
      have opens : Spares ∅ session.state session.state.opened := spares_opened _ session.state
      have passes : World.Passes barred ∅ session.world (session.opening none).world :=
        sparing.world.withState (opens.mono (Set.empty_subset _))
      apply sparing.of_world (Set.empty_subset _) passes
      intro other member
      rcases List.mem_cons.mp member with rfl | old
      · exact fun isBarred => absurd (sparing.world.opened _ isBarred) (Nat.lt_irrefl _)
      · exact sparing.cycles other old

theorem UsesBut.passes (uses : UsesBut barred before after) (sparing : before.Sparing barred) :
    Passes barred before after := by
  induction uses with
  | nothing => exact ⟨sparing, .refl _ _⟩
  | request request spared _ inductionHypothesis =>
      exact inductionHypothesis.trans (inductionHypothesis.1.serve request spared)
  | opens given spared _ inductionHypothesis =>
      exact inductionHypothesis.trans (inductionHypothesis.1.opening spared)
  | closes _ inductionHypothesis =>
      obtain ⟨reached, spares⟩ := inductionHypothesis
      exact ⟨⟨reached.world, fun index member => reached.cycles index (List.mem_of_mem_tail member),
        reached.fallback⟩, spares⟩

theorem sparing_start (state : CacheState) : (Session.start state).Sparing ∅ :=
  ⟨⟨fun _ member => absurd member (Set.notMem_empty _), fun _ member => absurd member List.not_mem_nil⟩,
    fun _ member => absurd member List.not_mem_nil, Set.notMem_empty _⟩

/-- A rendering leaves its waitlist behind as one that nobody takes calls from. -/
theorem Sparing.rendered (sparing : session.Sparing ∅) (sound : session.Sound)
    (done : Option (Option Script)) (template data : Value)
    (opened : session.state.waitlists.length <
      (session.serve (.render done template data)).state.waitlists.length) :
    (session.serve (.render done template data)).Sparing {session.state.waitlists.length} := by
  have renders : (session.serve (.render done template data)).world =
      (session.world.run (Cache.startRender session.limits) session.limits.steps
        (Cache.render session.limits session.current (done.map session.notify) template data)).2 :=
    rfl
  cases deep : session.limits.depth with
  | zero =>
      rw [Cache.run_render_shallow deep] at renders
      rw [Session.state, Session.state, renders] at opened
      exact absurd opened (Nat.lt_irrefl _)
  | succ depth =>
      rw [Cache.run_render deep] at renders
      let index := session.world.state.waitlists.length
      have owns : Task.Owns {index} (Cache.renderInto session.limits session.current depth
          (done.map session.notify) template data index) :=
        Cache.owns_renderInto (session.quiet_notify done) (Cache.owns_nested _ depth)
          (Set.mem_singleton index) template data
      have sparingOpened := sparing.world.opening
      have passes : World.Passes {index} {index}
          (session.world.withState session.world.state.opened)
          (session.serve (.render done template data)).world := by
        rw [renders]
        exact sparingOpened.runToEnd (separates_startRender session.limits) session.limits.steps
          (owns session.world.state.opened)
      exact ⟨passes.1, fun other member => Nat.ne_of_lt (sound.cycles other member),
        passes.fallback sparingOpened (Nat.ne_of_lt sound.world.tidy.fallback)⟩

/-- Whatever was queued in the cycle of a rendering and was not started until its end is not
started afterwards, as long as nobody names its waitlist. -/
theorem never_started (sparing : session.Sparing ∅) (sound : session.Sound)
    (done : Option (Option Script)) (template data : Value) {middle : CacheState}
    (tidy : middle.Tidy) {number : Nat}
    (queued : number ∈ middle.queue session.state.waitlists.length)
    (advances : Advances middle (session.serve (.render done template data)).state)
    (uses : UsesBut {session.state.waitlists.length}
      (session.serve (.render done template data)) after)
    (started : number ∈ after.state.started) :
    number ∈ (session.serve (.render done template data)).state.started := by
  have old := tidy.exist _ number queued
  have opened := (lt_of_mem_queue queued).trans_le advances.waitlists
  have rests : (session.serve (.render done template data)).state.Rests number
      session.state.waitlists.length := by
    refine ⟨opened, old.trans_le advances.invocations, fun other member => ?_⟩
    exact tidy.separate other _ number (advances.queued other number member old) queued
  have passes := uses.passes (sparing.rendered sound done template data opened)
  exact (passes.2.rests _ (fun outside => outside rfl) number rests).2 started

end Session

/-- A rendering that is given a completion function calls it once, at its end: with the text
that it would return without one, and which it returns as well, or with the failure that it
would raise; unless the line that ends the evaluation of the template cannot be written, when
both raise the same. A resolution always agrees with itself in this way. What a rendering has
queued in its cycle and not started is not started afterwards. -/
theorem handed_over_once (start : Starter) (fuel : Nat) (world : World) (limits : Limits)
    (current : Option Nat) {notify : Notify} (calm : notify.Calm) :
    (∀ template data,
      (Cache.EvaluationWritten limits world.state template data →
        ∃ within, (within = current ∨ within = some world.state.waitlists.length) ∧
          World.Agrees notify within
            (world.run start fuel (Cache.render limits current none template data))
            (world.run start fuel (Cache.render limits current (some notify) template data))) ∧
      (¬ Cache.EvaluationWritten limits world.state template data → 0 < limits.depth →
        ∃ failure passed, ∀ done,
          world.run start fuel (Cache.render limits current done template data) =
            (.error (.failed failure), world.withState passed))) ∧
      (∀ given text, World.Agrees notify current
        (world.run start fuel (Cache.resolve limits current none given text))
        (world.run start fuel (Cache.resolve limits current (some notify) given text))) ∧
      ∀ shape strict warnsOnOverride log registry session after,
        Session.Uses (.start (unused shape strict warnsOnOverride log registry)) session →
        ∀ done template data,
          Session.UsesBut {session.state.waitlists.length}
            (session.serve (.render done template data)) after →
          ∀ middle : CacheState, middle.Tidy →
            Advances middle (session.serve (.render done template data)).state →
            ∀ number ∈ middle.queue session.state.waitlists.length,
              number ∈ after.state.started →
                number ∈ (session.serve (.render done template data)).state.started := by
  refine ⟨fun template data => ⟨?_, ?_⟩, ?_, ?_⟩
  · intro written
    cases deep : limits.depth with
    | zero =>
        rw [Cache.run_render_shallow deep, Cache.run_render_shallow deep]
        exact ⟨current, .inl rfl, .unfinished nofun, rfl⟩
    | succ depth =>
        rw [Cache.run_render deep, Cache.run_render deep]
        obtain ⟨within, inside, agrees⟩ := Cache.renderInto_agrees limits current depth calm written
        exact ⟨within, inside, agrees.runToEnd fuel world.suspended⟩
  · intro unwritten positive
    obtain ⟨depth, deep⟩ := Nat.exists_eq_succ_of_ne_zero (Nat.ne_of_gt positive)
    rw [Cache.EvaluationWritten] at unwritten
    push Not at unwritten
    obtain ⟨outcome, passed, passes, never⟩ := unwritten
    obtain ⟨failure, stops⟩ := Cache.renderInto_unwritten limits current depth passes never
    refine ⟨failure, passed.refusing (Cache.evaluated world.state.waitlists.length passed outcome),
      fun done => ?_⟩
    rw [Cache.run_render deep, stops]
    cases fuel <;> rfl
  · intro given text
    exact (Cache.resolve_agrees calm given text world.state).runToEnd fuel world.suspended
  · intro shape strict warnsOnOverride log registry session after uses done template data
      afterwards middle tidy advances number queued started
    have fresh := tidy_unused shape strict warnsOnOverride log registry
    have sparing := (uses.usesBut.passes (Session.sparing_start _)).1
    have sound := (uses.sound (Session.sound_start fresh)).1
    exact Session.never_started sparing sound done template data tidy queued advances afterwards
      started

namespace Sample

/-- A completion function that notes what it is given. -/
def note : Notify := fun _ call =>
  modify fun state => { state with delivered := state.delivered ++ [call] }

theorem calm_note : note.Calm := fun _ _ _ => ⟨_, rfl⟩

/-- A cache without helpers and calls. -/
def bare (log : Option LogSettings) : CacheState :=
  unused .standard false false log .empty

/-- The rendering of a template without data in such a cache. -/
def rendering
    (log : Option LogSettings)
    (done : Option Notify)
    (template : Value) : Except Stop (Option String) × World :=
  (World.ofState (bare log)).run (Cache.startRender limits) 10
    (Cache.render limits none done template (.dict []))

/-- Whether a run raised a failure, and how often its completion function was called. -/
def heard (ended : Except Stop (Option String) × World) : Bool × Nat :=
  match ended with
  | (.error (.failed _), world) => (true, world.state.delivered.length)
  | (_, world) => (false, world.state.delivered.length)

/-- A template that calls what is not registered. -/
def broken : Value := .text "{{ x() }}"

/-- The request to render it with a completion function that calls a helper. -/
def callingLater : Session.Request :=
  .render (some (some (.call "later" []))) broken (.dict [])

theorem queue_callingLater : (fresh.serve callingLater).state.queue 1 = [0] := by
  decide +kernel

theorem started_callingLater : (fresh.serve callingLater).state.started = [] := by
  decide +kernel

/-- The failure is handed over once. The completion function of the session calls a helper
inside the cycle that has failed, and this call is never started. -/
theorem handed_over_broken :
    note.Calm ∧ heard (rendering none none broken) = (true, 0) ∧
      (∃ within, (within = none ∨ within = some 1) ∧
        World.Agrees note within (rendering none none broken) (rendering none (some note) broken)) ∧
      heard (rendering none (some note) broken) = (false, 1) ∧
      (fresh.serve callingLater).state.queue 1 = [0] ∧
      ∀ after, Session.UsesBut {1} (fresh.serve callingLater) after → 0 ∉ after.state.started := by
  have holds := handed_over_once (Cache.startRender limits) 10 (.ofState (bare none)) limits none
    calm_note
  have agrees : ∃ within, (within = none ∨ within = some 1) ∧
      World.Agrees note within (rendering none none broken) (rendering none (some note) broken) :=
    (holds.1 broken (.dict [])).1 (Cache.evaluationWritten_of_writes fun _ _ logs => nomatch logs)
  have raises : heard (rendering none none broken) = (true, 0) := by decide +kernel
  have handed : heard (rendering none (some note) broken) = (false, 1) := by decide +kernel
  have never : ∀ after, Session.UsesBut {1} (fresh.serve callingLater) after →
      0 ∉ after.state.started := by
    intro after afterwards started
    have sound : fresh.Sound := Session.sound_start (tidy_unused .standard false false none later)
    have tidy : (fresh.serve callingLater).state.Tidy := (sound.serve callingLater).1.1.tidy
    have queued : 0 ∈ (fresh.serve callingLater).state.queue 1 := by
      rw [queue_callingLater]
      exact List.mem_singleton_self 0
    have early : 0 ∈ (fresh.serve callingLater).state.started :=
      holds.2.2 .standard false false none later fresh after (.nothing _)
        (some (some (.call "later" []))) broken (.dict []) afterwards _ tidy (.refl tidy) 0 queued
        started
    rw [started_callingLater] at early
    cases early
  exact ⟨calm_note, raises, agrees, handed, queue_callingLater, never⟩

/-- Settings that write everything, and cut what they show at no whole number. -/
def verbose : LogSettings :=
  { settings with level := .text LogLevel.debug.name }

/-- The template is evaluated, but the line that says so cannot be written, and nobody hears
of it: the completion function is not called. -/
theorem render_unheard :
    note.Calm ∧ heard (rendering (some verbose) none (.text "x")) = (true, 0) ∧
      heard (rendering (some verbose) (some note) (.text "x")) = (true, 0) :=
  ⟨calm_note, by decide +kernel, by decide +kernel⟩

end Sample

end DeferredText
