import DeferredText.Cache.Render
import DeferredText.Proofs.Effects

/-!
Contract: the course of a resolution, turn by turn.

A turn takes one call off the waitlist and skips it or runs its implementation. A
course is a sequence of turns until the waitlist is empty or a turn fails. Log lines
are written, as far as there is a log, and a line that cannot be written is no part
of a course.

Owns: turns, courses, and that the resolution of a waitlist runs as its course says.

Does not own: what running an implementation does (`Proofs.Territory`).
-/

namespace DeferredText

/-- What became of a call that was taken off a waitlist. -/
inductive Fate where
  | skipped
  | returned (value : Value) (text : String)
  /-- The call returned a value that has no text. -/
  | unreadable (value : Value) (failure : Failure)
  | failed (failure : Failure)

namespace Fate

/-- Whether the implementation of the call was run. -/
def ran : Fate → Bool
  | .skipped => false
  | _ => true

/-- The status of the call afterwards. -/
def status : Fate → InvocationStatus
  | .skipped => .skipped
  | .returned _ _ => .completed
  | .unreadable _ _ => .completed
  | .failed _ => .failed

/-- The text put in place of the call. -/
def text? : Fate → Option String
  | .returned _ text => some text
  | _ => none

end Fate

/-- One call taken off a waitlist, between the world that was without it and the world
after it. -/
structure Turn where
  number : Nat
  invocation : Invocation
  fate : Fate
  before : World
  after : World

namespace World

def withState
    (world : World)
    (state : CacheState) : World :=
  ⟨state, world.suspended⟩

/-- An event goes to the log, and nothing else happens. -/
def Tells
    (world : World)
    (event : Event)
    (told : World) : Prop :=
  CacheState.tell event world.state = (.ok (), told.state) ∧ told.suspended = world.suspended

end World

namespace Drain

/-- A call is needed and its implementation is about to be run in the given world. -/
structure Calls
    (index : Nat)
    (progress : Progress)
    (number : Nat)
    (invocation : Invocation)
    (before asked : World) : Prop where
  found : before.state.invocations[number]? = some invocation
  needed : isNeeded progress.text invocation.token (before.state.queued index) = true
  tells : (before.withState (before.state.prepared number progress.results)).Tells
    (.invoking (.text (before.state.cycleId index)) (.text invocation.name)
      (.tuple (((before.state.prepared number progress.results).invocations[number]?.map
        Invocation.arguments).getD .none).positional)) asked

/-- What a turn does, by the fate of its call. -/
inductive Serves
    (start : Starter)
    (invoke : Invoke)
    (index : Nat)
    (progress : Progress) : Turn → Outcome Progress → Prop where
  | skipped {number : Nat} {invocation : Invocation} {before told : World}
      (found : before.state.invocations[number]? = some invocation)
      (unneeded : isNeeded progress.text invocation.token (before.state.queued index) = false)
      (tells : (before.withState (before.state.withStatus number .skipped)).Tells
        (.skipped (.text (before.state.cycleId index)) (.text invocation.name)
          (.text invocation.token)) told) :
      Serves start invoke index progress ⟨number, invocation, .skipped, before, told⟩
        (.ok progress.skip)
  | returned {number : Nat} {invocation : Invocation} {before asked answered told : World}
      {value : Value} {text : String}
      (calls : Calls index progress number invocation before asked)
      (runs : World.Runs start asked (invoke number) (.ok value) answered)
      (readable : resultText value = .ok text)
      (tells : (answered.withState (answered.state.withStatus number .completed)).Tells
        (.completed (.text (before.state.cycleId index)) (.text invocation.name)
          (.int (CacheState.elapsed before.state.clock answered.state.clock))) told) :
      Serves start invoke index progress
        ⟨number, invocation, .returned value text, before, told⟩
        (.ok (progress.complete invocation.token text))
  | unreadable {number : Nat} {invocation : Invocation} {before asked answered : World}
      {value : Value} {failure : Failure}
      (calls : Calls index progress number invocation before asked)
      (runs : World.Runs start asked (invoke number) (.ok value) answered)
      (unreadable : resultText value = .error failure) :
      Serves start invoke index progress
        ⟨number, invocation, .unreadable value failure, before,
          answered.withState (answered.state.withStatus number .completed)⟩
        (.error failure)
  | failed {number : Nat} {invocation : Invocation} {before asked answered told closed : World}
      {failure : Failure}
      (calls : Calls index progress number invocation before asked)
      (runs : World.Runs start asked (invoke number) (.error (.failed failure)) answered)
      (tells : (answered.withState ((answered.state.withStatus number .failed).withQueue index
          [])).Tells
        (.failed (.text (before.state.cycleId index)) (.text invocation.name) (.failure failure)
          (.int (CacheState.elapsed before.state.clock answered.state.clock))) told)
      (closes : told.Tells
        (.aborted (.text (before.state.cycleId index))
          (.int (answered.state.queue index).length)) closed) :
      Serves start invoke index progress ⟨number, invocation, .failed failure, before, closed⟩
        (.error failure)

/-- A call is the oldest of a waitlist and is taken off it. -/
def Takes
    (index : Nat)
    (world : World)
    (turn : Turn) : Prop :=
  ∃ rest, world.state.queue index = turn.number :: rest ∧
    turn.before = world.withState (world.state.withQueue index rest)

/-- Turns until the waitlist is empty or a turn fails. -/
inductive Course
    (start : Starter)
    (invoke : Invoke)
    (index : Nat) : World → Progress → List Turn → Outcome Progress → World → Prop where
  | finished {world : World} {progress : Progress}
      (empty : world.state.queue index = []) :
      Course start invoke index world progress [] (.ok progress) world
  | further {world after : World} {progress next : Progress} {turn : Turn} {turns : List Turn}
      {outcome : Outcome Progress}
      (takes : Takes index world turn)
      (serves : Serves start invoke index progress turn (.ok next))
      (continues : Course start invoke index turn.after next turns outcome after) :
      Course start invoke index world progress (turn :: turns) outcome after
  | failed {world : World} {progress : Progress} {turn : Turn} {failure : Failure}
      (takes : Takes index world turn)
      (serves : Serves start invoke index progress turn (.error failure)) :
      Course start invoke index world progress [turn] (.error failure) turn.after

/-- The course of the resolution of a text, with its first and last line in the log. -/
inductive Resolution
    (start : Starter)
    (invoke : Invoke)
    (index : Nat)
    (text : String)
    (world : World)
    (turns : List Turn) : Outcome String → World → Prop where
  | finished {begun middle after : World} {progress : Progress}
      (begins : world.Tells
        (.started (.text (world.state.cycleId index)) (.int (world.state.queue index).length))
        begun)
      (course : Course start invoke index begun (.start text) turns (.ok progress) middle)
      (ends : middle.Tells
        (.finished (.text (world.state.cycleId index)) (.int progress.resolved)
          (.int progress.skipped)
          (.int (CacheState.elapsed world.state.clock middle.state.clock))) after) :
      Resolution start invoke index text world turns (.ok progress.text) after
  | failed {begun after : World} {failure : Failure}
      (begins : world.Tells
        (.started (.text (world.state.cycleId index)) (.int (world.state.queue index).length))
        begun)
      (course : Course start invoke index begun (.start text) turns (.error failure) after) :
      Resolution start invoke index text world turns (.error failure) after

end Drain

/-! ### The run of a course -/

/-- An outcome as the result of a task. -/
def Outcome.asResult {α : Type} : Outcome α → Except Stop α
  | .ok value => .ok value
  | .error failure => .error (.failed failure)

/-- A task that tells an event and goes on. -/
theorem World.Tells.bind {α : Type} {start : Starter} {world told after : World} {event : Event}
    {next : Unit → Task CacheState α} {result : Except Stop α}
    (tells : world.Tells event told)
    (further : World.Runs start told (next ()) result after) :
    World.Runs start world (Task.ofAction (CacheState.tell event) >>= next) result after := by
  obtain ⟨written, same⟩ := tells
  apply World.Runs.bind_action written
  rw [← same]
  exact further

/-- The log, if there is one, can write the lines of an event. -/
def CacheState.Writes
    (state : CacheState)
    (event : Event) : Prop :=
  ∀ settings, state.log = some settings → ∃ lines, event.lines settings = .ok lines

/-- An event whose lines can be written is told. -/
theorem World.tells_writes (world : World) {event : Event} (writes : world.state.Writes event) :
    ∃ lines, world.Tells event (world.withState (world.state.withLines lines)) := by
  cases log : world.state.log with
  | none => exact ⟨world.state.lines, CacheState.tell_silent event log, rfl⟩
  | some settings =>
      obtain ⟨lines, written⟩ := writes settings log
      refine ⟨world.state.lines ++ lines, ?_, rfl⟩
      rw [CacheState.tell_eq, log, Option.map_some, written]
      rfl

namespace Drain

variable {start : Starter} {invoke : Invoke} {index : Nat} {world after : World}
  {progress : Progress}

theorem step_eq (number : Nat) (progress : Progress) :
    step invoke index number progress = (Task.ofAction get >>= fun state =>
      match state.invocations[number]? with
      | none => pure progress
      | some invocation =>
          if isNeeded progress.text invocation.token (state.queued index) then
            Task.ofAction (prepare number progress.results) >>= fun _ =>
            Task.ofAction (CacheState.argumentsOf number) >>= fun arguments =>
            Task.ofAction (CacheState.tell
              (.invoking (.text (state.cycleId index)) (.text invocation.name)
                (.tuple arguments.positional))) >>= fun _ =>
            (invoke number).attempt >>= fun outcome =>
              match outcome with
              | .error failure =>
                  Task.ofAction (abort index number (.text (state.cycleId index))
                    (.text invocation.name) state.clock failure)
              | .ok value =>
                  Task.ofAction (accept number (.text (state.cycleId index))
                    (.text invocation.name) invocation.token state.clock progress value)
          else
            Task.ofAction (CacheState.setStatus number .skipped) >>= fun _ =>
            Task.ofAction (CacheState.tell
              (.skipped (.text (state.cycleId index)) (.text invocation.name)
                (.text invocation.token))) >>= fun _ =>
            pure progress.skip) := by
  rfl

theorem loop_succ (fuel : Nat) (progress : Progress) :
    loop invoke index (fuel + 1) progress =
      (Task.ofAction (CacheState.takeNext index) >>= fun taken =>
        match taken with
        | none => pure progress
        | some number => step invoke index number progress >>= loop invoke index fuel) := by
  rfl

theorem run_eq (fuel : Nat) (text : String) :
    run invoke fuel index text = (Task.ofAction get >>= fun state =>
      Task.ofAction (CacheState.tell
        (.started (.text (state.cycleId index)) (.int (state.queue index).length))) >>= fun _ =>
      loop invoke index fuel (.start text) >>= fun progress =>
      Task.ofAction (CacheState.elapsedSince state.clock) >>= fun spent =>
      Task.ofAction (CacheState.tell
        (.finished (.text (state.cycleId index)) (.int progress.resolved)
          (.int progress.skipped) spent)) >>= fun _ =>
      pure progress.text) := by
  rfl

theorem Calls.step {number : Nat} {invocation : Invocation} {before asked : World}
    {outcome : Except Stop Progress}
    (calls : Calls index progress number invocation before asked)
    (further : World.Runs start asked
      ((invoke number).attempt >>= fun outcome =>
        match outcome with
        | .error failure =>
            Task.ofAction (abort index number (.text (before.state.cycleId index))
              (.text invocation.name) before.state.clock failure)
        | .ok value =>
            Task.ofAction (accept number (.text (before.state.cycleId index))
              (.text invocation.name) invocation.token before.state.clock progress value))
      outcome after) :
    World.Runs start before (Drain.step invoke index number progress) outcome after := by
  rw [step_eq]
  apply World.Runs.bind_get
  simp only [calls.found, calls.needed, if_true]
  apply World.Runs.bind_action (CacheState.prepare_eq progress.results)
  apply World.Runs.bind_read CacheState.argumentsOf_eq
  exact calls.tells.bind further

theorem accept_readable {number : Nat} {cycle name value : Value} {token text : String}
    {started : Int} {answered told : CacheState}
    (readable : resultText value = .ok text)
    (tells : CacheState.tell
      (.completed cycle name (.int (CacheState.elapsed started answered.clock)))
      (answered.withStatus number .completed) = (.ok (), told)) :
    accept number cycle name token started progress value answered =
      (.ok (progress.complete token text), told) := by
  apply Action.bind_ok (CacheState.setStatus_eq .completed)
  rw [readable]
  apply Action.bind_ok rfl
  apply Action.bind_ok (CacheState.elapsedSince_eq started)
  exact Action.bind_ok tells rfl

theorem accept_unreadable {number : Nat} {cycle name value : Value} {token : String}
    {started : Int} {answered : CacheState} {failure : Failure}
    (unreadable : resultText value = .error failure) :
    accept number cycle name token started progress value answered =
      (.error (.failed failure), answered.withStatus number .completed) := by
  apply Action.bind_ok (CacheState.setStatus_eq .completed)
  rw [unreadable]
  exact Action.bind_error rfl

theorem abort_eq {number : Nat} {cycle name : Value} {started : Int} {failure : Failure}
    {answered told closed : CacheState}
    (tells : CacheState.tell
      (.failed cycle name (.failure failure) (.int (CacheState.elapsed started answered.clock)))
      ((answered.withStatus number .failed).withQueue index []) = (.ok (), told))
    (closes : CacheState.tell
      (.aborted cycle (.int (answered.queue index).length)) told = (.ok (), closed)) :
    abort index number cycle name started failure answered =
      (.error (.failed failure), closed) := by
  apply Action.bind_ok (CacheState.setStatus_eq .failed)
  apply Action.bind_ok CacheState.clearWaitlist_eq
  apply Action.bind_ok (CacheState.elapsedSince_eq started)
  apply Action.bind_ok tells
  exact Action.bind_ok closes rfl

theorem Serves.step {turn : Turn} {outcome : Outcome Progress}
    (serves : Serves start invoke index progress turn outcome) :
    World.Runs start turn.before (Drain.step invoke index turn.number progress) outcome.asResult
      turn.after := by
  cases serves with
  | @skipped number invocation before told found unneeded tells =>
      rw [step_eq]
      apply World.Runs.bind_get
      simp only [found, unneeded, Bool.false_eq_true, if_false]
      apply World.Runs.bind_action (CacheState.setStatus_eq .skipped)
      apply World.Tells.bind tells
      exact World.runs_pure progress.skip
  | returned calls runs readable tells =>
      apply calls.step
      apply World.Runs.bind runs.attempt
      exact World.runs_action (accept_readable readable tells.1) tells.2
  | unreadable calls runs unreadable =>
      apply calls.step
      apply World.Runs.bind runs.attempt
      exact World.runs_action (accept_unreadable unreadable) rfl
  | failed calls runs tells closes =>
      apply calls.step
      apply World.Runs.bind runs.attempt
      exact World.runs_action (abort_eq tells.1 closes.1) (closes.2.trans tells.2)

/-- A course is the run of the loop, if the loop may take that many turns. -/
theorem Course.loop {turns : List Turn} {outcome : Outcome Progress}
    (course : Course start invoke index world progress turns outcome after)
    {fuel : Nat} (enough : turns.length < fuel) :
    World.Runs start world (Drain.loop invoke index fuel progress) outcome.asResult after := by
  induction course generalizing fuel with
  | finished empty =>
      obtain ⟨fuel, rfl⟩ := Nat.exists_eq_succ_of_ne_zero (Nat.ne_zero_of_lt enough)
      rw [loop_succ]
      apply World.Runs.bind_read (CacheState.takeNext_nil empty)
      exact World.runs_pure _
  | further takes serves continues inductionHypothesis =>
      obtain ⟨fuel, rfl⟩ := Nat.exists_eq_succ_of_ne_zero (Nat.ne_zero_of_lt enough)
      obtain ⟨rest, queued, taken⟩ := takes
      rw [loop_succ]
      apply World.Runs.bind_action (CacheState.takeNext_cons queued)
      have step := serves.step
      rw [taken] at step
      exact step.bind (inductionHypothesis (by simpa using enough))
  | failed takes serves =>
      obtain ⟨fuel, rfl⟩ := Nat.exists_eq_succ_of_ne_zero (Nat.ne_zero_of_lt enough)
      obtain ⟨rest, queued, taken⟩ := takes
      rw [loop_succ]
      apply World.Runs.bind_action (CacheState.takeNext_cons queued)
      have step := serves.step
      rw [taken] at step
      exact step.bind_error

/-- The resolution of a waitlist runs as its course says. -/
theorem Resolution.run {text : String} {turns : List Turn} {outcome : Outcome String}
    (resolution : Resolution start invoke index text world turns outcome after)
    {fuel : Nat} (enough : turns.length < fuel) :
    World.Runs start world (Drain.run invoke fuel index text) outcome.asResult after := by
  cases resolution with
  | finished begins course ends =>
      rw [run_eq]
      apply World.Runs.bind_get
      apply begins.bind
      apply World.Runs.bind (course.loop enough)
      apply World.Runs.bind_read (CacheState.elapsedSince_eq _)
      apply ends.bind
      exact World.runs_pure _
  | failed begins course =>
      rw [run_eq]
      apply World.Runs.bind_get
      apply begins.bind
      exact World.Runs.bind_error (course.loop enough)

end Drain

/-! ### Turns in a cache without a log -/

namespace Drain

variable {start : Starter} {invoke : Invoke} {index number : Nat} {progress : Progress}
  {state answered : CacheState} {suspended : List Suspended} {invocation : Invocation}

theorem Serves.skipped_silently (silent : state.log = none)
    (found : state.invocations[number]? = some invocation)
    (unneeded : isNeeded progress.text invocation.token (state.queued index) = false) :
    Serves start invoke index progress
      ⟨number, invocation, .skipped, ⟨state, suspended⟩,
        ⟨state.withStatus number .skipped, suspended⟩⟩
      (.ok progress.skip) :=
  .skipped found unneeded ⟨CacheState.tell_silent _ silent, rfl⟩

theorem Calls.silently (silent : state.log = none)
    (found : state.invocations[number]? = some invocation)
    (needed : isNeeded progress.text invocation.token (state.queued index) = true) :
    Calls index progress number invocation ⟨state, suspended⟩
      ⟨state.prepared number progress.results, suspended⟩ := by
  have stillSilent : (state.prepared number progress.results).log = none := by
    rw [CacheState.prepared]
    split <;> exact silent
  exact ⟨found, needed, CacheState.tell_silent _ stillSilent, rfl⟩

theorem runs_at_once {result : Except Stop Value}
    (done : invoke number state = .done result answered) :
    World.Runs start ⟨state, suspended⟩ (invoke number) result ⟨answered, suspended⟩ := by
  rw [World.Runs, done]
  exact .done

/-- A call whose implementation returns at once. -/
theorem Serves.returned_silently {value : Value} {text : String} (silent : state.log = none)
    (stillSilent : answered.log = none)
    (found : state.invocations[number]? = some invocation)
    (needed : isNeeded progress.text invocation.token (state.queued index) = true)
    (done : invoke number (state.prepared number progress.results) = .done (.ok value) answered)
    (readable : resultText value = .ok text) :
    Serves start invoke index progress
      ⟨number, invocation, .returned value text, ⟨state, suspended⟩,
        ⟨answered.withStatus number .completed, suspended⟩⟩
      (.ok (progress.complete invocation.token text)) :=
  .returned (.silently silent found needed) (runs_at_once done) readable
    ⟨CacheState.tell_silent _ stillSilent, rfl⟩

end Drain

/-! ### Resolving a text -/

namespace Cache

variable {limits : Limits} {current : Option Nat}

/-- A rendering inside a coroutine. -/
def nested
    (limits : Limits)
    (current : Option Nat)
    (depth : Nat) : NestedRender := fun template data => do
  let text ← renderWithin limits current depth none template data
  return asValue text

/-- How the implementations behind the calls of a waitlist are run. -/
def resolver
    (limits : Limits)
    (current : Option Nat)
    (index : Nat) : Drain.Invoke :=
  invoker limits current index (nested limits current limits.depth)

theorem renderWithin_succ (depth : Nat) (done : Option Notify) (template data : Value) :
    renderWithin limits current (depth + 1) done template data =
      (Task.ofAction CacheState.openWaitlist >>= fun index =>
        Task.ofAction (Action.attempt (renderPass limits index template data)) >>= fun outcome =>
          match outcome with
          | .error failure => Task.ofAction (renderFailed done index failure)
          | .ok rendered =>
              Task.ofAction (renderCompleted index rendered) >>= fun _ =>
                resolveWaitlist (invoker limits current index (nested limits current depth))
                  limits.steps done current index rendered.text) := by
  rfl

theorem resolve_eq (done : Option Notify) (given : Option Nat) (text : String) :
    resolve limits current done given text =
      (Task.ofAction (takeWaitlist given current) >>= fun index =>
        resolveWaitlist (resolver limits current index) limits.steps done current index text) := by
  rfl

theorem resolveWaitlist_eq (invoke : Drain.Invoke) (fuel : Nat) (done : Option Notify)
    (index : Nat) (text : String) :
    resolveWaitlist invoke fuel done current index text =
      ((Drain.run invoke fuel index text).attempt >>= fun outcome =>
        match outcome with
        | .error failure => Task.ofAction (handFailure done current failure)
        | .ok result => Task.ofAction (handText done current result)) := by
  rfl

/-- Resolving a text in a given waitlist returns the text of its resolution, or raises the
failure of it. -/
theorem resolve_runs {start : Starter} {index : Nat} {text : String} {world after : World}
    {turns : List Turn} {outcome : Outcome String}
    (resolution : Drain.Resolution start (resolver limits current index) index text world turns
      outcome after)
    (enough : turns.length < limits.steps) :
    World.Runs start world (resolve limits current none (some index) text)
      (Outcome.asResult (outcome.map some)) after := by
  have takes : takeWaitlist (some index) current world.state = (.ok index, world.state) := rfl
  rw [resolve_eq]
  apply World.Runs.bind_read takes
  rw [resolveWaitlist_eq]
  have drained := (resolution.run enough).attempt
  cases outcome with
  | ok result => exact drained.bind (World.runs_action rfl rfl)
  | error failure => exact drained.bind (World.runs_action rfl rfl)

end Cache

end DeferredText
