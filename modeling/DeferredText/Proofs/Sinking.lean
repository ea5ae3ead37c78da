import DeferredText.Proofs.Orderly
import DeferredText.Proofs.Wording

/-!
Contract: failures that come up through nested renderings.

A rendering sinks when a call that it has come to fails: because a helper fails, or because
the helper waits for another rendering, or has started one that reports to its callback, and
that rendering sinks. Each rendering on the way hands the failure on as it is, drops what is
queued behind its call, and ends.

Owns: renderings that come to a call, renderings that sink, and the world in which the call
is run.

Does not own: how the failure comes out of them (`Proofs.Surfacing`).
-/

namespace DeferredText

open CacheState

/-! ### Coming to a call -/

namespace Drain

/-- Turns that come through, from one world to another. -/
inductive ComesTo
    (start : Starter)
    (invoke : Invoke)
    (index : Nat) : World → Progress → List Turn → World → Progress → Prop where
  | here {world : World} {progress : Progress} :
      ComesTo start invoke index world progress [] world progress
  | further {world reached : World} {progress next last : Progress} {turn : Turn}
      {turns : List Turn}
      (takes : Takes index world turn)
      (serves : Serves start invoke index progress turn (.ok next))
      (continues : ComesTo start invoke index turn.after next turns reached last) :
      ComesTo start invoke index world progress (turn :: turns) reached last

variable {start : Starter} {invoke : Invoke} {index : Nat} {world reached after : World}
  {progress last : Progress} {turns more : List Turn} {outcome : Outcome Progress}

theorem ComesTo.course (reaches : ComesTo start invoke index world progress turns reached last)
    (course : Course start invoke index reached last more outcome after) :
    Course start invoke index world progress (turns ++ more) outcome after := by
  induction reaches with
  | here => exact course
  | further takes serves _ inductionHypothesis =>
      exact .further takes serves (inductionHypothesis course)

end Drain

namespace CacheState

/-- The state after a call of a helper was noted. -/
def noted
    (state : CacheState)
    (label : String)
    (arguments : Arguments) : CacheState :=
  { state with calls := state.calls ++ [⟨label, arguments⟩] }

/-- The state after a promise was made for a helper. -/
def owing
    (state : CacheState)
    (name cycleId : String) : CacheState :=
  { state with promises := state.promises ++ [⟨name, cycleId, none⟩] }

end CacheState

namespace Cache

/-- The evaluation of a template comes through, and so do the calls that are resolved first;
then a call is run in a world, with others queued behind it. -/
inductive Arrives
    (limits : Limits)
    (current : Option Nat)
    (depth : Nat)
    (world : World)
    (template data : Value) : World → Nat → Invocation → List Nat → Prop where
  | intro {rendered : Rendered} {passed : CacheState} {shown begun reached asked : World}
      {turns : List Turn} {progress : Progress} {number : Nat} {recorded call : Invocation}
      {behind : List Nat}
      (passes : renderPass limits world.state.waitlists.length template data world.state.opened =
        (.ok rendered, passed))
      (shows : (world.withState passed).Tells
        (evaluated world.state.waitlists.length passed (.ok rendered)) shown)
      (begins : shown.Tells
        (.started (.text (shown.state.cycleId world.state.waitlists.length))
          (.int (shown.state.queue world.state.waitlists.length).length)) begun)
      (reaches : Drain.ComesTo (startRender limits)
        (invoker limits current world.state.waitlists.length (nested limits current depth))
        world.state.waitlists.length begun (.start rendered.text) turns reached progress)
      (queued : reached.state.queue world.state.waitlists.length = number :: behind)
      (calls : Drain.Calls world.state.waitlists.length progress number recorded
        (reached.withState (reached.state.withQueue world.state.waitlists.length behind)) asked)
      (found : asked.state.invocations[number]? = some call)
      (enough : turns.length + 1 < limits.steps) :
      Arrives limits current depth world template data asked number call behind

/-- If the call fails, the log can write the two lines that tell of it. -/
def AbortWritten
    (limits : Limits)
    (current : Option Nat)
    (depth index : Nat)
    (asked : World)
    (number : Nat)
    (call : Invocation) : Prop :=
  ∀ failure answered,
    World.Runs (startRender limits) asked
        (invoker limits current index (nested limits current depth) number)
        (.error (.failed failure)) answered →
      answered.state.Writes
          (.failed (.text (asked.state.cycleId index)) (.text call.name) (.failure failure)
            (.int (CacheState.elapsed asked.state.clock answered.state.clock))) ∧
        answered.state.Writes
          (.aborted (.text (asked.state.cycleId index)) (.int (answered.state.queue index).length))

end Cache

/-- A coroutine comes to wait for a rendering, and would fail as that rendering fails. -/
inductive Coroutine.Awaits
    (start : Starter)
    (limits : Limits)
    (current : Option Nat)
    (render : NestedRender) : World → Coroutine → World → Value → Value → Prop where
  | here {world : World} {template data : Value} {next : Outcome Value → Coroutine}
      (fails : ∀ failure, next (.error failure) = .fail failure) :
      Awaits start limits current render world (.render template data next) world template data
  | computes {world reached : World} {routine : Routine} {next : Outcome Value → Coroutine}
      {outcome : Outcome Value} {state : CacheState} {template data : Value}
      (acts : Action.attempt (runRoutine limits current routine) world.state =
        (.ok outcome, state))
      (further : Awaits start limits current render (world.withState state) (next outcome) reached
        template data) :
      Awaits start limits current render world (.compute routine next) reached template data
  | renders {world middle reached : World} {next : Outcome Value → Coroutine}
      {outcome : Outcome Value} {inner given template data : Value}
      (runs : World.Runs start world (render inner given).attempt (.ok outcome) middle)
      (further : Awaits start limits current render middle (next outcome) reached template data) :
      Awaits start limits current render world (.render inner given next) reached template data

namespace Cache

/-- A helper is called that answers through a callback, and its function has returned. -/
structure Waits
    (limits : Limits)
    (current : Option Nat)
    (index : Nat)
    (asked : World)
    (number : Nat)
    (call : Invocation)
    (waiting : CacheState) : Prop where
  style : call.target.style = .callback
  runs : Invoke.callback (runRoutine limits current) current asked.state.promises.length
      call.target call.arguments
      ((asked.state.noteStarted number).owing call.name (asked.state.cycleId index)) =
    (.ok (), waiting)

/-- A rendering fails in one of the calls that it comes to, and leaves calls behind unrun:
its own, and those of the renderings between it and the helper that fails. -/
inductive Sinks
    (limits : Limits)
    (current : Option Nat) : Nat → World → Value → Value → Mishap → List Nat → Prop where
  /-- A helper raises. -/
  | raised {depth number : Nat} {world asked answered : World} {template data : Value}
      {failure : Failure} {behind : List Nat} {call : Invocation}
      (arrives : Arrives limits current depth world template data asked number call behind)
      (written : AbortWritten limits current depth world.state.waitlists.length asked number call)
      (raises : World.Runs (startRender limits) asked
        (invoker limits current world.state.waitlists.length (nested limits current depth) number)
        (.error (.failed failure)) answered) :
      Sinks limits current (depth + 1) world template data (.exception failure) behind
  /-- The first completion that reaches the promise of a helper tells of a mishap. -/
  | reported {depth number count : Nat} {world asked rest : World} {template data : Value}
      {mishap : Mishap} {behind : List Nat} {call : Invocation} {completion : Completion}
      {waiting : CacheState}
      (arrives : Arrives limits current depth world template data asked number call behind)
      (written : AbortWritten limits current depth world.state.waitlists.length asked number call)
      (waits : Waits limits current world.state.waitlists.length asked number call waiting)
      (due : (World.deliverMany (startRender limits) count ⟨waiting, asked.suspended⟩).next? =
        some (.settle asked.state.promises.length completion, rest))
      (undecided : rest.state.outcome? asked.state.promises.length = none)
      (tells : completion.mishap? call.name = some mishap) :
      Sinks limits current (depth + 1) world template data mishap behind
  /-- A coroutine waits for a rendering that sinks. -/
  | awaited {depth number : Nat} {world asked inner : World}
      {template data innerTemplate innerData : Value} {mishap : Mishap}
      {behind further : List Nat} {call : Invocation} {label : String} {shape : Shape}
      {run : Arguments → Coroutine}
      (arrives : Arrives limits current depth world template data asked number call behind)
      (written : AbortWritten limits current depth world.state.waitlists.length asked number call)
      (target : call.target = .helper ⟨label, shape, .coroutine run⟩)
      (awaits : (run call.arguments).Awaits (startRender limits) limits current
        (nested limits current depth)
        (asked.withState ((asked.state.noteStarted number).noted label call.arguments))
        inner innerTemplate innerData)
      (sinks : Sinks limits current depth inner innerTemplate innerData mishap further) :
      Sinks limits current (depth + 1) world template data mishap (behind ++ further)
  /-- A helper has started a rendering whose outcome goes to its callback, and that rendering
  sinks when its turn comes. -/
  | started {depth number : Nat} {world asked inner : World}
      {template data innerTemplate innerData : Value} {mishap : Mishap}
      {behind further : List Nat} {call : Invocation} {waiting : CacheState}
      {early late : List Delivery}
      (arrives : Arrives limits current depth world template data asked number call behind)
      (written : AbortWritten limits current depth world.state.waitlists.length asked number call)
      (waits : Waits limits current world.state.waitlists.length asked number call waiting)
      (ready : waiting.ready = early ++
        .begin asked.state.promises.length innerTemplate innerData current :: late)
      (only : ∀ delivery ∈ early ++ late, delivery.target ≠ asked.state.promises.length)
      (begins : (World.deliverMany (startRender limits) early.length
          ⟨waiting, asked.suspended⟩).next? =
        some (.begin asked.state.promises.length innerTemplate innerData current, inner))
      (sinks : Sinks limits current limits.depth inner innerTemplate innerData mishap further) :
      Sinks limits current (depth + 1) world template data mishap (behind ++ further)

end Cache

/-! ### Running the implementation of a call -/

namespace Invoke

/-- What is left to do when the start of a call was noted. -/
def launched
    (limits : Limits)
    (current : Option Nat)
    (cycleId : String)
    (render : NestedRender)
    (call : Invocation) : Task CacheState Value :=
  match call.target with
  | .helper ⟨label, _, .coroutine run⟩ => do
      CacheState.noteCall label call.arguments
      (run call.arguments).run (runRoutine limits current) render
  | target => do
      let promise ← CacheState.makePromise call.name cycleId
      callback (runRoutine limits current) current promise target call.arguments
      Task.await promise

variable {limits : Limits} {current : Option Nat} {cycleId : String} {render : NestedRender}
  {call : Invocation} {number : Nat} {state : CacheState}

theorem implementation_eq (found : state.invocations[number]? = some call) :
    implementation limits current cycleId render number state =
      launched limits current cycleId render call (state.noteStarted number) := by
  have reads : (get : CacheAction CacheState) state = (.ok state, state) := rfl
  have starts : noteStart number state = (.ok (), state.noteStarted number) := rfl
  rw [implementation]
  refine (Task.bind_ok reads).trans ?_
  simp only [found]
  exact Task.bind_ok starts

theorem launched_callback (style : call.target.style = .callback) :
    launched limits current cycleId render call =
      (Task.ofAction (makePromise call.name cycleId) >>= fun promise =>
        Task.ofAction (callback (runRoutine limits current) current promise call.target
          call.arguments) >>= fun _ => Task.await promise) := by
  rw [launched]
  split
  · rename_i target
    rw [target] at style
    cases style
  · rfl

theorem launched_coroutine {label : String} {shape : Shape} {run : Arguments → Coroutine}
    (target : call.target = .helper ⟨label, shape, .coroutine run⟩) :
    launched limits current cycleId render call =
      (Task.ofAction (noteCall label call.arguments) >>= fun _ =>
        (run call.arguments).run (runRoutine limits current) render) := by
  rw [launched, target]
  rfl

end Invoke

/-! ### Tasks that conform -/

/-- From every state in order, the task keeps worlds in order. -/
structure Task.Conforms {α : Type} (own : Set Nat) (task : Task CacheState α) : Prop where
  sound : task.Sound
  owns : task.Owns own
  assigns : task.Assigns ∅

theorem Task.Conforms.at {α : Type} {own : Set Nat} {task : Task CacheState α}
    (conforms : task.Conforms own) {state : CacheState} (tidy : state.Tidy) :
    Step.Conforms own state (task state) :=
  ⟨conforms.sound state tidy, conforms.owns state, conforms.assigns state⟩

theorem Task.Conforms.bind {α β : Type} {own : Set Nat} {task : Task CacheState α}
    {next : α → Task CacheState β} (first : task.Conforms own)
    (second : ∀ value, (next value).Conforms own) : Conforms own (task >>= next) :=
  ⟨first.sound.bind fun value => (second value).sound,
    first.owns.bind fun value => (second value).owns,
    first.assigns.bind fun value => (second value).assigns⟩

theorem Task.Conforms.attempt {α : Type} {own : Set Nat} {task : Task CacheState α}
    (conforms : task.Conforms own) : task.attempt.Conforms own :=
  ⟨conforms.sound.attempt, conforms.owns.attempt, conforms.assigns.attempt⟩

theorem Task.conforms_pure {α : Type} {own : Set Nat} (value : α) :
    Task.Conforms own (pure value : Task CacheState α) :=
  ⟨Task.sound_pure value, Task.owns_pure value, Task.assigns_pure value⟩

theorem Invoke.conforms_launched {own : Set Nat} {limits : Limits} {current : Option Nat}
    {render : NestedRender} (renders : ∀ template data, (render template data).Conforms own)
    (cycleId : String) (call : Invocation) :
    (launched limits current cycleId render call).Conforms own := by
  rw [launched]
  split
  · exact ⟨(Task.Sound.of_action (quiet_noteCall _ _)).bind fun _ =>
        Coroutine.sound_run (quiet_runRoutine limits current)
          (fun template data => (renders template data).sound) _,
      (Task.Owns.of_action (quiet_noteCall _ _)).bind fun _ =>
        Coroutine.owns_run (quiet_runRoutine limits current)
          (fun template data => (renders template data).owns) _,
      (Task.Assigns.of_action (quiet_noteCall _ _)).bind fun _ =>
        Coroutine.assigns_run (quiet_runRoutine limits current)
          (fun template data => (renders template data).assigns) _⟩
  · exact ⟨(Task.Sound.of_action (quiet_makePromise _ cycleId)).bind fun promise =>
        (Task.Sound.of_action
          (quiet_callback (quiet_runRoutine limits current) current promise _ _)).bind fun _ =>
            Task.sound_await promise,
      (Task.Owns.of_action (quiet_makePromise _ cycleId)).bind fun promise =>
        (Task.Owns.of_action
          (quiet_callback (quiet_runRoutine limits current) current promise _ _)).bind fun _ =>
            Task.owns_await promise,
      assigns_owed limits current _ cycleId _ _⟩

namespace Cache

variable {own promises : Set Nat} {limits : Limits} {current : Option Nat} {depth index : Nat}

theorem conforms_renderWithin (depth : Nat) (template data : Value) :
    (renderWithin limits current depth none template data).Conforms own :=
  ⟨sound_renderWithin depth (by simp [Notifies]) template data,
    owns_renderWithin own depth (by simp [Spared]) template data,
    assigns_renderWithin depth reports_none template data⟩

theorem conforms_nested (depth : Nat) (template data : Value) :
    (nested limits current depth template data).Conforms own :=
  (conforms_renderWithin depth template data).bind fun text => Task.conforms_pure (asValue text)

/-- A turn takes a call off the waitlist and keeps the world in order. -/
theorem conforms_turn (limits : Limits) (current : Option Nat) (depth : Nat) {world : World}
    {turn : Turn} (sound : world.Sound)
    (takes : Drain.Takes index world turn) (progress : Progress) :
    turn.before.suspended = world.suspended ∧
      Step.Conforms {index} world.state
        (Drain.step (invoker limits current index (nested limits current depth)) index turn.number
          progress turn.before.state) := by
  obtain ⟨rest, queued, before⟩ := takes
  have fewer : rest.Sublist (world.state.queue index) := by
    rw [queued]
    exact List.sublist_cons_self _ _
  have leaves : Advances world.state (world.state.withQueue index rest) :=
    (Change.leaves world.state index rest fewer).advances sound.tidy
  have nests : ∀ template data,
      (nested limits current depth template data).Conforms ({index} : Set Nat) :=
    conforms_nested depth
  have held : Held {index} world.state turn.number :=
    held_of_queued (Set.mem_singleton index) (by simp [queued])
  rw [before]
  refine ⟨rfl, ?_, ?_, ?_⟩
  · exact (Drain.sound_step (sound_invoker (fun template data => (nests template data).sound) index)
      leaves.tidy (ready_taken sound.tidy queued) progress).after_advances leaves
  · exact Drain.owns_step (owns_invoker (fun template data => (nests template data).owns) index)
      progress (spares_withQueue fewer) held
  · have takesOnly : Assigns ∅ world.state (world.state.withQueue index rest) :=
      .of_same rfl rfl rfl
    exact .then takesOnly (Drain.assigns_step
      (fun number => assigns_invoker (fun template data => (nests template data).assigns) index
        number) index turn.number progress _)

theorem proceeds_of_comesTo {world reached : World} {progress last : Progress} {turns : List Turn}
    (orderly : world.Orderly {index} promises)
    (reaches : Drain.ComesTo (startRender limits)
      (invoker limits current index (nested limits current depth)) index world progress turns
      reached last) :
    World.Proceeds {index} promises {index} world reached := by
  induction reaches with
  | here => exact .refl orderly
  | further takes serves _ inductionHypothesis =>
      obtain ⟨same, conforms⟩ := conforms_turn limits current depth orderly.sound takes _
      have runs := serves.step
      rw [World.Runs, same] at runs
      have proceeds := orderly.ends conforms runs
      exact proceeds.trans (inductionHypothesis proceeds.orderly)

variable {world reached asked : World} {template data : Value} {number : Nat}
  {recorded call : Invocation} {behind : List Nat} {progress : Progress} {after : CacheState}

/-- Taking a call off its waitlist and noting that its implementation starts conforms. -/
theorem conforms_launch (tidy : reached.state.Tidy)
    (queued : reached.state.queue index = number :: behind)
    (calls : Drain.Calls index progress number recorded
      (reached.withState (reached.state.withQueue index behind)) asked) :
    Step.Conforms {index} reached.state
        (Step.done (.ok ()) (asked.state.noteStarted number)) ∧
      asked.state.started = reached.state.started := by
  have isQueued : number ∈ reached.state.queue index := by
    rw [queued]
    exact List.mem_cons_self
  have fewer : behind.Sublist (reached.state.queue index) := by
    rw [queued]
    exact List.sublist_cons_self _ _
  let taken := reached.state.withQueue index behind
  let prepared := taken.prepared number progress.results
  obtain ⟨lines, asks⟩ := tell_lines calls.tells.1
  have told : asked.state = prepared.withLines lines := asks
  have unstarted : prepared.started = taken.started := by
    simp only [prepared, CacheState.prepared]
    split <;> rfl
  have advances : Advances reached.state (asked.state.noteStarted number) := by
    have leaves : Advances reached.state taken :=
      (Change.leaves reached.state index behind fewer).advances tidy
    have ready : taken.Ready number := ready_taken tidy queued
    have prepares : Advances taken prepared := advances_prepared leaves.tidy ready.1 _
    have tells : Advances prepared asked.state := by
      rw [told]
      exact .of_idle prepares.tidy rfl rfl
    have readyAsked : asked.state.Ready number :=
      (ready.advances prepares unstarted).advances tells (by rw [told]; rfl)
    exact ((leaves.trans prepares).trans tells).trans
      ((Change.starts asked.state number readyAsked).advances tells.tidy)
  have spares : Spares {index} reached.state (asked.state.noteStarted number) := by
    refine Spares.noteStart ?_ (held_of_queued (Set.mem_singleton index) isQueued)
    have idle : Spares {index} prepared asked.state := by
      rw [told]
      exact .of_moves .empty (.of_core rfl) rfl
    exact ((spares_withQueue fewer).then (spares_prepared number progress.results)).then idle
  have assigns : Assigns ∅ reached.state (asked.state.noteStarted number) := by
    have settles : Assigns ∅ taken prepared := by
      have assigns : Assigns ∅ taken (Drain.prepare number progress.results taken).2 :=
        assigns_prepare number progress.results taken
      rwa [prepare_eq] at assigns
    rw [told]
    exact (Assigns.of_same rfl rfl rfl : Assigns ∅ reached.state taken).then
      (settles.then (.of_same rfl rfl rfl))
  exact ⟨⟨advances, spares, assigns⟩, told ▸ unstarted⟩

/-- The calls that are queued behind a call are queued nowhere else, and are not started when
the call is. -/
theorem rests_behind (tidy : reached.state.Tidy)
    (queued : reached.state.queue index = number :: behind)
    (advances : Advances reached.state after)
    (started : after.started = reached.state.started ++ [number])
    {other : Nat} (member : other ∈ behind) :
    after.Rests other index ∧ other ∉ after.started := by
  have isQueued : other ∈ reached.state.queue index := by
    rw [queued]
    exact List.mem_cons_of_mem number member
  have inside := tidy.exist index other isQueued
  refine ⟨⟨(lt_of_mem_queue isQueued).trans_le advances.waitlists,
    inside.trans_le advances.invocations, fun elsewhere still => ?_⟩, fun isStarted => ?_⟩
  · exact tidy.separate elsewhere index other (advances.queued elsewhere other still inside) isQueued
  · rw [started] at isStarted
    rcases List.mem_append.mp isStarted with old | new
    · exact tidy.gone other old index isQueued
    · have distinct := tidy.distinct index
      rw [queued, List.nodup_cons] at distinct
      exact distinct.1 (List.mem_singleton.mp new ▸ member)

/-- When a rendering runs a call, the world is in order, and the calls that are queued behind
it are queued nowhere else and were not started. -/
theorem Arrives.launches
    (arrives : Arrives limits current depth world template data asked number call behind)
    (orderly : world.Orderly ∅ promises) :
    World.Proceeds {world.state.waitlists.length} promises {world.state.waitlists.length}
        (world.withState world.state.opened) (asked.withState (asked.state.noteStarted number)) ∧
      ∀ other ∈ behind,
        (asked.state.noteStarted number).Rests other world.state.waitlists.length ∧
          other ∉ (asked.state.noteStarted number).started := by
  obtain ⟨passes, shows, begins, reaches, queued, calls, -, -⟩ := arrives
  rename_i rendered passed shown begun reached turns progress recorded
  let index := world.state.waitlists.length
  -- The evaluation, the lines of the log, and the turns before the call.
  have mild : (renderPass limits index template data).Mild :=
    quiet_renderPass limits index template data
  have evaluates : World.Proceeds {index} promises {index} (world.withState world.state.opened)
      (world.withState passed) := by
    have acts : World.Proceeds {index} promises {index} _ _ := orderly.opening.act mild
    rw [show (world.withState world.state.opened).state = world.state.opened from rfl, passes] at acts
    exact acts
  have shown := evaluates.trans (evaluates.orderly.tell shows)
  have begins := shown.trans (shown.orderly.tell begins)
  have reaches := begins.trans (proceeds_of_comesTo begins.orderly reaches)
  -- The call is taken, its arguments are settled, and its start is noted.
  have tidy := reaches.orderly.sound.tidy
  obtain ⟨conforms, unstarted⟩ := conforms_launch tidy queued calls
  have launched : World.Proceeds {index} promises {index} reached
      (asked.withState (asked.state.noteStarted number)) := by
    rw [World.withState, show asked.suspended = reached.suspended from calls.tells.2]
    exact reaches.orderly.step conforms
  have started : (asked.state.noteStarted number).started = reached.state.started ++ [number] :=
    congrArg (· ++ [number]) unstarted
  exact ⟨reaches.trans launched, fun _ => rests_behind tidy queued launched.advances started⟩

end Cache

end DeferredText
