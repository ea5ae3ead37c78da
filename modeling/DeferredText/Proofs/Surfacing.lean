import DeferredText.Proofs.Agreement
import DeferredText.Proofs.Sinking

/-!
Contract: how a failure comes out of nested renderings.

The call that fails ends its rendering with the failure that it ends with, whatever the other
renderings on the way are. So the outermost rendering raises what has happened to the helper
furthest inside, or hands it over. On the way down every waitlist is cleared, and what was
queued in it behind the failing call is not started any more.

Owns: the end of a rendering whose call fails, and of renderings that sink.

Does not own: what it means to sink (`Proofs.Sinking`).
-/

namespace DeferredText

open CacheState

/-! ### The end of a rendering whose call fails -/

namespace CacheState

variable {state : CacheState} {number other index : Nat} {lines : List String}

/-- The state after a resolution was cut off by a call that failed. -/
def cutOff
    (state : CacheState)
    (number index : Nat)
    (lines : List String) : CacheState :=
  ((state.withStatus number .failed).withQueue index []).withLines lines

theorem mem_queue_cutOff {elsewhere : Nat}
    (member : other ∈ (state.cutOff number index lines).queue elsewhere) :
    elsewhere ≠ index ∧ other ∈ state.queue elsewhere := by
  rw [cutOff, queue_withLines] at member
  by_cases same : elsewhere = index
  · rw [same, queue_cleared] at member
    cases member
  · rw [withQueue, queue_setWaitlist_other _ same, queue_withStatus] at member
    exact ⟨same, member⟩

theorem length_cutOff :
    (state.cutOff number index lines).invocations.length = state.invocations.length := by
  simp [cutOff, withStatus, withInvocation]

/-- What was queued in the waitlist is dropped. -/
theorem Rests.cutOff (rests : state.Rests other index) (unstarted : other ∉ state.started) :
    (state.cutOff number index lines).Ready other := by
  refine ⟨⟨rests.exists_call.trans_eq length_cutOff.symm, fun elsewhere member => ?_⟩, unstarted⟩
  obtain ⟨distinct, queued⟩ := mem_queue_cutOff member
  exact distinct (rests.only elsewhere queued)

theorem Ready.cutOff (ready : state.Ready other) :
    (state.cutOff number index lines).Ready other :=
  ⟨⟨ready.1.1.trans_eq length_cutOff.symm, fun elsewhere member =>
    ready.1.2 elsewhere (mem_queue_cutOff member).2⟩, ready.2⟩

theorem spares_cutOff (own : Set Nat) : Spares own state (state.cutOff number index lines) := by
  have waitlists : (state.cutOff number index lines).waitlists.length = state.waitlists.length := by
    simp [CacheState.cutOff, withStatus, withInvocation, withLines, withQueue, setWaitlist]
  exact .of_queues waitlists.ge (.inl rfl) length_cutOff.ge
    (fun _ _ member _ => (mem_queue_cutOff member).2) rfl

end CacheState

/-- Between the moment when a call is taken and the one when it is run, only its arguments
change. -/
theorem Drain.Calls.same {index number : Nat} {progress : Progress} {recorded call : Invocation}
    {before asked : World} (calls : Calls index progress number recorded before asked)
    (found : asked.state.invocations[number]? = some call) :
    asked.state.cycleId index = before.state.cycleId index ∧
      asked.state.clock = before.state.clock ∧ call.name = recorded.name := by
  obtain ⟨lines, asks⟩ := tell_lines calls.tells.1
  have told : asked.state = (before.state.prepared number progress.results).withLines lines := asks
  rw [told, invocations_withLines] at found
  rw [told]
  rw [prepared] at found ⊢
  by_cases unchanged : progress.results.isEmpty
  · rw [if_pos unchanged, calls.found] at found
    cases found
    rw [if_pos unchanged]
    exact ⟨rfl, rfl, rfl⟩
  · rw [if_neg unchanged] at found ⊢
    simp only [withInvocation, List.getElem?_modify_eq, calls.found] at found
    cases found
    exact ⟨rfl, rfl, rfl⟩

namespace Cache

variable {limits : Limits} {current : Option Nat} {depth : Nat} {world asked answered : World}
  {template data : Value} {number : Nat} {call : Invocation} {behind : List Nat}
  {failure : Failure} {waiting : CacheState}

theorem Arrives.evaluationWritten
    (arrives : Arrives limits current depth world template data asked number call behind) :
    EvaluationWritten limits world.state template data := by
  obtain ⟨passes, shows, -, -, -, -, -, -⟩ := arrives
  intro outcome passed attempts
  rw [Action.attempt_eq, passes] at attempts
  cases attempts
  by_contra unwritten
  obtain ⟨failure, stops⟩ := tell_unwritten unwritten
  have tells := shows.1
  rw [World.withState, stops] at tells
  cases tells

/-- A rendering ends with the failure of the call that it runs. -/
theorem Arrives.fails
    (arrives : Arrives limits current depth world template data asked number call behind)
    (written : AbortWritten limits current depth world.state.waitlists.length asked number call)
    (runs : World.Runs (startRender limits) asked
      (invoker limits current world.state.waitlists.length (nested limits current depth) number)
      (.error (.failed failure)) answered) :
    ∃ lines, World.Runs (startRender limits) world
      (renderWithin limits current (depth + 1) none template data) (.error (.failed failure))
      (answered.withState (answered.state.cutOff number world.state.waitlists.length lines)) := by
  obtain ⟨passes, shows, begins, reaches, queued, calls, found, enough⟩ := arrives
  rename_i rendered passed shown begun reached turns progress recorded
  obtain ⟨failed, aborted⟩ := written failure answered runs
  obtain ⟨cycle, clock, name⟩ := calls.same found
  rw [cycle, clock, name] at failed
  rw [cycle] at aborted
  let index := world.state.waitlists.length
  let dropped := answered.withState ((answered.state.withStatus number .failed).withQueue index [])
  obtain ⟨lines, tells⟩ := dropped.tells_writes failed
  obtain ⟨more, closes⟩ := (dropped.withState (dropped.state.withLines lines)).tells_writes aborted
  refine ⟨more, ?_⟩
  -- The turns up to the failing one, and what the rendering does with them.
  have course := reaches.course (.failed ⟨behind, queued, rfl⟩ (.failed calls runs tells closes))
  have resolves := Drain.Resolution.run (.failed begins course)
    (by rw [List.length_append]; exact enough)
  have attempts : Action.attempt (renderPass limits index template data) world.state.opened =
      (.ok (.ok rendered), passed) := by
    rw [Action.attempt_eq, passes]
    rfl
  rw [renderWithin_succ]
  apply World.Runs.bind_action (openWaitlist_eq world.state)
  apply World.Runs.bind_action attempts
  apply World.Runs.bind_action ((renderCompleted_eq index rendered passed).trans shows.1)
  rw [resolveWaitlist_eq, ← show shown.suspended = world.suspended from shows.2]
  exact resolves.attempt.bind (World.runs_action rfl rfl)

/-! ### The run of a call that fails -/

theorem invoker_launches {index : Nat} (found : asked.state.invocations[number]? = some call) :
    invoker limits current index (nested limits current depth) number asked.state =
      Invoke.launched limits current (asked.state.cycleId index) (nested limits current depth) call
        (asked.state.noteStarted number) := by
  have reads : (get : CacheAction CacheState) asked.state = (.ok asked.state, asked.state) := rfl
  rw [← Invoke.implementation_eq found]
  exact Task.bind_ok reads

/-- A call is run by what is left to do when its start was noted. -/
theorem invoker_runs {index : Nat} {result : Except Stop Value}
    (found : asked.state.invocations[number]? = some call)
    (runs : World.Runs (startRender limits) (asked.withState (asked.state.noteStarted number))
      (Invoke.launched limits current (asked.state.cycleId index) (nested limits current depth) call)
      result answered) :
    World.Runs (startRender limits) asked
      (invoker limits current index (nested limits current depth) number) result answered := by
  rw [World.Runs, invoker_launches found]
  exact runs

/-- The outcome of a promise that was just made is awaited. -/
theorem Waits.launched {index : Nat}
    (waits : Waits limits current index asked number call waiting) (render : NestedRender) :
    Invoke.launched limits current (asked.state.cycleId index) render call
        (asked.state.noteStarted number) =
      Task.await asked.state.promises.length waiting := by
  have makes : makePromise call.name (asked.state.cycleId index) (asked.state.noteStarted number) =
      (.ok asked.state.promises.length,
        (asked.state.noteStarted number).owing call.name (asked.state.cycleId index)) := rfl
  rw [Invoke.launched_callback waits.style, Task.bind_ok makes, Task.bind_ok waits.runs]

theorem Waits.assigns {index : Nat}
    (waits : Waits limits current index asked number call waiting) :
    CacheState.Assigns {asked.state.promises.length}
      ((asked.state.noteStarted number).owing call.name (asked.state.cycleId index)) waiting := by
  have assigns : Action.Respects (CacheState.Assigns {asked.state.promises.length}) _ :=
    Invoke.assigns_callback (quiet_runRoutine limits current) (Set.mem_singleton _) current
      call.target call.arguments
  have changes := assigns
    ((asked.state.noteStarted number).owing call.name (asked.state.cycleId index))
  rwa [waits.runs] at changes

/-- The promise is that of the helper that is called, and it is not decided yet. -/
theorem Waits.owes {index : Nat}
    (waits : Waits limits current index asked number call waiting) :
    waiting.promises[asked.state.promises.length]? =
      some ⟨call.name, asked.state.cycleId index, none⟩ := by
  obtain ⟨made, promises⟩ := waits.assigns.promises
  rw [promises, owing, List.getElem?_append_left (by simp [noteStarted]),
    List.getElem?_append_right (by simp [noteStarted])]
  simp [noteStarted]

end Cache

namespace Coroutine

variable {limits : Limits} {current : Option Nat} {render : NestedRender} {world inner after : World}
  {coroutine : Coroutine} {template data : Value} {failure : Failure}
  {waitlists promises own : Set Nat}

/-- A coroutine that does not catch the failure of a rendering ends with it. -/
theorem Awaits.fails
    (awaits : coroutine.Awaits (Cache.startRender limits) limits current render world inner
      template data)
    (runs : World.Runs (Cache.startRender limits) inner (render template data)
      (.error (.failed failure)) after) :
    World.Runs (Cache.startRender limits) world (coroutine.run (runRoutine limits current) render)
      (.error (.failed failure)) after := by
  induction awaits with
  | here uncaught =>
      rw [Coroutine.run]
      apply World.Runs.bind runs.attempt
      rw [uncaught failure]
      exact World.runs_action rfl rfl
  | computes acts _ inductionHypothesis =>
      rw [Coroutine.run]
      exact World.Runs.bind_action acts (inductionHypothesis runs)
  | renders earlier _ inductionHypothesis =>
      rw [Coroutine.run]
      exact World.Runs.bind earlier (inductionHypothesis runs)

/-- Until a coroutine comes to the rendering, it keeps the world in order. -/
theorem Awaits.proceeds
    (awaits : coroutine.Awaits (Cache.startRender limits) limits current render world inner
      template data)
    (renders : ∀ template data, (render template data).Conforms own)
    (orderly : world.Orderly waitlists promises) :
    World.Proceeds waitlists promises own world inner := by
  induction awaits with
  | here => exact .refl orderly
  | @computes world _ routine _ _ _ _ _ acts _ inductionHypothesis =>
      have mild : (Action.attempt (runRoutine limits current routine)).Mild :=
        (quiet_runRoutine limits current routine).attempt
      have computes : World.Proceeds waitlists promises own world (world.withState _) :=
        orderly.act mild
      rw [acts] at computes
      exact computes.trans (inductionHypothesis computes.orderly)
  | @renders world _ _ _ _ inner given _ _ runs _ inductionHypothesis =>
      have proceeds : World.Proceeds waitlists promises own world _ :=
        orderly.ends ((renders inner given).attempt.at orderly.sound.tidy) runs
      exact proceeds.trans (inductionHypothesis proceeds.orderly)

end Coroutine

/-! ### Renderings that sink -/

namespace Cache

variable {limits : Limits} {current : Option Nat} {depth : Nat} {world asked answered after : World}
  {template data : Value} {number : Nat} {call : Invocation} {behind further : List Nat}
  {failure : Failure} {waiting : CacheState}

/-- A rendering ends with a failure; of those who wait nobody takes calls from its waitlist, and
the calls that were left behind are queued nowhere and were not started. -/
structure Abandons
    (limits : Limits)
    (current : Option Nat)
    (depth : Nat)
    (world : World)
    (template data : Value)
    (failure : Failure)
    (behind : List Nat)
    (after : World) : Prop where
  runs : World.Runs (startRender limits) world
    (renderWithin limits current depth none template data) (.error (.failed failure)) after
  passes : World.Passes {world.state.waitlists.length} {world.state.waitlists.length}
    (world.withState world.state.opened) after
  dropped : ∀ number ∈ behind, after.state.Ready number

/-- When the call that a rendering has come to fails, the rendering is given up. -/
theorem Arrives.abandons
    (arrives : Arrives limits current depth world template data asked number call behind)
    (written : AbortWritten limits current depth world.state.waitlists.length asked number call)
    (orderly : world.Orderly ∅ ∅)
    (runs : World.Runs (startRender limits) (asked.withState (asked.state.noteStarted number))
      (Invoke.launched limits current (asked.state.cycleId world.state.waitlists.length)
        (nested limits current depth) call) (.error (.failed failure)) answered)
    (dropped : ∀ other ∈ further, answered.state.Ready other) :
    ∃ after, Abandons limits current (depth + 1) world template data failure (behind ++ further)
      after := by
  let index := world.state.waitlists.length
  have found : asked.state.invocations[number]? = some call := by
    obtain ⟨-, -, -, -, -, -, found, -⟩ := arrives
    exact found
  obtain ⟨launched, waits⟩ := arrives.launches orderly
  have conforms : (Invoke.launched limits current (asked.state.cycleId index)
      (nested limits current depth) call).Conforms (∅ : Set Nat) :=
    Invoke.conforms_launched (conforms_nested depth) _ call
  have proceeds : World.Proceeds {index} ∅ ∅ _ answered :=
    launched.orderly.ends (conforms.at launched.orderly.sound.tidy) runs
  obtain ⟨lines, ends⟩ := arrives.fails written (invoker_runs found runs)
  have spared : index ∉ ({index}ᶜ ∪ ∅ : Set Nat) := by
    rintro (other | nowhere)
    · exact other rfl
    · exact nowhere
  have closes : World.Passes {index} {index} answered
      (answered.withState (answered.state.cutOff number index lines)) :=
    proceeds.orderly.sparing.withState (spares_cutOff _)
  have whole := launched.trans (proceeds.mono (Set.empty_subset _))
  refine ⟨_, ends, .trans ⟨whole.orderly.sparing, whole.spares⟩ closes, ?_⟩
  intro other member
  rcases List.mem_append.mp member with own | inner
  · obtain ⟨rests, unstarted⟩ := waits other own
    obtain ⟨still, started⟩ := proceeds.spares.rests index spared other rests
    exact still.cutOff fun isStarted => unstarted (started isStarted)
  · exact (dropped other inner).cutOff

variable {index count : Nat} {inner rest last : World} {completion : Completion} {mishap : Mishap}

/-- A call goes on as the task that awaits its promise does. -/
theorem Waits.awaited {result : Except Stop Value}
    (waits : Waits limits current index asked number call waiting)
    (ends : Ends (startRender limits) asked.suspended
      ((Task.await asked.state.promises.length : Task CacheState Value) waiting) result last)
    (render : NestedRender) :
    World.Runs (startRender limits) (asked.withState (asked.state.noteStarted number))
      (Invoke.launched limits current (asked.state.cycleId index) render call) result last := by
  change Ends _ asked.suspended (Invoke.launched limits current (asked.state.cycleId index) render
    call (asked.state.noteStarted number)) _ last
  rw [waits.launched]
  exact ends

/-- When the promise is decided by a failure, the call fails. -/
theorem Waits.fails
    (waits : Waits limits current index asked number call waiting)
    (awakens : World.Awakens (startRender limits) asked.state.promises.length
      ⟨waiting, asked.suspended⟩ (.error failure) last) (depth : Nat) :
    World.Runs (startRender limits) (asked.withState (asked.state.noteStarted number))
      (Invoke.launched limits current (asked.state.cycleId index) (nested limits current depth) call)
      (.error (.failed failure)) last :=
  waits.awaited (awakens.ends .done) (nested limits current depth)

/-- Nobody else reports to the promise that was made. -/
theorem Waits.reserves
    (waits : Waits limits current index asked number call waiting)
    (reserves : (asked.withState (asked.state.noteStarted number)).Reserves ∅) :
    World.Reserves (insert asked.state.promises.length ∅) ⟨waiting, asked.suspended⟩ := by
  have conforms : (Invoke.launched limits current (asked.state.cycleId index)
      (nested limits current 0) call).Conforms (∅ : Set Nat) :=
    Invoke.conforms_launched (conforms_nested 0) _ call
  have step := conforms.assigns (asked.state.noteStarted number)
  rw [waits.launched] at step
  obtain ⟨assigns, unused, inside, -⟩ := step
  exact reserves.reserve assigns unused inside

/-- The world in which the outcome of a call is awaited. -/
theorem Waits.proceeds {waitlists : Set Nat}
    (waits : Waits limits current index asked number call waiting)
    (orderly : (asked.withState (asked.state.noteStarted number)).Orderly waitlists ∅) :
    World.Proceeds waitlists ∅ ∅ (asked.withState (asked.state.noteStarted number))
      ⟨waiting, asked.suspended⟩ := by
  have conforms : (Invoke.launched limits current (asked.state.cycleId index)
      (nested limits current 0) call).Conforms (∅ : Set Nat) :=
    Invoke.conforms_launched (conforms_nested 0) _ call
  have step := conforms.at orderly.sound.tidy
  rw [World.withState, waits.launched] at step
  exact orderly.step step

/-- What the first completion tells of is what the call fails with. -/
theorem Waits.reported
    (waits : Waits limits current index asked number call waiting)
    (orderly : World.Orderly {index} ∅ ⟨waiting, asked.suspended⟩)
    (due : (World.deliverMany (startRender limits) count ⟨waiting, asked.suspended⟩).next? =
      some (.settle asked.state.promises.length completion, rest))
    (undecided : rest.state.outcome? asked.state.promises.length = none)
    (tells : completion.mishap? call.name = some mishap) (becomes : mishap.Becomes failure) :
    ∃ last, World.Awakens (startRender limits) asked.state.promises.length
      ⟨waiting, asked.suspended⟩ (.error failure) last := by
  have owes : waiting.debtor? asked.state.promises.length = some call.name := by
    rw [debtor?, waits.owes]
    rfl
  obtain ⟨last, awakens, -, -⟩ := orderly.reserves.reported (reporting_startRender limits)
    orderly.clear due owes undecided (Completion.outcome_mishap tells becomes)
  exact ⟨last, awakens⟩

/-- What a started rendering fails with is what the call fails with; until then nobody starts
what the rendering has left behind. -/
theorem Waits.relayed {innerTemplate innerData : Value} {early late : List Delivery}
    (waits : Waits limits current index asked number call waiting)
    (orderly : World.Orderly {index} ∅ ⟨waiting, asked.suspended⟩)
    (reserves : World.Reserves (insert asked.state.promises.length ∅) ⟨waiting, asked.suspended⟩)
    (ready : waiting.ready = early ++
      .begin asked.state.promises.length innerTemplate innerData current :: late)
    (only : ∀ delivery ∈ early ++ late, delivery.target ≠ asked.state.promises.length)
    (begins : (World.deliverMany (startRender limits) early.length
        ⟨waiting, asked.suspended⟩).next? =
      some (.begin asked.state.promises.length innerTemplate innerData current, inner))
    (written : EvaluationWritten limits inner.state innerTemplate innerData)
    (abandons : inner.Orderly ∅ ∅ → ∃ after,
      Abandons limits current limits.depth inner innerTemplate innerData failure further after) :
    ∃ last, World.Awakens (startRender limits) asked.state.promises.length
        ⟨waiting, asked.suspended⟩ (.error failure) last ∧
      ∀ other ∈ further, last.state.Ready other := by
  have clear : Clear (insert asked.state.promises.length ∅) (early ++ late) :=
    fun other member inside => inside.elim (only other member) (Set.notMem_empty _)
  -- The world is in order when the rendering is begun, and so it is when it has ended.
  obtain ⟨delivers, leaves, -⟩ := reserves.delivers (reporting_startRender limits)
    (Set.mem_insert _ _) ready fun other member => clear other (List.mem_append_left _ member)
  have delivered := delivers.goesOn orderly.sound
  have spared : World.Passes {index} ∅ _ _ := delivers.passes orderly.sparing
  have popped := (leaves.reserves.next begins).1
  have orderlyInner : inner.Orderly {index} ∅ :=
    ⟨(delivered.1.next begins).1, (spared.1.next ∅ begins).1,
      popped.reserves.mono (Set.empty_subset _), clear_empty _⟩
  obtain ⟨after, ⟨runs, -, dropped⟩⟩ := abandons
    ⟨orderlyInner.sound, orderlyInner.sparing.fewer (Set.empty_subset _), orderlyInner.reserves,
      orderlyInner.clear⟩
  have conforms : (renderWithin limits current limits.depth none innerTemplate innerData).Conforms
      (∅ : Set Nat) := conforms_renderWithin limits.depth innerTemplate innerData
  have ended : World.Proceeds {index} ∅ ∅ inner after :=
    orderlyInner.ends (conforms.at orderlyInner.sound.tidy) runs
  -- Its failure is due, and wakes the call.
  obtain ⟨last, reaches, awakens, -, -⟩ := @started_wakes limits current innerTemplate innerData
    asked.state.promises.length ∅ ⟨waiting, asked.suspended⟩ inner after (.error failure)
    ⟨call.name, asked.state.cycleId index, none⟩ reserves (Set.notMem_empty _) early late ready clear
    begins waits.owes rfl written runs
  refine ⟨last, .behind reaches awakens, fun other member => ?_⟩
  have told : Advances after.state (after.state.withReady (after.state.ready ++
      [.settle asked.state.promises.length (completionOf (.error failure))])) :=
    .of_idle ended.orderly.sound.tidy rfl rfl
  have sparing : World.Passes {index} ∅ after (after.withState (after.state.withReady
      (after.state.ready ++ [.settle asked.state.promises.length (completionOf (.error failure))]))) :=
    ended.orderly.sparing.withState (.of_moves .empty (.of_core rfl) rfl)
  exact awakens.ready (ended.orderly.sound.advance told).1 sparing.1 (dropped other member)

theorem Sinks.evaluationWritten
    (sinks : Sinks limits current depth world template data mishap behind) :
    EvaluationWritten limits world.state template data := by
  cases sinks with
  | raised arrives => exact arrives.evaluationWritten
  | reported arrives => exact arrives.evaluationWritten
  | awaited arrives => exact arrives.evaluationWritten
  | started arrives => exact arrives.evaluationWritten

/-- A rendering that sinks is given up, with what has happened furthest inside. -/
theorem Sinks.abandons
    (sinks : Sinks limits current depth world template data mishap behind)
    (becomes : mishap.Becomes failure) (orderly : world.Orderly ∅ ∅) :
    ∃ after, Abandons limits current depth world template data failure behind after := by
  induction sinks with
  | @raised depth number world asked answered template data _ behind call arrives written raises =>
      cases becomes
      have found : asked.state.invocations[number]? = some call := by
        obtain ⟨-, -, -, -, -, -, found, -⟩ := arrives
        exact found
      rw [World.Runs, invoker_launches found] at raises
      rw [← List.append_nil behind]
      exact arrives.abandons written orderly raises (by simp)
  | @reported depth number count world asked rest template data _ behind call completion waiting
      arrives written waits due undecided tells =>
      have launched := (arrives.launches orderly).1
      have proceeds := waits.proceeds launched.orderly
      obtain ⟨last, awakens⟩ := waits.reported proceeds.orderly due undecided tells becomes
      rw [← List.append_nil behind]
      exact arrives.abandons written orderly (waits.fails awakens depth) (by simp)
  | @awaited depth number world asked inner template data innerTemplate innerData _ behind further
      call label shape run arrives written target awaits sinks inductionHypothesis =>
      have launched := (arrives.launches orderly).1
      -- The coroutine is begun, and goes on until it comes to the rendering.
      have mild : (noteCall label call.arguments).Mild := quiet_noteCall label call.arguments
      have notes : World.Proceeds {world.state.waitlists.length} ∅ ∅ _ _ := launched.orderly.act mild
      have reaches : World.Proceeds {world.state.waitlists.length} ∅ ∅ _ inner :=
        awaits.proceeds (conforms_nested depth) notes.orderly
      obtain ⟨after, ⟨runs, -, dropped⟩⟩ := inductionHypothesis becomes
        ⟨reaches.orderly.sound, reaches.orderly.sparing.fewer (Set.empty_subset _),
          reaches.orderly.reserves, reaches.orderly.clear⟩
      have fails : World.Runs (startRender limits) inner
          (nested limits current depth innerTemplate innerData) (.error (.failed failure)) after :=
        runs.bind_error
      refine arrives.abandons written orderly ?_ dropped
      rw [Invoke.launched_coroutine target]
      exact World.Runs.bind_action rfl (awaits.fails fails)
  | @started depth number world asked inner template data innerTemplate innerData _ behind further
      call waiting early late arrives written waits ready only begins sinks inductionHypothesis =>
      have launched := (arrives.launches orderly).1
      have proceeds := waits.proceeds launched.orderly
      obtain ⟨last, awakens, dropped⟩ := waits.relayed proceeds.orderly
        (waits.reserves launched.orderly.reserves) ready only begins sinks.evaluationWritten
        (inductionHypothesis becomes)
      exact arrives.abandons written orderly (waits.fails awakens depth) dropped

end Cache

/-! ### Sessions -/

/-- Where the run without a completion function raises, the other one has called it. -/
theorem World.Agrees.handed {notify : Notify} {within : Option Nat} {failure : Failure}
    {after : World} {told : CacheState} {handed : Except Stop (Option String) × World}
    (agrees : World.Agrees notify within (.error (.failed failure), after) handed)
    (called : notify within ⟨some failure, none⟩ after.state = (.ok (), told)) :
    handed = (.ok none, after.withState told) := by
  obtain ⟨result, ⟨state, suspended⟩⟩ := handed
  obtain ⟨ends, beside⟩ := agrees
  dsimp only at ends beside
  subst beside
  cases ends with
  | failure again =>
      rw [called] at again
      cases again
      rfl
  | unfinished cut => exact absurd rfl (cut failure)

namespace Session

variable {session later : Session} {template data : Value} {failure : Failure}
  {behind : List Nat} {after : World}

/-- A failure comes out of a rendering: it is raised, or handed to the completion function, which
is called once; and none of the calls that were left behind is started, not even later. -/
structure Surfaces
    (session : Session)
    (template data : Value)
    (failure : Failure)
    (behind : List Nat)
    (after : World) : Prop where
  raised : ∃ fuel, ∀ more, fuel ≤ more →
    session.world.run (Cache.startRender session.limits) more
      (Cache.render session.limits session.current none template data) =
        (.error (.failed failure), after)
  handed : ∀ notify : Notify, notify.Calm →
    ∃ within told, (within = session.current ∨ within = some session.state.waitlists.length) ∧
      notify within ⟨some failure, none⟩ after.state = (.ok (), told) ∧
      ∃ fuel, ∀ more, fuel ≤ more →
        session.world.run (Cache.startRender session.limits) more
          (Cache.render session.limits session.current (some notify) template data) =
            (.ok none, after.withState told)
  unqueued : ∀ number ∈ behind, ∀ index, number ∉ after.state.queue index
  unstarted : ∀ later, UsesBut {session.state.waitlists.length} { session with world := after } later →
    ∀ number ∈ behind, number ∉ later.state.started

/-- What was dropped is not started later, as long as nobody names the waitlist of the rendering. -/
theorem unstarted_of_abandons (sound : session.Sound) (sparing : session.world.Sparing ∅)
    {depth : Nat}
    (abandons : Cache.Abandons session.limits session.current depth session.world template data
      failure behind after)
    (uses : UsesBut {session.state.waitlists.length} { session with world := after } later)
    {number : Nat} (member : number ∈ behind) : number ∉ later.state.started := by
  have closed : Session.Sparing {session.state.waitlists.length} { session with world := after } :=
    ⟨abandons.passes.1, fun other isOpen => Nat.ne_of_lt (sound.cycles other isOpen),
      abandons.passes.fallback sparing.opening (Nat.ne_of_lt sound.world.tidy.fallback)⟩
  obtain ⟨isSpent, unstarted⟩ := abandons.dropped number member
  have rests : after.state.Rests number session.state.waitlists.length :=
    ⟨abandons.passes.1.opened _ rfl, isSpent.1, fun other queued => absurd queued (isSpent.2 other)⟩
  have spares := (uses.passes closed).2
  exact fun isStarted => unstarted ((spares.rests _ (fun outside => outside rfl) number rests).2 isStarted)

end Session

/-- Failures cross nested renderings untouched. If a rendering sinks, however deep and through
whatever mix of coroutines and callbacks, then an exception comes out of the outermost rendering
as it is, and any other value that was reported comes out as the one report that the standard
catalog makes of it: it names the helper that has reported the value, shows the text of the value
as it is, and wraps nothing. No call that is queued behind a failing one is started. -/
theorem failures_surface {shape : PlaceholderShape} {strict warnsOnOverride : Bool}
    {log : Option LogSettings} {registry : Registry} {session : Session}
    (uses : Session.Uses (.start (unused shape strict warnsOnOverride log registry)) session)
    {template data : Value} {mishap : Mishap} {behind : List Nat}
    (sinks : Cache.Sinks session.limits session.current session.limits.depth session.world template
      data mishap behind) :
    (∀ failure, mishap = .exception failure →
      ∃ after, session.Surfaces template data failure behind after) ∧
    ∀ helper value shown, mishap = .complaint helper value → Failure.ofValue? value = none →
      value.display = .ok shown →
      ∃ report after,
        ReportCatalog.standard.ofErrorValue value (.text helper) = .ok (.reported report) ∧
        report.code = "HELPER_FAILED" ∧ report.helperName = .text helper ∧
        report.detail = .text shown ∧ report.cause = none ∧
        session.Surfaces template data (.reported report) behind after := by
  have orderly : session.world.Orderly ∅ ∅ := uses.orderly
  have sound : session.Sound :=
    (uses.sound (Session.sound_start (tidy_unused shape strict warnsOnOverride log registry))).1
  have surfaces : ∀ failure, mishap.Becomes failure →
      ∃ after, session.Surfaces template data failure behind after := by
    intro failure becomes
    obtain ⟨after, abandons⟩ := sinks.abandons becomes orderly
    obtain ⟨fuel, raises⟩ := abandons.runs.run
    refine ⟨after, ⟨fuel, raises⟩, fun notify calm => ?_,
      fun number member => (abandons.dropped number member).1.2,
      fun later further number member =>
        Session.unstarted_of_abandons sound orderly.sparing abandons further member⟩
    obtain ⟨within, inside, agrees⟩ :=
      Cache.agrees_render session.current calm sinks.evaluationWritten
    obtain ⟨told, called⟩ := calm within ⟨some failure, none⟩ after.state
    refine ⟨within, told, inside, called, fuel, fun more enough => ?_⟩
    have ends : World.Agrees notify within
        (session.world.run (Cache.startRender session.limits) more
          (Cache.render session.limits session.current none template data))
        (session.world.run (Cache.startRender session.limits) more
          (Cache.render session.limits session.current (some notify) template data)) :=
      agrees.runToEnd more session.world.suspended
    have raised : session.world.run (Cache.startRender session.limits) more
        (Cache.render session.limits session.current none template data) =
          (.error (.failed failure), after) := raises more enough
    rw [raised] at ends
    exact ends.handed called
  refine ⟨fun failure isException => surfaces failure (isException ▸ .kept failure), ?_⟩
  intro helper value shown isComplaint isOther shows
  have makes : ReportCatalog.standard.ofErrorValue value (.text helper) =
      .ok (.reported (.helperFailed helper shown)) := ReportCatalog.ofErrorValue_other isOther shows
  obtain ⟨after, holds⟩ :=
    surfaces (.reported (.helperFailed helper shown)) (isComplaint ▸ .blamed isOther makes)
  exact ⟨.helperFailed helper shown, after, makes, rfl, rfl, rfl, rfl, holds⟩

/-! ### Caches without a log -/

/-- Nothing waits and nothing is due. -/
theorem World.Reserves.of_idle {world : World} (suspended : world.suspended = [])
    (ready : world.state.ready = []) : world.Reserves ∅ where
  known := fun _ member => absurd member (Set.notMem_empty _)
  waiting := fun _ member => absurd (suspended ▸ member) List.not_mem_nil
  apart := suspended ▸ List.nodup_nil
  due := fun _ member => absurd (ready ▸ member) List.not_mem_nil
  tasks := fun _ member => absurd (suspended ▸ member) List.not_mem_nil

/-- Without a log there is nothing to write. -/
theorem Cache.abortWritten_silent {limits : Limits} {current : Option Nat} {depth index : Nat}
    {asked : World} {number : Nat} {call : Invocation} (reserves : asked.Reserves ∅)
    (silent : asked.state.log = none) :
    AbortWritten limits current depth index asked number call := by
  intro failure answered runs
  have leaves := (reserves.runs (clear_empty _) (reporting_startRender limits)
    (assigns_invoker (assigns_nested depth) index number) runs).1
  have still : answered.state.log = none := leaves.log.trans silent
  constructor <;>
  · intro settings logs
    rw [still] at logs
    cases logs

namespace Sample

/-- A template that calls a helper and then another one. -/
def calling (name : String) : String :=
  "\x7b\x7b" ++ name ++ "()\x7d\x7d\x7b\x7bz()\x7d\x7d"

/-- A coroutine that waits for a rendering and returns its text. -/
def awaiting : Callable :=
  .helper ⟨"a", .function, .coroutine fun _ =>
    .render (.text (calling "b")) .none fun outcome => .ofOutcome outcome .finish⟩

/-- A helper that starts a rendering whose outcome goes to its callback. -/
def starting : Callable :=
  .helper ⟨"b", .function, .callback fun _ => .startRender (.text (calling "c")) .none .finish⟩

/-- What the helper furthest inside reports. -/
def complained : Value := .text "\x7bhelper_name\x7d \x7b0\x7d"

def complaining : Callable :=
  .helper ⟨"c", .function, .callback fun _ => .complete (.error complained) .finish⟩

def idling : Callable :=
  .helper ⟨"z", .function, .coroutine fun _ => .finish .none⟩

def partials : Registry :=
  .ofEntries [⟨"a", .deferred "a" awaiting, true, some awaiting⟩,
    ⟨"b", .deferred "b" starting, true, some starting⟩,
    ⟨"c", .deferred "c" complaining, true, some complaining⟩,
    ⟨"z", .deferred "z" idling, true, some idling⟩]

/-- The call of a helper without arguments that is recorded next. -/
def nextCall
    (state : CacheState)
    (name : String)
    (target : Callable) : Invocation :=
  { token := (Supply.token state.shape state.supply).1
    name := name
    arguments := .none
    target := target
    style := target.style
    status := .pending }

def nextRecorded
    (state : CacheState)
    (index : Nat)
    (name : String)
    (target : Callable) : CacheState :=
  state.recordedIn index (nextCall state name target) (Supply.token state.shape state.supply).2

/-- The state after the two calls of a template were recorded. -/
def twice
    (state : CacheState)
    (name : String)
    (target : Callable) : CacheState :=
  nextRecorded (nextRecorded state.opened state.waitlists.length name target) state.waitlists.length
    "z" idling

theorem cut_calling : ∀ name ∈ ["a", "b", "c"],
    Segment.cut (calling name).toList =
      [.expression (name ++ "()").toList, .expression "z()".toList] ∧
    String.ofList (trimBlank (name ++ "()").toList) = name ++ "()" := by
  decide +kernel

theorem reads_calling : ∀ name ∈ ["a", "b", "c", "z"],
    Template.readExpression (name ++ "()") = .ok (.call (.name name .read) [] []) := by
  intro name member
  simp only [List.mem_cons, List.not_mem_nil, or_false] at member
  rcases member with rfl | rfl | rfl | rfl <;> cbv

/-- A call without arguments in a template is recorded. -/
theorem evaluates_calling {limits : Limits} {engine : Engine CacheState} {data : Value}
    {index : Nat} {name : String} {target : Callable} (state : CacheState)
    (reads : Template.readExpression (name ++ "()") = .ok (.call (.name name .read) [] []))
    (found : partials.callable? name = some (.deferred name target)) :
    engine.evaluate ⟨data, templateHelpers limits (some index) partials⟩ (name ++ "()") state =
      (.ok (.text (nextCall state name target).token), nextRecorded state index name target) := by
  apply evaluate_eq reads
  rw [@Evaluate.value_call _ _ _ _ _ _ _ _ [] [] name [] _ rfl (templateHelpers_eq found) rfl
    .nil rfl]
  exact call_deferred name target .none state

theorem passes_calling {limits : Limits} {name : String} {target : Callable} (state : CacheState)
    (registered : state.registry = partials) (among : name ∈ ["a", "b", "c"])
    (found : partials.callable? name = some (.deferred name target)) :
    Cache.renderPass limits state.waitlists.length (.text (calling name)) .none state.opened =
      (.ok ⟨(nextCall state name target).token ++ ((nextCall (nextRecorded state.opened
          state.waitlists.length name target) "z" idling).token ++ ""), [name ++ "()", "z()"]⟩,
        twice state name target) := by
  obtain ⟨cut, trimmed⟩ := cut_calling name among
  have trimmedLast : String.ofList (trimBlank "z()".toList) = "z" ++ "()" := by decide +kernel
  have first := reads_calling name (List.mem_append_left ["z"] among)
  have second := reads_calling "z" (by decide)
  have isPartials : state.opened.registry = partials := registered
  rw [Cache.renderPass_eq, isPartials, cut, Engine.renderSegments, Engine.renderSegments, trimmed,
    trimmedLast]
  apply Action.bind_ok (evaluates_calling state.opened first found)
  apply Action.bind_ok rfl
  apply Action.bind_ok (Action.bind_ok (evaluates_calling _ second rfl) (Action.bind_ok rfl
    (Action.bind_ok rfl rfl)))
  rfl

theorem queue_nextRecorded {state : CacheState} {index : Nat} (name : String) (target : Callable)
    (inside : index < state.waitlists.length) :
    (nextRecorded state index name target).queue index =
      state.queue index ++ [state.invocations.length] := by
  rw [nextRecorded, queue_recordedIn, if_pos ⟨rfl, inside⟩]

theorem queue_twice (state : CacheState) (name : String) (target : Callable) :
    (twice state name target).queue state.waitlists.length =
      [state.invocations.length, state.invocations.length + 1] := by
  have inside : state.waitlists.length < state.opened.waitlists.length := by simp [opened]
  have still : state.waitlists.length <
      (nextRecorded state.opened state.waitlists.length name target).waitlists.length := by
    simpa [nextRecorded, recordedIn] using inside
  rw [twice, queue_nextRecorded _ _ still, queue_nextRecorded _ _ inside, queue_opened,
    queue_eq_nil (Nat.le_refl _)]
  simp [nextRecorded, recordedIn, opened]

theorem invocations_twice (state : CacheState) (name : String) (target : Callable) :
    (twice state name target).invocations[state.invocations.length]? =
      some (nextCall state name target) := by
  simp [twice, nextRecorded, recordedIn, opened, nextCall]

/-- The world in which the first of the two calls is run. -/
def entered
    (world : World)
    (name : String)
    (target : Callable) : World :=
  world.withState ((twice world.state name target).withQueue world.state.waitlists.length
    [world.state.invocations.length + 1])

theorem arrives_calling {limits : Limits} {current : Option Nat} {depth : Nat} {world : World}
    {name : String} {target : Callable} (silent : world.state.log = none)
    (registered : world.state.registry = partials) (among : name ∈ ["a", "b", "c"])
    (found : partials.callable? name = some (.deferred name target)) (enough : 1 < limits.steps) :
    Cache.Arrives limits current depth world (.text (calling name)) .none
      (entered world name target) world.state.invocations.length (nextCall world.state name target)
      [world.state.invocations.length + 1] := by
  let index := world.state.waitlists.length
  let passed := twice world.state name target
  have stillSilent : passed.log = none := silent
  have tells : ∀ event, (world.withState passed).Tells event (world.withState passed) :=
    fun event => ⟨tell_silent event stillSilent, rfl⟩
  have needed : Drain.isNeeded ((nextCall world.state name target).token ++
      ((nextCall (nextRecorded world.state.opened index name target) "z" idling).token ++ ""))
        (nextCall world.state name target).token
        ((passed.withQueue index [world.state.invocations.length + 1]).queued index) = true := by
    have occurs : containsText (nextCall world.state name target).token
        (nextCall world.state name target).token = true :=
      (containsText_iff _ _).mpr ⟨"", "", by simp⟩
    rw [Drain.isNeeded, containsText_append (.inl occurs), Bool.true_or]
  exact .intro (passes_calling world.state registered among found) (tells _) (tells _) .here
    (queue_twice world.state name target)
    ⟨invocations_twice world.state name target, needed, tell_silent _ stillSilent, rfl⟩
    (invocations_twice world.state name target) enough

section Sinking

variable {limits : Limits} {current : Option Nat} {depth : Nat} {world : World}

/-- Nothing waits and nothing is due or logged, and the helpers are registered. -/
structure Rested (world : World) : Prop where
  suspended : world.suspended = []
  ready : world.state.ready = []
  silent : world.state.log = none
  registered : world.state.registry = partials

theorem Rested.abortWritten {name : String} {target : Callable} {index number : Nat}
    {call : Invocation} (rested : Rested world) :
    Cache.AbortWritten limits current depth index (entered world name target) number call :=
  Cache.abortWritten_silent (.of_idle rested.suspended rested.ready) rested.silent

/-- The promise that is made when the first call is run. -/
def owed
    (world : World)
    (name : String)
    (target : Callable) : CacheState :=
  ((entered world name target).state.noteStarted world.state.invocations.length).owing name
    ((entered world name target).state.cycleId world.state.waitlists.length)

/-- The state when a helper that answers through a callback has returned. -/
def returned
    (world : World)
    (name : String)
    (target : Callable)
    (delivery : Delivery) : CacheState :=
  { owed world name target with
    calls := (owed world name target).calls ++ [⟨name, .none⟩]
    ready := world.state.ready ++ [delivery] }

/-- The world in which what the helper has scheduled is delivered. -/
def delivering
    (world : World)
    (name : String)
    (target : Callable)
    (delivery : Delivery) : World :=
  ⟨(returned world name target delivery).withReady [], world.suspended⟩

theorem next_returned (rested : Rested world) (name : String) (target : Callable)
    (delivery : Delivery) :
    World.next? ⟨returned world name target delivery, world.suspended⟩ =
      some (delivery, delivering world name target delivery) := by
  apply World.next_beside
  rw [returned, rested.ready, List.nil_append]

theorem invocations_entered (name : String) (target : Callable) :
    (entered world name target).state.invocations.length = world.state.invocations.length + 2 := by
  simp [entered, World.withState, twice, nextRecorded, recordedIn, opened]

theorem Rested.enters (rested : Rested world) (name : String) (target : Callable) :
    Rested (entered world name target) where
  suspended := rested.suspended
  ready := by
    simpa only [entered, World.withState, withQueue, setWaitlist, twice, nextRecorded, recordedIn,
      opened] using rested.ready
  silent := by
    simpa only [entered, World.withState, withQueue, setWaitlist, twice, nextRecorded, recordedIn,
      opened] using rested.silent
  registered := by
    simpa only [entered, World.withState, withQueue, setWaitlist, twice, nextRecorded, recordedIn,
      opened] using rested.registered

/-- The coroutine is begun. -/
theorem Rested.notes (rested : Rested world) (number : Nat) (label : String)
    (arguments : Arguments) :
    Rested (world.withState ((world.state.noteStarted number).noted label arguments)) where
  suspended := rested.suspended
  ready := rested.ready
  silent := rested.silent
  registered := rested.registered

theorem Rested.delivers (rested : Rested world) (name : String) (target : Callable)
    (delivery : Delivery) : Rested (delivering world name target delivery) where
  suspended := by
    rw [delivering]
    exact rested.suspended
  ready := by
    rw [delivering]
    rfl
  silent := by
    simpa only [delivering, returned, owed, withReady, owing, noteStarted]
      using (rested.enters name target).silent
  registered := by
    simpa only [delivering, returned, owed, withReady, owing, noteStarted]
      using (rested.enters name target).registered

theorem sinks_complaining (rested : Rested world) (enough : 1 < limits.steps) :
    Cache.Sinks limits current (depth + 1) world (.text (calling "c")) .none
      (.complaint "c" complained) [world.state.invocations.length + 1] := by
  let report : Delivery := .settle world.state.promises.length (.error complained)
  have arrives := @arrives_calling limits current depth world "c" complaining rested.silent
    rested.registered (by simp) rfl enough
  have waits : Cache.Waits limits current world.state.waitlists.length
      (entered world "c" complaining) world.state.invocations.length
      (nextCall world.state "c" complaining) (returned world "c" complaining report) := ⟨rfl, rfl⟩
  have undecided : (delivering world "c" complaining report).state.outcome?
      world.state.promises.length = none := by
    have owes := waits.owes
    rw [outcome?, show (delivering world "c" complaining report).state.promises[
      world.state.promises.length]? = _ from owes]
    rfl
  exact @Cache.Sinks.reported limits current depth _ 0 world _ _ _ _ _ _ _ _ _ arrives
    rested.abortWritten waits (next_returned rested "c" complaining report) undecided rfl

theorem sinks_starting (rested : Rested world) (enough : 1 < limits.steps) {whole : Nat}
    (deep : limits.depth = whole + 1) :
    Cache.Sinks limits current (depth + 1) world (.text (calling "b")) .none
      (.complaint "c" complained)
      [world.state.invocations.length + 1, world.state.invocations.length + 3] := by
  let begins : Delivery :=
    .begin world.state.promises.length (.text (calling "c")) .none current
  have arrives := @arrives_calling limits current depth world "b" starting rested.silent
    rested.registered (by simp) rfl enough
  have waits : Cache.Waits limits current world.state.waitlists.length
      (entered world "b" starting) world.state.invocations.length
      (nextCall world.state "b" starting) (returned world "b" starting begins) := ⟨rfl, rfl⟩
  have ready : (returned world "b" starting begins).ready = [] ++ begins :: [] := by
    rw [returned, rested.ready]
  have nothing : ∀ delivery ∈ ([] ++ [] : List Delivery),
      delivery.target ≠ world.state.promises.length := fun _ member => absurd member List.not_mem_nil
  have sinks := @sinks_complaining limits current whole _
    (rested.delivers "b" starting begins) enough
  have length : (delivering world "b" starting begins).state.invocations.length =
      world.state.invocations.length + 2 := invocations_entered "b" starting
  rw [← deep, length] at sinks
  exact @Cache.Sinks.started limits current depth _ world _ _ _ _ _ _ _ _ _ _ _ [] [] arrives
    rested.abortWritten waits ready nothing (next_returned rested "b" starting begins) sinks

theorem sinks_awaiting (rested : Rested world) (enough : 1 < limits.steps) {whole : Nat}
    (deep : limits.depth = whole + 1) :
    Cache.Sinks limits current (depth + 2) world (.text (calling "a")) .none
      (.complaint "c" complained)
      [world.state.invocations.length + 1, world.state.invocations.length + 3,
        world.state.invocations.length + 5] := by
  have arrives := @arrives_calling limits current (depth + 1) world "a" awaiting rested.silent
    rested.registered (by simp) rfl enough
  let inner : World := (entered world "a" awaiting).withState
    (((entered world "a" awaiting).state.noteStarted world.state.invocations.length).noted "a" .none)
  have sinks := @sinks_starting limits current depth inner
    ((rested.enters "a" awaiting).notes world.state.invocations.length "a" .none) enough whole deep
  have length : inner.state.invocations.length = world.state.invocations.length + 2 :=
    invocations_entered "a" awaiting
  rw [length] at sinks
  exact .awaited arrives rested.abortWritten rfl (.here fun _ => rfl) sinks

end Sinking

/-- A session with the helpers. -/
def outermost : Session :=
  .start (unused .standard false false none partials)

/-- A helper three renderings deep reports a text with braces. What is raised names it and shows
the text as it is, and none of the three calls that are queued behind runs. -/
theorem surfaces_complaint :
    ∃ report after,
      ReportCatalog.standard.ofErrorValue complained (.text "c") = .ok (.reported report) ∧
      report.code = "HELPER_FAILED" ∧ report.helperName = .text "c" ∧
      report.detail = complained ∧ report.cause = none ∧
      outermost.Surfaces (.text (calling "a")) .none (.reported report) [1, 3, 5] after :=
  (failures_surface (.nothing outermost)
    (@sinks_awaiting Session.standardLimits none 498 outermost.world ⟨rfl, rfl, rfl, rfl⟩ (by decide)
      499 rfl)).2 "c" complained "\x7bhelper_name\x7d \x7b0\x7d" rfl rfl rfl

/-- A coroutine that refuses to answer, and one that waits for a rendering which calls it. -/
def refusals : Registry :=
  let refusal : Callable := .helper ⟨"r", .function, .coroutine fun _ => .fail (.badValue "no")⟩
  let asking : Callable := .helper ⟨"n", .function, .coroutine fun _ =>
    .render (.text "\x7b\x7br()\x7d\x7d") .none fun outcome => .ofOutcome outcome .finish⟩
  .ofEntries [⟨"r", .deferred "r" refusal, true, some refusal⟩,
    ⟨"n", .deferred "n" asking, true, some asking⟩]

/-- The kind of the failure that comes out of two nested renderings. -/
def surfaced (log : Option LogSettings) : Option String :=
  let world := World.ofState (unused .standard false false log refusals)
  match (world.run (Cache.startRender ⟨3, 10⟩) 10
    (Cache.render ⟨3, 10⟩ none none (.text "\x7b\x7bn()\x7d\x7d") .none)).1 with
  | .error (.failed failure) => some failure.kindName
  | _ => none

/-- Settings that write errors only, and cut what they show at no whole number. -/
def fractional : LogSettings :=
  { LogSettings.standard with
    level := .text LogLevel.error.name
    truncateAt := .float (Binary64.ofInt 20) }

/-- The line about the failure cannot be written, and what comes out is not the failure. -/
theorem surfaces_unwritten :
    surfaced none = some "ValueError" ∧ surfaced (some fractional) = some "TypeError" := by
  decide +kernel

end Sample

end DeferredText
