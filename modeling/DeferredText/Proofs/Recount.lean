import DeferredText.Proofs.Course

/-!
Contract: a resolution that returned has a course.

A run that returned came through each of its parts, so the turns that the drain took can be
read off it. The course is about calls that are recorded, so the queue may hold no others
while the drain goes on.

Owns: taking runs that returned apart, and the course behind a resolution that returned.

Does not own: the run of a given course (`Proofs.Course`).
-/

namespace DeferredText

variable {α β : Type} {start : Starter} {suspended : List Suspended} {world after : World}

/-! ### Runs that returned -/

private theorem Ends.attempt_cases_done {given : Except Stop α} {state : CacheState}
    {outcome : Outcome α}
    (ends : Ends start suspended (Step.done given state).attempt (.ok outcome) after) :
    Ends start suspended (.done given state) outcome.asResult after := by
  rw [Step.attempt_done] at ends
  generalize whole : caught given = result at ends
  cases ends with
  | done =>
      rcases given with (failure | _ | _) | value <;> cases whole <;> exact .done

/-- A run whose failure was caught, without the catching. -/
theorem Ends.attempt_cases {step : Step CacheState α} {outcome : Outcome α}
    (ends : Ends start suspended step.attempt (.ok outcome) after) :
    Ends start suspended step outcome.asResult after := by
  generalize whole : step.attempt = caughtStep at ends
  generalize returned : Except.ok outcome = result at ends
  induction ends generalizing step with
  | done =>
      subst returned
      cases step with
      | done given state => exact Ends.attempt_cases_done (whole ▸ .done)
      | waiting promise state resume => cases whole
  | stalled idle => cases returned
  | resumed due wakes further inductionHypothesis =>
      subst returned
      cases step with
      | done given state => exact Ends.attempt_cases_done (whole ▸ .resumed due wakes further)
      | waiting promise state resume =>
          cases whole
          exact .resumed due wakes (inductionHypothesis rfl rfl)
  | delivered due sleeps further inductionHypothesis =>
      subst returned
      cases step with
      | done given state => exact Ends.attempt_cases_done (whole ▸ .delivered due sleeps further)
      | waiting promise state resume =>
          cases whole
          exact .delivered due sleeps (@inductionHypothesis (.waiting _ _ resume) rfl rfl)

namespace World

variable {task : Task CacheState α} {next : α → Task CacheState β} {value : β}

theorem Runs.bind_cases (runs : Runs start world (task >>= next) (.ok value) after) :
    ∃ given middle, Runs start world task (.ok given) middle ∧
      Runs start middle (next given) (.ok value) after := by
  rcases Ends.andThen_cases runs with through | ⟨stop, same, -⟩
  · exact through
  · cases same

theorem Runs.attempt_cases {outcome : Outcome α}
    (runs : Runs start world task.attempt (.ok outcome) after) :
    Runs start world task outcome.asResult after :=
  Ends.attempt_cases runs

theorem Runs.action_cases {action : CacheAction α} {result : Except Stop α}
    (runs : Runs start world (Task.ofAction action) result after) :
    action world.state = (result, after.state) ∧ after.suspended = world.suspended := by
  have immediate : Task.ofAction action world.state =
      .done (action world.state).1 (action world.state).2 := rfl
  rw [Runs, immediate] at runs
  cases runs
  exact ⟨rfl, rfl⟩

theorem Runs.bind_action_cases {action : CacheAction α}
    (runs : Runs start world (Task.ofAction action >>= next) (.ok value) after) :
    ∃ given state, action world.state = (.ok given, state) ∧
      Runs start ⟨state, world.suspended⟩ (next given) (.ok value) after := by
  obtain ⟨given, middle, first, second⟩ := runs.bind_cases
  obtain ⟨acts, same⟩ := first.action_cases
  refine ⟨given, middle.state, acts, ?_⟩
  rw [← same]
  exact second

/-- A run that began with an action whose effect is known. -/
theorem Runs.after_action {action : CacheAction α} {given : α} {state : CacheState}
    (runs : Runs start world (Task.ofAction action >>= next) (.ok value) after)
    (acts : action world.state = (.ok given, state)) :
    Runs start (world.withState state) (next given) (.ok value) after := by
  obtain ⟨found, reached, same, further⟩ := runs.bind_action_cases
  rw [acts] at same
  cases same
  exact further

theorem Runs.after_tell {event : Event} {next : Unit → Task CacheState β}
    (runs : Runs start world (Task.ofAction (CacheState.tell event) >>= next) (.ok value) after) :
    ∃ told, world.Tells event told ∧ Runs start told (next ()) (.ok value) after := by
  obtain ⟨_, state, tells, further⟩ := runs.bind_action_cases
  exact ⟨⟨state, world.suspended⟩, ⟨tells, rfl⟩, further⟩

theorem Runs.pure_cases {given : β}
    (runs : Runs start world (pure given : Task CacheState β) (.ok value) after) :
    value = given ∧ after = world := by
  cases runs
  exact ⟨rfl, rfl⟩

end World

/-! ### The course of a drain that returned -/

namespace Drain

variable {invoke : Invoke} {index number : Nat} {progress next final : Progress}
  {invocation : Invocation}

/-- The end of a turn whose implementation returned. -/
theorem accept_cases {cycle name value : Value} {token : String} {started : Int}
    {answered told : CacheState}
    (accepts : accept number cycle name token started progress value answered =
      (.ok next, told)) :
    ∃ text, resultText value = .ok text ∧ next = progress.complete token text ∧
      CacheState.tell (.completed cycle name (.int (CacheState.elapsed started answered.clock)))
        (answered.withStatus number .completed) = (.ok (), told) := by
  cases readable : resultText value with
  | error failure =>
      rw [accept_unreadable readable] at accepts
      cases accepts
  | ok text =>
      rcases tells : CacheState.tell
        (.completed cycle name (.int (CacheState.elapsed started answered.clock)))
        (answered.withStatus number .completed) with ⟨stop | _, written⟩
      · have opened : accept number cycle name token started progress value answered =
            (.error stop, written) := by
          apply Action.bind_ok (CacheState.setStatus_eq .completed)
          rw [readable]
          apply Action.bind_ok rfl
          apply Action.bind_ok (CacheState.elapsedSince_eq started)
          exact Action.bind_error tells
        rw [opened] at accepts
        cases accepts
      · rw [accept_readable readable tells] at accepts
        cases accepts
        exact ⟨text, rfl, rfl, rfl⟩

/-- The resolution does not go on after a failure. -/
theorem abort_fails {cycle name : Value} {started : Int} {failure : Failure}
    (state : CacheState) :
    (abort index number cycle name started failure state).1 ≠ .ok next := by
  have opened : abort index number cycle name started failure = (do
      CacheState.setStatus number .failed
      let remaining ← CacheState.clearWaitlist index
      let spent ← CacheState.elapsedSince started
      CacheState.tell (.failed cycle name (.failure failure) spent)
      CacheState.tell (.aborted cycle (.int remaining))
      Action.fail failure) := rfl
  rw [opened, Action.bind_ok (CacheState.setStatus_eq .failed) rfl,
    Action.bind_ok CacheState.clearWaitlist_eq rfl,
    Action.bind_ok (CacheState.elapsedSince_eq started) rfl, Action.bind_eq]
  split
  · rw [Action.bind_eq]
    split
    · exact nofun
    · exact nofun
  · exact nofun

/-- A step on a recorded call that came through is a turn. -/
theorem serves_of_step (found : world.state.invocations[number]? = some invocation)
    (runs : World.Runs start world (step invoke index number progress) (.ok next) after) :
    ∃ fate, Serves start invoke index progress ⟨number, invocation, fate, world, after⟩
      (.ok next) := by
  have reads : (get : CacheAction CacheState) world.state = (.ok world.state, world.state) := rfl
  rw [step_eq] at runs
  have runs := runs.after_action reads
  simp only [found] at runs
  cases needed : isNeeded progress.text invocation.token (world.state.queued index) with
  | false =>
      simp only [needed, Bool.false_eq_true, if_false] at runs
      have runs := runs.after_action (CacheState.setStatus_eq .skipped)
      obtain ⟨told, tells, ends⟩ := runs.after_tell
      obtain ⟨rfl, rfl⟩ := ends.pure_cases
      exact ⟨.skipped, .skipped found needed tells⟩
  | true =>
      simp only [needed, if_true] at runs
      have runs := runs.after_action (CacheState.prepare_eq progress.results)
      have runs := runs.after_action CacheState.argumentsOf_eq
      obtain ⟨asked, tells, runs⟩ := runs.after_tell
      obtain ⟨outcome, answered, implements, ends⟩ := runs.bind_cases
      have calls : Calls index progress number invocation world asked := ⟨found, needed, tells⟩
      have implements := implements.attempt_cases
      cases outcome with
      | error failure =>
          obtain ⟨fails, -⟩ := ends.action_cases
          exact absurd (congrArg Prod.fst fails) (abort_fails _)
      | ok value =>
          obtain ⟨accepts, same⟩ := ends.action_cases
          obtain ⟨text, readable, rfl, completes⟩ := accept_cases accepts
          exact ⟨.returned value text, .returned calls implements readable ⟨completes, same⟩⟩

/-- A loop that came through has a course of fewer turns than it was allowed, if only recorded
calls are queued, now and after every turn. -/
theorem course_of_loop {holds : World → Prop} {fuel : Nat} (held : holds world)
    (recorded : ∀ world, holds world → ∀ number ∈ world.state.queue index,
      number < world.state.invocations.length)
    (keeps : ∀ world progress turn next, holds world → Takes index world turn →
      Serves start invoke index progress turn (.ok next) → holds turn.after)
    (runs : World.Runs start world (loop invoke index fuel progress) (.ok final) after) :
    ∃ turns, turns.length < fuel ∧
      Course start invoke index world progress turns (.ok final) after := by
  induction fuel generalizing world progress with
  | zero => cases runs
  | succ fuel inductionHypothesis =>
      rw [loop_succ] at runs
      cases queued : world.state.queue index with
      | nil =>
          obtain ⟨rfl, rfl⟩ := (runs.after_action (CacheState.takeNext_nil queued)).pure_cases
          exact ⟨[], Nat.zero_lt_succ fuel, .finished queued⟩
      | cons number rest =>
          have runs := runs.after_action (CacheState.takeNext_cons queued)
          obtain ⟨next, between, first, second⟩ := runs.bind_cases
          have inside := recorded world held number (by simp [queued])
          have found : (world.withState (world.state.withQueue index rest)).state.invocations[number]?
              = some world.state.invocations[number] := List.getElem?_eq_getElem inside
          obtain ⟨fate, serves⟩ := serves_of_step found first
          have takes : Takes index world ⟨number, world.state.invocations[number], fate,
              world.withState (world.state.withQueue index rest), between⟩ := ⟨rest, queued, rfl⟩
          obtain ⟨turns, few, course⟩ :=
            inductionHypothesis (keeps _ _ _ _ held takes serves) second
          exact ⟨_ :: turns, Nat.succ_lt_succ few, .further takes serves course⟩

/-- A drain that returned a text has a course. -/
theorem resolution_of_run {holds : World → Prop} {fuel : Nat} {text result : String}
    (begins : ∀ {told event}, world.Tells event told → holds told)
    (recorded : ∀ world, holds world → ∀ number ∈ world.state.queue index,
      number < world.state.invocations.length)
    (keeps : ∀ world progress turn next, holds world → Takes index world turn →
      Serves start invoke index progress turn (.ok next) → holds turn.after)
    (runs : World.Runs start world (run invoke fuel index text) (.ok result) after) :
    ∃ turns, turns.length < fuel ∧
      Resolution start invoke index text world turns (.ok result) after := by
  have reads : (get : CacheAction CacheState) world.state = (.ok world.state, world.state) := rfl
  rw [run_eq] at runs
  have runs := runs.after_action reads
  obtain ⟨begun, tells, runs⟩ := runs.after_tell
  obtain ⟨progress, middle, loops, runs⟩ := runs.bind_cases
  have runs := runs.after_action (CacheState.elapsedSince_eq _)
  obtain ⟨told, finishes, runs⟩ := runs.after_tell
  obtain ⟨rfl, rfl⟩ := runs.pure_cases
  obtain ⟨turns, few, course⟩ := course_of_loop (begins tells) recorded keeps loops
  exact ⟨turns, few, .finished tells course finishes⟩

end Drain

namespace Cache

variable {limits : Limits} {current : Option Nat} {index : Nat}

/-- A resolution that returned a text has a course. -/
theorem resolution_of_resolve {holds : World → Prop} {given : Option Nat} {text : String}
    {returned : Option String}
    (takes : takeWaitlist given current world.state = (.ok index, world.state))
    (begins : ∀ {told event}, world.Tells event told → holds told)
    (recorded : ∀ world, holds world → ∀ number ∈ world.state.queue index,
      number < world.state.invocations.length)
    (keeps : ∀ world progress turn next, holds world → Drain.Takes index world turn →
      Drain.Serves start (resolver limits current index) index progress turn (.ok next) →
      holds turn.after)
    (runs : World.Runs start world (resolve limits current none given text) (.ok returned)
      after) :
    ∃ turns result, returned = some result ∧
      Drain.Resolution start (resolver limits current index) index text world turns (.ok result)
        after := by
  rw [resolve_eq] at runs
  have runs := runs.after_action takes
  rw [resolveWaitlist_eq] at runs
  obtain ⟨outcome, drained, drains, ends⟩ := runs.bind_cases
  cases outcome with
  | error failure =>
      obtain ⟨hands, -⟩ := ends.action_cases
      cases hands
  | ok result =>
      obtain ⟨rfl, rfl⟩ := World.Runs.pure_cases ends
      obtain ⟨turns, -, resolution⟩ :=
        Drain.resolution_of_run begins recorded keeps drains.attempt_cases
      exact ⟨turns, _, rfl, resolution⟩

end Cache

end DeferredText
