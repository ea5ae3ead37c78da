import DeferredText.Proofs.Aloof
import DeferredText.Proofs.Discard
import DeferredText.Proofs.Naming
import DeferredText.Proofs.Recount

/-!
Contract: the log of a drain is a complete account of it.

A drain says when it starts. Of each call that it takes it says that the call is skipped, or that it
begins and how it ended, and then the drain says what it has counted, or after a failure how many
calls it has discarded. What others tell meanwhile is of other cycles.

Owns: drains that failed, read off turn by turn, what each turn tells, and the counts at the end.

Does not own: that others keep aloof (`Proofs.Aloof`) and what lines look like.
-/

namespace DeferredText

open CacheState Territory

variable {α β : Type} {start : Starter} {world told after : World} {cycle : String} {refused : Nat}

/-! ### Runs that failed -/

theorem caught_unfailing (given : Except Stop α) (failure : Failure) :
    caught given ≠ .error (.failed failure) := by
  rcases given with (_ | _ | _) | _ <;> exact nofun

/-- A run whose failures are caught does not fail. -/
theorem Ends.attempt_unfailing {suspended : List Suspended} {step : Step CacheState α}
    {failure : Failure} :
    ¬ Ends start suspended step.attempt (.error (.failed failure)) after := by
  intro ends
  generalize whole : step.attempt = caughtStep at ends
  generalize fails : Except.error (Stop.failed failure) = result at ends
  induction ends generalizing step with
  | done =>
      cases step with
      | done given state =>
          rw [Step.attempt_done] at whole
          injection whole with same
          exact caught_unfailing given failure (same.trans fails.symm)
      | waiting promise state resume => cases whole
  | stalled idle => cases fails
  | resumed due wakes further inductionHypothesis =>
      cases step with
      | done given state =>
          rw [Step.attempt_done] at whole
          cases whole
      | waiting promise state resume =>
          cases whole
          exact inductionHypothesis rfl fails
  | delivered due sleeps further inductionHypothesis =>
      cases step with
      | done given state =>
          rw [Step.attempt_done] at whole
          cases whole
      | waiting promise state resume =>
          cases whole
          exact @inductionHypothesis (.waiting _ _ resume) rfl fails

/-- After the first refusals, the log has refused no event of the cycle. An event is refused if one
of its values cannot be converted to text. -/
def CacheState.Wrote
    (cycle : String)
    (refused : Nat)
    (state : CacheState) : Prop :=
  ∀ event ∈ state.unwritten.drop refused, event.concerns cycle = false

namespace CacheState

variable {event : Event} {state later closed : CacheState}

/-- An event of the cycle that is told last is written. -/
theorem Wrote.tell {result : Except Stop Unit} (wrote : closed.Wrote cycle refused)
    (tells : CacheState.tell event state = (result, closed))
    (few : refused ≤ state.unwritten.length) (own : event.cycle? = some cycle) :
    result = .ok () := by
  rw [tell_eq] at tells
  split at tells
  · exact (congrArg Prod.fst tells).symm
  · exact (congrArg Prod.fst tells).symm
  · obtain rfl : state.refusing event = closed := congrArg Prod.snd tells
    have last : event ∈ (state.refusing event).unwritten.drop refused := by
      rw [refusing, withLog, List.drop_append_of_le_length few]
      exact List.mem_append_right _ List.mem_cons_self
    exact absurd (wrote event last) (by rw [Event.concerns_eq_true own]; decide)

theorem unwritten_tell (tells : CacheState.tell event state = (.ok (), later)) :
    later.unwritten = state.unwritten := by
  obtain ⟨lines, rfl⟩ := tell_lines tells
  rfl

/-- An action that begins with an event of the cycle has written it. -/
theorem Wrote.bind_tell {next : Unit → CacheAction α} {result : Except Stop α}
    (wrote : closed.Wrote cycle refused)
    (acts : (CacheState.tell event >>= next) state = (result, closed))
    (few : refused ≤ state.unwritten.length) (own : event.cycle? = some cycle) :
    ∃ later, CacheState.tell event state = (.ok (), later) ∧ refused ≤ later.unwritten.length ∧
      next () later = (result, closed) := by
  rw [Action.bind_eq] at acts
  rcases tells : CacheState.tell event state with ⟨stop | _, later⟩ <;> rw [tells] at acts
  · obtain rfl : later = closed := congrArg Prod.snd acts
    cases wrote.tell tells few own
  · exact ⟨later, rfl, (unwritten_tell tells).symm ▸ few, acts⟩

end CacheState

namespace World

variable {task : Task CacheState α} {next : α → Task CacheState β}

/-- A run that stopped has come through its first part, or stopped in it. -/
theorem Runs.bind_stopped {stop : Stop}
    (runs : Runs start world (task >>= next) (.error stop) after) :
    (∃ given middle, Runs start world task (.ok given) middle ∧
      Runs start middle (next given) (.error stop) after) ∨
    Runs start world task (.error stop) after := by
  rcases Ends.andThen_cases runs with through | ⟨other, same, stops⟩
  · exact .inl through
  · cases same
    exact .inr stops

/-- The rest of a run that began with an action whose effect is known. -/
theorem Runs.acted {action : CacheAction α} {given : α} {state : CacheState}
    {result : Except Stop β} (runs : Runs start world (Task.ofAction action >>= next) result after)
    (acts : action world.state = (.ok given, state)) :
    Runs start (world.withState state) (next given) result after := by
  rw [Runs, Task.bind_ok acts] at runs
  exact runs

/-- The rest of a run that stopped behind an event of the cycle. -/
theorem Runs.bind_tell {event : Event} {next : Unit → Task CacheState β} {stop : Stop}
    (runs : Runs start world (Task.ofAction (CacheState.tell event) >>= next) (.error stop) after)
    (wrote : after.state.Wrote cycle refused) (few : refused ≤ world.state.unwritten.length)
    (own : event.cycle? = some cycle) :
    ∃ told, world.Tells event told ∧ refused ≤ told.state.unwritten.length ∧
      Runs start told (next ()) (.error stop) after := by
  rcases runs.bind_stopped with ⟨_, middle, tells, further⟩ | stops
  · obtain ⟨written, same⟩ := tells.action_cases
    exact ⟨middle, ⟨written, same⟩, (unwritten_tell written).symm ▸ few, further⟩
  · cases wrote.tell stops.action_cases.1 few own

/-! ### What the log hears -/

/-- From one world to another the log was told of these events of a cycle, the names of cycles are
what they were, and nothing that waits will tell of the cycle. -/
structure Hears (cycle : String) (events : List Event) (before after : World) : Prop where
  told : ToldOf cycle events before.state after.state
  names : Names before.state after.state
  aloof : after.Aloof cycle

variable {events first second : List Event}

theorem Hears.trans (early : Hears cycle first world told) (late : Hears cycle second told after) :
    Hears cycle (first ++ second) world after :=
  ⟨early.told.trans late.told, early.names.trans late.names, late.aloof⟩

theorem Hears.nothing {state : CacheState} (waits : world.Aloof cycle)
    (aloof : CacheState.Aloof cycle world.state state) :
    Hears cycle [] world (world.withState state) :=
  ⟨aloof.told, aloof.toNames, waits.withState aloof.toNames⟩

theorem Hears.named {index : Nat} (hears : Hears cycle events world after)
    (inside : index < world.state.waitlists.length) (named : world.state.cycleId index = cycle) :
    after.state.cycleId index = cycle :=
  (hears.names.cycles index inside).trans named

theorem Hears.count (hears : Hears cycle events world after)
    (few : refused ≤ world.state.unwritten.length) : refused ≤ after.state.unwritten.length := by
  obtain ⟨all, told, -⟩ := hears.told
  rw [told.unwritten, List.length_append]
  exact few.trans (Nat.le_add_right _ _)

theorem Aloof.tells {event : Event} (aloof : world.Aloof cycle) (tells : world.Tells event told)
    (own : event.cycle? = some cycle) : Hears cycle [event] world told := by
  obtain ⟨written, same⟩ := tells
  obtain ⟨lines, isTold⟩ := tell_lines written
  have names : Names world.state told.state := by
    rw [isTold]
    exact ⟨Nat.le_refl _, fun _ _ => rfl, Nat.le_refl _⟩
  refine ⟨⟨[event], ?_, ?_⟩, names, ?_⟩
  · have hears := told_tell event world.state
    rwa [written] at hears
  · rw [List.filter_cons_of_pos (Event.concerns_eq_true own), List.filter_nil]
  · cases told
    cases same
    exact aloof.withState names

/-- What runs without telling of the cycle. -/
theorem Aloof.hears {result : Except Stop α} (waits : world.Aloof cycle)
    (starts : Aloofness cycle start) (aloof : task.Aloof cycle (Known cycle))
    (runs : Runs start world task result after) : Hears cycle [] world after := by
  obtain ⟨tells, ended⟩ := Ends.aloof runs starts waits (aloof world.state waits.known)
  exact ⟨tells.told, tells.toNames, ended⟩

end World

/-! ### What a turn tells -/

namespace Event

/-- A call has returned. -/
def completes : Event → Bool
  | .completed _ _ _ => true
  | _ => false

/-- A call is passed over. -/
def skips : Event → Bool
  | .skipped _ _ _ => true
  | _ => false

end Event

namespace Turn

/-- What is told of the call of a turn: that it is skipped, or that it begins and how it ended. -/
def events
    (cycle : String)
    (arguments duration : Value)
    (turn : Turn) : List Event :=
  let name := Value.text turn.invocation.name
  match turn.fate with
  | .skipped => [.skipped (.text cycle) name (.text turn.invocation.token)]
  | .returned _ _ =>
      [.invoking (.text cycle) name arguments, .completed (.text cycle) name duration]
  | .unreadable _ _ => [.invoking (.text cycle) name arguments]
  | .failed failure =>
      [.invoking (.text cycle) name arguments,
        .failed (.text cycle) name (.failure failure) duration]

/-- The events are what is told of the turn, for some arguments and some duration. -/
def Tells
    (cycle : String)
    (turn : Turn)
    (events : List Event) : Prop :=
  ∃ arguments duration, events = turn.events cycle arguments duration

end Turn

namespace Drain

/-- The implementation of the call of a turn, if it is run, is over in a world. -/
inductive Answers
    (start : Starter)
    (invoke : Invoke)
    (index : Nat)
    (progress : Progress) : Turn → World → Prop where
  | skipped {turn : Turn} (fate : turn.fate = .skipped) :
      Answers start invoke index progress turn turn.before
  | ran {turn : Turn} {asked answered : World} {result : Except Stop Value}
      (calls : Calls index progress turn.number turn.invocation turn.before asked)
      (runs : World.Runs start asked (invoke turn.number) result answered) :
      Answers start invoke index progress turn answered

/-- What is told after the last turn if it failed. -/
def discarding
    (cycle : String)
    (remaining : Nat) : Outcome Progress → List Event
  | .ok _ => []
  | .error _ => [.aborted (.text cycle) (.int remaining)]

variable {invoke : Invoke} {index number fuel : Nat} {progress next final : Progress}
  {invocation : Invocation} {turn : Turn} {turns : List Turn}

theorem Takes.hears (takes : Takes index world turn) (aloof : world.Aloof cycle) :
    World.Hears cycle [] world turn.before := by
  obtain ⟨rest, -, taken⟩ := takes
  rw [taken]
  exact .nothing aloof (aloof_withQueue index rest)

theorem Calls.hears {asked : World}
    (calls : Calls index progress number invocation world asked) (aloof : world.Aloof cycle)
    (named : world.state.cycleId index = cycle) :
    ∃ arguments, World.Hears cycle [.invoking (.text cycle) (.text invocation.name) arguments]
      world asked := by
  subst named
  have prepares := World.Hears.nothing aloof (aloof_prepared number progress.results)
  exact ⟨_, prepares.trans (prepares.aloof.tells calls.tells rfl)⟩

theorem Serves.readable (serves : Serves start invoke index progress turn (.ok next)) :
    turn.Readable := by
  cases serves <;> exact fun _ _ => nofun

section Aloof

variable (starts : World.Aloofness cycle start)
  (invokes : ∀ number, (invoke number).Aloof cycle (Known cycle))
include starts invokes

theorem Calls.answered {asked answered : World} {result : Except Stop Value}
    (calls : Calls index progress number invocation world asked)
    (runs : World.Runs start asked (invoke number) result answered) (aloof : world.Aloof cycle)
    (named : world.state.cycleId index = cycle) :
    ∃ arguments, World.Hears cycle [.invoking (.text cycle) (.text invocation.name) arguments]
      world answered := by
  obtain ⟨arguments, asks⟩ := calls.hears aloof named
  exact ⟨arguments, asks.trans (asks.aloof.hears starts (invokes number) runs)⟩

/-- A turn tells of its call, and if it fails, how many calls it has discarded. -/
theorem Serves.hears {outcome : Outcome Progress}
    (serves : Serves start invoke index progress turn outcome) (readable : turn.Readable)
    (aloof : turn.before.Aloof cycle) (named : turn.before.state.cycleId index = cycle) :
    ∃ events answered, turn.Tells cycle events ∧
      Answers start invoke index progress turn answered ∧
      (∀ next, outcome = .ok next → turn.after.state.queue index = answered.state.queue index) ∧
      World.Hears cycle (events ++ discarding cycle (answered.state.queue index).length outcome)
        turn.before turn.after := by
  subst named
  cases serves with
  | @skipped number _ _ _ found unneeded tells =>
      have marks := World.Hears.nothing aloof (aloof_setStatus number .skipped _)
      exact ⟨_, _, ⟨.none, .none, rfl⟩, .skipped rfl, fun _ _ => tells.queue index,
        marks.trans (marks.aloof.tells tells rfl)⟩
  | @returned number _ _ _ _ _ _ _ calls runs value tells =>
      obtain ⟨arguments, answers⟩ := calls.answered starts invokes runs aloof rfl
      have marks := World.Hears.nothing answers.aloof (aloof_setStatus number .completed _)
      exact ⟨_, _, ⟨arguments, _, rfl⟩, .ran calls runs, fun _ _ => tells.queue index,
        (answers.trans marks).trans (marks.aloof.tells tells rfl)⟩
  | unreadable calls runs unreadable => exact absurd rfl (readable _ _)
  | @failed number _ _ _ _ _ _ _ calls runs tells closes =>
      obtain ⟨arguments, answers⟩ := calls.answered starts invokes runs aloof rfl
      have marks := World.Hears.nothing answers.aloof (aloof_setStatus number .failed _)
      have clears := World.Hears.nothing marks.aloof (aloof_withQueue index [])
      have fails := clears.aloof.tells tells rfl
      exact ⟨_, _, ⟨arguments, _, rfl⟩, .ran calls runs, nofun,
        (((answers.trans marks).trans clears).trans fails).trans (fails.aloof.tells closes rfl)⟩

end Aloof

/-! ### The course of a drain that failed -/

/-- If nothing is refused, only a value without a text fails. -/
theorem accept_failed {name value : Value} {token : String} {started : Int} {failure : Failure}
    {answered closed : CacheState}
    (accepts : accept number (.text cycle) name token started progress value answered =
      (.error (.failed failure), closed))
    (few : refused ≤ answered.unwritten.length) (wrote : closed.Wrote cycle refused) :
    resultText value = .error failure ∧ closed = answered.withStatus number .completed := by
  cases readable : resultText value with
  | error failure =>
      rw [accept_unreadable readable] at accepts
      cases accepts
      exact ⟨rfl, rfl⟩
  | ok text =>
      have tells : (CacheState.tell
          (.completed (.text cycle) name (.int (CacheState.elapsed started answered.clock))) >>=
            fun _ => pure (progress.complete token text)) (answered.withStatus number .completed) =
          (.error (.failed failure), closed) := by
        rw [← accepts]
        symm
        apply Action.bind_ok (CacheState.setStatus_eq .completed)
        rw [readable]
        apply Action.bind_ok rfl
        exact Action.bind_ok (CacheState.elapsedSince_eq started) rfl
      obtain ⟨later, -, -, returns⟩ := wrote.bind_tell tells few rfl
      cases returns

/-- If nothing is refused, a failure has been told. -/
theorem abort_failed {name : Value} {started : Int} {failure cause : Failure}
    {answered closed : CacheState}
    (aborts : abort index number (.text cycle) name started failure answered =
      (.error (.failed cause), closed))
    (few : refused ≤ answered.unwritten.length) (wrote : closed.Wrote cycle refused) :
    cause = failure ∧ ∃ told,
      CacheState.tell (.failed (.text cycle) name (.failure failure)
        (.int (CacheState.elapsed started answered.clock)))
        ((answered.withStatus number .failed).withQueue index []) = (.ok (), told) ∧
      CacheState.tell (.aborted (.text cycle) (.int (answered.queue index).length)) told =
        (.ok (), closed) := by
  have tells : (CacheState.tell (.failed (.text cycle) name (.failure failure)
      (.int (CacheState.elapsed started answered.clock))) >>= fun _ =>
        CacheState.tell (.aborted (.text cycle) (.int (answered.queue index).length)) >>= fun _ =>
          (Action.fail failure : CacheAction Progress))
        ((answered.withStatus number .failed).withQueue index []) =
      (.error (.failed cause), closed) := by
    rw [← aborts]
    symm
    apply Action.bind_ok (CacheState.setStatus_eq .failed)
    apply Action.bind_ok CacheState.clearWaitlist_eq
    exact Action.bind_ok (CacheState.elapsedSince_eq started) rfl
  obtain ⟨told, fails, few, tells⟩ := wrote.bind_tell tells few rfl
  obtain ⟨last, closes, -, ends⟩ := wrote.bind_tell tells few rfl
  cases ends
  exact ⟨rfl, told, fails, closes⟩

section Failing

variable (starts : World.Aloofness cycle start)
  (invokes : ∀ number, (invoke number).Aloof cycle (Known cycle))
include starts invokes

/-- A step on a recorded call that failed is a turn, if nothing of it was refused. -/
theorem serves_of_failed {failure : Failure} (aloof : world.Aloof cycle)
    (named : world.state.cycleId index = cycle) (few : refused ≤ world.state.unwritten.length)
    (found : world.state.invocations[number]? = some invocation)
    (runs : World.Runs start world (step invoke index number progress) (.error (.failed failure))
      after)
    (wrote : after.state.Wrote cycle refused) :
    ∃ fate, Serves start invoke index progress ⟨number, invocation, fate, world, after⟩
      (.error failure) := by
  subst named
  -- A refused line would end the run right there, so every line up to the failure was written.
  have reads : (get : CacheAction CacheState) world.state = (.ok world.state, world.state) := rfl
  rw [step_eq] at runs
  have runs := runs.acted reads
  simp only [found] at runs
  cases needed : isNeeded progress.text invocation.token (world.state.queued index) with
  | false =>
      simp only [needed, Bool.false_eq_true, if_false] at runs
      have runs := runs.acted (CacheState.setStatus_eq .skipped)
      obtain ⟨told, tells, -, ends⟩ := runs.bind_tell wrote few rfl
      cases ends
  | true =>
      simp only [needed, if_true] at runs
      have prepares := World.Hears.nothing aloof (aloof_prepared number progress.results)
      have runs := runs.acted (CacheState.prepare_eq progress.results)
      have runs := runs.acted CacheState.argumentsOf_eq
      obtain ⟨asked, tells, fewer, runs⟩ := runs.bind_tell wrote (prepares.count few) rfl
      have calls : Calls index progress number invocation world asked := ⟨found, needed, tells⟩
      obtain ⟨_, asks⟩ := calls.hears aloof rfl
      rcases runs.bind_stopped with ⟨outcome, answered, implements, ends⟩ | fails
      · have implements := implements.attempt_cases
        have hears := asks.aloof.hears starts (invokes number) implements
        cases outcome with
        | error cause =>
            obtain ⟨aborts, same⟩ := ends.action_cases
            obtain ⟨rfl, told, fails, closes⟩ := abort_failed aborts (hears.count fewer) wrote
            have tells : (answered.withState
                ((answered.state.withStatus number .failed).withQueue index [])).Tells _
                (answered.withState told) := ⟨fails, rfl⟩
            exact ⟨.failed failure, .failed calls implements tells ⟨closes, same⟩⟩
        | ok value =>
            obtain ⟨accepts, same⟩ := ends.action_cases
            obtain ⟨unreadable, last⟩ := accept_failed accepts (hears.count fewer) wrote
            obtain rfl : after = answered.withState
                (answered.state.withStatus number .completed) := by
              cases after
              cases last
              cases same
              rfl
            exact ⟨.unreadable value failure, .unreadable calls implements unreadable⟩
      · exact absurd fails Ends.attempt_unfailing

/-- A loop that failed has a course, if nothing of it was refused. -/
theorem course_of_failed {territory : Territory} {failure : Failure}
    (orders : Orders anyState start) (guards : ∀ number, (invoke number).Guarded)
    (guarded : World.Guarded anyState territory world) (owned : index ∈ territory.waitlists)
    (aloof : world.Aloof cycle) (named : world.state.cycleId index = cycle)
    (few : refused ≤ world.state.unwritten.length)
    (runs : World.Runs start world (loop invoke index fuel progress) (.error (.failed failure))
      after)
    (wrote : after.state.Wrote cycle refused) :
    ∃ turns, Course start invoke index world progress turns (.error failure) after := by
  induction fuel generalizing world progress territory with
  | zero => cases runs
  | succ fuel inductionHypothesis =>
      rw [loop_succ] at runs
      cases queued : world.state.queue index with
      | nil => cases runs.acted (CacheState.takeNext_nil queued)
      | cons number rest =>
          have taken := World.Hears.nothing aloof (aloof_withQueue index rest)
          have stillNamed := taken.named (guarded.holds.waitlists index owned) named
          have runs := runs.acted (CacheState.takeNext_cons queued)
          have inside := guarded.orderly.exist index number (by simp [queued])
          have found :
              (world.withState (world.state.withQueue index rest)).state.invocations[number]? =
                some world.state.invocations[number] := List.getElem?_eq_getElem inside
          -- A turn that came through leaves a world to which the induction applies.
          rcases runs.bind_stopped with ⟨next, between, first, second⟩ | fails
          · obtain ⟨fate, serves⟩ := serves_of_step found first
            have takes : Takes index world ⟨number, world.state.invocations[number], fate,
                world.withState (world.state.withQueue index rest), between⟩ := ⟨rest, queued, rfl⟩
            have guardedBefore := takes.guarded guarded owned
            have effect := serves.effect orders guards guardedBefore owned (Set.mem_insert _ _)
            obtain ⟨_, _, -, -, -, hears⟩ :=
              serves.hears starts invokes serves.readable taken.aloof stillNamed
            obtain ⟨turns, course⟩ := inductionHypothesis effect.guarded owned hears.aloof
              (hears.named (guardedBefore.holds.waitlists index owned) stillNamed)
              (hears.count few) second
            exact ⟨_ :: turns, .further takes serves course⟩
          · obtain ⟨fate, serves⟩ :=
              serves_of_failed starts invokes taken.aloof stillNamed few found fails wrote
            exact ⟨[_], .failed ⟨rest, queued, rfl⟩ serves⟩

end Failing

/-! ### The account of a course -/

/-- The calls that join a waitlist while its turns are taken, each recorded before the
implementation of its turn was over, and those that are left in it when the last one was. -/
inductive Joins
    (start : Starter)
    (invoke : Invoke)
    (index : Nat) : Progress → List Turn → List Nat → List Nat → Prop where
  | finished {progress : Progress} : Joins start invoke index progress [] [] []
  | further {progress next : Progress} {turn : Turn} {turns : List Turn} {answered : World}
      {joined more left : List Nat}
      (serves : Serves start invoke index progress turn (.ok next))
      (answers : Answers start invoke index progress turn answered)
      (grows : answered.state.queue index = turn.before.state.queue index ++ joined)
      (continues : Joins start invoke index next turns more left) :
      Joins start invoke index progress (turn :: turns) (joined ++ more) left
  | failed {progress : Progress} {turn : Turn} {answered : World} {joined : List Nat}
      {failure : Failure}
      (serves : Serves start invoke index progress turn (.error failure))
      (answers : Answers start invoke index progress turn answered)
      (grows : answered.state.queue index = turn.before.state.queue index ++ joined) :
      Joins start invoke index progress [turn] joined (answered.state.queue index)

section Course

variable {territory : Territory}

/-- While the call of a turn is run, calls join the waitlist at most. -/
theorem Answers.grows {answered : World}
    (answers : Answers start invoke index progress turn answered)
    (orders : Orders anyState start) (guards : ∀ number, (invoke number).Guarded)
    (guarded : World.Guarded anyState territory turn.before) (owned : index ∈ territory.waitlists)
    (taken : turn.number ∈ territory.calls) :
    ∃ joined, answered.state.queue index = turn.before.state.queue index ++ joined := by
  cases answers with
  | skipped fate => exact ⟨[], (List.append_nil _).symm⟩
  | ran calls runs =>
      obtain ⟨joined, queued, -⟩ :=
        (calls.spares runs orders guards guarded taken).1.recorded index owned
      exact ⟨joined, queued⟩

/-- A call that was taken earlier is not taken again. -/
theorem Takes.other (takes : Takes index world turn)
    (guarded : World.Guarded anyState territory world) (taken : number ∈ territory.calls) :
    number ≠ turn.number := by
  obtain ⟨rest, queued, -⟩ := takes
  rintro rfl
  exact guarded.holds.taken _ taken index (by rw [queued]; exact List.mem_cons_self)

/-- A call that was taken earlier stays as it is. -/
theorem Course.spares {outcome : Outcome Progress}
    (course : Course start invoke index world progress turns outcome after)
    (orders : Orders anyState start) (guards : ∀ number, (invoke number).Guarded)
    (guarded : World.Guarded anyState territory world) (owned : index ∈ territory.waitlists)
    (taken : number ∈ territory.calls) :
    after.state.invocations[number]? = world.state.invocations[number]? := by
  induction course generalizing territory with
  | finished empty => rfl
  | further takes serves continues inductionHypothesis =>
      have effect := serves.effect orders guards (takes.guarded guarded owned) owned
        (Set.mem_insert _ _)
      rw [inductionHypothesis effect.guarded owned (Set.mem_insert_of_mem _ taken)]
      exact takes.untouched serves orders guards guarded owned (.inl taken)
        (takes.other guarded taken)
  | failed takes serves =>
      exact takes.untouched serves orders guards guarded owned (.inl taken)
        (takes.other guarded taken)

/-- Every call that had its turn ends as its turn did. -/
theorem Course.ends {outcome : Outcome Progress}
    (course : Course start invoke index world progress turns outcome after)
    (orders : Orders anyState start) (guards : ∀ number, (invoke number).Guarded)
    (guarded : World.Guarded anyState territory world) (owned : index ∈ territory.waitlists) :
    ∀ turn ∈ turns, after.state.status? turn.number = some turn.fate.status := by
  induction course generalizing territory with
  | finished empty => exact List.forall_mem_nil _
  | further takes serves continues inductionHypothesis =>
      have effect := serves.effect orders guards (takes.guarded guarded owned) owned
        (Set.mem_insert _ _)
      refine List.forall_mem_cons.mpr ⟨?_, inductionHypothesis effect.guarded owned⟩
      rw [CacheState.status?, continues.spares orders guards effect.guarded owned
        (Set.mem_insert _ _)]
      exact effect.status
  | failed takes serves =>
      have effect := serves.effect orders guards (takes.guarded guarded owned) owned
        (Set.mem_insert _ _)
      exact List.forall_mem_singleton.mpr effect.status

theorem Serves.counts (serves : Serves start invoke index progress turn (.ok next))
    {events : List Event} (tells : turn.Tells cycle events) :
    next.resolved = progress.resolved + events.countP Event.completes ∧
      next.skipped = progress.skipped + events.countP Event.skips ∧
      next.resolved + next.skipped = progress.resolved + progress.skipped + 1 := by
  obtain ⟨arguments, duration, rfl⟩ := tells
  cases serves with
  | skipped => exact ⟨rfl, rfl, rfl⟩
  | returned => exact ⟨rfl, rfl, Nat.succ_add _ _⟩

/-- A drain that comes through has counted each of its turns. -/
theorem Course.counts
    (course : Course start invoke index world progress turns (.ok final) after)
    {blocks : List (List Event)} (tells : List.Forall₂ (Turn.Tells cycle) turns blocks) :
    final.resolved = progress.resolved + blocks.flatten.countP Event.completes ∧
      final.skipped = progress.skipped + blocks.flatten.countP Event.skips ∧
      final.resolved + final.skipped = progress.resolved + progress.skipped + turns.length := by
  generalize through : Except.ok final = outcome at course
  induction course generalizing blocks with
  | finished empty =>
      cases through
      cases tells
      exact ⟨rfl, rfl, rfl⟩
  | further takes serves continues inductionHypothesis =>
      obtain ⟨block, more, told, later, rfl⟩ := List.forall₂_cons_left_iff.mp tells
      obtain ⟨resolved, skipped, sums⟩ := inductionHypothesis later through
      obtain ⟨resolvedHere, skippedHere, sumsHere⟩ := serves.counts told
      rw [List.flatten_cons, List.countP_append, List.countP_append, List.length_cons]
      omega
  | failed takes serves => cases through

/-- The turns of a course that failed, if every value had a text: the last one failed. -/
theorem Course.fails {failure : Failure}
    (course : Course start invoke index world progress turns (.error failure) after)
    (readable : ∀ turn ∈ turns, turn.Readable) :
    ∃ earlier last, turns = earlier ++ [last] ∧ last.fate = .failed failure ∧
      ∀ turn ∈ earlier, turn.stops = false := by
  generalize fails : Except.error failure = outcome at course
  induction course with
  | finished empty => cases fails
  | further takes serves continues inductionHypothesis =>
      obtain ⟨here, behind⟩ := List.forall_mem_cons.mp readable
      obtain ⟨earlier, last, rfl, failed, goOn⟩ := inductionHypothesis behind fails
      exact ⟨_ :: earlier, last, rfl, failed, List.forall_mem_cons.mpr ⟨serves.goesOn, goOn⟩⟩
  | @failed world progress turn cause takes serves =>
      cases fails
      have readable := readable turn List.mem_cons_self
      cases serves with
      | unreadable calls runs unreadable => exact absurd rfl (readable _ _)
      | failed calls runs tells closes => exact ⟨[], _, rfl, rfl, List.forall_mem_nil _⟩

/-- A drain that comes through has met no value without a text. -/
theorem Course.readable
    (course : Course start invoke index world progress turns (.ok final) after) :
    ∀ turn ∈ turns, turn.Readable := by
  generalize through : Except.ok final = outcome at course
  induction course with
  | finished empty => exact List.forall_mem_nil _
  | further takes serves continues inductionHypothesis =>
      exact List.forall_mem_cons.mpr ⟨serves.readable, inductionHypothesis through⟩
  | failed takes serves => cases through

/-- A call that is taken is followed by those that are queued when it is over. -/
theorem Takes.joined {answered : World} {joined : List Nat} (takes : Takes index world turn)
    (grows : answered.state.queue index = turn.before.state.queue index ++ joined) :
    world.state.queue index ++ joined = turn.number :: answered.state.queue index := by
  obtain ⟨rest, queued, taken⟩ := takes
  rw [grows, takes_queue queued taken, queued]
  rfl

variable (starts : World.Aloofness cycle start)
  (invokes : ∀ number, (invoke number).Aloof cycle (Known cycle))
include starts invokes

/-- Every turn of a course is told, and the calls that were ever queued are those of its turns and
those that it left behind. -/
theorem Course.hears {outcome : Outcome Progress}
    (course : Course start invoke index world progress turns outcome after)
    (orders : Orders anyState start) (guards : ∀ number, (invoke number).Guarded)
    (guarded : World.Guarded anyState territory world) (owned : index ∈ territory.waitlists)
    (aloof : world.Aloof cycle) (named : world.state.cycleId index = cycle)
    (readable : ∀ turn ∈ turns, turn.Readable) :
    ∃ blocks joined left, List.Forall₂ (Turn.Tells cycle) turns blocks ∧
      Joins start invoke index progress turns joined left ∧
      world.state.queue index ++ joined = turns.map Turn.number ++ left ∧
      (∀ final, outcome = .ok final → left = []) ∧
      World.Hears cycle (blocks.flatten ++ discarding cycle left.length outcome) world after := by
  -- What is queued when the call of a turn is over is what the next turn takes from.
  induction course generalizing territory with
  | finished empty =>
      refine ⟨[], [], [], .nil, .finished, ?_, fun _ _ => rfl, .nothing aloof (.refl cycle _)⟩
      rw [empty]
      rfl
  | further takes serves continues inductionHypothesis =>
      obtain ⟨here, behind⟩ := List.forall_mem_cons.mp readable
      have guardedBefore := takes.guarded guarded owned
      have effect := serves.effect orders guards guardedBefore owned (Set.mem_insert _ _)
      have taken := takes.hears aloof
      have namedBefore := taken.named (guarded.holds.waitlists index owned) named
      obtain ⟨events, answered, tells, answers, same, hears⟩ :=
        serves.hears starts invokes here taken.aloof namedBefore
      obtain ⟨joined, grows⟩ := answers.grows orders guards guardedBefore owned (Set.mem_insert _ _)
      obtain ⟨blocks, more, left, each, joins, all, none, further⟩ :=
        inductionHypothesis effect.guarded owned hears.aloof
          (hears.named (guardedBefore.holds.waitlists index owned) namedBefore) behind
      refine ⟨events :: blocks, joined ++ more, left, .cons tells each,
        .further serves answers grows joins, ?_, none, ?_⟩
      · rw [← List.append_assoc, takes.joined grows, ← same _ rfl, List.cons_append, all]
        rfl
      · have heard := taken.trans (hears.trans further)
        rwa [discarding, List.append_nil, List.nil_append, ← List.append_assoc,
          ← List.flatten_cons] at heard
  | failed takes serves =>
      have guardedBefore := takes.guarded guarded owned
      have taken := takes.hears aloof
      have namedBefore := taken.named (guarded.holds.waitlists index owned) named
      obtain ⟨events, answered, tells, answers, -, hears⟩ :=
        serves.hears starts invokes (readable _ List.mem_cons_self) taken.aloof namedBefore
      obtain ⟨joined, grows⟩ := answers.grows orders guards guardedBefore owned (Set.mem_insert _ _)
      refine ⟨[events], joined, _, .cons tells .nil, .failed serves answers grows,
        takes.joined grows, nofun, ?_⟩
      rw [List.flatten_singleton]
      exact taken.trans hears

end Course

/-! ### The account of a drain -/

/-- What a drain tells of its cycle: that it starts, what each turn tells, and then the counts of
calls that completed and were skipped, which are all calls there ever were, or after the turn that
failed the count of calls that are discarded. -/
inductive Account
    (cycle : String)
    (pending total : Nat)
    (turns : List Turn) : Outcome String → List Event → Prop where
  | finished {text : String} {blocks : List (List Event)} {resolved skipped : Nat}
      {duration : Value}
      (tells : List.Forall₂ (Turn.Tells cycle) turns blocks)
      (completes : resolved = blocks.flatten.countP Event.completes)
      (skips : skipped = blocks.flatten.countP Event.skips)
      (sums : resolved + skipped = total) :
      Account cycle pending total turns (.ok text)
        (.started (.text cycle) (.int pending) ::
          (blocks.flatten ++ [.finished (.text cycle) (.int resolved) (.int skipped) duration]))
  | aborted {failure : Failure} {blocks : List (List Event)} {earlier : List Turn} {last : Turn}
      {remaining : Nat}
      (tells : List.Forall₂ (Turn.Tells cycle) turns blocks)
      (split : turns = earlier ++ [last])
      (fails : last.fate = .failed failure)
      (goOn : ∀ turn ∈ earlier, turn.stops = false)
      (sums : remaining + turns.length = total) :
      Account cycle pending total turns (.error failure)
        (.started (.text cycle) (.int pending) ::
          (blocks.flatten ++ [.aborted (.text cycle) (.int remaining)]))

/-- Calls that are queued while the turns of a drain are taken are recorded. -/
theorem queued_recorded (world : World)
    (held : ∃ territory : Territory, World.Guarded anyState territory world ∧
      index ∈ territory.waitlists) :
    ∀ number ∈ world.state.queue index, number < world.state.invocations.length := by
  obtain ⟨territory, guarded, -⟩ := held
  exact guarded.orderly.exist index

theorem guards_turn (orders : Orders anyState start) (guards : ∀ number, (invoke number).Guarded)
    (world : World) (progress : Progress) (turn : Turn) (next : Progress)
    (held : ∃ territory : Territory, World.Guarded anyState territory world ∧
      index ∈ territory.waitlists)
    (takes : Takes index world turn) (serves : Serves start invoke index progress turn (.ok next)) :
    ∃ territory : Territory, World.Guarded anyState territory turn.after ∧
      index ∈ territory.waitlists := by
  obtain ⟨territory, guarded, owned⟩ := held
  exact ⟨_, (serves.effect orders guards (takes.guarded guarded owned) owned
    (Set.mem_insert _ _)).guarded, owned⟩

section Resolution

variable {territory : Territory} {text : String}
  (orders : Orders anyState start) (guards : ∀ number, (invoke number).Guarded)
  (guarded : World.Guarded anyState territory world) (owned : index ∈ territory.waitlists)
include orders guards guarded owned

theorem Resolution.ends {outcome : Outcome String}
    (resolution : Resolution start invoke index text world turns outcome after) :
    ∀ turn ∈ turns, after.state.status? turn.number = some turn.fate.status := by
  cases resolution with
  | finished begins course ends =>
      intro turn member
      rw [CacheState.status?, ends.invocations]
      exact course.ends orders guards (guarded.tell begins 0).2 owned turn member
  | failed begins course => exact course.ends orders guards (guarded.tell begins 0).2 owned

variable (starts : World.Aloofness cycle start)
  (invokes : ∀ number, (invoke number).Aloof cycle (Known cycle))
  (aloof : world.Aloof cycle) (named : world.state.cycleId index = cycle)
include starts invokes aloof named

/-- A drain that failed has a course, if nothing of it was refused. -/
theorem resolution_of_failed {failure : Failure}
    (runs : World.Runs start world (run invoke fuel index text) (.error (.failed failure)) after)
    (few : refused ≤ world.state.unwritten.length) (wrote : after.state.Wrote cycle refused) :
    ∃ turns, Resolution start invoke index text world turns (.error failure) after := by
  subst named
  have reads : (get : CacheAction CacheState) world.state = (.ok world.state, world.state) := rfl
  rw [run_eq] at runs
  have runs := runs.acted reads
  obtain ⟨begun, tells, few, runs⟩ := runs.bind_tell wrote few rfl
  have hears := aloof.tells tells rfl
  rcases runs.bind_stopped with ⟨progress, middle, loops, runs⟩ | fails
  · obtain ⟨turns, -, course⟩ := course_of_loop ⟨territory, (guarded.tell tells 0).2, owned⟩
      queued_recorded (guards_turn orders guards) loops
    obtain ⟨_, _, _, -, -, -, -, further⟩ := course.hears starts invokes orders guards
      (guarded.tell tells 0).2 owned hears.aloof
      (hears.named (guarded.holds.waitlists index owned) rfl) course.readable
    have runs := runs.acted (CacheState.elapsedSince_eq _)
    obtain ⟨told, -, -, ends⟩ := runs.bind_tell wrote (further.count few) rfl
    cases ends
  · obtain ⟨turns, course⟩ := course_of_failed starts invokes orders guards
      (guarded.tell tells 0).2 owned hears.aloof
      (hears.named (guarded.holds.waitlists index owned) rfl) few fails wrote
    exact ⟨turns, .failed tells course⟩

/-- A drain that ended has a course, if nothing of it was refused. -/
theorem resolution_of_ended {outcome : Outcome String}
    (runs : World.Runs start world (run invoke fuel index text) outcome.asResult after)
    (few : refused ≤ world.state.unwritten.length) (wrote : after.state.Wrote cycle refused) :
    ∃ turns, Resolution start invoke index text world turns outcome after := by
  cases outcome with
  | ok result =>
      obtain ⟨turns, -, resolution⟩ := resolution_of_run
        (fun tells => ⟨territory, (guarded.tell tells 0).2, owned⟩) queued_recorded
        (guards_turn orders guards) runs
      exact ⟨turns, resolution⟩
  | error failure =>
      exact resolution_of_failed orders guards guarded owned starts invokes aloof named runs few
        wrote

/-- A drain that ended has told a complete account of its turns, and all calls that were ever
queued had a turn or are left. -/
theorem Resolution.account {outcome : Outcome String}
    (resolution : Resolution start invoke index text world turns outcome after)
    (readable : ∀ turn ∈ turns, turn.Readable) :
    ∃ told joined left, World.Hears cycle told world after ∧
      Joins start invoke index (.start text) turns joined left ∧
      world.state.queue index ++ joined = turns.map Turn.number ++ left ∧
      Account cycle (world.state.queue index).length (world.state.queue index ++ joined).length
        turns outcome told := by
  subst named
  cases resolution with
  | @finished begun middle after progress begins course ends =>
      have hears := aloof.tells begins rfl
      obtain ⟨blocks, joined, left, tells, joins, all, none, further⟩ :=
        course.hears starts invokes orders guards (guarded.tell begins 0).2 owned hears.aloof
          (hears.named (guarded.holds.waitlists index owned) rfl) readable
      obtain rfl := none _ rfl
      obtain ⟨resolved, skipped, sums⟩ := course.counts tells
      rw [begins.queue] at all
      have heard := hears.trans (further.trans (further.aloof.tells ends rfl))
      rw [discarding, List.append_nil] at heard
      refine ⟨_, joined, [], heard, joins, all, .finished tells (resolved.trans (Nat.zero_add _))
        (skipped.trans (Nat.zero_add _)) (sums.trans ?_)⟩
      rw [all, List.append_nil, List.length_map]
      exact Nat.zero_add _
  | @failed begun after failure begins course =>
      have hears := aloof.tells begins rfl
      obtain ⟨blocks, joined, left, tells, joins, all, -, further⟩ :=
        course.hears starts invokes orders guards (guarded.tell begins 0).2 owned hears.aloof
          (hears.named (guarded.holds.waitlists index owned) rfl) readable
      obtain ⟨earlier, last, split, fails, goOn⟩ := course.fails readable
      rw [begins.queue] at all
      refine ⟨_, joined, left, hears.trans further, joins, all, .aborted tells split fails goOn ?_⟩
      rw [all, List.length_append, List.length_map, Nat.add_comm]

end Resolution

end Drain

/-! ### Lines -/

namespace Event

/-- The component that tells of an event. -/
def component : Event → Component
  | .registered _ _ | .overridden _ _ _ | .rejected _ _ => .registry
  | .renderCompleted _ _ _ | .renderFailed _ _ => .render
  | .started _ _ | .skipped _ _ _ | .invoking _ _ _ | .completed _ _ _ | .failed _ _ _ _
  | .duplicate _ _ | .finished _ _ _ _ | .aborted _ _ => .resolve

/-- The entry, if there is one, is of the component. -/
def Belongs
    (part : Component)
    (outcome : Outcome LogEntry) : Prop :=
  ∀ entry, outcome = .ok entry → entry.component = part

variable {settings : LogSettings} {part : Component} {event : Event}

theorem Belongs.bind {outcome : Outcome α} {next : α → Outcome LogEntry}
    (further : ∀ result, Belongs part (next result)) : Belongs part (outcome >>= next) := by
  intro entry made
  cases outcome with
  | ok result => exact further result entry made
  | error failure => cases made

theorem belongs_entry (event : Event) : Belongs event.component (event.entry settings) := by
  cases event with
  | invoking cycle name arguments =>
      simp only [entry]
      split
      all_goals
        repeat' refine Belongs.bind fun _ => ?_
        rintro _ ⟨⟩
        rfl
  | _ =>
      repeat' refine Belongs.bind fun _ => ?_
      all_goals
        rintro _ ⟨⟩
        rfl

/-- What is written of an event of resolution is at least a line, if everything is written. -/
theorem lines_ne_nil {lines : List String} (verbose : settings.writes .debug .resolve = true)
    (own : event.component = .resolve) (written : event.lines settings = .ok lines) :
    lines ≠ [] := by
  rw [Event.lines] at written
  cases made : event.entry settings with
  | error failure =>
      rw [made] at written
      cases written
  | ok entry =>
      rw [made] at written
      have isResolve : entry.component = .resolve := (belongs_entry event entry made).trans own
      have passes : settings.writes entry.level entry.component = true := by
        rw [isResolve, LogSettings.writes]
        rw [LogSettings.writes] at verbose
        simp_all [LogLevel.rank]
      have split : ∀ text : Outcome String,
          (do return (splitOnChar '\n' (← text).toList).map String.ofList) = Except.ok lines →
            lines ≠ [] := by
        rintro (failure | content) isText
        · cases isText
        · cases isText
          exact fun none => splitOnChar_ne_nil '\n' content.toList (List.map_eq_nil_iff.mp none)
      change entry.lines settings = .ok lines at written
      rw [LogEntry.lines, if_pos passes] at written
      by_cases json : settings.isJson = true
      · exact split entry.jsonText (by rwa [if_pos json] at written)
      · exact split (entry.coloredText settings) (by rwa [if_neg json] at written)

end Event

/-- An event of the cycle that was told has been written. -/
theorem CacheState.Wrote.written {events : List Event} {event : Event} {settings : LogSettings}
    {before after : CacheState} (wrote : after.Wrote cycle before.unwritten.length)
    (told : Told events before after) (log : before.log = some settings) (member : event ∈ events)
    (own : event.concerns cycle = true) : ∃ lines, event.lines settings = .ok lines := by
  cases written : event.lines settings with
  | ok lines => exact ⟨lines, rfl⟩
  | error failure =>
      have refuses : before.refuses event = true := by rw [refuses, log, Option.map_some, written]
      have last : event ∈ after.unwritten.drop before.unwritten.length := by
        rw [told.unwritten, List.drop_left]
        exact List.mem_filter.mpr ⟨member, refuses⟩
      rw [wrote event last] at own
      cases own

/-- The account of a drain is told by the component that resolves. -/
theorem Drain.Account.component {pending total : Nat} {turns : List Turn} {outcome : Outcome String}
    {told : List Event} (account : Account cycle pending total turns outcome told) :
    ∀ event ∈ told, event.component = .resolve := by
  have each : ∀ {turns : List Turn} {blocks : List (List Event)},
      List.Forall₂ (Turn.Tells cycle) turns blocks →
        ∀ event ∈ blocks.flatten, event.component = .resolve := by
    intro turns blocks tells
    induction tells with
    | nil => exact List.forall_mem_nil _
    | cons told _ inductionHypothesis =>
        obtain ⟨arguments, duration, rfl⟩ := told
        rw [List.flatten_cons]
        refine List.forall_mem_append.mpr ⟨?_, inductionHypothesis⟩
        rw [Turn.events]
        split <;> simp [Event.component]
  cases account with
  | finished tells =>
      simpa [Event.component, or_imp, forall_and] using each tells
  | aborted tells =>
      simpa [Event.component, or_imp, forall_and] using each tells

/-! ### Drains of a cache -/

/-- The log of a drain is a complete account of it.

Where everything of resolution is written, nothing that the drain told was refused, no value was
without a text, and nobody else is at work on the waitlist, the drain has told of its cycle, line
by line: that it starts, of each call in the order of the queue that it is skipped, or that it
begins and how it ended, which is its status then, and at the end what has become of all the calls
that were ever queued. -/
theorem drain_accounted {limits : Limits} {current : Option Nat} {index fuel : Nat}
    {text : String} {world after : World} {settings : LogSettings} {outcome : Outcome String}
    (guarded : World.Guarded anyState (.ofWaitlist index) world)
    (aloof : world.Aloof (world.state.cycleId index))
    (log : world.state.log = some settings)
    (verbose : settings.writes .debug .resolve = true)
    (runs : World.Runs (Cache.startRender limits) world
      (Drain.run (Cache.resolver limits current index) fuel index text) outcome.asResult after)
    (wrote : after.state.Wrote (world.state.cycleId index) world.state.unwritten.length) :
    (∃ turns, Drain.Resolution (Cache.startRender limits) (Cache.resolver limits current index)
      index text world turns outcome after) ∧
    ∀ turns,
      Drain.Resolution (Cache.startRender limits) (Cache.resolver limits current index) index text
        world turns outcome after →
      (∀ turn ∈ turns, turn.Readable) →
      ∃ told joined left,
        ToldOf (world.state.cycleId index) told world.state after.state ∧
        (∀ event ∈ told, ∃ lines, event.lines settings = .ok lines ∧ lines ≠ []) ∧
        Drain.Joins (Cache.startRender limits) (Cache.resolver limits current index) index
          (.start text) turns joined left ∧
        world.state.queue index ++ joined = turns.map Turn.number ++ left ∧
        (∀ turn ∈ turns, after.state.status? turn.number = some turn.fate.status) ∧
        Drain.Account (world.state.cycleId index) (world.state.queue index).length
          (world.state.queue index ++ joined).length turns outcome told := by
  have starts : World.Aloofness (world.state.cycleId index) (Cache.startRender limits) :=
    Cache.aloof_startRender limits
  have invokes : ∀ number, (Cache.resolver limits current index number).Aloof
      (world.state.cycleId index) (Known (world.state.cycleId index)) :=
    Cache.aloof_invoker (Cache.aloof_nested limits.depth) index
  have orders := Cache.orders limits
  have guards := @Cache.guarded_resolver limits current index
  refine ⟨Drain.resolution_of_ended orders guards guarded rfl starts invokes aloof rfl runs
    (Nat.le_refl _) wrote, fun turns resolution readable => ?_⟩
  obtain ⟨told, joined, left, hears, joins, all, account⟩ :=
    resolution.account orders guards guarded rfl starts invokes aloof rfl readable
  obtain ⟨events, isTold, own⟩ := hears.told
  refine ⟨told, joined, left, hears.told, fun event member => ?_, joins, all,
    resolution.ends orders guards guarded rfl, account⟩
  rw [← own] at member
  obtain ⟨among, concerns⟩ := List.mem_filter.mp member
  obtain ⟨lines, written⟩ := wrote.written isTold log among concerns
  exact ⟨lines, written,
    Event.lines_ne_nil verbose (account.component event (own ▸ member)) written⟩

namespace Sample

/-- Settings of a log in which everything is written. -/
def debugged : LogSettings :=
  { LogSettings.standard with level := .text LogLevel.debug.name }

def failingCall : Invocation :=
  { call "<y>" .none with
    target := .helper ⟨"helper", .function, .coroutine fun _ => .fail complaint⟩ }

/-- Three calls, of which the second one fails. -/
def debugging : CacheState :=
  { cache [call "<x>" (.int 1), failingCall, call "<z>" (.text "3")] with log := some debugged }

theorem orderly_debugging : debugging.Orderly := by
  have orderly := orderly_cache [call "<x>" (.int 1), failingCall, call "<z>" (.text "3")]
  exact ⟨orderly.exist, orderly.distinct, orderly.separate, orderly.fallback⟩

theorem debugged_tells {world : World} {event : Event} (log : world.state.log = some debugged)
    (written : (event.lines debugged).toOption.isSome = true) :
    ∃ lines, world.Tells event (world.withState (world.state.withLines lines)) := by
  apply world.tells_writes
  intro settings isLog
  obtain rfl := Option.some.inj (isLog.symm.trans log)
  cases shown : event.lines debugged with
  | ok lines => exact ⟨lines, rfl⟩
  | error failure =>
      rw [shown] at written
      cases written

/-- The state in which the implementation of a call has run, if it calls nothing. -/
def ran
    (number : Nat)
    (state : CacheState) : CacheState :=
  { state with
    calls := state.calls ++ [⟨"helper", .none⟩]
    started := state.started ++ [number] }

/-- The turn of the first call, with the lines that are written meanwhile. -/
def completing (early asking telling : List String) : Turn :=
  { number := 0
    invocation := call "<x>" (.int 1)
    fate := .returned (.int 1) "1"
    before := .ofState ((debugging.withLines early).withQueue 0 [1, 2])
    after := .ofState (((ran 0 (((debugging.withLines early).withQueue 0 [1, 2]).withLines
      asking)).withStatus 0 .completed).withLines telling) }

theorem completing_serves (early : List String) :
    ∃ asking telling,
      Drain.Serves (Cache.startRender limits) (Cache.resolver limits none 0) 0
        (.start "<x><y><z>") (completing early asking telling)
        (.ok ⟨"1<y><z>", [("<x>", "1")], 1, 0⟩) := by
  obtain ⟨asking, asks⟩ : ∃ lines,
      (World.ofState ((debugging.withLines early).withQueue 0 [1, 2])).Tells
        (.invoking (.text (cycleName 1)) (.text "helper") (.tuple [])) _ :=
    debugged_tells rfl (by decide +kernel)
  obtain ⟨telling, completes⟩ : ∃ lines,
      (World.ofState ((ran 0 (((debugging.withLines early).withQueue 0 [1, 2]).withLines
        asking)).withStatus 0 .completed)).Tells
        (.completed (.text (cycleName 1)) (.text "helper") (.int (elapsed 0 0))) _ :=
    debugged_tells rfl (by decide +kernel)
  have calls : Drain.Calls 0 (.start "<x><y><z>") 0 (call "<x>" (.int 1))
      (completing early asking telling).before _ := ⟨rfl, rfl, asks⟩
  have runs : World.Runs (Cache.startRender limits)
      (.ofState (((debugging.withLines early).withQueue 0 [1, 2]).withLines asking))
      (Cache.resolver limits none 0 0) (.ok (.int 1))
      (.ofState (ran 0 (((debugging.withLines early).withQueue 0 [1, 2]).withLines asking))) :=
    Drain.runs_at_once rfl
  refine ⟨asking, telling, ?_⟩
  exact .returned calls runs rfl completes

/-- The turn of the second call, whose failure is told before the rest is discarded. -/
def aborting (before : CacheState) (asking telling closing : List String) : Turn :=
  { number := 1
    invocation := failingCall
    fate := .failed complaint
    before := .ofState before
    after := .ofState (((((ran 1 ((before.prepared 1 [("<x>", "1")]).withLines asking)).withStatus 1
      .failed).withQueue 0 []).withLines telling).withLines closing) }

theorem aborting_serves (early asking telling : List String) :
    ∃ further reporting closing,
      Drain.Serves (Cache.startRender limits) (Cache.resolver limits none 0) 0
        ⟨"1<y><z>", [("<x>", "1")], 1, 0⟩
        (aborting ((completing early asking telling).after.state.withQueue 0 [2]) further reporting
          closing)
        (.error complaint) := by
  let before := (completing early asking telling).after.state.withQueue 0 [2]
  obtain ⟨further, asks⟩ : ∃ lines, (World.ofState (before.prepared 1 [("<x>", "1")])).Tells
      (.invoking (.text (cycleName 1)) (.text "helper") (.tuple [])) _ :=
    debugged_tells rfl (by decide +kernel)
  let failed := ((ran 1 ((before.prepared 1 [("<x>", "1")]).withLines further)).withStatus 1
    .failed).withQueue 0 []
  obtain ⟨reporting, fails⟩ : ∃ lines, (World.ofState failed).Tells
      (.failed (.text (cycleName 1)) (.text "helper") (.failure complaint) (.int (elapsed 0 0)))
      _ :=
    debugged_tells rfl (by decide +kernel)
  obtain ⟨closing, closes⟩ : ∃ lines, (World.ofState (failed.withLines reporting)).Tells
      (.aborted (.text (cycleName 1)) (.int 1)) _ := debugged_tells rfl (by decide +kernel)
  have calls : Drain.Calls 0 ⟨"1<y><z>", [("<x>", "1")], 1, 0⟩ 1 failingCall (.ofState before) _ :=
    ⟨rfl, rfl, asks⟩
  have runs : World.Runs (Cache.startRender limits)
      (.ofState ((before.prepared 1 [("<x>", "1")]).withLines further))
      (Cache.resolver limits none 0 1) (.error (.failed complaint))
      (.ofState (ran 1 ((before.prepared 1 [("<x>", "1")]).withLines further))) :=
    Drain.runs_at_once rfl
  exact ⟨further, reporting, closing, .failed calls runs fails closes⟩

/-- The first call returns, the second one fails, and the third one is discarded. -/
theorem debugging_accounted :
    ∃ first second after told joined left,
      World.Runs (Cache.startRender limits) (.ofState debugging)
        (Drain.run (Cache.resolver limits none 0) 10 0 "<x><y><z>") (.error (.failed complaint))
        after ∧
      ToldOf (cycleName 1) told debugging after.state ∧
      [0, 1, 2] ++ joined = [0, 1] ++ left ∧
      after.state.status? 0 = some .completed ∧ after.state.status? 1 = some .failed ∧
      Drain.Account (cycleName 1) 3 ([0, 1, 2] ++ joined).length [first, second]
        (.error complaint) told := by
  obtain ⟨early, begins⟩ : ∃ lines, (World.ofState debugging).Tells
      (.started (.text (cycleName 1)) (.int 3)) _ := debugged_tells rfl (by decide +kernel)
  obtain ⟨asking, telling, returns⟩ := completing_serves early
  obtain ⟨further, reporting, closing, aborts⟩ := aborting_serves early asking telling
  have course : Drain.Course (Cache.startRender limits) (Cache.resolver limits none 0) 0
      (.ofState (debugging.withLines early)) (.start "<x><y><z>")
      [completing early asking telling, _] (.error complaint) _ :=
    .further ⟨[1, 2], rfl, rfl⟩ returns (.failed ⟨[2], rfl, rfl⟩ aborts)
  have resolution : Drain.Resolution (Cache.startRender limits) (Cache.resolver limits none 0) 0
      "<x><y><z>" (.ofState debugging) _ (.error complaint) _ := .failed begins course
  have runs : World.Runs (Cache.startRender limits) (.ofState debugging)
      (Drain.run (Cache.resolver limits none 0) 10 0 "<x><y><z>")
      (Outcome.asResult (.error complaint)) _ := resolution.run (show 2 < 10 by decide)
  have guarded : World.Guarded anyState (.ofWaitlist 0) (.ofState debugging) :=
    World.guarded_ofWaitlist orderly_debugging (by decide) rfl
  have aloof : World.Aloof (cycleName 1) (.ofState debugging) :=
    ⟨⟨1, by decide, rfl⟩, List.forall_mem_nil _⟩
  have wrote : (aborting ((completing early asking telling).after.state.withQueue 0 [2]) further
      reporting closing).after.state.Wrote (cycleName 1) 0 := List.forall_mem_nil _
  obtain ⟨told, joined, left, isTold, -, -, all, statuses, account⟩ :=
    (drain_accounted guarded aloof rfl (by decide) runs wrote).2 _ resolution (by
      simp [Turn.Readable, completing, aborting])
  exact ⟨_, _, _, told, joined, left, runs, isTold, all,
    statuses _ List.mem_cons_self, statuses _ (List.mem_cons_of_mem _ List.mem_cons_self), account⟩

end Sample

end DeferredText
