import DeferredText.Proofs.Calm
import DeferredText.Proofs.Recount
import DeferredText.Proofs.Retired
import DeferredText.Proofs.Thread

/-!
Contract: helpers that relay what they receive to other deferred helpers.

Such a helper calls deferred helpers with texts put together from what it received and from
the tokens of its earlier calls, and answers with a text of that kind. Running it records its
calls at the end of the current waitlist and does nothing else to recorded calls.

Owns: texts put together from others, relaying helpers of both styles, and what running one
of them records and returns.

Does not own: in which order the recorded calls are taken (`Proofs.Rounds`).
-/

namespace DeferredText

open CacheState

/-! ### Relaying helpers -/

/-- A text put together from fixed texts and from the sources. -/
inductive Composed (sources : List String) : String → Prop where
  | fixed {content : String} (plain : IsPlain content) : Composed sources content
  | source {content : String} (member : content ∈ sources) : Composed sources content
  | append {left right : String} (first : Composed sources left)
      (second : Composed sources right) : Composed sources (left ++ right)

/-- If the value has a text, it is put together from the sources. -/
def Answers
    (sources : List String)
    (value : Value) : Prop :=
  ∀ text, resultText value = .ok text → Composed sources text

section Composed

variable {sources more tokens : List String} {content : String} {value : Value}

theorem Composed.mono (composed : Composed sources content) (fewer : sources ⊆ more) :
    Composed more content := by
  induction composed with
  | fixed plain => exact .fixed plain
  | source member => exact .source (fewer member)
  | append _ _ first second => exact .append first second

theorem Answers.mono (answers : Answers sources value) (fewer : sources ⊆ more) :
    Answers more value :=
  fun text readable => (answers text readable).mono fewer

/-- What is put together from written texts is written. -/
theorem Composed.written (composed : Composed sources content)
    (written : ∀ source ∈ sources, Written tokens source) : Written tokens content := by
  induction composed with
  | fixed plain => exact written_plain tokens plain
  | source member => exact written _ member
  | append _ _ first second => exact first.append second

end Composed

/-- The routine calls deferred helpers with texts put together from its sources, to which it
adds every token that it gets. What holds of the sources and the outcome in the end is a
parameter. -/
def Routine.Relays
    (registry : Registry)
    (post : List String → Outcome Value → Prop) : List String → Routine → Prop
  | sources, .finish value => post sources (.ok value)
  | sources, .fail failure => post sources (.error failure)
  | sources, .advance _ next => Relays registry post sources next
  | sources, .call name arguments next =>
      (∃ label target, registry.lookup name = .helper (.deferred label target)) ∧
        (∀ content ∈ arguments.contents, Composed sources content) ∧
          ∀ token, IsToken token →
            Relays registry post (sources ++ [token]) (next (.ok (.text token)))

/-- The coroutine relays what it received and renders nothing. -/
def Coroutine.Relays (registry : Registry) : List String → Coroutine → Prop
  | sources, .finish value => Answers sources value
  | _, .fail _ => True
  | sources, .compute routine next =>
      routine.Relays registry (fun known outcome => Relays registry known (next outcome)) sources
  | _, .render _ _ _ => False

/-- The result of a completion, if it has one, is put together from the sources. -/
def Completion.Answers
    (sources : List String)
    (completion : Completion) : Prop :=
  ∀ value, completion = .result value → DeferredText.Answers sources value

/-- The handler relays what it received and renders nothing. -/
def Handler.Relays (registry : Registry) : List String → Handler → Prop
  | _, .finish => True
  | _, .fail _ => True
  | sources, .compute routine next =>
      routine.Relays registry (fun known outcome => Relays registry known (next outcome)) sources
  | sources, .complete completion next =>
      completion.Answers sources ∧ Relays registry sources next
  | sources, .completeLater completion next =>
      completion.Answers sources ∧ Relays registry sources next
  | _, .startRender _ _ _ => False

/-- A coroutine or callback helper that relays whatever texts are in its arguments. -/
def Callable.Relays (registry : Registry) : Callable → Prop
  | .helper ⟨_, _, .coroutine run⟩ =>
      ∀ arguments, (run arguments).Relays registry arguments.contents
  | .helper ⟨_, _, .callback run⟩ =>
      ∀ arguments, (run arguments).Relays registry arguments.contents
  | _ => False

/-- All deferred helpers relay. -/
def Registry.Relays (registry : Registry) : Prop :=
  ∀ name label target, registry.lookup name = .helper (.deferred label target) →
    target.Relays registry

/-- It is enough that what templates call relays. -/
theorem Registry.relays_of_callables {registry : Registry}
    (each : ∀ row ∈ registry.callables, ∀ label target, row.2 = .deferred label target →
      target.Relays registry) : registry.Relays := by
  intro name label target found
  unfold Registry.lookup Registry.callable? Table.get? at found
  cases named : registry.callables.find? fun row => row.1 == name with
  | none =>
      rw [named] at found
      simp only [Option.map_none] at found
      split at found <;> cases found
  | some row =>
      rw [named] at found
      simp only [Option.map_some, Registry.Lookup.helper.injEq] at found
      exact each row (List.mem_of_find?_eq_some named) label target found

/-! ### What is recorded -/

/-- The calls have tokens and relaying targets, and are given texts put together from the
sources and from the tokens of the calls before them. -/
structure Relayed
    (registry : Registry)
    (sources : List String)
    (calls : List Invocation) : Prop where
  tokens : ∀ call ∈ calls, IsToken call.token
  targets : ∀ call ∈ calls, call.target.Relays registry
  arguments : ∀ earlier call later, calls = earlier ++ call :: later →
    ∀ content ∈ call.arguments.contents,
      Composed (sources ++ earlier.map Invocation.token) content

/-- The calls were recorded at the end of a waitlist. -/
structure Enqueues
    (index : Nat)
    (calls : List Invocation)
    (before after : CacheState) : Prop where
  invocations : after.invocations = before.invocations ++ calls
  queue : after.queue index =
    before.queue index ++ List.range' before.invocations.length calls.length
  waitlists : after.waitlists.length = before.waitlists.length
  shape : after.shape = before.shape
  registry : after.registry = before.registry
  fallback : after.defaultWaitlist = before.defaultWaitlist

/-- Calls made now are recorded in the waitlist, under standard tokens. -/
structure Hosts
    (current : Option Nat)
    (index : Nat)
    (registry : Registry)
    (state : CacheState) : Prop where
  recording : state.recording current = index
  inside : index < state.waitlists.length
  shape : state.shape.IsStandard
  registry : state.registry = registry

section Recorded

variable {registry : Registry} {sources : List String} {index : Nat} {current : Option Nat}
  {calls first second : List Invocation} {before middle after : CacheState}

theorem relayed_nil (registry : Registry) (sources : List String) :
    Relayed registry sources [] where
  tokens := fun _ member => absurd member List.not_mem_nil
  targets := fun _ member => absurd member List.not_mem_nil
  arguments := fun earlier _ _ split => absurd split (by simp)

theorem Relayed.append (left : Relayed registry sources first)
    (right : Relayed registry (sources ++ first.map Invocation.token) second) :
    Relayed registry sources (first ++ second) where
  tokens := fun call member => (List.mem_append.mp member).elim (left.tokens call) (right.tokens call)
  targets := fun call member =>
    (List.mem_append.mp member).elim (left.targets call) (right.targets call)
  arguments := by
    intro earlier call later split content member
    rcases append_split split with ⟨rest, within, -⟩ | ⟨inner, rfl, within⟩
    · exact left.arguments earlier call rest within content member
    · rw [List.map_append, ← List.append_assoc]
      exact right.arguments inner call later within content member

theorem Enqueues.refl (index : Nat) (state : CacheState) : Enqueues index [] state state :=
  ⟨(List.append_nil _).symm, (List.append_nil _).symm, rfl, rfl, rfl, rfl⟩

theorem Enqueues.trans (left : Enqueues index first before middle)
    (right : Enqueues index second middle after) :
    Enqueues index (first ++ second) before after where
  invocations := by rw [right.invocations, left.invocations, List.append_assoc]
  queue := by
    rw [right.queue, left.queue, left.invocations, List.append_assoc, List.length_append,
      List.length_append, ← List.range'_append_1]
  waitlists := right.waitlists.trans left.waitlists
  shape := right.shape.trans left.shape
  registry := right.registry.trans left.registry
  fallback := right.fallback.trans left.fallback

/-- Nothing was recorded, and what is recorded next goes where it went before. -/
theorem enqueues_of_core (same : after.core = before.core) : Enqueues index [] before after := by
  simp only [core, Prod.mk.injEq] at same
  obtain ⟨shape, -, -, registry, waitlists, fallback, invocations⟩ := same
  refine ⟨by rw [invocations, List.append_nil], ?_, by rw [waitlists], shape, registry, fallback⟩
  rw [queue, waitlist, waitlists, List.length_nil, List.range'_zero, List.append_nil]
  rfl

theorem Hosts.enqueues (hosts : Hosts current index registry before)
    (enqueues : Enqueues index calls before after) : Hosts current index registry after where
  recording := by
    rw [CacheState.recording, enqueues.fallback]
    exact hosts.recording
  inside := enqueues.waitlists.symm ▸ hosts.inside
  shape := enqueues.shape.symm ▸ hosts.shape
  registry := enqueues.registry.trans hosts.registry

end Recorded

/-! ### Routines -/

section Routines

variable {registry : Registry} {post : List String → Outcome Value → Prop} {sources : List String}
  {current : Option Nat} {index : Nat} {routine : Routine} {state : CacheState}

/-- A named call of a deferred helper is recorded, unless calls are nested too deep. -/
theorem callNamed_deferred (depth : Nat) {name label : String} {target : Callable}
    (arguments : Arguments) (hosts : Hosts current index registry state)
    (found : registry.lookup name = .helper (.deferred label target)) :
    callNamed current depth name arguments state = (.error .exhausted, state) ∨
      ∃ call supply, callNamed current depth name arguments state =
          (.ok (.text call.token), state.recordedIn index call supply) ∧
        IsToken call.token ∧ call.arguments = arguments ∧ call.target = target := by
  cases depth with
  | zero => exact .inl rfl
  | succ depth =>
      right
      let drawn := Supply.token state.shape state.supply
      let call : Invocation :=
        { token := drawn.1
          name := label
          arguments := arguments
          target := target
          style := target.style
          status := .pending }
      refine ⟨call, drawn.2, ?_, Supply.isToken_token hosts.shape _, rfl, rfl⟩
      have reads : (get : CacheAction CacheState) state = (.ok state, state) := rfl
      rw [callNamed, Action.bind_ok reads rfl, hosts.registry]
      simp only [found]
      rw [Callable.call.eq_def, ← hosts.recording]
      rfl

theorem enqueues_recordedIn {call : Invocation} {supply : Supply}
    (inside : index < state.waitlists.length) :
    Enqueues index [call] state (state.recordedIn index call supply) where
  invocations := rfl
  queue := by
    rw [queue_recordedIn, if_pos ⟨rfl, inside⟩]
    rfl
  waitlists := List.length_set
  shape := rfl
  registry := rfl
  fallback := rfl

/-- What a relaying routine records, and what holds of its outcome. -/
theorem Routine.Relays.run (depth : Nat) (relays : routine.Relays registry post sources)
    (targets : registry.Relays) (hosts : Hosts current index registry state) :
    ∃ result after calls, routine.run (callNamed current depth) state = (result, after) ∧
      Enqueues index calls state after ∧ Relayed registry sources calls ∧
      after.promises = state.promises ∧ after.ready = state.ready ∧
      ∀ outcome, result = Outcome.asResult outcome →
        post (sources ++ calls.map Invocation.token) outcome := by
  induction routine generalizing sources state with
  | finish value =>
      refine ⟨.ok value, state, [], rfl, .refl index state, relayed_nil _ _, rfl, rfl, ?_⟩
      rintro (failure | given) same
      · cases same
      · cases same
        rw [List.map_nil, List.append_nil]
        exact relays
  | fail failure =>
      refine ⟨.error (.failed failure), state, [], rfl, .refl index state, relayed_nil _ _, rfl,
        rfl, ?_⟩
      rintro (raised | given) same
      · cases same
        rw [List.map_nil, List.append_nil]
        exact relays
      · cases same
  | advance amount next inductionHypothesis =>
      have same : ({ state with clock := state.clock + amount } : CacheState).core = state.core := rfl
      obtain ⟨result, after, calls, runs, enqueues, relayed, promises, ready, holds⟩ :=
        inductionHypothesis relays (hosts.enqueues (enqueues_of_core same))
      have advances : advanceClock amount state =
          (.ok (), { state with clock := state.clock + amount }) := rfl
      refine ⟨result, after, calls, ?_, (enqueues_of_core same).trans enqueues, relayed, promises,
        ready, holds⟩
      rw [Routine.run]
      exact Action.bind_ok advances runs
  | call name arguments next inductionHypothesis =>
      obtain ⟨⟨label, target, found⟩, composed, further⟩ := relays
      rcases callNamed_deferred depth arguments hosts found with deep |
        ⟨call, supply, called, isToken, given, isTarget⟩
      · refine ⟨.error .exhausted, state, [], ?_, .refl index state, relayed_nil _ _, rfl, rfl, ?_⟩
        · have attempted : Action.attempt (callNamed current depth name arguments) state =
              (.error .exhausted, state) := by
            rw [Action.attempt, deep]
          rw [Routine.run]
          exact Action.bind_error attempted
        · rintro (failure | value) same <;> cases same
      · have enqueued : Enqueues index [call] state (state.recordedIn index call supply) :=
          enqueues_recordedIn hosts.inside
        have single : Relayed registry sources [call] := by
          refine ⟨?_, ?_, ?_⟩
          · intro other member
            rw [List.mem_singleton.mp member]
            exact isToken
          · intro other member
            rw [List.mem_singleton.mp member, isTarget]
            exact targets name label target found
          · intro earlier other later split content member
            obtain ⟨rfl, rfl, -⟩ : earlier = [] ∧ call = other ∧ later = [] := by
              rcases earlier with _ | ⟨head, rest⟩ <;> simp_all
            rw [given] at member
            rw [List.map_nil, List.append_nil]
            exact composed content member
        obtain ⟨result, after, calls, runs, enqueues, relayed, promises, ready, holds⟩ :=
          inductionHypothesis (.ok (.text call.token)) (further call.token isToken)
            (hosts.enqueues enqueued)
        refine ⟨result, after, call :: calls, ?_, enqueued.trans enqueues, single.append relayed,
          promises, ready, ?_⟩
        · have attempted : Action.attempt (callNamed current depth name arguments) state =
              (.ok (.ok (.text call.token)), state.recordedIn index call supply) := by
            rw [Action.attempt, called]
          rw [Routine.run]
          exact Action.bind_ok attempted runs
        · intro outcome same
          have known := holds outcome same
          rw [List.append_assoc] at known
          exact known

/-- The same for a routine whose failure is handed over as a value. -/
theorem Routine.Relays.attempt (limits : Limits) (relays : routine.Relays registry post sources)
    (targets : registry.Relays) (hosts : Hosts current index registry state) :
    ∃ result after calls, Action.attempt (runRoutine limits current routine) state =
        (result, after) ∧
      Enqueues index calls state after ∧ Relayed registry sources calls ∧
      after.promises = state.promises ∧ after.ready = state.ready ∧
      ∀ outcome, result = .ok outcome → post (sources ++ calls.map Invocation.token) outcome := by
  obtain ⟨result, after, calls, runs, enqueues, relayed, promises, ready, holds⟩ :=
    relays.run limits.depth targets hosts
  refine ⟨caught result, after, calls, ?_, enqueues, relayed, promises, ready, ?_⟩
  · rw [Action.attempt_eq, runRoutine, runs]
  · intro outcome same
    apply holds
    rcases result with (failure | _ | _) | value <;> cases same <;> rfl

end Routines

/-! ### Coroutines and handlers -/

/-- The delivery concerns the promise, and a result that it brings is a good one. -/
def Delivery.Reports
    (promise : Nat)
    (good : Completion → Prop) : Delivery → Prop
  | .settle number completion => number = promise ∧ good completion
  | .complete number completion => number = promise ∧ good completion
  | _ => False

theorem Delivery.Reports.mono {promise : Nat} {good better : Completion → Prop}
    {delivery : Delivery} (reports : delivery.Reports promise good)
    (implies : ∀ completion, good completion → better completion) :
    delivery.Reports promise better := by
  cases delivery with
  | settle number completion => exact ⟨reports.1, implies completion reports.2⟩
  | complete number completion => exact ⟨reports.1, implies completion reports.2⟩
  | begin => cases reports
  | resume => cases reports

section Running

variable {registry : Registry} {sources : List String} {limits : Limits} {current : Option Nat}
  {index promise : Nat} {render : NestedRender} {coroutine : Coroutine} {handler : Handler}
  {state : CacheState}

/-- What a relaying coroutine records and returns; it does not wait. -/
theorem Coroutine.Relays.run (limits : Limits) (render : NestedRender)
    (relays : coroutine.Relays registry sources) (targets : registry.Relays)
    (hosts : Hosts current index registry state) :
    ∃ result after calls,
      coroutine.run (runRoutine limits current) render state = .done result after ∧
      Enqueues index calls state after ∧ Relayed registry sources calls ∧
      after.promises = state.promises ∧ after.ready = state.ready ∧
      ∀ value, result = .ok value → Answers (sources ++ calls.map Invocation.token) value := by
  induction coroutine generalizing sources state with
  | finish value =>
      refine ⟨.ok value, state, [], rfl, .refl index state, relayed_nil _ _, rfl, rfl, ?_⟩
      rintro given same
      cases same
      rw [List.map_nil, List.append_nil]
      exact relays
  | fail failure =>
      exact ⟨_, state, [], rfl, .refl index state, relayed_nil _ _, rfl, rfl, nofun⟩
  | compute routine next inductionHypothesis =>
      obtain ⟨result, middle, first, attempted, enqueues, relayed, promises, ready, holds⟩ :=
        relays.attempt limits targets hosts
      cases result with
      | error stop =>
          refine ⟨.error stop, middle, first, ?_, enqueues, relayed, promises, ready, nofun⟩
          rw [Coroutine.run]
          exact Task.bind_stop attempted
      | ok outcome =>
          obtain ⟨final, after, second, further, enqueuesNext, relayedNext, promisesNext, readyNext,
            answers⟩ := inductionHypothesis outcome (holds outcome rfl) (hosts.enqueues enqueues)
          refine ⟨final, after, first ++ second, ?_, enqueues.trans enqueuesNext,
            relayed.append relayedNext, promisesNext.trans promises, readyNext.trans ready, ?_⟩
          · rw [Coroutine.run]
            exact (Task.bind_ok attempted).trans further
          · intro value isResult
            rw [List.map_append, ← List.append_assoc]
            exact answers value isResult
  | render template data next => exact relays.elim

theorem Completion.Answers.mono {more : List String} {completion : Completion}
    (answers : completion.Answers sources) (fewer : sources ⊆ more) : completion.Answers more :=
  fun value isResult => (answers value isResult).mono fewer

/-- The action records calls that are put together from the sources, and leaves to be
delivered to the promise what is put together from the sources and their tokens. -/
def Leaves
    (registry : Registry)
    (sources : List String)
    (index promise : Nat)
    (action : CacheAction Unit)
    (state : CacheState) : Prop :=
  ∃ result after calls due, action state = (result, after) ∧
    Enqueues index calls state after ∧ Relayed registry sources calls ∧
    after.promises = state.promises ∧ after.ready = state.ready ++ due ∧
    ∀ delivery ∈ due, delivery.Reports promise
      (Completion.Answers (sources ++ calls.map Invocation.token))

theorem leaves_nothing {result : Except Stop Unit} {action : CacheAction Unit}
    (acts : action state = (result, state)) :
    Leaves registry sources index promise action state :=
  ⟨result, state, [], [], acts, .refl index state, relayed_nil _ _, rfl,
    (List.append_nil _).symm, nofun⟩

/-- A delivery is left in front of what else is left. -/
theorem Leaves.schedule {delivery : Delivery} {action : CacheAction Unit}
    (reports : delivery.Reports promise (Completion.Answers sources))
    (leaves : Leaves registry sources index promise action
      (state.withReady (state.ready ++ [delivery]))) :
    Leaves registry sources index promise (CacheState.schedule delivery >>= fun _ => action)
      state := by
  obtain ⟨result, after, calls, due, acts, enqueues, relayed, promises, ready, others⟩ := leaves
  have schedules : CacheState.schedule delivery state =
      (.ok (), state.withReady (state.ready ++ [delivery])) := rfl
  have untouched : Enqueues index [] state (state.withReady (state.ready ++ [delivery])) :=
    enqueues_of_core rfl
  refine ⟨result, after, calls, delivery :: due, Action.bind_ok schedules acts,
    untouched.trans enqueues, relayed, promises, ?_, ?_⟩
  · rw [ready, withReady, List.append_assoc]
    rfl
  · intro other member
    rcases List.mem_cons.mp member with rfl | further
    · exact reports.mono fun completion answers => answers.mono (List.subset_append_left _ _)
    · exact others other further

/-- What a relaying handler records, and what it leaves to be delivered to its promise. -/
theorem Handler.Relays.run (limits : Limits) (promise : Nat)
    (relays : handler.Relays registry sources) (targets : registry.Relays)
    (hosts : Hosts current index registry state) :
    Leaves registry sources index promise
      (handler.run (runRoutine limits current) promise current) state := by
  induction handler generalizing sources state with
  | finish => exact leaves_nothing rfl
  | fail failure => exact leaves_nothing rfl
  | compute routine next inductionHypothesis =>
      obtain ⟨result, middle, first, attempted, enqueues, relayed, promises, ready, holds⟩ :=
        relays.attempt limits targets hosts
      cases result with
      | error stop =>
          refine ⟨.error stop, middle, first, [], ?_, enqueues, relayed, promises,
            ready.trans (List.append_nil _).symm, nofun⟩
          rw [Handler.run]
          exact Action.bind_error attempted
      | ok outcome =>
          obtain ⟨final, after, second, due, further, enqueuesNext, relayedNext, promisesNext,
            readyNext, reports⟩ :=
            inductionHypothesis outcome (holds outcome rfl) (hosts.enqueues enqueues)
          refine ⟨final, after, first ++ second, due, ?_, enqueues.trans enqueuesNext,
            relayed.append relayedNext, promisesNext.trans promises, by rw [readyNext, ready], ?_⟩
          · rw [Handler.run]
            exact Action.bind_ok attempted further
          · rw [List.map_append, ← List.append_assoc]
            exact reports
  | complete completion next inductionHypothesis =>
      have untouched : Enqueues index [] state (state.withReady
          (state.ready ++ [.settle promise completion])) := enqueues_of_core rfl
      rw [Handler.run]
      exact .schedule ⟨rfl, relays.1⟩ (inductionHypothesis relays.2 (hosts.enqueues untouched))
  | completeLater completion next inductionHypothesis =>
      have untouched : Enqueues index [] state (state.withReady
          (state.ready ++ [.complete promise completion])) := enqueues_of_core rfl
      rw [Handler.run]
      exact .schedule ⟨rfl, relays.1⟩ (inductionHypothesis relays.2 (hosts.enqueues untouched))
  | startRender template data next => exact relays.elim

end Running

/-! ### Implementations -/

section Implementations

variable {start : Starter} {registry : Registry} {limits : Limits} {current : Option Nat}
  {index number promise : Nat} {render : NestedRender} {world after : World} {call : Invocation}
  {value : Value}

/-- The world after an action that left deliveries to a fresh promise, which is awaited. -/
theorem World.Calm.expects {sources : List String} {before state : CacheState}
    {suspended : List Suspended} {owed : Promise} {due : List Delivery}
    (calm : World.Calm ⟨before, suspended⟩) (undecided : owed.outcome = none)
    (promises : state.promises = before.promises ++ [owed])
    (ready : state.ready = before.ready ++ due)
    (reports : ∀ delivery ∈ due, delivery.Reports before.promises.length
      (Completion.Answers sources)) :
    World.Expects (Answers sources) before.promises.length ⟨state, suspended⟩ := by
  have longer : before.promises.length < state.promises.length := by
    rw [promises, List.length_append]
    exact Nat.lt_succ_self _
  -- What was due before is for promises that were made before.
  have earlier : ∀ delivery ∈ before.ready,
      delivery.promise? ≠ some before.promises.length := by
    intro delivery member same
    obtain ⟨number, inside, isFor, -⟩ := calm.due delivery member
    rw [same] at isFor
    cases isFor
    exact absurd inside (Nat.lt_irrefl _)
  refine ⟨⟨?_, fun task member => (calm.waiting task member).trans longer⟩, ?_, ?_⟩
  · intro delivery member
    rw [ready] at member
    rcases List.mem_append.mp member with old | new
    · obtain ⟨number, inside, isFor, unawaited⟩ := calm.due delivery old
      exact ⟨number, inside.trans longer, isFor, unawaited⟩
    · refine ⟨before.promises.length, longer, ?_, ?_⟩
      · have concerns := reports delivery new
        cases delivery with
        | settle | complete => exact congrArg some concerns.1
        | begin | resume => cases concerns
      · exact fun task waits same => absurd (calm.waiting task waits) (same ▸ Nat.lt_irrefl _)
  · rintro value (settled | completed)
    · rcases List.mem_append.mp (ready ▸ settled) with old | new
      · exact absurd rfl (earlier _ old)
      · exact (reports _ new).2 value rfl
    · rcases List.mem_append.mp (ready ▸ completed) with old | new
      · exact absurd rfl (earlier _ old)
      · exact (reports _ new).2 value rfl
  · intro value decided
    rw [CacheState.outcome?, promises, List.getElem?_concat_length] at decided
    rw [Option.bind_some, undecided] at decided
    cases decided

/-- When a relaying helper returned, it has recorded calls at the end of the waitlist, and its
answer is put together from what it received and from their tokens. -/
theorem Callable.Relays.runs (found : world.state.invocations[number]? = some call)
    (relays : call.target.Relays registry) (targets : registry.Relays)
    (hosts : Hosts current index registry world.state) (calm : world.Calm)
    (runs : World.Runs start world (Cache.invoker limits current index render number) (.ok value)
      after) :
    ∃ calls, Enqueues index calls world.state after.state ∧
      Relayed registry call.arguments.contents calls ∧
      Answers (call.arguments.contents ++ calls.map Invocation.token) value ∧ after.Calm := by
  have reads : (get : CacheAction CacheState) world.state = (.ok world.state, world.state) := rfl
  obtain ⟨token, name, arguments, target, style, status⟩ := call
  rw [Cache.invoker] at runs
  have runs := runs.after_action reads
  rw [Invoke.implementation] at runs
  have runs := runs.after_action reads
  simp only [found] at runs
  have starts : noteStart number world.state =
      (.ok (), { world.state with started := world.state.started ++ [number] }) := rfl
  have runs := runs.after_action starts
  cases target with
  | deferred | factory => exact relays.elim
  | helper implementation =>
    obtain ⟨label, shape, behaviour⟩ := implementation
    cases behaviour with
    | plain run => exact relays.elim
    | coroutine run =>
        dsimp only at runs
        let noted : CacheState :=
          { world.state with
            started := world.state.started ++ [number]
            calls := world.state.calls ++ [⟨label, arguments⟩] }
        have notes : noteCall label arguments
            { world.state with started := world.state.started ++ [number] } = (.ok (), noted) := rfl
        have runs := runs.after_action notes
        have untouched : Enqueues index [] world.state noted := enqueues_of_core rfl
        obtain ⟨result, state, calls, finished, enqueues, relayed, promises, ready, answers⟩ :=
          (relays arguments).run limits render targets (hosts.enqueues untouched)
        rw [World.Runs] at runs
        dsimp only [World.withState] at runs
        rw [finished] at runs
        cases runs
        exact ⟨calls, untouched.trans enqueues, relayed, answers value rfl,
          calm.of_same promises ready⟩
    | callback run =>
        dsimp only at runs
        let owed : Promise := ⟨name, world.state.cycleId index, none⟩
        let promised : CacheState :=
          { world.state with
            started := world.state.started ++ [number]
            promises := world.state.promises ++ [owed] }
        have makes : makePromise name (world.state.cycleId index)
            { world.state with started := world.state.started ++ [number] } =
              (.ok world.state.promises.length, promised) := rfl
        have runs := runs.after_action makes
        obtain ⟨_, waiting, acts, runs⟩ := runs.bind_action_cases
        let noted : CacheState :=
          { promised with calls := promised.calls ++ [⟨label, arguments⟩] }
        have notes : noteCall label arguments promised = (.ok (), noted) := rfl
        have untouched : Enqueues index [] world.state noted := enqueues_of_core rfl
        obtain ⟨result, left, calls, due, handles, enqueues, relayed, promises, ready, reports⟩ :=
          (relays arguments).run limits world.state.promises.length targets
            (hosts.enqueues untouched)
        have called : Invoke.callback (runRoutine limits current) current
            world.state.promises.length (.helper ⟨label, shape, .callback run⟩) arguments promised =
              (result, left) := Action.bind_ok notes handles
        cases called.symm.trans acts
        have undecided : owed.outcome = none := rfl
        have expects := calm.expects undecided promises ready reports
        obtain ⟨good, calmAfter, same⟩ := expects.await runs
        have recorded := (untouched.trans enqueues).trans (enqueues_of_core same)
        rw [List.nil_append, List.append_nil] at recorded
        exact ⟨calls, recorded, relayed, good, calmAfter⟩

end Implementations

end DeferredText
