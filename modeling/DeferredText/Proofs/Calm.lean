import DeferredText.Proofs.Guarded

/-!
Contract: waiting for a promise while nothing that is due concerns another waiting task.

A helper that reports to its own promise, also more than once or later than it is asked to,
leaves deliveries behind that nobody waits for. Whatever of them happens while a task waits,
only promises, the deliveries themselves and the log change, and the task is handed a value
that was reported to its promise.

Owns: worlds whose deliveries wake no suspended task, and awaiting a promise in them.

Does not own: what is reported to a promise (`Proofs.Relay`).
-/

namespace DeferredText

open CacheState

/-- The promise that a delivery is for; the start of a rendering is for none. -/
def Delivery.promise? : Delivery → Option Nat
  | .settle promise _ => some promise
  | .complete promise _ => some promise
  | .begin _ _ _ _ => none
  | .resume promise => some promise

/-- Everything that is due is for a promise that no suspended task waits for. -/
structure World.Calm (world : World) : Prop where
  due : ∀ delivery ∈ world.state.ready, ∃ promise < world.state.promises.length,
    delivery.promise? = some promise ∧ ∀ task ∈ world.suspended, task.promise ≠ promise
  waiting : ∀ task ∈ world.suspended, task.promise < world.state.promises.length

/-- The value was reported to the promise and is due. -/
def World.Reported
    (world : World)
    (promise : Nat)
    (value : Value) : Prop :=
  .settle promise (.result value) ∈ world.state.ready ∨
    .complete promise (.result value) ∈ world.state.ready

/-- Only good values are, or will be, the outcome of the promise. -/
structure World.Expects
    (good : Value → Prop)
    (promise : Nat)
    (world : World) : Prop extends World.Calm world where
  reported : ∀ value, world.Reported promise value → good value
  decided : ∀ value, world.state.outcome? promise = some (.ok value) → good value

variable {start : Starter} {world rest after : World} {delivery : Delivery} {good : Value → Prop}
  {promise : Nat} {value : Value}

/-- A calm world stays calm while neither promises nor deliveries change. -/
theorem World.Calm.of_same {before state : CacheState} {suspended : List Suspended}
    (calm : World.Calm ⟨before, suspended⟩) (promises : state.promises = before.promises)
    (ready : state.ready = before.ready) : World.Calm ⟨state, suspended⟩ where
  due := fun delivery member => by
    dsimp only at member ⊢
    rw [promises]
    exact calm.due delivery (ready ▸ member)
  waiting := fun task member => by
    dsimp only
    rw [promises]
    exact calm.waiting task member

/-- Only a reported result makes a promise a value. -/
theorem Completion.outcome_ok {name : String} {completion : Completion}
    (becomes : completion.outcome name = .ok (.ok value)) : completion = .result value := by
  cases completion with
  | result given =>
      cases becomes
      rfl
  | failure cause => cases becomes
  | error given =>
      rw [Completion.outcome] at becomes
      split at becomes
      · cases becomes
      · cases shown : given.display with
        | error failure =>
            rw [shown] at becomes
            cases becomes
        | ok text =>
            rw [shown] at becomes
            cases becomes

/-- Nobody goes on when a promise is due that nobody waits for. -/
theorem World.resume_unawaited
    (unawaited : ∀ task ∈ world.suspended, task.promise ≠ promise) :
    world.resume promise = world := by
  have nobody : (world.suspended.find? fun task => task.promise == promise) = none := by
    rw [List.find?_eq_none]
    intro task member
    simpa using unawaited task member
  rw [World.resume, nobody]
  cases world.outcome? promise <;> rfl

/-- The world after the oldest delivery of a calm world: the promise that it is for may be
decided, and what is due in its place is for the same promise. -/
theorem World.Calm.deliver_cases (start : Starter) (calm : world.Calm)
    (due : world.next? = some (delivery, rest)) :
    ∃ later, world.state.ready = delivery :: later ∧
      ((∃ lines unwritten, rest.deliver start delivery =
          ⟨(world.state.withReady later).withLog lines unwritten, world.suspended⟩) ∨
      (∃ number completion owed outcome, delivery = .settle number completion ∧
        world.state.promises[number]? = some owed ∧ owed.outcome = none ∧
        completion.outcome owed.helperName = .ok outcome ∧
        rest.deliver start delivery =
          ⟨{ world.state with
              promises := world.state.promises.set number { owed with outcome := some outcome }
              ready := later ++ [.resume number] }, world.suspended⟩) ∨
      (∃ number completion, delivery = .complete number completion ∧
        rest.deliver start delivery =
          ⟨world.state.withReady (later ++ [.settle number completion]), world.suspended⟩)) := by
  obtain ⟨later, ready, rfl⟩ := World.next?_eq due
  refine ⟨later, ready, ?_⟩
  cases delivery with
  | settle number completion =>
      rcases settle_cases number completion (world.state.withReady later) with ⟨lines, unwritten, same⟩ |
        ⟨owed, outcome, found, undecided, becomes, same⟩
      · exact .inl ⟨lines, unwritten, by rw [World.deliver, same]⟩
      · exact .inr (.inl ⟨number, completion, owed, outcome, rfl, found, undecided, becomes, by
          rw [World.deliver, same]
          rfl⟩)
  | complete number completion => exact .inr (.inr ⟨number, completion, rfl, rfl⟩)
  | begin number template data current =>
      obtain ⟨_, -, isFor, -⟩ := calm.due _ (by rw [ready]; exact List.mem_cons_self)
      cases isFor
  | resume number =>
      obtain ⟨_, -, isFor, unawaited⟩ := calm.due _ (by rw [ready]; exact List.mem_cons_self)
      cases isFor
      have nobody : World.resume ⟨world.state.withReady later, world.suspended⟩ number =
          ⟨world.state.withReady later, world.suspended⟩ := World.resume_unawaited unawaited
      refine .inl ⟨world.state.lines, world.state.unwritten, ?_⟩
      rw [World.deliver, nobody]
      rfl

theorem World.Calm.deliver (start : Starter) (calm : world.Calm)
    (due : world.next? = some (delivery, rest)) :
    (rest.deliver start delivery).Calm ∧
      (rest.deliver start delivery).suspended = world.suspended ∧
      (rest.deliver start delivery).state.core = world.state.core := by
  obtain ⟨later, ready, cases⟩ := calm.deliver_cases start due
  have old : ∀ other ∈ later, other ∈ world.state.ready := fun other member =>
    ready ▸ List.mem_cons_of_mem delivery member
  obtain ⟨number, inside, isFor, unawaited⟩ := calm.due delivery (ready ▸ List.mem_cons_self)
  rcases cases with ⟨lines, unwritten, same⟩ | ⟨settled, completion, owed, outcome, rfl, -, -, -, same⟩ |
    ⟨settled, completion, rfl, same⟩
  · rw [same]
    exact ⟨⟨fun other member => calm.due other (old other member), calm.waiting⟩, rfl, rfl⟩
  · cases isFor
    rw [same]
    refine ⟨⟨?_, ?_⟩, rfl, rfl⟩
    · intro other member
      rw [List.length_set]
      rcases List.mem_append.mp member with before | new
      · exact calm.due other (old other before)
      · rw [List.mem_singleton.mp new]
        exact ⟨number, inside, rfl, unawaited⟩
    · intro task member
      rw [List.length_set]
      exact calm.waiting task member
  · cases isFor
    rw [same]
    refine ⟨⟨?_, calm.waiting⟩, rfl, rfl⟩
    intro other member
    rcases List.mem_append.mp member with before | new
    · exact calm.due other (old other before)
    · rw [List.mem_singleton.mp new]
      exact ⟨number, inside, rfl, unawaited⟩

theorem World.Expects.deliver (start : Starter) (expects : World.Expects good promise world)
    (due : world.next? = some (delivery, rest)) :
    World.Expects good promise (rest.deliver start delivery) := by
  obtain ⟨later, ready, cases⟩ := expects.deliver_cases start due
  have old : ∀ other ∈ later, other ∈ world.state.ready := fun other member =>
    ready ▸ List.mem_cons_of_mem delivery member
  refine ⟨(expects.toCalm.deliver start due).1, ?_, ?_⟩
  · intro value reported
    apply expects.reported
    rcases cases with ⟨lines, unwritten, same⟩ | ⟨settled, completion, owed, outcome, rfl, -, -, -, same⟩ |
      ⟨settled, completion, rfl, same⟩
    · rw [same] at reported
      exact reported.imp (old _) (old _)
    · rw [same] at reported
      refine reported.imp (fun member => ?_) fun member => ?_
      · rcases List.mem_append.mp member with before | new
        · exact old _ before
        · cases List.mem_singleton.mp new
      · rcases List.mem_append.mp member with before | new
        · exact old _ before
        · cases List.mem_singleton.mp new
    · -- What was postponed was reported already.
      rw [same] at reported
      rcases reported with member | member
      · rcases List.mem_append.mp member with before | new
        · exact .inl (old _ before)
        · cases List.mem_singleton.mp new
          exact .inr (ready ▸ List.mem_cons_self)
      · rcases List.mem_append.mp member with before | new
        · exact .inr (old _ before)
        · cases List.mem_singleton.mp new
  · intro value decided
    rcases cases with ⟨lines, unwritten, same⟩ | ⟨settled, completion, owed, outcome, rfl, found, -, becomes,
      same⟩ | ⟨settled, completion, rfl, same⟩
    · rw [same] at decided
      exact expects.decided value decided
    · rw [same, CacheState.outcome?] at decided
      by_cases own : settled = promise
      · subst own
        have inside : settled < world.state.promises.length :=
          (List.getElem?_eq_some_iff.mp found).1
        rw [List.getElem?_set_self inside] at decided
        cases decided
        obtain rfl := Completion.outcome_ok becomes
        exact expects.reported value (.inl (ready ▸ List.mem_cons_self))
      · rw [List.getElem?_set_ne own] at decided
        exact expects.decided value decided
    · rw [same] at decided
      exact expects.decided value decided

/-- A task that was handed a value was handed a good one, and meanwhile nothing happened that
concerns recorded calls. -/
theorem World.Expects.await (expects : World.Expects good promise world)
    (runs : World.Runs start world (Task.await promise) (.ok value) after) :
    good value ∧ after.Calm ∧ after.state.core = world.state.core := by
  obtain ⟨state, suspended⟩ := world
  rw [World.Runs] at runs
  dsimp only at runs
  generalize whole : (Task.await promise : Task CacheState Value) state = step at runs
  generalize returned : (Except.ok value : Except Stop Value) = result at runs
  induction runs generalizing state with
  | done => cases whole
  | stalled idle => cases returned
  | @resumed suspended _ _ _ delivery rest outcome _ _ due wakes further _ =>
      cases whole
      obtain ⟨later, ready, rfl⟩ := World.next?_eq due
      obtain ⟨-, known⟩ := World.wakes_eq wakes
      cases outcome with
      | error failure =>
          cases further
          cases returned
      | ok given =>
          cases further
          cases returned
          refine ⟨expects.decided value known, ⟨?_, expects.waiting⟩, rfl⟩
          exact fun other member => expects.due other (ready ▸ List.mem_cons_of_mem delivery member)
  | @delivered suspended _ _ _ delivery rest _ _ due sleeps further inductionHypothesis =>
      cases whole
      have next : World.Expects good promise (rest.deliver start delivery) := expects.deliver start due
      obtain ⟨-, same, core⟩ := expects.toCalm.deliver start due
      obtain ⟨isGood, calm, still⟩ := inductionHypothesis _ next rfl returned
      exact ⟨isGood, calm, still.trans core⟩

end DeferredText
