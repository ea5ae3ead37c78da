import DeferredText.Resolve.Invoke
import DeferredText.Report.Standard

/-!
Contract: what happens between the steps of waiting tasks.

Deliveries happen one at a time, oldest first. A promise is decided by the first
completion that reaches it; every later one is only logged.

Owns: deciding promises, the order of deliveries, and running a task to its end.

Does not own: what the tasks do.
-/

namespace DeferredText

/-- The outcome a completion stands for: exceptions are kept, and any other error
becomes a report that names the helper. -/
def Completion.outcome
    (helperName : String) : Completion → Outcome (Outcome Value)
  | .result value => .ok (.ok value)
  | .failure cause => .ok (.error cause)
  | .error value =>
      match Failure.ofValue? value with
      | some cause => .ok (.error cause)
      | none => do
          let shown ← value.display
          return .error (.reported (.helperFailed helperName shown))

/-- Delivers a completion to its promise. -/
def settle
    (number : Nat)
    (completion : Completion) : CacheAction Unit := do
  let state ← get
  match state.promises[number]? with
  | none => return ()
  | some promise =>
      match promise.outcome with
      | some _ =>
          CacheState.tell (.duplicate (.text promise.cycleId) (.text promise.helperName))
      | none => do
          let outcome ← Action.ofOutcome (completion.outcome promise.helperName)
          set { state with
            promises := state.promises.set number { promise with outcome := some outcome } }
          CacheState.schedule (.resume number)

/-- A task that waits for a promise. -/
structure Suspended where
  promise : Nat
  resume : Outcome Value → CacheState → Step CacheState Unit

/-- A cache together with the tasks that wait beside the one being run. -/
structure World where
  state : CacheState
  suspended : List Suspended

/-- What a started rendering does. -/
abbrev Starter :=
  (promise : Nat) → (template data : Value) → (current : Option Nat) → Task CacheState Unit

namespace World

def ofState (state : CacheState) : World :=
  ⟨state, []⟩

/-- Keeps a task that waits; one that has ended is forgotten, also if it failed. -/
def keep
    (suspended : List Suspended) : Step CacheState Unit → World
  | .done _ state => ⟨state, suspended⟩
  | .waiting promise state resume => ⟨state, suspended ++ [⟨promise, resume⟩]⟩

/-- The outcome of a decided promise. -/
def outcome?
    (world : World)
    (promise : Nat) : Option (Outcome Value) :=
  (world.state.promises[promise]?).bind Promise.outcome

/-- Lets a task that waits for a promise go on. -/
def resume
    (world : World)
    (promise : Nat) : World :=
  match world.outcome? promise, world.suspended.find? fun task => task.promise == promise with
  | some outcome, some task =>
      keep (world.suspended.filter fun other => other.promise != promise)
        (task.resume outcome world.state)
  | _, _ => world

/-- Lets something due happen; its failures concern nobody. -/
def deliver
    (start : Starter)
    (world : World) : Delivery → World
  | .settle promise completion =>
      { world with state := ((settle promise completion) world.state).2 }
  | .complete promise completion =>
      { world with state := ((CacheState.schedule (.settle promise completion)) world.state).2 }
  | .begin promise template data current =>
      keep world.suspended (start promise template data current world.state)
  | .resume promise => world.resume promise

/-- The oldest delivery that is due, and the world without it. -/
def next? (world : World) : Option (Delivery × World) :=
  match world.state.ready with
  | [] => none
  | delivery :: rest =>
      some (delivery, { world with state := { world.state with ready := rest } })

/-- Lets the given number of deliveries happen, as far as there are any. -/
def deliverMany
    (start : Starter) : Nat → World → World
  | 0, world => world
  | count + 1, world =>
      match world.next? with
      | none => world
      | some (delivery, rest) => deliverMany start count (rest.deliver start delivery)

/-- Lets everything happen that is due now, but nothing that becomes due by it. -/
def turn
    (start : Starter)
    (world : World) : World :=
  world.deliverMany start world.state.ready.length

end World

/-- Whether a delivery lets the task that waits for a promise go on. -/
def Delivery.resumes
    (promise : Nat) : Delivery → Bool
  | .resume resumed => resumed == promise
  | _ => false

/-- Runs a task to its end, with deliveries whenever it waits, at most `fuel` of them. -/
def runToEnd
    (start : Starter) :
    Nat → List Suspended → Step CacheState α → Except Stop α × World
  | _, suspended, .done result state => (result, ⟨state, suspended⟩)
  | 0, suspended, .waiting _ state _ => (.error .exhausted, ⟨state, suspended⟩)
  | fuel + 1, suspended, .waiting promise state resume =>
      let world : World := ⟨state, suspended⟩
      match world.next? with
      | none => (.error .stalled, world)
      | some (delivery, rest) =>
          match delivery.resumes promise, rest.outcome? promise with
          | true, some outcome =>
              runToEnd start fuel rest.suspended (resume outcome rest.state)
          | _, _ =>
              let after := rest.deliver start delivery
              runToEnd start fuel after.suspended (.waiting promise after.state resume)

/-- Runs a task in a world. -/
def World.run
    (world : World)
    (start : Starter)
    (fuel : Nat)
    (task : Task CacheState α) : Except Stop α × World :=
  runToEnd start fuel world.suspended (task world.state)

end DeferredText
