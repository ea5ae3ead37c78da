import DeferredText.Action

/-!
Contract: computations over a state that may wait.

A task runs until it is done or waits for a promise. A waiting task keeps what it
will do with the outcome; meanwhile the state belongs to others.

Owns: tasks, their sequencing, and catching failures.

Does not own: who decides promises (`Resolve.Schedule`).
-/

namespace DeferredText

/-- How far a task has come. -/
inductive Step (σ α : Type) where
  | done (result : Except Stop α) (state : σ)
  | waiting (promise : Nat) (state : σ) (resume : Outcome Value → σ → Step σ α)

namespace Step

variable {σ α β : Type}

/-- Goes on with the result of a step; a stop ends everything. -/
def andThen
    (next : α → σ → Step σ β) : Step σ α → Step σ β
  | .done (.ok value) state => next value state
  | .done (.error stop) state => .done (.error stop) state
  | .waiting promise state resume =>
      .waiting promise state fun outcome later => (resume outcome later).andThen next

/-- Hands a failure over as a value. -/
def attempt : Step σ α → Step σ (Outcome α)
  | .done (.ok value) state => .done (.ok (.ok value)) state
  | .done (.error (.failed failure)) state => .done (.ok (.error failure)) state
  | .done (.error stop) state => .done (.error stop) state
  | .waiting promise state resume =>
      .waiting promise state fun outcome later => (resume outcome later).attempt

end Step

/-- A computation over a state that may wait for promises. -/
def Task (σ α : Type) := σ → Step σ α

namespace Task

variable {σ α β : Type}

def finish (value : α) : Task σ α := fun state =>
  .done (.ok value) state

def bind
    (task : Task σ α)
    (next : α → Task σ β) : Task σ β := fun state =>
  (task state).andThen next

instance : Monad (Task σ) where
  pure := finish
  bind := bind

/-- An action is a task that never waits. -/
def ofAction (action : Action σ α) : Task σ α := fun state =>
  match action state with
  | (result, next) => .done result next

instance : MonadLift (Action σ) (Task σ) where
  monadLift := ofAction

def attempt (task : Task σ α) : Task σ (Outcome α) := fun state =>
  (task state).attempt

def fail (failure : Failure) : Task σ α :=
  ofAction (Action.fail failure)

def stop (reason : Stop) : Task σ α := fun state =>
  .done (.error reason) state

/-- Waits for a promise and goes on with its outcome. -/
def await (promise : Nat) : Task σ Value := fun state =>
  .waiting promise state fun outcome later =>
    match outcome with
    | .ok value => .done (.ok value) later
    | .error failure => .done (.error (.failed failure)) later

end Task

end DeferredText
